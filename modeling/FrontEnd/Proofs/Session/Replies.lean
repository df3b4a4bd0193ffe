import FrontEnd.Proofs.Session.Basic

/-!
# What clients are told

A session answers every request and reports what happened on the way. `Session.transcript` lists
the answers to some requests with their reports, in the order of the requests.
-/

namespace FrontEnd

/-- What a client is told. -/
inductive Reply : Type 1 where
  /-- The request names something nobody has got. -/
  | nothing
  | document (id : DocumentId)
  | token (answer : Except ChainError LinkedToken)
  | found (token : Option LinkedToken)
  | minted (token : Token)
  | builder (answer : Except ChainError ChainBuilder)
  | scanned {σ : Type} (answer : Except ScanError ChainBuilder) (memory : σ)

/-- Why a document has refused what a client asked. -/
def Reply.refusal? : Reply → Option ChainError
  | token (.error cause) => some cause
  | builder (.error cause) => some cause
  | _ => none

namespace Session

def reply (s : Session) : Request → Reply
  | .create text names verifyImages => .document (s.store.create text names verifyImages).1
  | .tryOpen id => .token (s.store.tryOpen id).value.1
  | .sentinel id => .found ((s.store.document? id).bind Document.sentinel?)
  | .first id =>
    match s.store.document? id with
    | none => .nothing
    | some d => .token d.first
  | .next ref =>
    match s.refs[ref]? with
    | none => .nothing
    | some r => .found ((s.store.document? r.document).bind fun d => d.next? r)
  | .tail builder => .found (s.builders[builder]?.map ChainBuilder.tail)
  | .mint id kind excerpt constant =>
    match s.store.document? id with
    | none => .nothing
    | some d => .minted (d.mint kind excerpt constant).value
  | .link onto number =>
    match s.refs[onto]?, s.loose? number with
    | some r, some t => .token (s.store.link r t).value.1
    | _, _ => .nothing
  | .build id => .builder (s.store.build id).value.1
  | .attach builder number =>
    match s.builders[builder]?, s.loose? number with
    | some b, some t => .builder (s.store.attach b t).value.1
    | _, _ => .nothing
  | .push builder kind excerpt constant =>
    match s.builders[builder]? with
    | none => .nothing
    | some b => .builder (s.store.push b kind excerpt constant).value.1
  | .scan id eofKind decider memory =>
    let r := (s.store.scan id eofKind decider memory).value
    .scanned r.1 r.2.1

/-- What is reported while a request is answered. -/
def log (s : Session) : Request → List DocumentEvent
  | .tryOpen id => (s.store.tryOpen id).events
  | .mint id kind excerpt constant =>
    match s.store.document? id with
    | none => []
    | some d => (d.mint kind excerpt constant).events
  | .link onto number =>
    match s.refs[onto]?, s.loose? number with
    | some r, some t => (s.store.link r t).events
    | _, _ => []
  | .build id => (s.store.build id).events
  | .attach builder number =>
    match s.builders[builder]?, s.loose? number with
    | some b, some t => (s.store.attach b t).events
    | _, _ => []
  | .push builder kind excerpt constant =>
    match s.builders[builder]? with
    | none => []
    | some b => (s.store.push b kind excerpt constant).events
  | .scan id eofKind decider memory => (s.store.scan id eofKind decider memory).events
  | _ => []

/-- The answers to some requests, each with what was reported on the way. -/
def transcript (s : Session) : List Request → List (Reply × List DocumentEvent)
  | [] => []
  | q :: requests => (s.reply q, s.log q) :: (s.perform q).transcript requests

end Session

end FrontEnd
