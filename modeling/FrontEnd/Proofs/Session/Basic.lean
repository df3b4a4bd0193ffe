import FrontEnd.Proofs.Store.Changes

/-!
# Sessions

Any number of clients work on one store, each request taking effect as one step. A session is the
store with everything the clients have got out of it: tokens they have not handed in yet, linked
tokens, however old, and builders. It also keeps the book of what was minted and linked. A request
that names something nobody has got changes nothing.

A walk along a chain asks for one successor after the other, so it is a sequence of `next`. A scan
that others disturb is its `build` and its pushes, one by one.
-/

namespace FrontEnd

/-- A token and the document that minted it. -/
structure Minted where
  document : DocumentId
  token : Token
  deriving DecidableEq

/-- A link that succeeded: the document, and the number and the content of the token handed in. -/
structure Link where
  document : DocumentId
  number : Nat
  token : Token
  deriving DecidableEq

structure Session where
  store : Store
  /-- All tokens that were ever minted; the number of a token is its place. -/
  minted : List Minted
  /-- The numbers of the tokens that clients have got and not handed in. -/
  loose : List Nat
  /-- The links that succeeded, the first one first. -/
  history : List Link
  refs : List LinkedToken
  builders : List ChainBuilder

/-- What a client can ask for. Linked tokens and builders are named by their place among those the
clients have got. -/
inductive Request : Type 1 where
  | create (text : String) (names : KindNames) (verifyImages : Bool)
  | tryOpen (id : DocumentId)
  | sentinel (id : DocumentId)
  | first (id : DocumentId)
  | next (ref : Nat)
  | tail (builder : Nat)
  | mint (id : DocumentId) (kind : TokenKind) (excerpt : Excerpt) (constant : Option String)
  | link (onto number : Nat)
  | build (id : DocumentId)
  | attach (builder number : Nat)
  | push (builder : Nat) (kind : TokenKind) (excerpt : Excerpt) (constant : Option String)
  | scan {σ : Type} (id : DocumentId) (eofKind : Option TokenKind) (decider : Decider σ) (memory : σ)

namespace Session

def empty : Session := ⟨.empty, [], [], [], [], []⟩

def linksOf (s : Session) (id : DocumentId) : List Link := s.history.filter (·.document = id)

/-- The token a client can hand in under a number. -/
def loose? (s : Session) (number : Nat) : Option Token :=
  if number ∈ s.loose then s.minted[number]?.map Minted.token else none

/-- A client has got a linked token, if there was one. -/
def learn (s : Session) (found : Option LinkedToken) : Session :=
  { s with refs := s.refs ++ found.toList }

def record (s : Session) (id : DocumentId) (tokens : List Token) : Session :=
  { s with minted := s.minted ++ tokens.map (Minted.mk id) }

/-- A token has been handed in for a link, and is used up whether or not it was linked. -/
def handIn (s : Session) (link : Link) (store : Store) (linked : Option LinkedToken) : Session :=
  { s with
    store
    loose := s.loose.erase link.number
    history := s.history ++ if linked.isSome then [link] else []
    refs := s.refs ++ linked.toList }

/-- A builder has been answered; after a refusal it is what it was. -/
def advance (s : Session) (builder : Nat) : Option ChainBuilder → Session
  | none => s
  | some b => { s with builders := s.builders.set builder b }

/-- What one request makes of a session. -/
def perform (s : Session) : Request → Session
  | .create text names verifyImages =>
    { s with store := (s.store.create text names verifyImages).2 }
  | .tryOpen id =>
    let r := (s.store.tryOpen id).value
    { s with store := r.2 }.learn r.1.toOption
  | .sentinel id => s.learn ((s.store.document? id).bind Document.sentinel?)
  | .first id => s.learn ((s.store.document? id).bind fun d => d.first.toOption)
  | .next ref =>
    s.learn (s.refs[ref]?.bind fun r => (s.store.document? r.document).bind fun d => d.next? r)
  | .tail builder => s.learn (s.builders[builder]?.map ChainBuilder.tail)
  | .mint id kind excerpt constant =>
    match s.store.document? id with
    | none => s
    | some d =>
      { s.record id [(d.mint kind excerpt constant).value] with
        loose := s.loose ++ [s.minted.length] }
  | .link onto number =>
    match s.refs[onto]?, s.loose? number with
    | some r, some t =>
      let answer := (s.store.link r t).value
      s.handIn ⟨r.document, number, t⟩ answer.2 answer.1.toOption
    | _, _ => s
  | .build id =>
    let r := (s.store.build id).value
    { s with store := r.2, builders := s.builders ++ r.1.toOption.toList }
  | .attach builder number =>
    match s.builders[builder]?, s.loose? number with
    | some b, some t =>
      let answer := (s.store.attach b t).value
      let linked := answer.1.toOption.map ChainBuilder.tail
      (s.handIn ⟨b.document, number, t⟩ answer.2 linked).advance builder answer.1.toOption
    | _, _ => s
  | .push builder kind excerpt constant =>
    match s.builders[builder]? with
    | none => s
    | some b =>
      match s.store.document? b.document with
      | none => s
      | some d =>
        let t := (d.mint kind excerpt constant).value
        let answer := (s.store.push b kind excerpt constant).value
        let linked := answer.1.toOption.map ChainBuilder.tail
        ((s.record b.document [t]).handIn ⟨b.document, s.minted.length, t⟩ answer.2 linked).advance
          builder answer.1.toOption
  | .scan id eofKind decider memory =>
    let tokens := s.store.scanTokens id eofKind decider memory
    let r := (s.store.scan id eofKind decider memory).value
    { s.record id tokens with
      store := r.2.2
      history := s.history ++ (tokens.zipIdx s.minted.length).map fun p => Link.mk id p.2 p.1
      builders := s.builders ++ r.1.toOption.toList }

def run (s : Session) (requests : List Request) : Session := requests.foldl perform s

/-- What a sequence of requests makes of the session in which there is nothing yet. -/
def after (requests : List Request) : Session := empty.run requests

lemma run_append (s : Session) (requests later : List Request) :
    s.run (requests ++ later) = (s.run requests).run later :=
  List.foldl_append

lemma after_concat (requests : List Request) (q : Request) :
    after (requests ++ [q]) = (after requests).perform q :=
  run_append empty requests [q]

end Session

/-- The document whose chain a request can change. -/
def Request.target? (s : Session) : Request → Option DocumentId
  | .tryOpen id => some id
  | .link onto _ => s.refs[onto]?.map LinkedToken.document
  | .build id => some id
  | .attach builder _ => s.builders[builder]?.map ChainBuilder.document
  | .push builder _ _ _ => s.builders[builder]?.map ChainBuilder.document
  | .scan id _ _ _ => some id
  | _ => none

end FrontEnd
