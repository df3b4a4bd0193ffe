import FrontEnd.Proofs.Document.Plain
import FrontEnd.Proofs.Session.Replies

/-!
# Sessions of plain documents

A session whose documents are stripped of names and verification goes on as the session itself does:
each request gets the same reply and the same reports but for warnings, and leaves behind the plain
form of what it leaves behind in the session (`transcript_plain`).
-/

namespace FrontEnd

/-! ### Plain stores -/

namespace Store

def plain (s : Store) : Store := ⟨s.documents.map Document.plain⟩

lemma document?_plain (s : Store) (id : DocumentId) :
    s.plain.document? id = (s.document? id).map Document.plain := by
  rw [document?, plain, Array.getElem?_map, document?]

lemma plain_create (s : Store) (text : String) (names : KindNames) (verifyImages : Bool) :
    s.plain.create text .unnamed false = ((s.create text names verifyImages).1,
      (s.create text names verifyImages).2.plain) := by
  simp only [create, plain, Array.size_map, Array.map_push]
  rfl

lemma plain_put (s : Store) (d : Document) : s.plain.put d.plain = (s.put d).plain := by
  simp only [put, plain, Array.map_setIfInBounds]
  rfl

lemma plain_update {α : Type} (s : Store) (id : DocumentId)
    {act : Document → Logged DocumentEvent (Except ChainError α × Document)}
    (hact : ∀ d : Document, act d.plain = (act d).quiet.map fun r => (r.1, r.2.plain)) :
    s.plain.update id act = (s.update id act).quiet.map fun r => (r.1, r.2.plain) := by
  rw [update, update, document?_plain]
  cases s.document? id with
  | none => rfl
  | some d =>
    simp only [Option.map_some, hact d, Logged.map, Logged.quiet, plain_put]

lemma plain_tryOpen (s : Store) (id : DocumentId) :
    s.plain.tryOpen id = (s.tryOpen id).quiet.map fun r => (r.1, r.2.plain) :=
  s.plain_update id Document.plain_tryOpen

lemma plain_build (s : Store) (id : DocumentId) :
    s.plain.build id = (s.build id).quiet.map fun r => (r.1, r.2.plain) :=
  s.plain_update id ChainBuilder.plain_start

lemma plain_link (s : Store) (onto : LinkedToken) (t : Token) :
    s.plain.link onto t = (s.link onto t).quiet.map fun r => (r.1, r.2.plain) :=
  s.plain_update onto.document fun d => congrArg Logged.silent (d.plain_link onto t)

lemma plain_attach (s : Store) (b : ChainBuilder) (t : Token) :
    s.plain.attach b t = (s.attach b t).quiet.map fun r => (r.1, r.2.plain) :=
  s.plain_update b.document fun d => congrArg Logged.silent (b.plain_attach d t)

lemma plain_push (s : Store) (b : ChainBuilder) (kind : TokenKind) (excerpt : Excerpt)
    (constant : Option String) :
    s.plain.push b kind excerpt constant =
      (s.push b kind excerpt constant).quiet.map fun r => (r.1, r.2.plain) :=
  s.plain_update b.document fun d => b.plain_push d kind excerpt constant

lemma plain_scan {σ : Type} (s : Store) (id : DocumentId) (eofKind : Option TokenKind)
    (decider : Decider σ) (m : σ) :
    s.plain.scan id eofKind decider m =
      (s.scan id eofKind decider m).quiet.map fun r => (r.1, r.2.1, r.2.2.plain) := by
  rw [scan, scan, document?_plain]
  cases s.document? id with
  | none => rfl
  | some d =>
    simp only [Option.map_some, Document.plain_scan, Logged.map, Logged.quiet, ScanOutcome.plain,
      plain_put]

lemma plain_scanTokens {σ : Type} (s : Store) (id : DocumentId) (eofKind : Option TokenKind)
    (decider : Decider σ) (m : σ) :
    s.plain.scanTokens id eofKind decider m = s.scanTokens id eofKind decider m := by
  rw [scanTokens, scanTokens, document?_plain]
  cases s.document? id with
  | none => rfl
  | some d => exact d.plain_scanTokens decider eofKind m

end Store

/-! ### Plain sessions -/

/-- The same request, asking for a plain document where one is created. -/
def Request.plain : Request → Request
  | .create text _ _ => .create text .unnamed false
  | q => q

namespace Session

def plain (s : Session) : Session := { s with store := s.store.plain }

lemma store_plain (s : Session) : s.plain.store = s.store.plain := rfl

lemma refs_plain (s : Session) : s.plain.refs = s.refs := rfl

lemma builders_plain (s : Session) : s.plain.builders = s.builders := rfl

lemma plain_loose? (s : Session) (number : Nat) : s.plain.loose? number = s.loose? number := rfl

/-- Plain documents give the same answers. -/
lemma reply_plain (s : Session) (q : Request) : s.plain.reply q.plain = s.reply q := by
  cases q with
  | create text names verifyImages =>
    exact congrArg (fun r => Reply.document r.1) (s.store.plain_create text names verifyImages)
  | tryOpen id => exact congrArg (fun r => Reply.token r.value.1) (s.store.plain_tryOpen id)
  | sentinel id =>
    simp only [reply, Request.plain, plain, Store.document?_plain]
    cases s.store.document? id with
    | none => rfl
    | some d => rfl
  | first id =>
    simp only [reply, Request.plain, plain, Store.document?_plain]
    cases s.store.document? id with
    | none => rfl
    | some d => rfl
  | next ref =>
    simp only [reply, Request.plain, plain, Store.document?_plain]
    cases s.refs[ref]? with
    | none => rfl
    | some r =>
      simp only
      cases s.store.document? r.document with
      | none => rfl
      | some d => rfl
  | tail builder => rfl
  | mint id kind excerpt constant =>
    simp only [reply, Request.plain, plain, Store.document?_plain]
    cases s.store.document? id with
    | none => rfl
    | some d => rfl
  | link onto number =>
    simp only [reply, Request.plain, plain_loose?]
    simp only [plain, Store.plain_link]
    rfl
  | build id => exact congrArg (fun r => Reply.builder r.value.1) (s.store.plain_build id)
  | attach builder number =>
    simp only [reply, Request.plain, plain_loose?]
    simp only [plain, Store.plain_attach]
    rfl
  | push builder kind excerpt constant =>
    simp only [reply, Request.plain, plain, Store.plain_push]
    rfl
  | scan id eofKind decider m =>
    exact congrArg (fun r => Reply.scanned r.value.1 r.value.2.1)
      (s.store.plain_scan id eofKind decider m)

/-- Plain documents report all but the warnings. -/
lemma log_plain (s : Session) (q : Request) : s.plain.log q.plain = withoutWarnings (s.log q) := by
  cases q with
  | create text names verifyImages => rfl
  | tryOpen id => exact congrArg Logged.events (s.store.plain_tryOpen id)
  | mint id kind excerpt constant =>
    simp only [log, Request.plain, plain, Store.document?_plain]
    cases s.store.document? id with
    | none => rfl
    | some d => exact congrArg Logged.events (d.plain_mint kind excerpt constant)
  | link onto number =>
    simp only [log, Request.plain, plain_loose?]
    simp only [plain, Store.plain_link]
    split
    next => rfl
    next => rfl
  | build id => exact congrArg Logged.events (s.store.plain_build id)
  | attach builder number =>
    simp only [log, Request.plain, plain_loose?]
    simp only [plain, Store.plain_attach]
    split
    next => rfl
    next => rfl
  | push builder kind excerpt constant =>
    simp only [log, Request.plain, plain, Store.plain_push]
    split
    next => rfl
    next => rfl
  | scan id eofKind decider m =>
    exact congrArg Logged.events (s.store.plain_scan id eofKind decider m)
  | _ => rfl

lemma plain_handIn (s : Session) (link : Link) (store : Store) (linked : Option LinkedToken) :
    s.plain.handIn link store.plain linked = (s.handIn link store linked).plain := rfl

lemma plain_advance (s : Session) (builder : Nat) (b : Option ChainBuilder) :
    s.plain.advance builder b = (s.advance builder b).plain := by
  cases b with
  | none => rfl
  | some b => rfl

lemma plain_record (s : Session) (id : DocumentId) (tokens : List Token) :
    s.plain.record id tokens = (s.record id tokens).plain := rfl

/-- One request makes of the plain session the plain form of what it makes of the session. -/
lemma perform_plain (s : Session) (q : Request) :
    s.plain.perform q.plain = (s.perform q).plain := by
  cases q with
  | create text names verifyImages =>
    exact congrArg (fun r => { s with store := r.2 }) (s.store.plain_create text names verifyImages)
  | tryOpen id =>
    simp only [perform, Request.plain]
    simp only [plain, Store.plain_tryOpen]
    rfl
  | sentinel id =>
    simp only [perform, Request.plain, plain, Store.document?_plain]
    cases s.store.document? id with
    | none => rfl
    | some d => rfl
  | first id =>
    simp only [perform, Request.plain, plain, Store.document?_plain]
    cases s.store.document? id with
    | none => rfl
    | some d => rfl
  | next ref =>
    simp only [perform, Request.plain, plain, Store.document?_plain]
    cases s.refs[ref]? with
    | none => rfl
    | some r =>
      simp only [Option.bind_some]
      cases s.store.document? r.document with
      | none => rfl
      | some d => rfl
  | tail builder => rfl
  | mint id kind excerpt constant =>
    simp only [perform, Request.plain, plain, Store.document?_plain]
    cases s.store.document? id with
    | none => rfl
    | some d => rfl
  | link onto number =>
    simp only [perform, Request.plain, plain_loose?, refs_plain, store_plain, Store.plain_link]
    cases s.refs[onto]? with
    | none => rfl
    | some r =>
      cases s.loose? number with
      | none => rfl
      | some t => rfl
  | build id =>
    simp only [perform, Request.plain]
    simp only [plain, Store.plain_build]
    rfl
  | attach builder number =>
    simp only [perform, Request.plain, plain_loose?, builders_plain, store_plain,
      Store.plain_attach]
    cases s.builders[builder]? with
    | none => rfl
    | some b =>
      cases s.loose? number with
      | none => rfl
      | some t =>
        simp only [Logged.value_map, Logged.value_quiet, plain_handIn, plain_advance]
  | push builder kind excerpt constant =>
    simp only [perform, Request.plain, builders_plain, store_plain, Store.plain_push,
      Store.document?_plain]
    cases s.builders[builder]? with
    | none => rfl
    | some b =>
      simp only
      cases s.store.document? b.document with
      | none => rfl
      | some d =>
        simp only [Option.map_some, Document.plain_mint, Logged.value_map, Logged.value_quiet,
          plain_record, plain_handIn, plain_advance]
        rfl
  | scan id eofKind decider m =>
    have hscan : (s.plain.store.scan id eofKind decider m).value =
        ((s.store.scan id eofKind decider m).value.1, (s.store.scan id eofKind decider m).value.2.1,
          (s.store.scan id eofKind decider m).value.2.2.plain) :=
      congrArg Logged.value (s.store.plain_scan id eofKind decider m)
    have htokens : s.plain.store.scanTokens id eofKind decider m = _ :=
      s.store.plain_scanTokens id eofKind decider m
    simp only [perform, Request.plain]
    rw [hscan, htokens]
    rfl

lemma run_plain (s : Session) (requests : List Request) :
    s.plain.run (requests.map Request.plain) = (s.run requests).plain := by
  induction requests generalizing s with
  | nil => rfl
  | cons q requests ih =>
    change (s.plain.perform q.plain).run _ = _
    rw [perform_plain]
    exact ih (s.perform q)

/-- A session of plain documents goes on as the session does, without its warnings. -/
theorem transcript_plain (s : Session) (requests : List Request) :
    s.plain.transcript (requests.map Request.plain) =
      (s.transcript requests).map fun p => (p.1, withoutWarnings p.2) := by
  induction requests generalizing s with
  | nil => rfl
  | cons q requests ih =>
    rw [List.map_cons, transcript, transcript, List.map_cons, reply_plain, log_plain, perform_plain,
      ih]

end Session

end FrontEnd
