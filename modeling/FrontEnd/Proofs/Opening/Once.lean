import FrontEnd.Proofs.Opening.Invariant

/-!
# A document is opened once

Of all calls to open a document one creates its sentinel and is answered with it, all others are
refused, and none waits for ever. From then on the document is open and its sentinel the same
(`Openings.opensOnce_after`).
-/

namespace FrontEnd

/-- A document shows no token and no iterator exactly as long as it is not open. -/
lemma Document.notOpened_iff (d : Document) :
    (d.first = .error .notOpened ↔ d.isOpened = false) ∧
      (d.tokens = .error .notOpened ↔ d.isOpened = false) := by
  rw [first, tokens]
  cases hsentinel : d.sentinel? with
  | none =>
    have hclosed : d.isOpened = false := by
      rw [isOpened_eq_false_iff, ← Array.size_eq_zero_iff]
      exact Nat.le_zero.1 (at?_eq_none_iff.1 hsentinel)
    simp [hclosed]
  | some sentinel =>
    rw [isOpened_of_sentinel? hsentinel]
    cases hr : d.next? sentinel with
    | none => simp [hr]
    | some r => simp [hr]

namespace Openings

variable {o : Openings} {i : Nat} {call : OpenCall}

/-! ### What a step can do -/

/-- A call that cannot take a step has returned or waits for the lock; a step brings it nearer to
its return. -/
lemma step_cases (o : Openings) (i : Nat) (call : OpenCall) (d : Document) :
    o.step i call d = o ∧ ((∃ answer, call.phase = .returned answer) ∨
        call.phase = .waiting ∧ ∃ j, o.holder d.id = some j) ∨
      ∃ call', (o.step i call d).calls = o.calls.set i call' ∧ call'.opening = call.opening ∧
        call'.phase.stepsLeft < call.phase.stepsLeft ∧ o.served <+: (o.step i call d).served := by
  cases hphase : call.phase with
  | called =>
    right
    rw [step, hphase]
    cases Span.ofRange? 0 d.text.utf8ByteSize with
    | error cause => exact ⟨_, rfl, rfl, by simp [OpenPhase.stepsLeft], List.prefix_append _ _⟩
    | ok extent => exact ⟨_, rfl, rfl, by simp [OpenPhase.stepsLeft], List.prefix_refl _⟩
  | waiting =>
    rw [step, hphase]
    cases hfree : o.holder d.id with
    | some j => exact .inl ⟨rfl, .inr ⟨rfl, j, rfl⟩⟩
    | none => exact .inr ⟨_, rfl, rfl, by simp [OpenPhase.stepsLeft], List.prefix_refl _⟩
  | locked =>
    right
    rw [step, hphase]
    cases d.isOpened with
    | true => exact ⟨_, rfl, rfl, by simp [OpenPhase.stepsLeft], List.prefix_append _ _⟩
    | false => exact ⟨_, rfl, rfl, by simp [OpenPhase.stepsLeft], List.prefix_refl _⟩
  | vacant =>
    right
    rw [step, hphase]
    exact ⟨_, rfl, rfl, by simp [OpenPhase.stepsLeft], List.prefix_append _ _⟩
  | decided answer =>
    right
    rw [step, hphase]
    exact ⟨_, rfl, rfl, by simp [OpenPhase.stepsLeft], List.prefix_refl _⟩
  | returned answer =>
    rw [step, hphase]
    exact .inl ⟨rfl, .inl ⟨answer, rfl⟩⟩

/-- Each turn serves the requests that take effect in it after those from before. -/
lemma served_prefix_take (o : Openings) (turn : Turn) : o.served <+: (o.take turn).served := by
  cases turn with
  | call opening =>
    rw [take]
    split
    next => exact List.prefix_refl _
    next => exact List.prefix_refl _
  | ask q =>
    rw [take]
    split
    next => exact List.prefix_refl _
    next => exact List.prefix_append _ _
  | advance i =>
    rw [take]
    split
    next => exact List.prefix_refl _
    next call hi =>
      split
      next => exact List.prefix_refl _
      next d hd =>
        rcases o.step_cases i call d with ⟨hsame, -⟩ | ⟨-, -, -, -, hserved⟩
        · exact (congrArg Openings.served hsame).symm ▸ List.prefix_refl _
        · exact hserved

lemma served_prefix_run (o : Openings) (turns : List Turn) : o.served <+: (o.run turns).served := by
  induction turns generalizing o with
  | nil => exact List.prefix_refl _
  | cons turn turns ih => exact (o.served_prefix_take turn).trans (ih (o.take turn))

/-- What comes of a document in later turns is growth. -/
lemma Inv.run_becomes (h : o.Inv) (later : List Turn) {id : DocumentId} {d : Document}
    (hd : o.session.store.document? id = some d) :
    ∃ e links, (o.run later).session.store.document? id = some e ∧ d.Becomes links e := by
  obtain ⟨more, hmore⟩ := o.served_prefix_run later
  rw [(h.run later).session, ← hmore, Session.after, Session.run_append, ← Session.after, ← h.session]
  exact h.inv_session.run_becomes more hd

/-! ### Every call can return -/

lemma stepsLeft_eq_zero {phase : OpenPhase} (h : phase.stepsLeft = 0) :
    ∃ answer, phase = .returned answer := by
  cases phase with
  | returned answer => exact ⟨answer, rfl⟩
  | _ => cases h

/-- The call takes a step. -/
abbrev Advances (o : Openings) (i : Nat) : Prop :=
  Moves Openings.calls OpenCall.opening (fun call => call.phase.stepsLeft)
    (fun o i => Openings.take o (.advance i)) o i

lemma advances_of_not_blocked (hi : o.call? i = some call) {d : Document}
    (hd : o.session.store.document? call.document = some d)
    (hpending : ∀ answer, call.phase ≠ .returned answer)
    (hfree : call.phase = .waiting → o.holder d.id = none) : o.Advances i := by
  rcases o.step_cases i call d with ⟨-, hblocked⟩ | ⟨call', hcalls, hopening, hlt, -⟩
  · rcases hblocked with ⟨answer, hreturned⟩ | ⟨hwaiting, j, hheld⟩
    · exact absurd hreturned (hpending answer)
    · rw [hfree hwaiting] at hheld
      cases hheld
  · refine ⟨call, call', hi, ?_, hopening, hlt⟩
    change (o.take (.advance i)).calls = _
    rw [take, hi]
    simp only [hd]
    exact hcalls

/-- As long as a call has not returned, there is one that can take a step: it itself, or the one
that has the lock. -/
lemma Inv.exists_advances (h : o.Inv) (hi : o.call? i = some call)
    (hpending : call.phase.stepsLeft ≠ 0) : ∃ j, o.Advances j := by
  obtain ⟨d, hd, -⟩ := h.agrees i call hi
  have hid : d.id = call.document := h.inv_session.sound.numbered hd
  cases hheld : o.holder d.id with
  | none =>
    refine ⟨i, advances_of_not_blocked hi hd ?_ fun _ => hheld⟩
    intro answer hreturned
    rw [hreturned] at hpending
    exact hpending rfl
  | some j =>
    obtain ⟨c, hj, hsame, hin⟩ := (h.holder _ _).1 hheld
    have hfound : o.session.store.document? c.document = some d := by rw [hsame, hid, hd]
    refine ⟨j, advances_of_not_blocked hj hfound ?_ ?_⟩
    · intro answer hreturned
      rw [hreturned] at hin
      cases hin
    · intro hwaiting
      rw [hwaiting] at hin
      cases hin

/-- From any turn on all calls can be brought to their return, by steps of their own. -/
lemma Inv.finishes (h : o.Inv) : ∃ steps : List Nat, ∀ i call, o.call? i = some call →
    ∃ call', (o.run (steps.map .advance)).call? i = some call' ∧ call'.opening = call.opening ∧
      ∃ answer, call'.phase = .returned answer := by
  obtain ⟨steps, hsteps⟩ := exists_steps Inv (fun p i hp => hp.take (.advance i))
    (fun p i call hp hi hleft => hp.exists_advances hi hleft) h
  refine ⟨steps, fun i call hi => ?_⟩
  obtain ⟨call', hi', hopening, hzero⟩ := hsteps i call hi
  rw [Openings.run, List.foldl_map]
  exact ⟨call', hi', hopening, stepsLeft_eq_zero hzero⟩

/-! ### One opening -/

/-- The call has created the sentinel of the document. -/
def Created (o : Openings) (id : DocumentId) (i : Nat) : Prop :=
  ∃ call, o.call? i = some call ∧ call.document = id ∧ call.created = true

/-- Documents are opened once and for all, however the calls that open them are interleaved. -/
structure OpensOnce (o : Openings) : Prop where
  /-- Of the calls on one document at most one is answered with a sentinel. -/
  once : ∀ i j a b r r', o.call? i = some a → o.call? j = some b → a.document = b.document →
    a.phase.answer? = some (.ok r) → b.phase.answer? = some (.ok r') → i = j
  /-- A sentinel is created once, and a document is open exactly if its sentinel was created. -/
  creator : ∀ id i j, o.Created id i → o.Created id j → i = j
  opened : ∀ id d, o.session.store.document? id = some d →
    (d.isOpened = true ↔ ∃ i, o.Created id i)
  /-- When a call has returned, it has created the sentinel and was answered with it, or another
  call has created it and this one was refused. -/
  returned : ∀ i call answer d, o.call? i = some call → call.phase = .returned answer →
    o.session.store.document? call.document = some d → d.text.utf8ByteSize < UInt32.size →
      ∃ j, o.Created call.document j ∧
        (j = i ∧ (∃ sentinel, answer = .ok sentinel ∧ d.sentinel? = some sentinel) ∨
          j ≠ i ∧ answer = .error .alreadyOpened)
  /-- Whatever happens later, the document stays open and its sentinel what it is. -/
  lasting : ∀ later id d sentinel, o.session.store.document? id = some d →
    d.sentinel? = some sentinel → ∃ e, (o.run later).session.store.document? id = some e ∧
      e.isOpened = true ∧ e.sentinel? = some sentinel
  /-- A document that is not open says so, and no other does. -/
  closed : ∀ id d, o.session.store.document? id = some d →
    (d.first = .error .notOpened ↔ d.isOpened = false) ∧
      (d.tokens = .error .notOpened ↔ d.isOpened = false)
  /-- All that has happened is what whole requests do, one after the other, and the answers to the
  calls are those to their requests. -/
  whole : o.session = Session.after o.served ∧
    ∀ i call answer, o.call? i = some call → call.phase.answer? = some answer →
      call.Served o.served answer
  /-- No call is locked out for good. -/
  finishes : ∃ steps : List Nat, ∀ i call, o.call? i = some call →
    ∃ call', (o.run (steps.map .advance)).call? i = some call' ∧ call'.opening = call.opening ∧
      ∃ answer, call'.phase = .returned answer

lemma Inv.created_unique (h : o.Inv) {id : DocumentId} {j : Nat} (hi : o.Created id i)
    (hj : o.Created id j) : i = j := by
  obtain ⟨a, ha, hdocument, hcreated⟩ := hi
  obtain ⟨b, hb, hdocument', hcreated'⟩ := hj
  exact h.creator i j a b ha hb (hdocument.trans hdocument'.symm) hcreated hcreated'

/-- An answer with a sentinel is an answer to the call that has created it. -/
lemma Inv.created_of_ok (h : o.Inv) (hi : o.call? i = some call) {r : LinkedToken}
    (hok : call.phase.answer? = some (.ok r)) : o.Created call.document i := by
  obtain ⟨d, -, hagrees⟩ := h.agrees i call hi
  exact ⟨call, hi, rfl, (hagrees.created_of_ok hok).1⟩

lemma Inv.isOpened_iff_created (h : o.Inv) {id : DocumentId} {d : Document}
    (hd : o.session.store.document? id = some d) : d.isOpened = true ↔ ∃ i, o.Created id i := by
  constructor
  · intro hopen
    obtain ⟨i, call, hi, hcreated⟩ := h.opened id d hd hopen
    exact ⟨i, call, hi, hcreated⟩
  · rintro ⟨i, call, hi, hdocument, hcreated⟩
    have hagrees := h.agrees_of_document? hi (hdocument ▸ hd)
    rw [hcreated] at hagrees
    exact hagrees.isOpened_of_created

/-- After any turns every document has been opened by one call at most, and for good. -/
theorem opensOnce_after (turns : List Turn) : (after turns).OpensOnce := by
  have h := inv_after turns
  exact
    { once := by
        intro i j a b r r' hi hj hsame ha hb
        exact h.created_unique (hsame ▸ h.created_of_ok hi ha) (h.created_of_ok hj hb)
      creator := fun id i j hi hj => h.created_unique hi hj
      opened := fun id d hd => h.isOpened_iff_created hd
      returned := by
        intro i call answer d hi hphase hd hfits
        have hanswer : call.phase.answer? = some answer := by rw [hphase]; rfl
        obtain ⟨hopen, hcases⟩ := (h.agrees_of_document? hi hd).answer_cases hanswer hfits
        obtain ⟨j, hj⟩ := (h.isOpened_iff_created hd).1 hopen
        refine ⟨j, hj, ?_⟩
        rcases hcases with ⟨hcreated, hok⟩ | ⟨hcreated, hrefused⟩
        · exact .inl ⟨h.created_unique hj ⟨call, hi, rfl, hcreated⟩, hok⟩
        · refine .inr ⟨?_, hrefused⟩
          rintro rfl
          obtain ⟨call', hi', -, hcreated'⟩ := hj
          obtain rfl : call = call' := Option.some.inj (hi.symm.trans hi')
          rw [hcreated] at hcreated'
          cases hcreated'
      lasting := by
        intro later id d sentinel hd hsentinel
        obtain ⟨e, links, he, hgrow⟩ := h.run_becomes later hd
        have hkept := hgrow.at?_eq hsentinel
        exact ⟨e, he, Document.isOpened_of_sentinel? hkept, hkept⟩
      closed := fun id d _ => d.notOpened_iff
      whole := ⟨h.session, h.served⟩
      finishes := h.finishes }

/-- Three clients open one document. The second takes the lock; the third and the first are kept out
by it until it has created the sentinel and linked a token. -/
def contendedTurns : List Turn :=
  [.ask (.create "ab" .unnamed false), .call (.direct ⟨0⟩), .call (.build ⟨0⟩),
    .call (.scan ⟨0⟩ none (Decider.every ⟨7⟩) ()), .advance 0, .advance 1, .advance 2, .advance 1,
    .advance 0, .advance 1, .advance 2, .advance 1, .advance 0, .advance 1,
    .ask (.push 0 ⟨7⟩ ⟨⟨0, 1⟩, "a"⟩ none), .advance 2, .advance 0, .advance 2, .advance 2]

theorem opensOnce_after_contention :
    (after contendedTurns).calls.map OpenCall.created = [false, true, false] ∧
      (after contendedTurns).calls.map (fun call => call.phase.stepsLeft) = [4, 0, 0] ∧
      (after contendedTurns).OpensOnce :=
  ⟨by decide, by decide, opensOnce_after contendedTurns⟩

end Openings

end FrontEnd
