import FrontEnd.Proofs.Opening.Calls
import FrontEnd.Proofs.Threads

/-!
# What the lock protects

The lock of a document is with the call that is inside, and what has become of the document agrees
with how far each call has come that is to open it. Every step of a call and every request of
another client keeps this (`Openings.inv_after`). All of them together do what whole requests do,
one after the other, each in effect at the step at which its call is decided.
-/

namespace FrontEnd

namespace Session

variable {s : Session} {q : Request} {id : DocumentId}

/-- A request that is not to open a document changes one by a link onto a token of its chain. -/
lemma Inv.holds_of_target (h : s.Inv) (hq : q.opens = false) (htarget : q.target? s = some id) :
    ∃ r, s.store.Holds r ∧ r.document = id := by
  cases q with
  | tryOpen id => cases hq
  | build id => cases hq
  | scan id eofKind decider memory => cases hq
  | link onto number =>
    obtain ⟨r, hr, hid⟩ := Option.map_eq_some_iff.1 htarget
    exact ⟨r, h.refs r (List.mem_of_getElem? hr), hid⟩
  | attach builder number =>
    obtain ⟨b, hb, hid⟩ := Option.map_eq_some_iff.1 htarget
    exact ⟨b.tail, h.tails b (List.mem_of_getElem? hb), hid⟩
  | push builder kind excerpt constant =>
    obtain ⟨b, hb, hid⟩ := Option.map_eq_some_iff.1 htarget
    exact ⟨b.tail, h.tails b (List.mem_of_getElem? hb), hid⟩
  | _ => cases htarget

/-- Only a request to open a document opens one. -/
lemma Inv.isOpened_perform (h : s.Inv) (hq : q.opens = false) {e : Document}
    (he : (s.perform q).store.document? id = some e) (hopen : e.isOpened = true) :
    ∃ d, s.store.document? id = some d ∧ d.isOpened = true := by
  obtain ⟨fresh, done, hstep⟩ := perform_step h q
  obtain ⟨links, hchange, -⟩ := hstep.change
  rcases hchange.document?_cases h.sound id with ⟨d, e', hd, -, -⟩ | ⟨-, -, hnew⟩
  · by_cases htarget : q.target? s = some id
    · obtain ⟨r, ⟨d', hd', hr⟩, rfl⟩ := h.holds_of_target hq htarget
      obtain ⟨hlt, -⟩ := Array.getElem?_eq_some_iff.1 (Document.holds_iff.1 hr)
      exact ⟨d', hd', Document.isOpened_iff.2 (Nat.zero_lt_of_lt hlt)⟩
    · have hframe := h.frame q htarget hd
      obtain rfl : d = e := Option.some.inj (hframe.symm.trans he)
      exact ⟨d, hd, hopen⟩
  · rw [Document.isOpened_iff, (hnew e he).2] at hopen
    cases hopen

end Session

/-- What has become of a document agrees with how far a call has come that is to open it. -/
inductive OpenCall.Agrees (d : Document) : OpenPhase → Bool → Prop where
  | called : Agrees d .called false
  | waiting : d.text.utf8ByteSize < UInt32.size → Agrees d .waiting false
  | locked : d.text.utf8ByteSize < UInt32.size → Agrees d .locked false
  | vacant : d.text.utf8ByteSize < UInt32.size → d.isOpened = false → Agrees d .vacant false
  | created {phase : OpenPhase} {sentinel : LinkedToken} : d.text.utf8ByteSize < UInt32.size →
      d.sentinel? = some sentinel → phase.answer? = some (.ok sentinel) → Agrees d phase true
  | refused {phase : OpenPhase} : d.text.utf8ByteSize < UInt32.size → d.isOpened = true →
      phase.answer? = some (.error .alreadyOpened) → Agrees d phase false
  | tooLarge {phase : OpenPhase} {cause : SpanError} : ¬d.text.utf8ByteSize < UInt32.size →
      phase.answer? = some (.error (.textTooLarge cause)) → Agrees d phase false

/-- At one of the requests that took effect the call was decided: its entry was answered then what
the call is answered, and if that is a refusal, so was the request itself. -/
def OpenCall.Served (call : OpenCall) (served : List Request)
    (answer : Except ChainError LinkedToken) : Prop :=
  ∃ earlier later, served = earlier ++ call.opening.entry :: later ∧
    (Session.after earlier).reply call.opening.entry = call.opening.answered answer ∧
    ∀ cause, answer = .error cause →
      (Session.after earlier).reply call.opening.request = call.opening.refused cause

namespace OpenCall

variable {d e : Document} {phase : OpenPhase} {created : Bool} {links : List LinkedToken}

lemma Agrees.isOpened_of_created (h : Agrees d phase true) : d.isOpened = true := by
  cases h with
  | created _ hsentinel _ => exact Document.isOpened_of_sentinel? hsentinel

lemma Agrees.not_created (h : Agrees d phase created) (hnone : phase.answer? = none) :
    created = false := by
  cases h with
  | created _ _ hanswer =>
    rw [hnone] at hanswer
    cases hanswer
  | _ => rfl

lemma Agrees.fits (h : Agrees d phase created) (hnone : phase.answer? = none)
    (hphase : phase ≠ .called) : d.text.utf8ByteSize < UInt32.size := by
  cases h with
  | called => exact absurd rfl hphase
  | waiting hfits => exact hfits
  | locked hfits => exact hfits
  | vacant hfits _ => exact hfits
  | created hfits _ _ => exact hfits
  | refused hfits _ _ => exact hfits
  | tooLarge _ hanswer =>
    rw [hnone] at hanswer
    cases hanswer

lemma Agrees.not_isOpened (h : Agrees d .vacant created) : d.isOpened = false := by
  cases h with
  | vacant _ hopen => exact hopen
  | created _ _ hanswer => cases hanswer
  | refused _ _ hanswer => cases hanswer
  | tooLarge _ hanswer => cases hanswer

lemma Agrees.created_of_ok {r : LinkedToken} (h : Agrees d phase created)
    (hok : phase.answer? = some (.ok r)) : created = true ∧ d.sentinel? = some r := by
  cases h with
  | called => cases hok
  | waiting _ => cases hok
  | locked _ => cases hok
  | vacant _ _ => cases hok
  | created _ hsentinel hanswer =>
    cases hanswer.symm.trans hok
    exact ⟨rfl, hsentinel⟩
  | refused _ _ hanswer => cases hanswer.symm.trans hok
  | tooLarge _ hanswer => cases hanswer.symm.trans hok

/-- What a call is answered whose text fits. -/
lemma Agrees.answer_cases {answer : Except ChainError LinkedToken} (h : Agrees d phase created)
    (hanswer : phase.answer? = some answer) (hfits : d.text.utf8ByteSize < UInt32.size) :
    d.isOpened = true ∧
      (created = true ∧ (∃ sentinel, answer = .ok sentinel ∧ d.sentinel? = some sentinel) ∨
        created = false ∧ answer = .error .alreadyOpened) := by
  have hall := h
  cases h with
  | called => cases hanswer
  | waiting _ => cases hanswer
  | locked _ => cases hanswer
  | vacant _ _ => cases hanswer
  | created _ hsentinel hok =>
    cases hok.symm.trans hanswer
    exact ⟨hall.isOpened_of_created, .inl ⟨rfl, _, rfl, hsentinel⟩⟩
  | refused _ hopen hrefused =>
    cases hrefused.symm.trans hanswer
    exact ⟨hopen, .inr ⟨rfl, rfl⟩⟩
  | tooLarge hlarge _ => exact absurd hfits hlarge

/-- Whether a call is inside makes no difference once it is decided. -/
lemma Agrees.of_answer?_eq {phase' : OpenPhase} {answer : Except ChainError LinkedToken}
    (h : Agrees d phase created) (hphase : phase.answer? = some answer)
    (hphase' : phase'.answer? = some answer) : Agrees d phase' created := by
  cases h with
  | called => cases hphase
  | waiting _ => cases hphase
  | locked _ => cases hphase
  | vacant _ _ => cases hphase
  | created hfits hsentinel hanswer =>
    exact .created hfits hsentinel (hphase'.trans (hphase.symm.trans hanswer))
  | refused hfits hopen hanswer =>
    exact .refused hfits hopen (hphase'.trans (hphase.symm.trans hanswer))
  | tooLarge hfits hanswer => exact .tooLarge hfits (hphase'.trans (hphase.symm.trans hanswer))

/-- A call goes on agreeing with its document as long as none that is vacant is opened. -/
lemma Agrees.grow (h : Agrees d phase created) (hgrow : d.Becomes links e)
    (hvacant : phase = .vacant → e.isOpened = false) : Agrees e phase created := by
  have htext := hgrow.text_eq
  cases h with
  | called => exact .called
  | waiting hfits => exact .waiting (htext ▸ hfits)
  | locked hfits => exact .locked (htext ▸ hfits)
  | vacant hfits _ => exact .vacant (htext ▸ hfits) (hvacant rfl)
  | created hfits hsentinel hanswer =>
    exact .created (htext ▸ hfits) (hgrow.at?_eq hsentinel) hanswer
  | refused hfits hopen hanswer =>
    exact .refused (htext ▸ hfits) (hgrow.isOpened hopen) hanswer
  | tooLarge hfits hanswer => exact .tooLarge (htext ▸ hfits) hanswer

lemma Served.mono {call : OpenCall} {served served' : List Request}
    {answer : Except ChainError LinkedToken} (h : call.Served served answer)
    (hmore : served <+: served') : call.Served served' answer := by
  obtain ⟨earlier, later, rfl, hreply⟩ := h
  obtain ⟨more, rfl⟩ := hmore
  refine ⟨earlier, later ++ more, ?_, hreply⟩
  rw [List.append_assoc, List.cons_append]

/-- A call whose document refuses to open is served by the refusal. -/
lemma served_of_error {call : OpenCall} {earlier : List Request} {cause : ChainError}
    (hd : (Session.after earlier).store.document? call.document = some d)
    (h : d.tryOpen.value = (.error cause, d)) :
    call.Served (earlier ++ [call.opening.entry]) (.error cause) := by
  refine ⟨earlier, [], rfl, Opening.reply_entry hd h, ?_⟩
  rintro cause' ⟨⟩
  exact Opening.reply_request_of_error hd h

lemma served_of_ok {call : OpenCall} {earlier : List Request} {r : LinkedToken}
    (hd : (Session.after earlier).store.document? call.document = some d)
    (h : d.tryOpen.value = (.ok r, e)) :
    call.Served (earlier ++ [call.opening.entry]) (.ok r) :=
  ⟨earlier, [], rfl, Opening.reply_entry hd h, nofun⟩

end OpenCall

namespace Openings

/-- What holds after any turns. -/
structure Inv (o : Openings) : Prop where
  session : o.session = Session.after o.served
  agrees : ∀ i call, o.call? i = some call →
    ∃ d, o.session.store.document? call.document = some d ∧
      OpenCall.Agrees d call.phase call.created
  /-- The lock of a document is with the call that is inside. -/
  holder : ∀ id i, o.holder id = some i ↔
    ∃ call, o.call? i = some call ∧ call.document = id ∧ call.phase.inside = true
  creator : ∀ i j a b, o.call? i = some a → o.call? j = some b → a.document = b.document →
    a.created = true → b.created = true → i = j
  opened : ∀ id d, o.session.store.document? id = some d → d.isOpened = true →
    ∃ i call, o.call? i = some call ∧ call.document = id ∧ call.created = true
  served : ∀ i call answer, o.call? i = some call → call.phase.answer? = some answer →
    call.Served o.served answer

variable {o : Openings} {i : Nat} {call : OpenCall}

lemma inv_start : start.Inv where
  session := rfl
  agrees i call h := by simp [start, call?] at h
  holder id i := by simp [start, call?]
  creator i j a b h := by simp [start, call?] at h
  opened id d h := by simp [start, Session.empty, Store.empty, Store.document?] at h
  served i call answer h := by simp [start, call?] at h

lemma Inv.inv_session (h : o.Inv) : o.session.Inv := by
  rw [h.session]
  exact Session.inv_after o.served

/-- A call has moved on. -/
lemma call?_setCall (hi : o.call? i = some call) (call' : OpenCall) (j : Nat) :
    (o.setCall i call').call? j = if i = j then some call' else o.call? j :=
  getElem?_set_of_getElem? hi call' j

/-- A call takes a step. It keeps what holds if the call goes on agreeing with its document and the
others with theirs, and if a document is opened by nothing but the creation in this step. -/
lemma Inv.act (h : o.Inv) (hi : o.call? i = some call) (call' : OpenCall)
    (hopening : call'.opening = call.opening) {s : Session} {holder : DocumentId → Option Nat}
    {served : List Request} (hmore : o.served <+: served) (hsession : s = Session.after served)
    (hagrees : ∃ d, s.store.document? call.document = some d ∧
      OpenCall.Agrees d call'.phase call'.created)
    (hothers : ∀ j c d, i ≠ j → o.call? j = some c →
      o.session.store.document? c.document = some d → OpenCall.Agrees d c.phase c.created →
        ∃ e, s.store.document? c.document = some e ∧ OpenCall.Agrees e c.phase c.created)
    (hown : ∀ id, holder id = some i ↔ call.document = id ∧ call'.phase.inside = true)
    (hlocks : ∀ id j, i ≠ j → (holder id = some j ↔ o.holder id = some j))
    (hkept : call.created = true → call'.created = true)
    (hcreator : call'.created = true → ∀ j c, i ≠ j → o.call? j = some c →
      c.document = call.document → c.created = false)
    (hopened : ∀ id e, s.store.document? id = some e → e.isOpened = true →
      (∃ d, o.session.store.document? id = some d ∧ d.isOpened = true) ∨
        call.document = id ∧ call'.created = true)
    (hserved : ∀ answer, call'.phase.answer? = some answer → call'.Served served answer) :
    Inv ⟨s, holder, o.calls.set i call', served⟩ := by
  have hdocument : call'.document = call.document := congrArg Opening.document hopening
  have hcall : ∀ j, call? ⟨s, holder, o.calls.set i call', served⟩ j =
      if i = j then some call' else o.call? j := call?_setCall hi call'
  exact
    { session := hsession
      agrees := by
        intro j c hj
        rw [hcall] at hj
        split at hj
        next =>
          obtain rfl := Option.some.inj hj
          exact hdocument ▸ hagrees
        next hij =>
          obtain ⟨d, hd, hc⟩ := h.agrees j c hj
          exact hothers j c d hij hj hd hc
      holder := by
        intro id j
        rw [hcall]
        split
        next hij =>
          subst hij
          rw [hown]
          constructor
          · exact fun hin => ⟨call', rfl, hdocument ▸ hin⟩
          · rintro ⟨c, ⟨⟩, hin⟩
            exact hdocument ▸ hin
        next hij => rw [hlocks id j hij, h.holder]
      creator := by
        intro j k a b hj hk hsame ha hb
        rw [hcall] at hj hk
        split at hj
        next hij =>
          split at hk
          next hik => exact hij.symm.trans hik
          next hik =>
            obtain rfl := Option.some.inj hj
            rw [hcreator ha k b hik hk (hsame.symm.trans hdocument)] at hb
            cases hb
        next hij =>
          split at hk
          next hik =>
            obtain rfl := Option.some.inj hk
            rw [hcreator hb j a hij hj (hsame.trans hdocument)] at ha
            cases ha
          next hik => exact h.creator j k a b hj hk hsame ha hb
      opened := by
        intro id e he hopen
        rcases hopened id e he hopen with ⟨d, hd, hopen⟩ | ⟨hid, hcreated⟩
        · obtain ⟨j, c, hj, hid, hcreated⟩ := h.opened id d hd hopen
          by_cases hij : i = j
          · subst hij
            obtain rfl : call = c := Option.some.inj (hi.symm.trans hj)
            exact ⟨i, call', by rw [hcall, if_pos rfl], hdocument.trans hid, hkept hcreated⟩
          · exact ⟨j, c, by rw [hcall, if_neg hij, hj], hid, hcreated⟩
        · exact ⟨i, call', by rw [hcall, if_pos rfl], hdocument.trans hid, hcreated⟩
      served := by
        intro j c answer hj hanswer
        rw [hcall] at hj
        split at hj
        next =>
          obtain rfl := Option.some.inj hj
          exact hserved answer hanswer
        next => exact (h.served j c answer hj hanswer).mono hmore }

/-- A call takes a step that changes no document. -/
lemma Inv.moved (h : o.Inv) (hi : o.call? i = some call) {d : Document}
    (hd : o.session.store.document? call.document = some d) {phase : OpenPhase}
    {holder : DocumentId → Option Nat} {served : List Request} (hmore : o.served <+: served)
    (hsession : o.session = Session.after served)
    (hagrees : OpenCall.Agrees d phase call.created)
    (hown : ∀ id, holder id = some i ↔ call.document = id ∧ phase.inside = true)
    (hlocks : ∀ id j, i ≠ j → (holder id = some j ↔ o.holder id = some j))
    (hserved : ∀ answer, phase.answer? = some answer → call.Served served answer) :
    Inv ⟨o.session, holder, o.calls.set i { call with phase }, served⟩ := by
  refine h.act hi { call with phase } rfl hmore hsession ⟨d, hd, hagrees⟩ ?_ hown hlocks id ?_ ?_ hserved
  · exact fun j c d _ _ hd hc => ⟨d, hd, hc⟩
  · intro hcreated j c hij hj hsame
    rw [Bool.eq_false_iff]
    exact fun hc => hij (h.creator i j call c hi hj hsame.symm hcreated hc)
  · exact fun id e he hopen => .inl ⟨e, he, hopen⟩

/-- A call that stays inside, or outside, leaves all locks as they are. -/
lemma Inv.holder_of_inside_eq (h : o.Inv) (hi : o.call? i = some call) {phase : OpenPhase}
    (hinside : phase.inside = call.phase.inside) (id : DocumentId) :
    o.holder id = some i ↔ call.document = id ∧ phase.inside = true := by
  rw [h.holder, hinside, hi]
  constructor
  · rintro ⟨c, ⟨⟩, hin⟩
    exact hin
  · exact fun hin => ⟨call, rfl, hin⟩

/-- A call that takes the lock of its document, or gives it back, does nothing to other locks. -/
lemma Inv.update_holder_own (h : o.Inv) (hi : o.call? i = some call) {lock : DocumentId}
    (hlock : lock = call.document) {phase : OpenPhase} {value : Option Nat}
    (hvalue : value = some i ↔ phase.inside = true) (id : DocumentId) :
    Function.update o.holder lock value id = some i ↔ call.document = id ∧ phase.inside = true := by
  subst hlock
  by_cases hsame : id = call.document
  · subst hsame
    rw [Function.update_self, hvalue, eq_self, true_and]
  · rw [Function.update_of_ne hsame]
    refine iff_of_false ?_ fun hown => hsame hown.1.symm
    intro hheld
    obtain ⟨c, hc, hdocument, -⟩ := (h.holder id i).1 hheld
    obtain rfl : call = c := Option.some.inj (hi.symm.trans hc)
    exact hsame hdocument.symm

/-- A lock that neither was nor is with another call is so no matter whose it becomes. -/
lemma update_holder_other {holder : DocumentId → Option Nat} {lock : DocumentId}
    {value : Option Nat} {j : Nat} (hvalue : value ≠ some j) (hbefore : holder lock ≠ some j)
    (id : DocumentId) : Function.update holder lock value id = some j ↔ holder id = some j := by
  by_cases hsame : id = lock
  · subst hsame
    rw [Function.update_self]
    exact iff_of_false hvalue hbefore
  · rw [Function.update_of_ne hsame]

section Step

variable {d : Document}

lemma Inv.agrees_of_document? (h : o.Inv) (hi : o.call? i = some call)
    (hd : o.session.store.document? call.document = some d) :
    OpenCall.Agrees d call.phase call.created := by
  obtain ⟨d', hd', hagrees⟩ := h.agrees i call hi
  obtain rfl : d' = d := Option.some.inj (hd'.symm.trans hd)
  exact hagrees

lemma Inv.step_called (h : o.Inv) (hi : o.call? i = some call)
    (hd : o.session.store.document? call.document = some d) (hphase : call.phase = .called) :
    (o.step i call d).Inv := by
  have hcreated : call.created = false :=
    (h.agrees_of_document? hi hd).not_created (by rw [hphase]; rfl)
  rw [step, hphase]
  cases hextent : Span.ofRange? 0 d.text.utf8ByteSize with
  | error cause =>
    have hfits : ¬d.text.utf8ByteSize < UInt32.size := by
      rw [Document.fits_iff, hextent]
      rintro ⟨extent, ⟨⟩⟩
    have hrefused := Document.tryOpen_of_error hextent
    refine h.moved hi hd (List.prefix_append _ _) ?_ ?_ ?_ (fun _ _ _ => Iff.rfl) ?_
    · rw [Session.after_concat, ← h.session, Opening.perform_entry_of_error h.inv_session hd hrefused]
    · rw [hcreated]
      exact .tooLarge hfits rfl
    · exact h.holder_of_inside_eq hi (by rw [hphase]; rfl)
    · rintro answer ⟨⟩
      exact OpenCall.served_of_error (h.session ▸ hd) hrefused
  | ok extent =>
    have hfits := Document.fits_iff.2 ⟨extent, hextent⟩
    refine h.moved hi hd (List.prefix_refl _) h.session ?_ ?_ (fun _ _ _ => Iff.rfl) nofun
    · rw [hcreated]
      exact .waiting hfits
    · exact h.holder_of_inside_eq hi (by rw [hphase]; rfl)

/-- Only a call that finds the lock free takes it. -/
lemma Inv.step_waiting (h : o.Inv) (hi : o.call? i = some call)
    (hd : o.session.store.document? call.document = some d) (hphase : call.phase = .waiting) :
    (o.step i call d).Inv := by
  have hagrees := h.agrees_of_document? hi hd
  have hcreated := hagrees.not_created (by rw [hphase]; rfl)
  have hfits := hagrees.fits (by rw [hphase]; rfl) (by rw [hphase]; nofun)
  have hid : d.id = call.document := h.inv_session.sound.numbered hd
  rw [step, hphase]
  cases hfree : o.holder d.id with
  | some j => exact h
  | none =>
    refine h.moved hi hd (List.prefix_refl _) h.session ?_ ?_ ?_ nofun
    · rw [hcreated]
      exact .locked hfits
    · exact h.update_holder_own hi hid (iff_of_true rfl rfl)
    · exact fun id j hij => update_holder_other (by simp [hij]) (by simp [hfree]) id

lemma Inv.step_locked (h : o.Inv) (hi : o.call? i = some call)
    (hd : o.session.store.document? call.document = some d) (hphase : call.phase = .locked) :
    (o.step i call d).Inv := by
  have hagrees := h.agrees_of_document? hi hd
  have hcreated := hagrees.not_created (by rw [hphase]; rfl)
  have hfits := hagrees.fits (by rw [hphase]; rfl) (by rw [hphase]; nofun)
  rw [step, hphase]
  cases hopen : d.isOpened with
  | true =>
    have hrefused := Document.tryOpen_of_isOpened hopen hfits
    refine h.moved hi hd (List.prefix_append _ _) ?_ ?_ ?_ (fun _ _ _ => Iff.rfl) ?_
    · rw [Session.after_concat, ← h.session, Opening.perform_entry_of_error h.inv_session hd hrefused]
    · rw [hcreated]
      exact .refused hfits hopen rfl
    · exact h.holder_of_inside_eq hi (by rw [hphase]; rfl)
    · rintro answer ⟨⟩
      exact OpenCall.served_of_error (h.session ▸ hd) hrefused
  | false =>
    refine h.moved hi hd (List.prefix_refl _) h.session ?_ ?_ (fun _ _ _ => Iff.rfl) nofun
    · rw [hcreated]
      exact .vacant hfits hopen
    · exact h.holder_of_inside_eq hi (by rw [hphase]; rfl)

lemma Inv.step_decided (h : o.Inv) (hi : o.call? i = some call)
    (hd : o.session.store.document? call.document = some d) {answer : Except ChainError LinkedToken}
    (hphase : call.phase = .decided answer) : (o.step i call d).Inv := by
  have hagrees := h.agrees_of_document? hi hd
  have hid : d.id = call.document := h.inv_session.sound.numbered hd
  have hheld : o.holder d.id = some i := (h.holder _ _).2 ⟨call, hi, hid.symm, by rw [hphase]; rfl⟩
  rw [step, hphase]
  refine h.moved hi hd (List.prefix_refl _) h.session ?_ ?_ ?_ ?_
  · exact hagrees.of_answer?_eq (by rw [hphase]; rfl) rfl
  · exact h.update_holder_own hi hid (iff_of_false nofun nofun)
  · exact fun id j hij => update_holder_other (Option.some_ne_none j).symm (by simp [hheld, hij]) id
  · rintro answer' ⟨⟩
    exact h.served i call answer hi (by rw [hphase]; rfl)

/-- At most one call is inside. -/
lemma Inv.eq_of_inside (h : o.Inv) {j : Nat} {c : OpenCall} (hi : o.call? i = some call)
    (hj : o.call? j = some c) (hdocument : c.document = call.document)
    (hin : call.phase.inside = true) (hin' : c.phase.inside = true) : i = j := by
  have hheld : o.holder call.document = some i := (h.holder _ _).2 ⟨call, hi, rfl, hin⟩
  have hheld' : o.holder call.document = some j := (h.holder _ _).2 ⟨c, hj, hdocument, hin'⟩
  exact Option.some.inj (hheld.symm.trans hheld')

/-- A call that has found no sentinel creates it: the lock has kept all others out since. -/
lemma Inv.step_vacant (h : o.Inv) (hi : o.call? i = some call)
    (hd : o.session.store.document? call.document = some d) (hphase : call.phase = .vacant) :
    (o.step i call d).Inv := by
  have hagrees := h.agrees_of_document? hi hd
  have hfits := hagrees.fits (by rw [hphase]; rfl) (by rw [hphase]; nofun)
  rw [hphase] at hagrees
  have hclosed := hagrees.not_isOpened
  have hid : d.id = call.document := h.inv_session.sound.numbered hd
  have hopened := Document.tryOpen_of_not_isOpened hclosed hfits
  have hself : (o.session.store.put { d with chain := #[Token.sentinel d.id] }).document?
      call.document = some { d with chain := #[Token.sentinel d.id] } :=
    h.inv_session.sound.document?_put hd rfl
  have hother : ∀ id, id ≠ call.document →
      (o.session.store.put { d with chain := #[Token.sentinel d.id] }).document? id =
        o.session.store.document? id :=
    fun id hne => Store.document?_put_of_ne (hid ▸ hne)
  rw [step, hphase]
  simp only [Document.sentinelOrNew_of_not_isOpened hclosed]
  refine h.act hi { call with phase := .decided (.ok ⟨Token.sentinel d.id, 0⟩), created := true } rfl
    (List.prefix_append _ _) ?_ ?_ ?_ ?_ (fun _ _ _ => Iff.rfl) (fun _ => rfl) ?_ ?_ ?_
  · rw [Session.after_concat, ← h.session, Opening.perform_entry_of_ok hd hopened]
  · rw [Opening.store_grant]
    exact ⟨_, hself, .created hfits rfl rfl⟩
  · intro j c f hij hj hf hc
    rw [Opening.store_grant]
    by_cases hsame : c.document = call.document
    · -- the other call is outside, so it is not vacant
      obtain rfl : f = d := Option.some.inj (hf.symm.trans (hsame ▸ hd))
      refine ⟨_, hsame ▸ hself, hc.grow (.opened .same (Document.isOpened_eq_false_iff.1 hclosed)) ?_⟩
      intro hvacant
      exact absurd (h.eq_of_inside hi hj hsame (by rw [hphase]; rfl) (by rw [hvacant]; rfl)) hij
    · exact ⟨f, (hother _ hsame).trans hf, hc⟩
  · exact h.holder_of_inside_eq hi (by rw [hphase]; rfl)
  · intro _ j c _ hj hsame
    rw [Bool.eq_false_iff]
    intro hcreated
    have hc := h.agrees_of_document? hj (hsame ▸ hd)
    rw [hcreated] at hc
    rw [hc.isOpened_of_created] at hclosed
    cases hclosed
  · intro id e he hopen
    rw [Opening.store_grant] at he
    by_cases hsame : id = call.document
    · exact .inr ⟨hsame.symm, rfl⟩
    · exact .inl ⟨e, (hother id hsame).symm.trans he, hopen⟩
  · rintro answer ⟨⟩
    exact OpenCall.served_of_ok (h.session ▸ hd) hopened

/-- Whatever step a call takes, it keeps what holds. -/
theorem Inv.step (h : o.Inv) (hi : o.call? i = some call)
    (hd : o.session.store.document? call.document = some d) : (o.step i call d).Inv := by
  cases hphase : call.phase with
  | called => exact h.step_called hi hd hphase
  | waiting => exact h.step_waiting hi hd hphase
  | locked => exact h.step_locked hi hd hphase
  | vacant => exact h.step_vacant hi hd hphase
  | decided answer => exact h.step_decided hi hd hphase
  | returned answer =>
    rw [Openings.step, hphase]
    exact h

end Step

lemma Inv.ask (h : o.Inv) {q : Request} (hq : q.opens = false) : (o.take (.ask q)).Inv := by
  have hs := h.inv_session
  rw [take, hq, if_neg Bool.false_ne_true]
  exact
    { session := by rw [Session.after_concat, ← h.session]
      agrees := by
        intro i call hi
        obtain ⟨d, hd, hagrees⟩ := h.agrees i call hi
        obtain ⟨e, links, he, hgrow⟩ := hs.perform_becomes q hd
        refine ⟨e, he, hagrees.grow hgrow ?_⟩
        intro hvacant
        rw [Bool.eq_false_iff]
        intro hopen
        obtain ⟨d', hd', hopen'⟩ := hs.isOpened_perform hq he hopen
        obtain rfl : d' = d := Option.some.inj (hd'.symm.trans hd)
        rw [hvacant] at hagrees
        rw [hagrees.not_isOpened] at hopen'
        cases hopen'
      holder := h.holder
      creator := h.creator
      opened := by
        intro id e he hopen
        obtain ⟨d, hd, hopen'⟩ := hs.isOpened_perform hq he hopen
        exact h.opened id d hd hopen'
      served := fun i call answer hi hanswer =>
        (h.served i call answer hi hanswer).mono (List.prefix_append _ _) }

/-- A call that has just begun agrees with every document. -/
lemma Inv.begun (h : o.Inv) {opening : Opening} {d : Document}
    (hd : o.session.store.document? opening.document = some d) :
    Inv { o with calls := o.calls ++ [⟨opening, .called, false⟩] } := by
  have hcases : ∀ j c, call? { o with calls := o.calls ++ [⟨opening, .called, false⟩] } j = some c →
      o.call? j = some c ∨ c = ⟨opening, .called, false⟩ := fun j c => getElem?_of_getElem?_concat
  have hkept : ∀ j c, o.call? j = some c →
      call? { o with calls := o.calls ++ [⟨opening, .called, false⟩] } j = some c :=
    fun j c hj => getElem?_concat_of_getElem? hj _
  exact
    { session := h.session
      agrees := by
        intro j c hj
        rcases hcases j c hj with hj | rfl
        · exact h.agrees j c hj
        · exact ⟨d, hd, .called⟩
      holder := by
        intro id j
        rw [h.holder]
        constructor
        · rintro ⟨c, hj, hin⟩
          exact ⟨c, hkept j c hj, hin⟩
        · rintro ⟨c, hj, hid, hin⟩
          rcases hcases j c hj with hj | rfl
          · exact ⟨c, hj, hid, hin⟩
          · cases hin
      creator := by
        intro j k a b hj hk hsame ha hb
        rcases hcases j a hj with hj | rfl
        · rcases hcases k b hk with hk | rfl
          · exact h.creator j k a b hj hk hsame ha hb
          · cases hb
        · cases ha
      opened := by
        intro id e he hopen
        obtain ⟨j, c, hj, hc⟩ := h.opened id e he hopen
        exact ⟨j, c, hkept j c hj, hc⟩
      served := by
        intro j c answer hj hanswer
        rcases hcases j c hj with hj | rfl
        · exact h.served j c answer hj hanswer
        · cases hanswer }

theorem Inv.take (h : o.Inv) (turn : Turn) : (o.take turn).Inv := by
  cases turn with
  | call opening =>
    rw [Openings.take]
    split
    next => exact h
    next d hd => exact h.begun hd
  | advance i =>
    rw [Openings.take]
    split
    next => exact h
    next call hi =>
      split
      next => exact h
      next d hd => exact h.step hi hd
  | ask q =>
    cases hq : q.opens with
    | true =>
      rw [Openings.take, hq]
      exact h
    | false => exact h.ask hq

lemma Inv.run (h : o.Inv) (turns : List Turn) : (o.run turns).Inv := by
  induction turns generalizing o with
  | nil => exact h
  | cons turn turns ih => exact ih (h.take turn)

theorem inv_after (turns : List Turn) : (after turns).Inv := inv_start.run turns

end Openings

end FrontEnd
