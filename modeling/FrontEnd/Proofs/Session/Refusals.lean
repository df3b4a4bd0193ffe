import FrontEnd.Proofs.Session.Replies
import FrontEnd.Proofs.Session.Requests

/-!
# Refusals

A token is refused for the first check that it fails: it is foreign, lies outside the text, begins
too early, or is to follow a token that has a successor. Whatever is refused, all documents and
builders stay as they are (`refusesInOrder_after`).
-/

namespace FrontEnd

namespace Document

/-- The reason for which a document refuses to link a token onto another, none of those before it
being one. -/
inductive Refuses (d : Document) (onto : LinkedToken) (t : Token) : ChainError → Prop where
  | foreign : t.document ≠ d.id → Refuses d onto t (.foreignToken d.id t.document)
  | bounds : t.document = d.id → ¬(t.span.start ≤ t.span.stop ∧ t.span.stop ≤ d.len) →
      Refuses d onto t (.outOfBounds t.span d.len)
  | order : t.document = d.id → t.span.start ≤ t.span.stop ∧ t.span.stop ≤ d.len →
      t.span.start < onto.token.span.stop →
      Refuses d onto t (.outOfOrder onto.token.span.stop t.span.start)
  | linked {successor : LinkedToken} : t.document = d.id →
      t.span.start ≤ t.span.stop ∧ t.span.stop ≤ d.len → onto.token.span.stop ≤ t.span.start →
      d.next? onto = some successor → Refuses d onto t (.alreadyLinked onto.token.kind)

variable {d : Document} {onto : LinkedToken} {t : Token} {cause : ChainError}

/-- A token of the chain has no successor exactly if it is the last one. -/
lemma next?_eq_none_iff (ho : d.Holds onto) :
    d.next? onto = none ↔ d.chain.size = onto.position + 1 := by
  obtain ⟨hlt, -⟩ := Array.getElem?_eq_some_iff.1 (holds_iff.1 ho)
  rw [next?, at?_eq_none_iff]
  omega

lemma not_inText_iff :
    t.span.stop < t.span.start ∨ d.len < t.span.stop ↔
      ¬(t.span.start ≤ t.span.stop ∧ t.span.stop ≤ d.len) := by
  rw [Classical.not_and_iff_not_or_not, UInt32.not_le, UInt32.not_le]

lemma refuses_of_linkError? (ho : d.Holds onto) (h : d.linkError? onto t = some cause) :
    d.Refuses onto t cause := by
  unfold linkError? at h
  by_cases hown : t.document = d.id
  · rw [if_neg (not_not_intro hown)] at h
    by_cases hin : t.span.start ≤ t.span.stop ∧ t.span.stop ≤ d.len
    · rw [if_neg (fun hout => not_inText_iff.1 hout hin)] at h
      by_cases hearly : t.span.start < onto.token.span.stop
      · rw [if_pos hearly] at h
        cases h
        exact .order hown hin hearly
      · rw [if_neg hearly] at h
        by_cases hlast : d.chain.size = onto.position + 1
        · rw [if_neg (not_not_intro hlast)] at h
          cases h
        · rw [if_pos hlast] at h
          cases h
          obtain ⟨successor, hnext⟩ :=
            Option.ne_none_iff_exists'.1 fun hnone => hlast ((next?_eq_none_iff ho).1 hnone)
          exact .linked hown hin (UInt32.not_lt.1 hearly) hnext
    · rw [if_pos (not_inText_iff.2 hin)] at h
      cases h
      exact .bounds hown hin
  · rw [if_pos hown] at h
    cases h
    exact .foreign hown

lemma linkError?_of_refuses (ho : d.Holds onto) (h : d.Refuses onto t cause) :
    d.linkError? onto t = some cause := by
  unfold linkError?
  cases h with
  | foreign hown => rw [if_pos hown]
  | bounds hown hout => rw [if_neg (not_not_intro hown), if_pos (not_inText_iff.2 hout)]
  | order hown hin hearly =>
    rw [if_neg (not_not_intro hown), if_neg fun hout => not_inText_iff.1 hout hin, if_pos hearly]
  | linked hown hin hlate hnext =>
    have hlast : d.chain.size ≠ onto.position + 1 := by
      intro hsize
      rw [(next?_eq_none_iff ho).2 hsize] at hnext
      cases hnext
    rw [if_neg (not_not_intro hown), if_neg fun hout => not_inText_iff.1 hout hin,
      if_neg (UInt32.not_lt.2 hlate), if_pos hlast]

lemma linkError?_eq_some_iff (ho : d.Holds onto) :
    d.linkError? onto t = some cause ↔ d.Refuses onto t cause :=
  ⟨refuses_of_linkError? ho, linkError?_of_refuses ho⟩

end Document

namespace Store

variable {s : Store}

lemma link_error_iff {onto : LinkedToken} {d : Document}
    (hd : s.document? onto.document = some d) (ho : d.Holds onto) (t : Token) (cause : ChainError) :
    (s.link onto t).value.1 = .error cause ↔ d.Refuses onto t cause := by
  rw [← Document.linkError?_eq_some_iff ho, link, value_update_some hd]
  cases hl : d.linkError? onto t with
  | some e => simp [Document.link_of_error hl]
  | none => simp [Document.link_of_no_error hl]

/-- An operation that returns a document as it was when it fails leaves the store as it was. -/
lemma update_error {α : Type} (hs : s.Sound) {id : DocumentId}
    {act : Document → Logged DocumentEvent (Except ChainError α × Document)}
    (hact : ∀ d cause, (act d).value.1 = .error cause → (act d).value.2 = d) {cause : ChainError}
    (h : (s.update id act).value.1 = .error cause) : (s.update id act).value.2 = s := by
  cases hd : s.document? id with
  | none => rw [value_update_none hd]
  | some d =>
    rw [value_update_some hd] at h ⊢
    rw [hact d cause h]
    exact hs.put_self hd

lemma tryOpen_error (hs : s.Sound) {id : DocumentId} {cause : ChainError}
    (h : (s.tryOpen id).value.1 = .error cause) : (s.tryOpen id).value.2 = s := by
  refine update_error hs (fun d cause' hd => ?_) h
  rcases d.tryOpen_cases with ⟨_, ho⟩ | ⟨-, -, ho⟩
  · rw [ho]
  · rw [ho] at hd
    cases hd

lemma map_eq_error_iff {ε α β : Type} {answer : Except ε α} {f : α → β} {e : ε} :
    answer.map f = .error e ↔ answer = .error e := by
  cases answer with
  | error e' => simp [Except.map]
  | ok a => simp [Except.map]

lemma build_error (hs : s.Sound) {id : DocumentId} {cause : ChainError}
    (h : (s.build id).value.1 = .error cause) : (s.build id).value.2 = s := by
  rw [value_build] at h ⊢
  exact tryOpen_error hs (map_eq_error_iff.1 h)

lemma attach_error (hs : s.Sound) {b : ChainBuilder} {t : Token} {cause : ChainError}
    (h : (s.attach b t).value.1 = .error cause) : (s.attach b t).value.2 = s := by
  rw [value_attach] at h ⊢
  exact link_error hs (map_eq_error_iff.1 h)

end Store

namespace Session

variable {s : Session}

/-- A refusal changes neither a document nor a builder. -/
lemma perform_of_refusal (hs : s.Inv) {q : Request} {cause : ChainError}
    (h : (s.reply q).refusal? = some cause) :
    (s.perform q).store = s.store ∧ (s.perform q).builders = s.builders := by
  cases q with
  | create text names verifyImages => cases h
  | tryOpen id =>
    cases hv : (s.store.tryOpen id).value.1 with
    | error e => exact ⟨Store.tryOpen_error hs.sound hv, rfl⟩
    | ok r =>
      rw [reply, hv] at h
      cases h
  | sentinel id => cases h
  | first id => exact ⟨rfl, rfl⟩
  | next ref => exact ⟨rfl, rfl⟩
  | tail builder => cases h
  | mint id kind excerpt constant =>
    rw [reply] at h
    cases hd : s.store.document? id with
    | none =>
      rw [hd] at h
      cases h
    | some d =>
      rw [hd] at h
      cases h
  | link onto number =>
    cases hr : s.refs[onto]? with
    | none =>
      rw [reply, hr] at h
      cases h
    | some r =>
      cases ht : s.loose? number with
      | none =>
        rw [reply, hr, ht] at h
        cases h
      | some t =>
        rw [reply, hr, ht] at h
        rw [perform, hr, ht]
        cases hv : (s.store.link r t).value.1 with
        | error e => exact ⟨Store.link_error hs.sound hv, rfl⟩
        | ok r' =>
          simp only [hv] at h
          cases h
  | build id =>
    cases hv : (s.store.build id).value.1 with
    | error e =>
      refine ⟨Store.build_error hs.sound hv, ?_⟩
      rw [perform, hv]
      exact List.append_nil _
    | ok b =>
      rw [reply, hv] at h
      cases h
  | attach builder number =>
    cases hb : s.builders[builder]? with
    | none =>
      rw [reply, hb] at h
      cases h
    | some b =>
      cases ht : s.loose? number with
      | none =>
        rw [reply, hb, ht] at h
        cases h
      | some t =>
        rw [reply, hb, ht] at h
        rw [perform, hb, ht]
        cases hv : (s.store.attach b t).value.1 with
        | error e =>
          simp only [hv]
          exact ⟨Store.attach_error hs.sound hv, rfl⟩
        | ok b' =>
          simp only [hv] at h
          cases h
  | push builder kind excerpt constant =>
    cases hb : s.builders[builder]? with
    | none =>
      rw [reply, hb] at h
      cases h
    | some b =>
      obtain ⟨d, hd, -⟩ := hs.tails b (List.mem_of_getElem? hb)
      have hdoc : s.store.document? b.document = some d := hd
      simp only [reply, hb, Store.value_push hdoc] at h
      simp only [perform, hb, hdoc, Store.value_push hdoc]
      cases hv : (s.store.attach b (d.mint kind excerpt constant).value).value.1 with
      | error e => exact ⟨Store.attach_error hs.sound hv, rfl⟩
      | ok b' =>
        rw [hv] at h
        cases h
  | scan id eofKind decider memory => cases h

/-- A link succeeds exactly if no check fails, and is refused for the first one that does. A refusal
leaves no trace in any document or builder. -/
structure RefusesInOrder (s : Session) : Prop where
  held : (∀ r ∈ s.refs, s.store.Holds r) ∧ ∀ b ∈ s.builders, s.store.Holds b.tail
  minted : ∀ number t, s.loose? number = some t → s.minted[number]? = some ⟨t.document, t⟩
  answers : ∀ r, s.store.Holds r → ∃ d, s.store.document? r.document = some d ∧
    d.id = r.document ∧ ∀ t,
      ((∃ r', (s.store.link r t).value.1 = .ok r') ↔
        t.document = d.id ∧ (t.span.start ≤ t.span.stop ∧ t.span.stop ≤ d.len) ∧
          r.token.span.stop ≤ t.span.start ∧ d.next? r = none) ∧
      ∀ cause, (s.store.link r t).value.1 = .error cause ↔ d.Refuses r t cause
  unchanged : ∀ q cause, (s.reply q).refusal? = some cause →
    (s.perform q).store = s.store ∧ (s.perform q).builders = s.builders

/-- Whatever was asked before, every request to link is judged by the checks in their order. -/
theorem refusesInOrder_after (requests : List Request) : (after requests).RefusesInOrder := by
  have h := inv_after requests
  exact
    { held := ⟨h.refs, h.tails⟩
      minted := by
        intro number t ht
        obtain ⟨-, m, hget, rfl⟩ := loose?_eq_some_iff.1 ht
        rw [hget, h.own m (List.mem_of_getElem? hget)]
      answers := by
        intro r hr
        obtain ⟨d, hd, hholds⟩ := hr
        refine ⟨d, hd, h.sound.numbered hd, fun t => ⟨?_, Store.link_error_iff hd hholds t⟩⟩
        rw [Store.link_ok_iff hd hholds, Document.getLast?_chainFrom_iff hholds,
          Document.next?_eq_none_iff hholds, and_assoc]
      unchanged := fun q cause hq => perform_of_refusal h hq }

/-- Four tokens for one place: the first is foreign, the first two are reversed, the first three
begin too early, and all four are to follow a token that has a successor. -/
def faultyRequests : List Request :=
  [.create "ab" .unnamed false, .create "ab" .unnamed false, .build ⟨0⟩,
    .push 0 ⟨7⟩ ⟨⟨0, 2⟩, "ab"⟩ none, .push 0 ⟨8⟩ ⟨⟨2, 2⟩, ""⟩ none, .mint ⟨1⟩ ⟨9⟩ ⟨⟨1, 0⟩, ""⟩ none,
    .mint ⟨0⟩ ⟨9⟩ ⟨⟨1, 0⟩, ""⟩ none, .mint ⟨0⟩ ⟨9⟩ ⟨⟨1, 2⟩, "b"⟩ none,
    .mint ⟨0⟩ ⟨9⟩ ⟨⟨2, 2⟩, ""⟩ none]

theorem refusesInOrder_after_faults :
    [2, 3, 4, 5].map (fun number => ((after faultyRequests).reply (.link 0 number)).refusal?) =
        [some (.foreignToken ⟨0⟩ ⟨1⟩), some (.outOfBounds ⟨1, 0⟩ 2), some (.outOfOrder 2 1),
          some (.alreadyLinked ⟨7⟩)] ∧
      (after faultyRequests).RefusesInOrder :=
  ⟨by decide, refusesInOrder_after faultyRequests⟩

end Session

end FrontEnd
