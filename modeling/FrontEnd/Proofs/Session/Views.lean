import FrontEnd.Proofs.Opening.Once
import FrontEnd.Proofs.Session.Builders
import FrontEnd.Proofs.Session.Chains

/-!
# Ways of looking at a chain

A chain can be asked for its sentinel or its first token, walked along with an iterator from any of its
tokens or from behind the sentinel, or followed from one successor to the next. All of this shows one
list of tokens (`Document.Viewed`), and two linked tokens are the same exactly if they stand at one place
of one such list, which is so exactly if one minted token was linked there
(`Session.viewsAgree_after`).
-/

namespace FrontEnd

/-- What an iterator yields, up to the first call of `next` that answers with no token, if nothing is
linked in the meantime. -/
inductive TokenIterator.Yields (d : Document) : TokenIterator → List LinkedToken → Prop where
  | done {it : TokenIterator} : (it.next d).1 = none → Yields d it []
  | more {it : TokenIterator} {r : LinkedToken} {rest : List LinkedToken} : (it.next d).1 = some r →
      Yields d (it.next d).2 rest → Yields d it (r :: rest)

lemma TokenIterator.yields_remaining (it : TokenIterator) (d : Document) :
    it.Yields d (it.remaining d) := by
  induction hrest : it.remaining d generalizing it with
  | nil =>
    apply Yields.done
    cases hnext : (it.next d).1 with
    | none => rfl
    | some r =>
      rw [remaining_of_next_eq_some hnext] at hrest
      cases hrest
  | cons r rest ih =>
    cases hnext : (it.next d).1 with
    | none =>
      rw [remaining_of_next_eq_none hnext] at hrest
      cases hrest
    | some r' =>
      rw [remaining_of_next_eq_some hnext] at hrest
      obtain ⟨rfl, htail⟩ := List.cons.inj hrest
      exact .more hnext (ih _ htail)

namespace Document

variable {d : Document} {r : LinkedToken}

lemma getElem?_chainFrom (d : Document) (position i : Nat) :
    (d.chainFrom position)[i]? = d.at? (position + i) := by
  rw [chainFrom, at?, List.getElem?_map, List.getElem?_zipIdx, List.getElem?_drop,
    Array.getElem?_toList, Option.map_map]
  rfl

lemma drop_chainFrom (d : Document) (position i : Nat) :
    (d.chainFrom position).drop i = d.chainFrom (position + i) := by
  apply List.ext_getElem?
  intro j
  rw [List.getElem?_drop, getElem?_chainFrom, getElem?_chainFrom, Nat.add_assoc]

/-- An iterator that starts at a token of the chain has the chain from there on before it. -/
lemma remaining_startingAt (h : d.Holds r) :
    (TokenIterator.startingAt r).remaining d = d.chainFrom r.position :=
  (chainFrom_of_at?_eq_some h).symm

/-- Everything that can be seen of the chain of an open document agrees with one list of its tokens. -/
structure Viewed (d : Document) (sentinel : LinkedToken) (real : List LinkedToken) : Prop where
  sentinel?_eq : d.sentinel? = some sentinel
  tokens_eq : ∃ walk, d.tokens = .ok walk ∧ walk.Yields d real
  chain : (TokenIterator.startingAt sentinel).Yields d (sentinel :: real)
  first_eq : d.first = real.head?.elim (.error .noTokens) .ok
  suffix : ∀ i r, (sentinel :: real)[i]? = some r →
    (TokenIterator.startingAt r).Yields d ((sentinel :: real).drop i)
  next?_eq : ∀ i r, (sentinel :: real)[i]? = some r → d.next? r = (sentinel :: real)[i + 1]?
  isLinked_iff : ∀ i r, (sentinel :: real)[i]? = some r →
    (d.isLinked r = true ↔ i + 1 < (sentinel :: real).length)

lemma viewed {sentinel : LinkedToken} (h : d.sentinel? = some sentinel) :
    d.Viewed sentinel d.real := by
  have hchain : d.chainFrom 0 = sentinel :: d.real := chainFrom_of_at?_eq_some h
  have hzero : sentinel.position = 0 := (at?_eq_some_iff.1 h).2
  have hopen := isOpened_iff.1 (isOpened_of_sentinel? h)
  have hat : ∀ {i : Nat} {r : LinkedToken}, (sentinel :: d.real)[i]? = some r → d.at? i = some r := by
    intro i r hr
    rw [← hchain, getElem?_chainFrom, Nat.zero_add] at hr
    exact hr
  have hplace : ∀ {i : Nat} {r : LinkedToken}, (sentinel :: d.real)[i]? = some r → r.position = i :=
    fun hr => (at?_eq_some_iff.1 (hat hr)).2
  have hsuffix : ∀ (i : Nat) (r : LinkedToken), (sentinel :: d.real)[i]? = some r →
      (TokenIterator.startingAt r).Yields d ((sentinel :: d.real).drop i) := by
    intro i r hr
    rw [← hchain, drop_chainFrom, Nat.zero_add, ← hplace hr,
      ← remaining_startingAt (holds_of_at? (hat hr))]
    exact TokenIterator.yields_remaining _ d
  exact
    { sentinel?_eq := h
      tokens_eq := by
        obtain ⟨walk, hwalk, hremaining⟩ := tokens_of_isOpened hopen
        exact ⟨walk, hwalk, hremaining ▸ walk.yields_remaining d⟩
      chain := hsuffix 0 sentinel rfl
      first_eq := by
        have hnext : d.next? sentinel = d.at? 1 := by rw [next?, hzero]
        cases hr : d.at? 1 with
        | none =>
          have hreal : d.real = [] := chainFrom_of_at?_eq_none hr
          simp only [first, h, hnext, hr, hreal, List.head?_nil, Option.elim_none]
        | some r =>
          have hreal : d.real = r :: d.chainFrom 2 := chainFrom_of_at?_eq_some hr
          simp only [first, h, hnext, hr, hreal, List.head?_cons, Option.elim_some]
      suffix := hsuffix
      next?_eq := by
        intro i r hr
        rw [← hchain, getElem?_chainFrom, Nat.zero_add, next?, hplace hr]
      isLinked_iff := by
        intro i r hr
        rw [isLinked_iff, hplace hr, ← hchain, length_chainFrom, Nat.sub_zero] }

/-- A document that is not open shows nothing, and no other does. -/
lemma sentinel?_eq_none_iff (d : Document) : d.sentinel? = none ↔ d.isOpened = false := by
  rw [sentinel?, at?_eq_none_iff, isOpened_eq_false_iff, ← Array.size_eq_zero_iff, Nat.le_zero]

end Document

namespace Store

variable {s : Store} {r : LinkedToken}

lemma chainOf_eq {id : DocumentId} {d : Document} (hd : s.document? id = some d) :
    s.chainOf id = d.chainFrom 0 := by
  rw [chainOf, hd]
  rfl

/-- A linked token stands at one place of one chain only. -/
lemma Sound.getElem?_chainOf_iff (hs : s.Sound) (hr : s.Holds r) (id : DocumentId) (i : Nat) :
    (s.chainOf id)[i]? = some r ↔ id = r.document ∧ i = r.position := by
  obtain ⟨d, hd, hholds⟩ := hr
  constructor
  · intro hget
    cases he : s.document? id with
    | none =>
      rw [chainOf, he] at hget
      cases hget
    | some e =>
      rw [chainOf_eq he, Document.getElem?_chainFrom, Nat.zero_add] at hget
      have hown := (hs.sound he).document_eq (Document.holds_of_at? hget)
      exact ⟨(hs.numbered he).symm.trans hown.symm, (Document.at?_eq_some_iff.1 hget).2.symm⟩
  · rintro ⟨rfl, rfl⟩
    rw [chainOf_eq hd, Document.getElem?_chainFrom, Nat.zero_add]
    exact hholds

lemma getElem?_tokensOf (hr : s.Holds r) (hpos : r.position ≠ 0) :
    (s.tokensOf r.document)[r.position - 1]? = some r := by
  obtain ⟨d, hd, hholds⟩ := hr
  rw [tokensOf, hd, Option.map_some, Option.getD_some, Document.real, Document.getElem?_chainFrom]
  rw [Nat.add_sub_cancel' (Nat.one_le_iff_ne_zero.2 hpos)]
  exact hholds

end Store

namespace Session

/-- The number under which a linked token was minted; the sentinel was not minted. -/
def numberOf? (s : Session) (r : LinkedToken) : Option Nat :=
  if r.position = 0 then none else (s.numbersOf r.document)[r.position - 1]?

/-- All that clients can see of the chains agrees. -/
structure ViewsAgree (s : Session) : Prop where
  closed : ∀ id d, s.store.document? id = some d →
    (d.sentinel? = none ↔ d.isOpened = false) ∧
      (d.first = .error .notOpened ↔ d.isOpened = false) ∧
      (d.tokens = .error .notOpened ↔ d.isOpened = false)
  opened : ∀ id d, s.store.document? id = some d → d.isOpened = true →
    ∃ sentinel real, s.store.chainOf id = sentinel :: real ∧ d.Viewed sentinel real
  /-- Whatever linked token a client has got, it stands at one place of one chain. -/
  held : (∀ r ∈ s.refs, s.store.Holds r) ∧ (∀ b ∈ s.builders, s.store.Holds b.tail) ∧
    ∀ id, ∀ r ∈ s.store.chainOf id, s.store.Holds r
  placed : ∀ r, s.store.Holds r →
    ∃ place, ∀ (id : DocumentId) (i : Nat),
      (s.store.chainOf id)[i]? = some r ↔ id = r.document ∧ i = place
  same_iff : ∀ a b, s.store.Holds a → s.store.Holds b →
    (a.same b = true ↔ ∃ (id : DocumentId) (i : Nat),
      (s.store.chainOf id)[i]? = some a ∧ (s.store.chainOf id)[i]? = some b)
  /-- Linked tokens are the same exactly if they are one minted token, or the sentinel, of one
  document. -/
  same_iff_minted : ∀ a b, s.store.Holds a → s.store.Holds b →
    (a.same b = true ↔ a.document = b.document ∧ s.numberOf? a = s.numberOf? b)
  minted : ∀ r number, s.store.Holds r → s.numberOf? r = some number →
    s.minted[number]? = some ⟨r.document, r.token⟩

namespace Inv

variable {s : Session} {a b r : LinkedToken}

lemma holds_of_mem_chainOf (h : s.Inv) {id : DocumentId} (hr : r ∈ s.store.chainOf id) :
    s.store.Holds r := by
  cases hd : s.store.document? id with
  | none =>
    rw [Store.chainOf, hd] at hr
    cases hr
  | some d =>
    rw [Store.chainOf_eq hd] at hr
    exact holds_of_document? h hd (Document.holds_of_mem_chainFrom hr)

/-- A linked token that is no sentinel was minted under a number of its document. -/
lemma exists_numberOf? (h : s.Inv) (hr : s.store.Holds r) (hpos : r.position ≠ 0) :
    ∃ number, s.numberOf? r = some number ∧ s.minted[number]? = some ⟨r.document, r.token⟩ := by
  have hminted := congrArg (·[r.position - 1]?) (h.minted_numbersOf r.document)
  simp only [List.getElem?_map, Store.getElem?_tokensOf hr hpos, Option.map_some] at hminted
  obtain ⟨number, hnumber, hget⟩ := Option.map_eq_some_iff.1 hminted
  exact ⟨number, by rw [numberOf?, if_neg hpos, hnumber], hget⟩

lemma minted_of_numberOf? (h : s.Inv) (hr : s.store.Holds r) {number : Nat}
    (hnumber : s.numberOf? r = some number) : s.minted[number]? = some ⟨r.document, r.token⟩ := by
  by_cases hpos : r.position = 0
  · rw [numberOf?, if_pos hpos] at hnumber
    cases hnumber
  · obtain ⟨number', hnumber', hget⟩ := h.exists_numberOf? hr hpos
    obtain rfl : number' = number := Option.some.inj (hnumber'.symm.trans hnumber)
    exact hget

/-- No two places of a chain have tokens of one number. -/
lemma position_eq_of_numberOf? (h : s.Inv) (ha : s.store.Holds a) (hb : s.store.Holds b)
    (hdocument : a.document = b.document) (hnumber : s.numberOf? a = s.numberOf? b) :
    a.position = b.position := by
  by_cases hpos : a.position = 0
  · by_contra hne
    obtain ⟨number, hb', -⟩ := h.exists_numberOf? hb (hpos ▸ Ne.symm hne)
    rw [numberOf?, if_pos hpos, hb'] at hnumber
    cases hnumber
  · obtain ⟨number, ha', -⟩ := h.exists_numberOf? ha hpos
    have hpos' : b.position ≠ 0 := by
      intro hzero
      rw [ha', numberOf?, if_pos hzero] at hnumber
      cases hnumber
    rw [ha'] at hnumber
    rw [numberOf?, if_neg hpos, hdocument] at ha'
    rw [numberOf?, if_neg hpos'] at hnumber
    have hlt := (List.getElem?_eq_some_iff.1 ha').1
    have hindex := (List.getElem?_inj hlt (h.nodup_numbersOf b.document)).1 (ha'.trans hnumber)
    omega

lemma same_iff_minted (h : s.Inv) (ha : s.store.Holds a) (hb : s.store.Holds b) :
    a.same b = true ↔ a.document = b.document ∧ s.numberOf? a = s.numberOf? b := by
  rw [LinkedToken.same, Bool.and_eq_true, decide_eq_true_iff, decide_eq_true_iff]
  constructor
  · rintro ⟨hdocument, hposition⟩
    exact ⟨hdocument, by rw [numberOf?, numberOf?, hdocument, hposition]⟩
  · rintro ⟨hdocument, hnumber⟩
    exact ⟨hdocument, h.position_eq_of_numberOf? ha hb hdocument hnumber⟩

lemma same_iff_placed (h : s.Inv) (ha : s.store.Holds a) (hb : s.store.Holds b) :
    a.same b = true ↔
      ∃ (id : DocumentId) (i : Nat),
        (s.store.chainOf id)[i]? = some a ∧ (s.store.chainOf id)[i]? = some b := by
  rw [LinkedToken.same, Bool.and_eq_true, decide_eq_true_iff, decide_eq_true_iff]
  simp only [h.sound.getElem?_chainOf_iff ha, h.sound.getElem?_chainOf_iff hb]
  constructor
  · rintro ⟨hdocument, hposition⟩
    exact ⟨a.document, a.position, ⟨rfl, rfl⟩, hdocument, hposition⟩
  · rintro ⟨id, i, ⟨rfl, rfl⟩, hdocument, hposition⟩
    exact ⟨hdocument, hposition⟩

end Inv

/-- Whatever was asked before, however one looks at a chain one sees the same. -/
theorem viewsAgree_after (requests : List Request) : (after requests).ViewsAgree := by
  have h := inv_after requests
  exact
    { closed := by
        intro id d _
        exact ⟨d.sentinel?_eq_none_iff, d.notOpened_iff⟩
      opened := by
        intro id d hd hopen
        cases hsentinel : d.sentinel? with
        | none =>
          rw [d.sentinel?_eq_none_iff.1 hsentinel] at hopen
          cases hopen
        | some sentinel =>
          refine ⟨sentinel, d.real, ?_, Document.viewed hsentinel⟩
          rw [Store.chainOf_eq hd]
          exact Document.chainFrom_of_at?_eq_some hsentinel
      held := ⟨h.refs, h.tails, fun _ _ => h.holds_of_mem_chainOf⟩
      placed := fun r hr => ⟨r.position, h.sound.getElem?_chainOf_iff hr⟩
      same_iff := fun a b ha hb => h.same_iff_placed ha hb
      same_iff_minted := fun a b ha hb => h.same_iff_minted ha hb
      minted := fun r number hr hnumber => h.minted_of_numberOf? hr hnumber }

/-- Two alike tokens, and empty ones at that, are linked at one offset of a document and a third one in
another document. A client has got the first of them twice, once before the second was linked. -/
def twinRequests : List Request :=
  [.create "ab" .unnamed false, .create "ab" .unnamed false, .build ⟨0⟩, .build ⟨1⟩,
    .push 0 ⟨7⟩ ⟨⟨1, 1⟩, ""⟩ none, .push 0 ⟨7⟩ ⟨⟨1, 1⟩, ""⟩ none, .push 1 ⟨7⟩ ⟨⟨1, 1⟩, ""⟩ none,
    .first ⟨0⟩]

theorem viewsAgree_after_twins :
    ((after twinRequests).refs.map fun a => (after twinRequests).refs.map fun b => a.same b) =
        [[true, false, false, true], [false, true, false, false], [false, false, true, false],
          [true, false, false, true]] ∧
      (after twinRequests).ViewsAgree :=
  ⟨by decide, viewsAgree_after twinRequests⟩

end Session

end FrontEnd
