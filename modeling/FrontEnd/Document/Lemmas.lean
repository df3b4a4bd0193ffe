import FrontEnd.Document.Iterator

/-!
# Chains seen through their positions

Every look at a chain is a look at a position of it: the chain behind a token is that token and
the chain behind the next one, and an iterator yields what lies behind the token it holds. A
link succeeds exactly when no check fails, and then adds one token at the end.
-/

namespace FrontEnd

namespace Document

theorem at?_eq_some_iff {d : Document} {position : Nat} {r : LinkedToken} :
    d.at? position = some r ↔ d.chain[position]? = some r.token ∧ r.position = position := by
  obtain ⟨token, place⟩ := r
  simp only [at?, Option.map_eq_some_iff, LinkedToken.mk.injEq]
  constructor
  · rintro ⟨t, h, rfl, rfl⟩
    exact ⟨h, rfl⟩
  · rintro ⟨h, rfl⟩
    exact ⟨token, h, rfl, rfl⟩

theorem at?_eq_none_iff {d : Document} {position : Nat} :
    d.at? position = none ↔ d.chain.size ≤ position := by
  simp [at?]

theorem isOpened_iff {d : Document} : d.isOpened = true ↔ 0 < d.chain.size := by
  simp [isOpened, Array.size_pos_iff]

theorem isLinked_iff {d : Document} {r : LinkedToken} :
    d.isLinked r = true ↔ r.position + 1 < d.chain.size := by
  simp [isLinked, next?, at?]

theorem chainFrom_of_at?_eq_none {d : Document} {position : Nat} (h : d.at? position = none) :
    d.chainFrom position = [] := by
  rw [at?_eq_none_iff] at h
  rw [chainFrom, List.drop_eq_nil_of_le h]
  rfl

theorem chainFrom_of_at?_eq_some {d : Document} {position : Nat} {r : LinkedToken}
    (h : d.at? position = some r) : d.chainFrom position = r :: d.chainFrom (position + 1) := by
  obtain ⟨ht, rfl⟩ := at?_eq_some_iff.1 h
  rw [← Array.getElem?_toList] at ht
  obtain ⟨hlt, hget⟩ := List.getElem?_eq_some_iff.1 ht
  rw [chainFrom, List.drop_eq_getElem_cons hlt, hget]
  rfl

theorem linkError?_eq_none_iff {d : Document} {onto : LinkedToken} {t : Token} :
    d.linkError? onto t = none ↔
      t.document = d.id ∧ t.span.start ≤ t.span.stop ∧ t.span.stop ≤ d.len ∧
        onto.token.span.stop ≤ t.span.start ∧ d.chain.size = onto.position + 1 := by
  unfold linkError?
  split
  next h => simp [h]
  next h =>
    split
    next hb => simp only [reduceCtorEq, false_iff]; grind
    next hb =>
      split
      next ho => simp only [reduceCtorEq, false_iff]; grind
      next ho =>
        split
        next hl => simp only [reduceCtorEq, false_iff]; grind
        next hl => simp only [true_iff]; grind

theorem link_of_error {d : Document} {onto : LinkedToken} {t : Token} {e : ChainError}
    (h : d.linkError? onto t = some e) : d.link onto t = (.error e, d) := by
  rw [link, h]

theorem link_of_no_error {d : Document} {onto : LinkedToken} {t : Token}
    (h : d.linkError? onto t = none) :
    d.link onto t = (.ok ⟨t, d.chain.size⟩, { d with chain := d.chain.push t }) := by
  rw [link, h]

end Document

namespace TokenIterator

theorem remaining_of_next_eq_none {it : TokenIterator} {d : Document}
    (h : (it.next d).1 = none) : it.remaining d = [] := by
  rw [remaining, show it.upcoming = none from h]

/-- What is left is the token yielded next and what is left after it. -/
theorem remaining_of_next_eq_some {it : TokenIterator} {d : Document} {r : LinkedToken}
    (h : (it.next d).1 = some r) : it.remaining d = r :: (it.next d).2.remaining d := by
  have hu : it.upcoming = some r := h
  simp only [remaining, next, hu, Option.bind_some]
  congr 1
  cases hn : d.next? r with
  | none => exact Document.chainFrom_of_at?_eq_none hn
  | some s =>
    have hp : s.position = r.position + 1 := (Document.at?_eq_some_iff.1 hn).2
    simpa only [hp] using Document.chainFrom_of_at?_eq_some hn

end TokenIterator

end FrontEnd
