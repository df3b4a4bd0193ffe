import Mathlib.Algebra.BigOperators.Group.List.Basic
import Mathlib.Algebra.GroupWithZero.Nat
import Mathlib.Tactic.Lemma

/-!
# Threads in a list

Threads that share a state are kept in a list there, and one of them moves at a time: it comes
nearer to its end and all others stay where they are. If as long as one has not come to its end some
thread can move, then all can be brought there (`exists_steps`).
-/

namespace FrontEnd

section Lists

variable {α : Type*} {l : List α} {i : Nat} {x : α}

lemma getElem?_set_of_getElem? (h : l[i]? = some x) (y : α) (j : Nat) :
    (l.set i y)[j]? = if i = j then some y else l[j]? := by
  obtain ⟨hlt, -⟩ := List.getElem?_eq_some_iff.1 h
  rw [List.getElem?_set, if_pos hlt]

lemma getElem?_concat_of_getElem? (h : l[i]? = some x) (y : α) : (l ++ [y])[i]? = some x := by
  obtain ⟨hlt, -⟩ := List.getElem?_eq_some_iff.1 h
  rw [List.getElem?_append_left hlt, h]

lemma getElem?_of_getElem?_concat {y : α} (h : (l ++ [y])[i]? = some x) :
    l[i]? = some x ∨ x = y := by
  rw [List.getElem?_append] at h
  split at h
  next => exact .inl h
  next => exact .inr (List.mem_singleton.1 (List.mem_of_getElem? h))

lemma sum_map_set_lt (h : l[i]? = some x) {f : α → Nat} {y : α} (hlt : f y < f x) :
    ((l.set i y).map f).sum < (l.map f).sum := by
  induction l generalizing i with
  | nil => cases h
  | cons z l ih =>
    cases i with
    | zero =>
      obtain rfl : z = x := Option.some.inj h
      rw [List.set_cons_zero, List.map_cons, List.map_cons, List.sum_cons, List.sum_cons]
      exact Nat.add_lt_add_right hlt _
    | succ i =>
      have hrest := ih (i := i) h
      rw [List.set_cons_succ, List.map_cons, List.map_cons, List.sum_cons, List.sum_cons]
      exact Nat.add_lt_add_left hrest _

end Lists

section Steps

variable {σ α κ : Type*} (threads : σ → List α) (task : α → κ) (left : α → Nat)
  (step : σ → Nat → σ)

/-- The thread moves: it keeps its task and has fewer steps left. -/
def Moves (s : σ) (i : Nat) : Prop :=
  ∃ x y, (threads s)[i]? = some x ∧ threads (step s i) = (threads s).set i y ∧ task y = task x ∧
    left y < left x

variable {threads task left step}

lemma Moves.sum_lt {s : σ} {i : Nat} (h : Moves threads task left step s i) :
    ((threads (step s i)).map left).sum < ((threads s).map left).sum := by
  obtain ⟨x, y, hx, hset, -, hlt⟩ := h
  rw [hset]
  exact sum_map_set_lt hx hlt

lemma Moves.task_eq {s : σ} {i j : Nat} {x : α} (h : Moves threads task left step s i)
    (hj : (threads s)[j]? = some x) : ∃ y, (threads (step s i))[j]? = some y ∧ task y = task x := by
  obtain ⟨x', y, hx', hset, htask, -⟩ := h
  rw [hset, getElem?_set_of_getElem? hx']
  split
  next hij =>
    subst hij
    obtain rfl : x' = x := Option.some.inj (hx'.symm.trans hj)
    exact ⟨y, rfl, htask⟩
  next => exact ⟨x, hj, rfl⟩

/-- If some thread can move as long as one has steps left, all can be brought to their ends. -/
lemma exists_steps (inv : σ → Prop) (hinv : ∀ s i, inv s → inv (step s i))
    (hfree : ∀ s (i : Nat) x, inv s → (threads s)[i]? = some x → left x ≠ 0 →
      ∃ j, Moves threads task left step s j) {s : σ} (hs : inv s) :
    ∃ steps : List Nat, ∀ (i : Nat) x, (threads s)[i]? = some x →
      ∃ y, (threads (steps.foldl step s))[i]? = some y ∧ task y = task x ∧ left y = 0 := by
  induction hn : ((threads s).map left).sum using Nat.strongRecOn generalizing s with
  | ind n ih =>
    by_cases hend : ∀ (i : Nat) x, (threads s)[i]? = some x → left x = 0
    · exact ⟨[], fun i x hx => ⟨x, hx, rfl, hend i x hx⟩⟩
    · push Not at hend
      obtain ⟨i, x, hx, hleft⟩ := hend
      obtain ⟨j, hmoves⟩ := hfree s i x hs hx hleft
      obtain ⟨steps, hsteps⟩ := ih _ (hn ▸ hmoves.sum_lt) (hinv s j hs) rfl
      refine ⟨j :: steps, fun k z hz => ?_⟩
      obtain ⟨y, hy, htask⟩ := hmoves.task_eq hz
      obtain ⟨y', hy', htask', hzero⟩ := hsteps k y hy
      exact ⟨y', hy', htask'.trans htask, hzero⟩

end Steps

end FrontEnd
