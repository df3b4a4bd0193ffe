import FrontEnd.Proofs.Iterator.Turns
import FrontEnd.Proofs.Session.Drivers
import Mathlib.Data.List.ReduceOption

/-!
# Iterators on growing chains

An iterator looks the successor of a token up when it yields the token, so it may lag behind a chain
that grows under it, and one that has come to the end does not see what is linked later. But it stands
where its answers have led it (`Iteration.Stands`), and neither its own calls nor the growth of the chain
change that. So it never leaves the chain (`Iterations.staysOnChain_after`).
-/

namespace FrontEnd

namespace Document

variable {d e : Document} {links : List LinkedToken}

/-- The chain from a token on; from no token on there is none. -/
def chainSince (d : Document) : Option LinkedToken → List LinkedToken
  | none => []
  | some r => d.chainFrom r.position

lemma chain_ne_empty_of_holds {r : LinkedToken} (h : d.Holds r) : d.chain ≠ #[] := by
  intro hempty
  rw [holds_iff, hempty] at h
  cases h

lemma Becomes.chain_ne_empty (h : d.Becomes links e) (hopen : d.chain ≠ #[]) : e.chain ≠ #[] := by
  intro hempty
  have hprefix := h.chain_prefix
  rw [hempty] at hprefix
  exact hopen (Array.toList_inj.1 (List.prefix_nil.1 hprefix))

/-- Growth adds what is linked to the end of the chain, from wherever it is looked at. -/
lemma Becomes.chainFrom_eq (h : d.Becomes links e) {position : Nat} (hlt : position < d.chain.size) :
    e.chainFrom position = d.chainFrom position ++ links := by
  induction h with
  | same => rw [List.append_nil]
  | @opened _ f hgrow hempty ih =>
    have hne : d.chain ≠ #[] := Array.ne_empty_of_size_pos (Nat.zero_lt_of_lt hlt)
    exact absurd hempty (hgrow.chain_ne_empty hne)
  | @linked _ f onto t hgrow _ hl ih =>
    have hle := hgrow.chain_prefix.length_le
    rw [Array.length_toList, Array.length_toList] at hle
    rw [chainFrom_push f t (by omega), ih, List.append_assoc]

lemma Becomes.chainSince_eq (h : d.Becomes links e) {r : LinkedToken} (hr : d.Holds r) :
    e.chainSince (some r) = d.chainSince (some r) ++ links :=
  h.chainFrom_eq (Array.getElem?_eq_some_iff.1 (holds_iff.1 hr)).1

lemma Becomes.chainSince_prefix (h : d.Becomes links e) {origin : Option LinkedToken}
    (hr : ∀ r, origin = some r → d.Holds r) : d.chainSince origin <+: e.chainSince origin := by
  cases origin with
  | none => exact List.prefix_refl _
  | some r =>
    rw [h.chainSince_eq (hr r rfl)]
    exact List.prefix_append _ _

lemma chainFrom_next? (d : Document) (r : LinkedToken) :
    d.chainFrom (r.position + 1) = d.chainSince (d.next? r) := by
  cases hr : d.next? r with
  | none => exact chainFrom_of_at?_eq_none hr
  | some r' => rw [chainSince, (at?_eq_some_iff.1 hr).2]

lemma chainSince_of_holds {r : LinkedToken} (h : d.Holds r) :
    d.chainSince (some r) = r :: d.chainSince (d.next? r) := by
  rw [← chainFrom_next?]
  exact chainFrom_of_at?_eq_some h

end Document

namespace Iteration

variable {x : Iteration} {d : Document}

lemma yielded_next (x : Iteration) (d : Document) :
    (x.next d).yielded = x.yielded ++ x.iterator.upcoming.toList := by
  rw [yielded, answers_next, List.reduceOption_append, List.reduceOption_singleton, yielded]

/-- Where an iterator stands: what it has yielded is the beginning of the chain since its origin, and
leads there as long as it holds a token. -/
structure Stands (x : Iteration) (d : Document) : Prop where
  opened : d.chain ≠ #[]
  origin : ∀ r, x.origin = some r → d.Holds r
  upcoming : ∀ r, x.iterator.upcoming = some r → d.Holds r ∧ none ∉ x.answers ∧
    d.chainSince x.origin = x.yielded ++ d.chainSince (some r)
  ended : x.iterator.upcoming = none → x.yielded <+: d.chainSince x.origin

namespace Stands

lemma begun (hopen : d.chain ≠ #[]) (id : DocumentId) {it : TokenIterator}
    (hr : ∀ r, it.upcoming = some r → d.Holds r) : (Iteration.begun id it).Stands d where
  opened := hopen
  origin := hr
  upcoming := by
    intro r hup
    have horigin : (Iteration.begun id it).origin = some r := hup
    refine ⟨hr r hup, List.not_mem_nil, ?_⟩
    rw [horigin]
    rfl
  ended _ := List.nil_prefix

lemma next (h : x.Stands d) : (x.next d).Stands d := by
  have hyielded := x.yielded_next d
  cases hup : x.iterator.upcoming with
  | none =>
    rw [hup, Option.toList_none, List.append_nil] at hyielded
    refine ⟨h.opened, h.origin, ?_, fun _ => hyielded ▸ h.ended hup⟩
    intro r hr
    rw [upcoming_next, hup] at hr
    cases hr
  | some r =>
    obtain ⟨hr, hnone, hchain⟩ := h.upcoming r hup
    have hchain' : d.chainSince x.origin = (x.next d).yielded ++ d.chainSince (d.next? r) := by
      rw [hyielded, hup, hchain, Document.chainSince_of_holds hr, List.append_assoc]
      rfl
    refine ⟨h.opened, h.origin, ?_, fun _ => hchain' ▸ List.prefix_append _ _⟩
    intro r' hr'
    rw [upcoming_next, hup] at hr'
    refine ⟨Document.holds_of_at? hr', ?_, (congrArg d.chainSince hr') ▸ hchain'⟩
    simp [hup, hnone]

lemma grow (h : x.Stands d) {e : Document} {links : List LinkedToken} (hgrow : d.Becomes links e) :
    x.Stands e where
  opened := hgrow.chain_ne_empty h.opened
  origin r hr := hgrow.holds (h.origin r hr)
  upcoming := by
    intro r hup
    obtain ⟨hr, hnone, hchain⟩ := h.upcoming r hup
    refine ⟨hgrow.holds hr, hnone, ?_⟩
    cases horigin : x.origin with
    | none =>
      -- from no token on there is no chain, but the token that is held is on it
      rw [horigin, Document.chainSince_of_holds hr] at hchain
      simp [Document.chainSince] at hchain
    | some first =>
      rw [horigin] at hchain
      rw [hgrow.chainSince_eq (h.origin first horigin), hgrow.chainSince_eq hr, hchain,
        List.append_assoc]
  ended hup := (h.ended hup).trans (hgrow.chainSince_prefix h.origin)

lemma yielded_prefix (h : x.Stands d) : x.yielded <+: d.chainSince x.origin := by
  cases hup : x.iterator.upcoming with
  | none => exact h.ended hup
  | some r =>
    obtain ⟨-, -, hchain⟩ := h.upcoming r hup
    exact hchain ▸ List.prefix_append _ _

lemma upcoming_eq_none (h : x.Stands d) (hnone : none ∈ x.answers) : x.iterator.upcoming = none := by
  cases hup : x.iterator.upcoming with
  | none => rfl
  | some r => exact absurd hnone (h.upcoming r hup).2.1

end Stands

/-! ### What an iterator answers -/

lemma document_foldl_next (shown : List Document) (x : Iteration) :
    (shown.foldl next x).document = x.document := by
  induction shown generalizing x with
  | nil => rfl
  | cons d shown ih => exact ih (x.next d)

lemma origin_foldl_next (shown : List Document) (x : Iteration) :
    (shown.foldl next x).origin = x.origin := by
  induction shown generalizing x with
  | nil => rfl
  | cons d shown ih => exact ih (x.next d)

lemma answers_prefix_foldl_next (shown : List Document) (x : Iteration) :
    x.answers <+: (shown.foldl next x).answers := by
  induction shown generalizing x with
  | nil => exact List.prefix_refl _
  | cons d shown ih => exact (List.prefix_append _ _).trans (ih (x.next d))

/-- An iterator that has come to the end stays there, whatever it is shown. -/
lemma foldl_next_of_ended (shown : List Document) (h : x.iterator.upcoming = none) :
    shown.foldl next x = { x with answers := x.answers ++ List.replicate shown.length none } := by
  induction shown generalizing x with
  | nil => simp
  | cons d shown ih =>
    have hnext : x.next d = { x with answers := x.answers ++ [none] } := by
      obtain ⟨document, origin, ⟨upcoming⟩, answers⟩ := x
      obtain rfl : upcoming = none := h
      rfl
    rw [List.foldl_cons, hnext, ih (x := { x with answers := x.answers ++ [none] }) h]
    simp [List.replicate_succ]

/-- While its document stays as it is, an iterator answers with one token of the chain after the other,
and behind the last one with none. -/
lemma Stands.answers_foldl_replicate (h : x.Stands d) (n : Nat) :
    ((List.replicate n d).foldl Iteration.next x).answers =
      x.answers ++ (List.range n).map fun k => (d.chainSince x.iterator.upcoming)[k]? := by
  induction n generalizing x with
  | zero => simp
  | succ n ih =>
    cases hup : x.iterator.upcoming with
    | none =>
      rw [foldl_next_of_ended _ hup]
      simp [Document.chainSince, List.map_const']
    | some r =>
      -- the first answer is the token it holds, the others are those of the iterator behind it
      rw [List.replicate_succ, List.foldl_cons, ih h.next, List.range_succ_eq_map,
        Document.chainSince_of_holds (h.upcoming r hup).1]
      simp [hup, Function.comp_def]

/-- All answers of an iterator to so many calls, if the chain does not grow. -/
structure Drains (x : Iteration) (chain : List LinkedToken) (calls : Nat) : Prop where
  answers_eq : x.answers = (List.range calls).map (chain[·]?)
  ended_iff : none ∈ x.answers ↔ chain.length < calls
  complete : none ∈ x.answers → x.yielded = chain

lemma reduceOption_getElem? (chain : List LinkedToken) (n : Nat) :
    ((List.range n).map (chain[·]?)).reduceOption = chain.take n := by
  induction n with
  | zero => rfl
  | succ n ih =>
    rw [List.range_succ, List.map_append, List.reduceOption_append, ih, List.map_singleton,
      List.reduceOption_singleton, List.take_add_one]

lemma drains_of_answers_eq {chain : List LinkedToken} {n : Nat}
    (h : x.answers = (List.range n).map (chain[·]?)) : x.Drains chain n := by
  have hended : none ∈ x.answers ↔ chain.length < n := by
    rw [h, List.mem_map]
    constructor
    · rintro ⟨k, hk, hnone⟩
      exact Nat.lt_of_le_of_lt (List.getElem?_eq_none_iff.1 hnone) (List.mem_range.1 hk)
    · intro hlt
      exact ⟨chain.length, List.mem_range.2 hlt, List.getElem?_eq_none (Nat.le_refl _)⟩
  refine ⟨h, hended, ?_⟩
  intro hnone
  rw [yielded, h, reduceOption_getElem?, List.take_of_length_le (hended.1 hnone).le]

end Iteration

end FrontEnd
