import FrontEnd.Proofs.Session.Requests
import Mathlib.Data.List.Nodup

/-!
# The chains of a session

Whatever clients ask for and in whatever order, a client that walks along the chain of an open
document finds it well formed: it begins with an empty sentinel, ends, meets no token twice, and
holds tokens of that document only, which lie in its text and follow one another
(`wellFormed_after`).
-/

namespace FrontEnd

/-- The walk from `r` on: its successors, one after the other, to the last one. -/
inductive Document.Walks (d : Document) : LinkedToken → List LinkedToken → Prop where
  | last {r : LinkedToken} : d.next? r = none → Walks d r []
  | next {r r' : LinkedToken} {rest : List LinkedToken} : d.next? r = some r' → Walks d r' rest →
      Walks d r (r' :: rest)

namespace Document

lemma walks_chainFrom (d : Document) (r : LinkedToken) : d.Walks r (d.chainFrom (r.position + 1)) := by
  -- each step leaves less of the chain
  induction hn : d.chain.size - r.position using Nat.strongRecOn generalizing r with
  | ind n ih =>
    cases hr : d.next? r with
    | none =>
      rw [chainFrom_of_at?_eq_none hr]
      exact .last hr
    | some r' =>
      obtain ⟨ht, hp⟩ := at?_eq_some_iff.1 hr
      obtain ⟨hlt, -⟩ := Array.getElem?_eq_some_iff.1 ht
      rw [chainFrom_of_at?_eq_some hr, ← hp]
      exact .next hr (ih _ (by omega) r' rfl)

lemma pairwise_chainFrom (d : Document) (position : Nat) :
    (d.chainFrom position).Pairwise fun r r' => r.same r' = false := by
  have hlt : ((d.chainFrom position).map LinkedToken.position).Pairwise (· < ·) := by
    rw [map_position_chainFrom]
    exact List.pairwise_lt_range'
  rw [List.pairwise_map] at hlt
  refine hlt.imp ?_
  intro r r' h
  have hne : r.position ≠ r'.position := Nat.ne_of_lt h
  simp [LinkedToken.same, hne]

end Document

namespace Session

/-- The numbers of the tokens linked on one document, in the order of their links. -/
def numbersOf (s : Session) (id : DocumentId) : List Nat := (s.linksOf id).map Link.number

/-- The chain of an open document, as a client finds it who walks along it from the sentinel. -/
structure WellChained (s : Session) (d : Document) (sentinel : LinkedToken)
    (real : List LinkedToken) : Prop where
  starts : d.sentinel? = some sentinel
  implicit : sentinel.token.isImplicit = true
  empty : sentinel.token.span = ⟨0, 0⟩
  walk : d.Walks sentinel real
  distinct : (sentinel :: real).Pairwise fun r r' => r.same r' = false
  once : (s.numbersOf d.id).Nodup
  minted : (s.numbersOf d.id).map (s.minted[·]?) = real.map fun r => some ⟨d.id, r.token⟩
  bounded : ∀ r ∈ real, r.token.span.start ≤ r.token.span.stop ∧ r.token.span.stop ≤ d.len
  ordered : (sentinel :: real).IsChain fun r r' => r.token.span.stop ≤ r'.token.span.start

/-- All chains are well formed, and no token is on two of them. -/
structure WellFormed (s : Session) : Prop where
  chain : ∀ id d, s.store.document? id = some d → d.isOpened = true →
    ∃ sentinel real, s.WellChained d sentinel real
  apart : ∀ id id', id ≠ id' → (s.numbersOf id).Disjoint (s.numbersOf id') ∧
    (s.store.chainOf id).Disjoint (s.store.chainOf id')

namespace Inv

variable {s : Session}

lemma nodup_numbersOf (h : s.Inv) (id : DocumentId) : (s.numbersOf id).Nodup :=
  (List.filter_sublist.map Link.number).nodup h.nodup_history

lemma document_eq_of_mem_linksOf {id : DocumentId} {l : Link} (hl : l ∈ s.linksOf id) :
    l ∈ s.history ∧ l.document = id := by
  obtain ⟨hmem, hdoc⟩ := List.mem_filter.1 hl
  exact ⟨hmem, of_decide_eq_true hdoc⟩

lemma disjoint_numbersOf (h : s.Inv) {id id' : DocumentId} (hne : id ≠ id') :
    (s.numbersOf id).Disjoint (s.numbersOf id') := by
  intro n hn hn'
  obtain ⟨l, hl, rfl⟩ := List.mem_map.1 hn
  obtain ⟨l', hl', heq⟩ := List.mem_map.1 hn'
  obtain ⟨hmem, hdoc⟩ := document_eq_of_mem_linksOf hl
  obtain ⟨hmem', hdoc'⟩ := document_eq_of_mem_linksOf hl'
  have hsame := List.inj_on_of_nodup_map h.nodup_history hmem' hmem heq
  apply hne
  rw [← hdoc, ← hdoc', hsame]

lemma minted_numbersOf (h : s.Inv) (id : DocumentId) :
    (s.numbersOf id).map (s.minted[·]?) =
      (s.store.tokensOf id).map fun r => some ⟨id, r.token⟩ := by
  have hlinks : (s.linksOf id).map (fun l => s.minted[l.number]?) =
      (s.linksOf id).map fun l => some (Minted.mk id l.token) := by
    apply List.map_congr_left
    intro l hl
    obtain ⟨hmem, rfl⟩ := document_eq_of_mem_linksOf hl
    exact h.linked l hmem
  have htokens := congrArg (List.map fun t => some (Minted.mk id t)) (h.tokens id)
  rw [List.map_map, List.map_map] at htokens
  rw [numbersOf, List.map_map]
  exact hlinks.trans htokens.symm

lemma disjoint_chainOf (h : s.Inv) {id id' : DocumentId} (hne : id ≠ id') :
    (s.store.chainOf id).Disjoint (s.store.chainOf id') := by
  have hown : ∀ {id r}, r ∈ s.store.chainOf id → r.document = id := by
    intro id r hr
    unfold Store.chainOf at hr
    cases hd : s.store.document? id with
    | none =>
      rw [hd] at hr
      cases hr
    | some d =>
      rw [hd] at hr
      exact ((h.sound.sound hd).document_eq (Document.holds_of_mem_chainFrom hr)).trans
        (h.sound.numbered hd)
  intro r hr hr'
  exact hne ((hown hr).symm.trans (hown hr'))

lemma wellChained (h : s.Inv) {id : DocumentId} {d : Document}
    (hd : s.store.document? id = some d) (hopen : d.isOpened = true) :
    ∃ sentinel real, s.WellChained d sentinel real := by
  have hsound := h.sound.sound hd
  have hid := h.sound.numbered hd
  have hsize := Document.isOpened_iff.1 hopen
  obtain ⟨t, ht⟩ : ∃ t, d.chain[0]? = some t := ⟨_, Array.getElem?_eq_getElem hsize⟩
  have hstart : d.sentinel? = some ⟨t, 0⟩ := Document.at?_eq_some_iff.2 ⟨ht, rfl⟩
  have hchain : d.chainFrom 0 = ⟨t, 0⟩ :: d.real := Document.chainFrom_of_at?_eq_some hstart
  have hmap := d.map_token_chainFrom 0
  rw [hchain, List.drop_zero, List.map_cons] at hmap
  obtain rfl : t = Token.sentinel d.id := by
    apply hsound.sentinel
    rw [← hmap]
    rfl
  refine ⟨⟨Token.sentinel d.id, 0⟩, d.real, ?_⟩
  exact
    { starts := hstart
      implicit := rfl
      empty := rfl
      walk := d.walks_chainFrom ⟨Token.sentinel d.id, 0⟩
      distinct := hchain ▸ d.pairwise_chainFrom 0
      once := h.nodup_numbersOf d.id
      minted := by
        have htokens : s.store.tokensOf d.id = d.real := by
          rw [Store.tokensOf, hid, hd]
          rfl
        rw [h.minted_numbersOf, htokens]
      bounded := by
        intro r hr
        have hget := Document.holds_iff.1 (Document.holds_of_mem_chainFrom hr)
        rw [← Array.getElem?_toList] at hget
        exact hsound.bounded _ (List.mem_of_getElem? hget)
      ordered := by
        have hordered := hsound.ordered
        rw [← hmap, ← List.map_cons, List.isChain_map] at hordered
        exact hordered }

end Inv

/-- Every chain that any requests in any order leave behind is well formed. -/
theorem wellFormed_after (requests : List Request) : (after requests).WellFormed where
  chain _ _ hd hopen := (inv_after requests).wellChained hd hopen
  apart _ _ hne := ⟨(inv_after requests).disjoint_numbersOf hne,
    (inv_after requests).disjoint_chainOf hne⟩

/-- The builder of one document refuses a token of another, and the token is used up. -/
def foreignRequests : List Request :=
  [.create "ab" .unnamed false, .create "ab" .unnamed false, .tryOpen ⟨0⟩, .build ⟨1⟩,
    .mint ⟨0⟩ ⟨7⟩ ⟨⟨0, 1⟩, "a"⟩ none, .mint ⟨0⟩ ⟨7⟩ ⟨⟨1, 2⟩, "b"⟩ none, .attach 0 0, .link 0 0,
    .link 0 1]

theorem wellFormed_after_foreign :
    (after foreignRequests).history = [⟨⟨0⟩, 1, ⟨⟨7⟩, .owned "b", ⟨1, 2⟩, ⟨0⟩⟩⟩] ∧
      (after foreignRequests).WellFormed :=
  ⟨by decide, wellFormed_after foreignRequests⟩

end Session

end FrontEnd
