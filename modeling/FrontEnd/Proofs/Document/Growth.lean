import FrontEnd.ChainBuilder
import FrontEnd.Document.Lemmas
import Mathlib.Data.List.Chain

/-!
# How the chain of a document grows

All that can become of a document is that it is opened and that tokens are linked, one by one,
onto its last one; `Document.Becomes` says so and lists the tokens. Every operation on a document
is an instance of it. What a chain owes to the checks of `Document.linkError?` is `Document.Sound`,
and no growth loses it.
-/

namespace FrontEnd

namespace Document

/-- The linked token is in the chain, at its place. -/
def Holds (d : Document) (r : LinkedToken) : Prop := d.at? r.position = some r

def real (d : Document) : List LinkedToken := d.chainFrom 1

/-- What can become of a document, with the tokens linked on the way, in their order. -/
inductive Becomes (d : Document) : List LinkedToken → Document → Prop where
  | same : Becomes d [] d
  | opened {links : List LinkedToken} {e : Document} : Becomes d links e → e.chain = #[] →
      Becomes d links { e with chain := #[Token.sentinel e.id] }
  | linked {links : List LinkedToken} {e : Document} {onto : LinkedToken} {t : Token} :
      Becomes d links e → e.Holds onto → e.linkError? onto t = none →
      Becomes d (links ++ [⟨t, e.chain.size⟩]) { e with chain := e.chain.push t }

lemma holds_iff {d : Document} {r : LinkedToken} :
    d.Holds r ↔ d.chain[r.position]? = some r.token := by
  rw [Holds, at?_eq_some_iff]
  simp

lemma holds_of_at? {d : Document} {position : Nat} {r : LinkedToken} (h : d.at? position = some r) :
    d.Holds r := by
  obtain ⟨ht, rfl⟩ := at?_eq_some_iff.1 h
  exact holds_iff.2 ht

lemma map_token_chainFrom (d : Document) (position : Nat) :
    (d.chainFrom position).map LinkedToken.token = d.chain.toList.drop position := by
  rw [chainFrom, List.map_map]
  exact List.zipIdx_map_fst position _

lemma map_position_chainFrom (d : Document) (position : Nat) :
    (d.chainFrom position).map LinkedToken.position =
      List.range' position (d.chain.size - position) := by
  rw [chainFrom, List.map_map]
  refine (List.zipIdx_map_snd _ _).trans ?_
  rw [List.length_drop, Array.length_toList]

lemma chainFrom_push (d : Document) (t : Token) {position : Nat} (h : position ≤ d.chain.size) :
    { d with chain := d.chain.push t }.chainFrom position =
      d.chainFrom position ++ [⟨t, d.chain.size⟩] := by
  have hlen : position + (d.chain.toList.drop position).length = d.chain.size := by
    rw [List.length_drop, Array.length_toList]
    omega
  simp only [chainFrom, Array.toList_push]
  rw [List.drop_append_of_le_length (by simpa using h), List.zipIdx_append, List.map_append, hlen]
  rfl

lemma holds_of_mem_chainFrom {d : Document} {position : Nat} {r : LinkedToken}
    (h : r ∈ d.chainFrom position) : d.Holds r := by
  obtain ⟨⟨t, place⟩, hp, rfl⟩ := List.mem_map.1 h
  obtain ⟨hle, -, hget⟩ := List.mem_zipIdx hp
  rw [holds_iff, hget, List.getElem_drop, ← Array.getElem?_toList]
  have hidx : position + (place - position) = place := by omega
  simp only [hidx]
  exact (List.getElem?_eq_getElem _)

lemma length_chainFrom (d : Document) (position : Nat) :
    (d.chainFrom position).length = d.chain.size - position := by
  have h := congrArg List.length (d.map_token_chainFrom position)
  simpa using h

lemma getLast?_chainFrom {d : Document} {r : LinkedToken} (h : d.Holds r)
    (hsize : d.chain.size = r.position + 1) : (d.chainFrom 0).getLast? = some r := by
  have hget := holds_iff.1 h
  rw [← Array.getElem?_toList] at hget
  rw [List.getLast?_eq_getElem?, length_chainFrom, hsize, chainFrom, List.drop_zero,
    List.getElem?_map, List.getElem?_zipIdx]
  simp [hget]

/-- A token of the chain is the last one exactly when nothing is linked onto it. -/
lemma getLast?_chainFrom_iff {d : Document} {r : LinkedToken} (h : d.Holds r) :
    (d.chainFrom 0).getLast? = some r ↔ d.chain.size = r.position + 1 := by
  constructor
  · intro hlast
    have hpos := congrArg (Option.map LinkedToken.position) hlast
    rw [← List.getLast?_map, map_position_chainFrom, List.getLast?_range'] at hpos
    obtain ⟨hlt, -⟩ := Array.getElem?_eq_some_iff.1 (holds_iff.1 h)
    rw [if_neg (by omega)] at hpos
    have heq := Option.some.inj hpos
    omega
  · exact getLast?_chainFrom h

namespace Becomes

variable {d e : Document} {links : List LinkedToken}

lemma trans {f : Document} {more : List LinkedToken} (h : d.Becomes links e)
    (h' : e.Becomes more f) : d.Becomes (links ++ more) f := by
  induction h' with
  | same => rwa [List.append_nil]
  | opened _ hc ih => exact .opened ih hc
  | linked _ ho hl ih =>
    rw [← List.append_assoc]
    exact .linked ih ho hl

lemma id_eq (h : d.Becomes links e) : e.id = d.id := by
  induction h with
  | same => rfl
  | opened _ _ ih => exact ih
  | linked _ _ _ ih => exact ih

lemma text_eq (h : d.Becomes links e) : e.text = d.text := by
  induction h with
  | same => rfl
  | opened _ _ ih => exact ih
  | linked _ _ _ ih => exact ih

lemma document_eq (h : d.Becomes links e) : ∀ r ∈ links, r.document = d.id := by
  induction h with
  | same => exact nofun
  | opened _ _ ih => exact ih
  | linked hgrow _ hl ih =>
    intro r hr
    rw [List.mem_append, List.mem_singleton] at hr
    rcases hr with hr | rfl
    · exact ih r hr
    · exact (linkError?_eq_none_iff.1 hl).1.trans hgrow.id_eq

lemma chain_prefix (h : d.Becomes links e) : d.chain.toList <+: e.chain.toList := by
  induction h with
  | same => exact List.prefix_refl _
  | opened _ hc ih =>
    rw [hc] at ih
    rw [List.prefix_nil.1 ih]
    exact List.nil_prefix
  | linked _ _ _ ih =>
    rw [Array.toList_push]
    exact ih.trans (List.prefix_append _ _)

lemma holds (h : d.Becomes links e) {r : LinkedToken} (hr : d.Holds r) : e.Holds r := by
  obtain ⟨later, hl⟩ := h.chain_prefix
  rw [holds_iff, ← Array.getElem?_toList] at hr ⊢
  rw [← hl, List.getElem?_append_left (List.getElem?_eq_some_iff.1 hr).1, hr]

lemma at?_eq (h : d.Becomes links e) {position : Nat} {r : LinkedToken}
    (hr : d.at? position = some r) : e.at? position = some r := by
  have hkept := h.holds (holds_of_at? hr)
  rw [Holds, (at?_eq_some_iff.1 hr).2] at hkept
  exact hkept

lemma next?_eq (h : d.Becomes links e) {r r' : LinkedToken} (hr : d.next? r = some r') :
    e.next? r = some r' :=
  h.at?_eq hr

lemma isOpened (h : d.Becomes links e) (hd : d.isOpened = true) : e.isOpened = true := by
  rw [isOpened_iff] at hd ⊢
  have hle := h.chain_prefix.length_le
  rw [Array.length_toList, Array.length_toList] at hle
  exact Nat.lt_of_lt_of_le hd hle

/-- The tokens behind the sentinel are those from before and the linked ones. -/
lemma real_eq (h : d.Becomes links e) : e.real = d.real ++ links := by
  induction h with
  | same => rw [List.append_nil]
  | opened _ hc ih =>
    rw [← ih, real, real, chainFrom, chainFrom, hc]
    rfl
  | @linked _ f onto t _ _ hl ih =>
    have hsize := (linkError?_eq_none_iff.1 hl).2.2.2.2
    rw [real, chainFrom_push f t (by omega), ← List.append_assoc, ← ih, real]

end Becomes

/-! ### Sound chains -/

/-- What the checks of a document make of its chain: it begins with the sentinel of the document,
and its tokens are the document's own, lie in the text and follow one another. -/
structure Sound (d : Document) : Prop where
  sentinel : ∀ t ∈ d.chain.toList.head?, t = Token.sentinel d.id
  own : ∀ t ∈ d.chain.toList, t.document = d.id
  bounded : ∀ t ∈ d.chain.toList, t.span.start ≤ t.span.stop ∧ t.span.stop ≤ d.len
  ordered : d.chain.toList.IsChain fun s t => s.span.stop ≤ t.span.start

lemma sound_of_chain_eq_empty {d : Document} (h : d.chain = #[]) : d.Sound := by
  constructor <;> simp [h]

lemma sound_opened (d : Document) : { d with chain := #[Token.sentinel d.id] }.Sound where
  sentinel := by simp
  own := by simp [Token.sentinel]
  bounded := by simp [Token.sentinel, Span.point]
  ordered := by simp

lemma getLast?_of_holds {d : Document} {onto : LinkedToken} (ho : d.Holds onto)
    (hsize : d.chain.size = onto.position + 1) : d.chain.toList.getLast? = some onto.token := by
  rw [List.getLast?_eq_getElem?, Array.length_toList, hsize, Nat.add_sub_cancel,
    Array.getElem?_toList]
  exact holds_iff.1 ho

/-- A token that passes all checks keeps the chain sound. -/
lemma Sound.push {d : Document} {onto : LinkedToken} {t : Token} (h : d.Sound) (ho : d.Holds onto)
    (hl : d.linkError? onto t = none) : { d with chain := d.chain.push t }.Sound := by
  obtain ⟨hid, hle, hlen, hafter, hsize⟩ := linkError?_eq_none_iff.1 hl
  have hlast := getLast?_of_holds ho hsize
  have hne : d.chain.toList ≠ [] := by
    rintro he
    rw [he] at hlast
    cases hlast
  constructor
  · intro s hs
    rw [Array.toList_push, List.head?_append_of_ne_nil _ hne] at hs
    exact h.sentinel s hs
  · intro s hs
    rw [Array.toList_push, List.mem_append, List.mem_singleton] at hs
    rcases hs with hs | rfl
    · exact h.own s hs
    · exact hid
  · intro s hs
    rw [Array.toList_push, List.mem_append, List.mem_singleton] at hs
    rcases hs with hs | rfl
    · exact h.bounded s hs
    · exact ⟨hle, hlen⟩
  · rw [Array.toList_push, List.isChain_append]
    refine ⟨h.ordered, List.isChain_singleton t, ?_⟩
    intro s hs t' ht'
    rw [hlast] at hs
    obtain rfl : onto.token = s := Option.some.inj hs
    obtain rfl : t = t' := Option.some.inj ht'
    exact hafter

lemma Sound.document_eq {d : Document} (h : d.Sound) {r : LinkedToken} (hr : d.Holds r) :
    r.document = d.id := by
  have hget := holds_iff.1 hr
  rw [← Array.getElem?_toList] at hget
  exact h.own r.token (List.mem_of_getElem? hget)

lemma Becomes.sound {d e : Document} {links : List LinkedToken} (h : d.Becomes links e)
    (hd : d.Sound) : e.Sound := by
  induction h with
  | same => exact hd
  | opened _ _ _ => exact sound_opened _
  | linked _ ho hl ih => exact ih.push ho hl

end Document

end FrontEnd
