import FrontEnd.Document.Basic
import Mathlib.Algebra.Group.Nat.Defs
import Mathlib.Data.Finset.Card
import Mathlib.Data.Finset.Dedup
import Mathlib.Tactic.Lemma

/-!
# Ways of naming kinds

A map of names can be made of a list of pairs at once, or by naming one kind after the other, with or
without being told the name a kind had. In each of these the last pair of a kind names it. A table is
the map of its names numbered from zero on, as long as the numbers are kinds, so a document that is
given the one or the other labels all kinds alike (`namings_agree`).
-/

namespace FrontEnd

namespace KindMap

/-- Names one kind after the other. -/
def insertAll (m : KindMap) : List (TokenKind × String) → KindMap
  | [] => m
  | p :: pairs => (m.insert p.1 p.2).insertAll pairs

/-- Names one kind after the other, and lists the names that they had. -/
def replaceAll (m : KindMap) : List (TokenKind × String) → List (Option String) × KindMap
  | [] => ([], m)
  | p :: pairs =>
    let (had, next) := m.replace p.1 p.2
    let (later, last) := next.replaceAll pairs
    (had :: later, last)

/-- The name in the last pair of a kind, if there is one. -/
def lastName? (pairs : List (TokenKind × String)) (kind : TokenKind) : Option String :=
  (pairs.filter (·.1 = kind)).getLast?.map Prod.snd

/-- The map names exactly the kinds in the pairs, each by its last pair. -/
structure NamesLast (m : KindMap) (pairs : List (TokenKind × String)) : Prop where
  name?_eq : ∀ kind, (KindNames.map m).name? kind = lastName? pairs kind
  size_eq : (KindNames.map m).size = (pairs.map Prod.fst).toFinset.card

/-- However a map is made of the pairs, it is the same naming. -/
structure MadeAlike (pairs : List (TokenKind × String)) : Prop where
  ofList : (ofList pairs).NamesLast pairs
  insertAll : (empty.insertAll pairs).NamesLast pairs
  replaceAll : (empty.replaceAll pairs).2.NamesLast pairs
  length_eq : (empty.replaceAll pairs).1.length = pairs.length
  /-- Whoever names a kind is told the name that the kind has at this time. -/
  told : ∀ i kind name, pairs[i]? = some (kind, name) → (empty.replaceAll pairs).1[i]? =
    some ((KindNames.map (empty.replaceAll (pairs.take i)).2).name? kind)

/-! ### One kind after the other -/

/-- A pair names its kind unless a later one does. -/
lemma lastName?_cons (p : TokenKind × String) (pairs : List (TokenKind × String))
    (kind : TokenKind) :
    lastName? (p :: pairs) kind =
      (lastName? pairs kind).or (if kind = p.1 then some p.2 else none) := by
  rw [lastName?, lastName?]
  by_cases h : kind = p.1
  · rw [List.filter_cons_of_pos (by simp [h]), List.getLast?_cons, if_pos h]
    cases (pairs.filter (·.1 = kind)).getLast? with
    | none => rfl
    | some last => rfl
  · rw [List.filter_cons_of_neg (by simpa using Ne.symm h), if_neg h, Option.or_none]

lemma get?_insertAll (m : KindMap) (pairs : List (TokenKind × String)) (kind : TokenKind) :
    (m.insertAll pairs).get? kind = (lastName? pairs kind).or (m.get? kind) := by
  induction pairs generalizing m with
  | nil => rfl
  | cons p pairs ih =>
    rw [insertAll, ih, get?_insert, lastName?_cons, Option.or_assoc]
    congr 1
    by_cases h : kind = p.1
    · rw [if_pos h, if_pos h, Option.some_or]
    · rw [if_neg h, if_neg h, Option.none_or]

def kinds (m : KindMap) : Finset TokenKind := (m.entries.map Prod.fst).toFinset

lemma card_kinds (m : KindMap) : m.kinds.card = m.size := by
  rw [kinds, List.toFinset_card_of_nodup m.nodup_keys, List.length_map, size]

lemma kinds_insert (m : KindMap) (kind : TokenKind) (name : String) :
    (m.insert kind name).kinds = {kind} ∪ m.kinds := by
  ext other
  rw [kinds, List.mem_toFinset, Finset.mem_union, Finset.mem_singleton, kinds, List.mem_toFinset]
  exact mem_keys_put

lemma kinds_insertAll (m : KindMap) (pairs : List (TokenKind × String)) :
    (m.insertAll pairs).kinds = (pairs.map Prod.fst).toFinset ∪ m.kinds := by
  induction pairs generalizing m with
  | nil => exact (Finset.empty_union _).symm
  | cons p pairs ih =>
    rw [insertAll, ih, kinds_insert, List.map_cons, List.toFinset_cons, Finset.insert_eq,
      ← Finset.union_assoc, Finset.union_comm {p.1}]

lemma namesLast_insertAll (pairs : List (TokenKind × String)) :
    (empty.insertAll pairs).NamesLast pairs where
  name?_eq kind := by
    rw [KindNames.name?, get?_insertAll, get?_empty, Option.or_none]
  size_eq := by
    have hempty : empty.kinds = ∅ := rfl
    rw [KindNames.size, ← card_kinds, kinds_insertAll, hempty, Finset.union_empty]

lemma foldl_insert (m : KindMap) (pairs : List (TokenKind × String)) :
    pairs.foldl (fun m p => m.insert p.1 p.2) m = m.insertAll pairs := by
  induction pairs generalizing m with
  | nil => rfl
  | cons p pairs ih => exact ih _

lemma snd_replaceAll (m : KindMap) (pairs : List (TokenKind × String)) :
    (m.replaceAll pairs).2 = m.insertAll pairs := by
  induction pairs generalizing m with
  | nil => rfl
  | cons p pairs ih => exact ih _

lemma length_replaceAll (m : KindMap) (pairs : List (TokenKind × String)) :
    (m.replaceAll pairs).1.length = pairs.length := by
  induction pairs generalizing m with
  | nil => rfl
  | cons p pairs ih => exact congrArg (· + 1) (ih _)

lemma getElem?_replaceAll (m : KindMap) {pairs : List (TokenKind × String)} {i : Nat}
    {kind : TokenKind} {name : String} (h : pairs[i]? = some (kind, name)) :
    (m.replaceAll pairs).1[i]? = some ((m.insertAll (pairs.take i)).get? kind) := by
  induction pairs generalizing m i with
  | nil => cases h
  | cons p pairs ih =>
    cases i with
    | zero =>
      obtain rfl : p = (kind, name) := Option.some.inj h
      rfl
    | succ i => exact ih _ h

lemma madeAlike (pairs : List (TokenKind × String)) : MadeAlike pairs where
  ofList := by
    rw [KindMap.ofList, foldl_insert]
    exact namesLast_insertAll pairs
  insertAll := namesLast_insertAll pairs
  replaceAll := by
    rw [snd_replaceAll]
    exact namesLast_insertAll pairs
  length_eq := length_replaceAll empty pairs
  told i kind name h := by
    rw [snd_replaceAll]
    exact getElem?_replaceAll empty h

end KindMap

/-! ### Numbered names -/

namespace KindNames

/-- The names with their numbers for kinds. -/
def numbered (names : List String) : List (TokenKind × String) :=
  names.zipIdx.map fun p => (⟨Int32.ofNat p.2⟩, p.1)

/-- A table and the map of its numbered names are one naming. -/
structure TableAgrees (names : List String) : Prop where
  size_eq : (map (.ofList (numbered names))).size = (table names.toArray).size
  name?_eq : ∀ kind, (map (.ofList (numbered names))).name? kind = (table names.toArray).name? kind
  label_eq : ∀ (d : Document) (kind : TokenKind),
    { d with names := map (.ofList (numbered names)) }.label kind =
      { d with names := table names.toArray }.label kind

lemma eq_ofNat_iff {kind : TokenKind} {n : Nat} (h : n < 2 ^ 31) :
    kind = ⟨Int32.ofNat n⟩ ↔ kind.raw.toInt = n := by
  obtain ⟨raw⟩ := kind
  rw [TokenKind.mk.injEq, ← Int32.toInt_ofNat_of_lt h, Int32.toInt_inj]

/-- The number of a name is found in the table at its place, and no other number is. -/
lemma lastName?_zipIdx (names : List String) {k : Nat} (h : k + names.length ≤ 2 ^ 31)
    (kind : TokenKind) :
    KindMap.lastName? ((names.zipIdx k).map fun p => (⟨Int32.ofNat p.2⟩, p.1)) kind =
      if (k : Int) ≤ kind.raw.toInt then names[kind.raw.toInt.toNat - k]? else none := by
  induction names generalizing k with
  | nil => simp [KindMap.lastName?]
  | cons name names ih =>
    rw [List.length_cons] at h
    have hrest := ih (k := k + 1) (by omega)
    have hkind : kind = ⟨Int32.ofNat k⟩ ↔ kind.raw.toInt = k := eq_ofNat_iff (by omega)
    rw [List.zipIdx_cons, List.map_cons, KindMap.lastName?_cons, hrest]
    simp only [hkind]
    rcases Int.lt_trichotomy kind.raw.toInt k with hlt | heq | hgt
    · rw [if_neg (by omega), if_neg (by omega), if_neg (by omega), Option.or_none]
    · rw [if_neg (by omega), if_pos heq, if_pos (by omega), Option.none_or]
      have hzero : kind.raw.toInt.toNat - k = 0 := by omega
      rw [hzero, List.getElem?_cons_zero]
    · rw [if_pos (by omega), if_neg (by omega), if_pos (by omega), Option.or_none]
      have hsucc : kind.raw.toInt.toNat - k = kind.raw.toInt.toNat - (k + 1) + 1 := by omega
      rw [hsucc, List.getElem?_cons_succ]

lemma name?_table (names : List String) (h : names.length ≤ 2 ^ 31) (kind : TokenKind) :
    KindMap.lastName? (numbered names) kind = (table names.toArray).name? kind := by
  have hfrom := lastName?_zipIdx names (k := 0) (by omega) kind
  rw [Nat.sub_zero] at hfrom
  rw [numbered, hfrom, name?, List.getElem?_toArray]
  rfl

lemma nodup_numbered {names : List String} (h : names.length ≤ 2 ^ 31) :
    ((numbered names).map Prod.fst).Nodup := by
  have hkeys : (numbered names).map Prod.fst =
      (List.range names.length).map fun n => TokenKind.mk (Int32.ofNat n) := by
    rw [numbered, List.map_map, List.range_eq_range', ← List.zipIdx_map_snd, List.map_map]
    rfl
  rw [hkeys]
  refine List.Nodup.map_on ?_ List.nodup_range
  intro i hi j hj heq
  rw [List.mem_range] at hi hj
  have hraw := (eq_ofNat_iff (by omega)).1 heq
  rw [Int32.toInt_ofNat_of_lt (by omega)] at hraw
  omega

lemma tableAgrees (names : List String) (h : names.length ≤ 2 ^ 31) : TableAgrees names := by
  have hnames : ∀ kind, (map (.ofList (numbered names))).name? kind =
      (table names.toArray).name? kind := by
    intro kind
    rw [(KindMap.madeAlike (numbered names)).ofList.name?_eq, name?_table names h]
  constructor
  · rw [(KindMap.madeAlike (numbered names)).ofList.size_eq,
      List.toFinset_card_of_nodup (nodup_numbered h), List.length_map, numbered, List.length_map,
      List.length_zipIdx]
    rfl
  · exact hnames
  · intro d kind
    rw [Document.label, Document.label, label, label, hnames]

/-- All maps made of the same pairs name alike, and a table names like the map of its numbered names. -/
theorem namings_agree :
    (∀ pairs : List (TokenKind × String), KindMap.MadeAlike pairs) ∧
      ∀ names : List String, names.length ≤ 2 ^ 31 → TableAgrees names :=
  ⟨KindMap.madeAlike, tableAgrees⟩

/-- A kind is named twice, the reserved kind among others. -/
def renamingPairs : List (TokenKind × String) :=
  [(⟨7⟩, "word"), (.implicit, "none"), (⟨7⟩, "name")]

theorem namings_agree_renaming :
    (KindMap.empty.replaceAll renamingPairs).1 = [none, none, some "word"] ∧
      KindMap.MadeAlike renamingPairs ∧ ["word", "name"].length ≤ 2 ^ 31 ∧
      TableAgrees ["word", "name"] :=
  ⟨by decide, namings_agree.1 renamingPairs, by decide, namings_agree.2 ["word", "name"] (by decide)⟩

end KindNames

end FrontEnd
