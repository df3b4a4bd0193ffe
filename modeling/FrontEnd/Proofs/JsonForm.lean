import FrontEnd.JsonForm
import Mathlib.Data.List.Forall2
import Mathlib.Data.List.Perm.Basic
import Mathlib.Tactic.Lemma

/-!
# Values survive their JSON form

Which JSON values encode a value is told by a format, apart from the functions that write and read:
a number, a text or a truth value is encoded by itself, a record by the encodings of its fields under
their names, a value that only wraps another one like that other value, and a choice by its name. A
format has two layouts. What is written has the fields of a record and no others, as the entries of
an object in any order. What is accepted may have more entries, or list the values of the fields
without their names.

Writing keeps to the first layout, reading takes exactly the second, and the second has room for the
first. So each value is read back from what was written for it (`JsonForm.values_survive`).
-/

namespace FrontEnd

namespace Json

/-- How strictly a format is kept to. -/
inductive Layout where
  | written
  | accepted

namespace Layout

/-- The JSON values that lay out a record whose fields have these names and values. -/
def Record : Layout → (names : List String) → (values : List Json) → Json → Prop
  | written, names, values, obj entries =>
    names.Nodup ∧ names.length = values.length ∧ entries.Perm (names.zip values)
  | accepted, names, values, obj entries =>
    List.Forall₂ (fun name value => entries.lookup name = some value) names values
  | accepted, names, values, arr items => names.length = values.length ∧ items = values
  | _, _, _, _ => False

/-- The JSON values that lay out a choice of this name. -/
def Choice : Layout → (name : String) → Json → Prop
  | written, name, j => j = str name
  | accepted, name, j => j = str name ∨ j = obj [(name, null)]

end Layout

/-- The JSON values that encode something, in each layout. -/
abbrev Format := Layout → Json → Prop

namespace Format

def exactly (value : Json) : Format := fun _ j => j = value

def record (fields : List (String × Format)) : Format := fun l j =>
  ∃ values, List.Forall₂ (fun field value => field.2 l value) fields values ∧
    l.Record (fields.map Prod.fst) values j

def choice (name : String) : Format := fun l j => l.Choice name j

end Format

end Json

/-- Types whose values have a JSON format. -/
class JsonFormat (α : Type) where
  format : α → Json.Format

export JsonFormat (format)

instance : JsonFormat Bool := ⟨fun b => .exactly (.bool b)⟩

instance : JsonFormat String := ⟨fun s => .exactly (.str s)⟩

instance : JsonFormat UInt32 := ⟨fun n => .exactly (.int n.toNat)⟩

instance : JsonFormat Int32 := ⟨fun n => .exactly (.int n.toInt)⟩

instance : JsonFormat TokenKind := ⟨fun kind => format kind.raw⟩

instance : JsonFormat TypeRef := ⟨fun t => format t.name⟩

instance : JsonFormat Span :=
  ⟨fun s => .record [("start", format s.start), ("end", format s.stop)]⟩

instance : JsonFormat LineCol :=
  ⟨fun p => .record [("line", format p.line), ("col", format p.col)]⟩

instance : JsonFormat Parameter :=
  ⟨fun p => .record [("name", format p.name), ("ty", format p.type)]⟩

instance : JsonFormat Role := ⟨fun r => .choice r.name⟩

instance : JsonFormat Visibility := ⟨fun v => .choice v.name⟩

instance : JsonFormat Signature :=
  ⟨fun s => .record [("role", format s.role), ("visibility", format s.visibility),
    ("is_abstract", format s.isAbstract)]⟩

/-- Writing and reading keep to the format. -/
class KeepsFormat (α : Type) [JsonForm α] [JsonFormat α] : Prop where
  written_toJson (a : α) : format a .written (toJson a)
  accepted_of_written {a : α} {j : Json} : format a .written j → format a .accepted j
  ofJson?_eq_some_iff {a : α} {j : Json} : ofJson? j = some a ↔ format a .accepted j

export KeepsFormat (written_toJson accepted_of_written ofJson?_eq_some_iff)

namespace Json

/-! ### Plain values -/

lemma bool?_eq_some_iff {j : Json} {b : Bool} : j.bool? = some b ↔ j = bool b := by
  cases j <;> simp [bool?]

lemma str?_eq_some_iff {j : Json} {s : String} : j.str? = some s ↔ j = str s := by
  cases j <;> simp [str?]

lemma int?_eq_some_iff {j : Json} {n : Int} : j.int? = some n ↔ j = int n := by
  cases j <;> simp [int?]

lemma nat?_eq_some_iff {j : Json} {n : Nat} : j.nat? = some n ↔ j = int n := by
  constructor
  · intro h
    unfold nat? at h
    split at h
    · obtain rfl := Option.some.inj h
      rfl
    · cases h
  · rintro rfl
    rfl

/-! ### Records -/

/-- In an object that has each key once, every entry is found under its key. -/
lemma lookup_of_mem {entries : List (String × Json)} (hnodup : (entries.map Prod.fst).Nodup)
    {name : String} {value : Json} (h : (name, value) ∈ entries) :
    entries.lookup name = some value := by
  obtain ⟨before, behind, rfl⟩ := List.append_of_mem h
  rw [List.map_append, List.map_cons, List.nodup_append] at hnodup
  refine List.lookup_eq_some_iff.2 ⟨before, behind, rfl, fun entry hentry => ?_⟩
  have hne := hnodup.2.2 entry.1 (List.mem_map_of_mem hentry) name List.mem_cons_self
  exact bne_iff_ne.2 hne.symm

/-- All names are found if each of them is. -/
lemma mapM_eq_some_iff {find : String → Option Json} {names : List String} {values : List Json} :
    names.mapM find = some values ↔
      List.Forall₂ (fun name value => find name = some value) names values := by
  induction names generalizing values with
  | nil => simp [eq_comm]
  | cons name names ih =>
    rw [List.forall₂_cons_left_iff, List.mapM_cons]
    constructor
    · intro h
      obtain ⟨value, hvalue, hmap⟩ := Option.bind_eq_some_iff.1 h
      obtain ⟨rest, hrest, hcons⟩ := Option.bind_eq_some_iff.1 hmap
      exact ⟨value, rest, hvalue, ih.1 hrest, (Option.some.inj hcons).symm⟩
    · rintro ⟨value, rest, hvalue, hrest, rfl⟩
      rw [hvalue, ih.2 hrest]
      rfl

/-- The fields that are read are the ones that are laid out. -/
lemma fields?_eq_some_iff {names : List String} {values : List Json} {j : Json} :
    j.fields? names = some values ↔ Layout.accepted.Record names values j := by
  cases j with
  | obj entries => exact mapM_eq_some_iff
  | arr items =>
    rw [fields?, Layout.Record, Option.ite_none_right_eq_some, Option.some_inj]
    refine and_congr_left ?_
    rintro rfl
    exact eq_comm
  | _ => simp [fields?, Layout.Record]

lemma Layout.record_accepted {names : List String} {values : List Json} {j : Json}
    (h : written.Record names values j) : accepted.Record names values j := by
  cases j with
  | obj entries =>
    obtain ⟨hnodup, hlength, hperm⟩ := h
    -- The keys are the names of the fields, so no entry hides another one.
    have hkeys : (entries.map Prod.fst).Nodup := by
      rw [(hperm.map Prod.fst).nodup_iff, List.map_fst_zip (Nat.le_of_eq hlength)]
      exact hnodup
    exact List.forall₂_iff_zip.2 ⟨hlength, fun hmem => lookup_of_mem hkeys (hperm.mem_iff.2 hmem)⟩
  | _ => cases h

lemma Format.record_accepted {fields : List (String × Format)}
    (hfields : ∀ field ∈ fields, ∀ j, field.2 .written j → field.2 .accepted j) {j : Json}
    (h : record fields .written j) : record fields .accepted j := by
  obtain ⟨values, hvalues, hrecord⟩ := h
  have hboth := (List.forall₂_and_left fields values).2 ⟨hfields, hvalues⟩
  refine ⟨values, hboth.imp ?_, Layout.record_accepted hrecord⟩
  intro field value hvalue
  exact hvalue.1 value hvalue.2

lemma Format.record_written {fields : List (String × Format)} {values : List Json}
    (hnodup : (fields.map Prod.fst).Nodup)
    (hvalues : List.Forall₂ (fun field value => field.2 .written value) fields values) :
    record fields .written (.obj ((fields.map Prod.fst).zip values)) := by
  refine ⟨values, hvalues, hnodup, ?_, .refl _⟩
  rw [List.length_map, hvalues.length_eq]

/-! ### Choices -/

lemma choice?_eq_some_iff {name : String} {j : Json} :
    j.choice? = some name ↔ Layout.accepted.Choice name j := by
  fun_cases choice? j with
  | case1 s => simp [Layout.Choice]
  | case2 key => simp [Layout.Choice]
  | case3 _ hstr hobj =>
    have hnone : ¬ Layout.accepted.Choice name j := by
      rintro (rfl | rfl)
      · exact hstr name rfl
      · exact hobj name rfl
    exact iff_of_false nofun hnone

/-- Among choices of different names, the one that is found by a name is the one that has it. -/
lemma find?_name_eq_some_iff {α : Type} {all : List α} {name : α → String}
    (hall : ∀ a, a ∈ all) (hname : Function.Injective name) {s : String} {a : α} :
    (all.find? fun b => name b == s) = some a ↔ s = name a := by
  constructor
  · intro h
    have hfound := List.find?_some h
    exact (eq_of_beq hfound).symm
  · rintro rfl
    cases h : all.find? fun b => name b == name a with
    | none => exact absurd (beq_self_eq_true (name a)) (List.find?_eq_none.1 h a (hall a))
    | some b =>
      have hfound := List.find?_some h
      rw [hname (eq_of_beq hfound)]

lemma readChoice_eq_some_iff {α : Type} {all : List α} {name : α → String}
    (hall : ∀ a, a ∈ all) (hname : Function.Injective name) {a : α} {j : Json} :
    (j.choice?.bind fun s => all.find? fun b => name b == s) = some a ↔
      Format.choice (name a) .accepted j := by
  simp only [Option.bind_eq_some_iff, find?_name_eq_some_iff hall hname, exists_eq_right]
  exact choice?_eq_some_iff

lemma Format.choice_accepted {name : String} {j : Json} (h : choice name .written j) :
    choice name .accepted j :=
  .inl h

end Json

/-- A number that is narrowed only if nothing is lost is the one that was widened. -/
lemma narrowed_eq_some_iff {ν α : Type} [DecidableEq ν] {narrow : ν → α} {widen : α → ν}
    (h : ∀ a, narrow (widen a) = a) {n? : Option ν} {a : α} :
    (n?.bind fun n => if widen (narrow n) = n then some (narrow n) else none) = some a ↔
      n? = some (widen a) := by
  constructor
  · intro hbind
    obtain ⟨n, hn, hfits⟩ := Option.bind_eq_some_iff.1 hbind
    obtain ⟨hkept, hnarrow⟩ := Option.ite_none_right_eq_some.1 hfits
    rw [hn, ← Option.some.inj hnarrow, hkept]
  · rintro rfl
    rw [Option.bind_some, h, if_pos rfl]

/-- A wrapped value is read when the value inside is. -/
lemma wrapped_eq_some_iff {α β : Type} {wrap : α → β} {inside : β → α}
    (hwrap : ∀ b, wrap (inside b) = b) (hinside : ∀ a, inside (wrap a) = a) {a? : Option α}
    {b : β} : a?.map wrap = some b ↔ a? = some (inside b) := by
  constructor
  · intro h
    obtain ⟨a, ha, rfl⟩ := Option.map_eq_some_iff.1 h
    rw [ha, hinside]
  · rintro rfl
    rw [Option.map_some, hwrap]

section Record2

variable {α β γ : Type} [JsonForm α] [JsonFormat α] [KeepsFormat α] [JsonForm β] [JsonFormat β]
  [KeepsFormat β] {first second : String}

lemma written_record2 (hne : first ≠ second) (a : α) (b : β) :
    Json.Format.record [(first, format a), (second, format b)] .written
      (.obj [(first, toJson a), (second, toJson b)]) :=
  Json.Format.record_written (by simpa using hne)
    (.cons (written_toJson a) (.cons (written_toJson b) .nil))

lemma accepted_record2 {a : α} {b : β} {j : Json}
    (h : Json.Format.record [(first, format a), (second, format b)] .written j) :
    Json.Format.record [(first, format a), (second, format b)] .accepted j := by
  refine Json.Format.record_accepted (List.forall_mem_cons.2 ⟨fun _ => accepted_of_written, ?_⟩) h
  exact List.forall_mem_singleton.2 fun _ => accepted_of_written

lemma record2?_eq_some_iff {make : α → β → γ} {left : γ → α} {right : γ → β}
    (hmake : ∀ c, make (left c) (right c) = c) (hleft : ∀ a b, left (make a b) = a)
    (hright : ∀ a b, right (make a b) = b) {c : γ} {j : Json} :
    record2? make first second j = some c ↔
      Json.Format.record [(first, format (left c)), (second, format (right c))] .accepted j := by
  constructor
  · intro h
    rw [record2?] at h
    split at h
    · -- Both fields are there, and each of them was read.
      rename_i x y hfields
      obtain ⟨a, ha, hmap⟩ := Option.bind_eq_some_iff.1 h
      obtain ⟨b, hb, rfl⟩ := Option.map_eq_some_iff.1 hmap
      have hx := ofJson?_eq_some_iff.1 ha
      have hy := ofJson?_eq_some_iff.1 hb
      rw [hleft, hright]
      exact ⟨[x, y], .cons hx (.cons hy .nil), Json.fields?_eq_some_iff.1 hfields⟩
    · cases h
  · rintro ⟨values, hvalues, hrecord⟩
    obtain ⟨x, _, hx, hrest, rfl⟩ := List.forall₂_cons_left_iff.1 hvalues
    obtain ⟨y, _, hy, hnil, rfl⟩ := List.forall₂_cons_left_iff.1 hrest
    obtain rfl := List.forall₂_nil_left_iff.1 hnil
    have hfields : j.fields? [first, second] = some [x, y] := Json.fields?_eq_some_iff.2 hrecord
    rw [record2?, hfields]
    dsimp only
    rw [ofJson?_eq_some_iff.2 hx, Option.bind_some, ofJson?_eq_some_iff.2 hy, Option.map_some,
      hmake]

end Record2

/-! ### The types that keep to their format -/

instance : KeepsFormat Bool where
  written_toJson _ := rfl
  accepted_of_written h := h
  ofJson?_eq_some_iff := Json.bool?_eq_some_iff

instance : KeepsFormat String where
  written_toJson _ := rfl
  accepted_of_written h := h
  ofJson?_eq_some_iff := Json.str?_eq_some_iff

instance : KeepsFormat UInt32 where
  written_toJson _ := rfl
  accepted_of_written h := h
  ofJson?_eq_some_iff :=
    (narrowed_eq_some_iff fun _ => UInt32.ofNat_toNat).trans Json.nat?_eq_some_iff

instance : KeepsFormat Int32 where
  written_toJson _ := rfl
  accepted_of_written h := h
  ofJson?_eq_some_iff := (narrowed_eq_some_iff Int32.ofInt_toInt).trans Json.int?_eq_some_iff

instance : KeepsFormat TokenKind where
  written_toJson kind := written_toJson kind.raw
  accepted_of_written {kind _} h := accepted_of_written (a := kind.raw) h
  ofJson?_eq_some_iff :=
    (wrapped_eq_some_iff (fun _ => rfl) fun _ => rfl).trans ofJson?_eq_some_iff

instance : KeepsFormat TypeRef where
  written_toJson t := written_toJson t.name
  accepted_of_written {t _} h := accepted_of_written (a := t.name) h
  ofJson?_eq_some_iff :=
    (wrapped_eq_some_iff (fun _ => rfl) fun _ => rfl).trans ofJson?_eq_some_iff

instance : KeepsFormat Span where
  written_toJson s := written_record2 (by decide) s.start s.stop
  accepted_of_written := accepted_record2
  ofJson?_eq_some_iff :=
    record2?_eq_some_iff (fun _ => rfl) (fun _ _ => rfl) fun _ _ => rfl

instance : KeepsFormat LineCol where
  written_toJson p := written_record2 (by decide) p.line p.col
  accepted_of_written := accepted_record2
  ofJson?_eq_some_iff :=
    record2?_eq_some_iff (fun _ => rfl) (fun _ _ => rfl) fun _ _ => rfl

instance : KeepsFormat Parameter where
  written_toJson p := written_record2 (by decide) p.name p.type
  accepted_of_written := accepted_record2
  ofJson?_eq_some_iff :=
    record2?_eq_some_iff (fun _ => rfl) (fun _ _ => rfl) fun _ _ => rfl

lemma Role.mem_all (r : Role) : r ∈ all := by
  cases r <;> decide

lemma Role.name_injective : Function.Injective name := by
  intro a b h
  cases a <;> cases b <;> simp [name] at h ⊢

instance : KeepsFormat Role where
  written_toJson _ := rfl
  accepted_of_written := Json.Format.choice_accepted
  ofJson?_eq_some_iff := Json.readChoice_eq_some_iff Role.mem_all Role.name_injective

lemma Visibility.mem_all (v : Visibility) : v ∈ all := by
  cases v <;> decide

lemma Visibility.name_injective : Function.Injective name := by
  intro a b h
  cases a <;> cases b <;> simp [name] at h ⊢

instance : KeepsFormat Visibility where
  written_toJson _ := rfl
  accepted_of_written := Json.Format.choice_accepted
  ofJson?_eq_some_iff := Json.readChoice_eq_some_iff Visibility.mem_all Visibility.name_injective

namespace Signature

lemma ofJson?_eq (j : Json) : ofJson? j =
    match j.fields? ["role", "visibility", "is_abstract"] with
    | some [x, y, z] =>
      (ofJson? x).bind fun role => (ofJson? y).bind fun visibility =>
        (ofJson? z).map fun isAbstract => Signature.mk role visibility isAbstract
    | _ => none :=
  rfl

lemma accepted_of_ofJson? {s : Signature} {j : Json} (h : ofJson? j = some s) :
    format s .accepted j := by
  rw [ofJson?_eq] at h
  split at h
  · rename_i x y z hfields
    obtain ⟨role, hrole, hbind⟩ := Option.bind_eq_some_iff.1 h
    obtain ⟨visibility, hvisibility, hmap⟩ := Option.bind_eq_some_iff.1 hbind
    obtain ⟨isAbstract, habstract, rfl⟩ := Option.map_eq_some_iff.1 hmap
    have hx := ofJson?_eq_some_iff.1 hrole
    have hy := ofJson?_eq_some_iff.1 hvisibility
    have hz := ofJson?_eq_some_iff.1 habstract
    exact ⟨[x, y, z], .cons hx (.cons hy (.cons hz .nil)), Json.fields?_eq_some_iff.1 hfields⟩
  · cases h

lemma ofJson?_of_accepted {s : Signature} {j : Json} (h : format s .accepted j) :
    ofJson? j = some s := by
  obtain ⟨values, hvalues, hrecord⟩ := h
  obtain ⟨x, _, hx, hbehind, rfl⟩ := List.forall₂_cons_left_iff.1 hvalues
  obtain ⟨y, _, hy, hlast, rfl⟩ := List.forall₂_cons_left_iff.1 hbehind
  obtain ⟨z, _, hz, hnil, rfl⟩ := List.forall₂_cons_left_iff.1 hlast
  obtain rfl := List.forall₂_nil_left_iff.1 hnil
  have hfields : j.fields? ["role", "visibility", "is_abstract"] = some [x, y, z] :=
    Json.fields?_eq_some_iff.2 hrecord
  rw [ofJson?_eq, hfields]
  dsimp only
  rw [ofJson?_eq_some_iff.2 hx, Option.bind_some, ofJson?_eq_some_iff.2 hy, Option.bind_some,
    ofJson?_eq_some_iff.2 hz, Option.map_some]

end Signature

instance : KeepsFormat Signature where
  written_toJson s :=
    Json.Format.record_written (by simp) (.cons (written_toJson s.role)
      (.cons (written_toJson s.visibility) (.cons (written_toJson s.isAbstract) .nil)))
  accepted_of_written {s j} h := by
    refine Json.Format.record_accepted ?_ h
    rw [List.forall_mem_cons, List.forall_mem_cons, List.forall_mem_singleton]
    exact ⟨fun _ => accepted_of_written, fun _ => accepted_of_written, fun _ => accepted_of_written⟩
  ofJson?_eq_some_iff := ⟨Signature.accepted_of_ofJson?, Signature.ofJson?_of_accepted⟩

/-! ### Decoding undoes encoding -/

namespace JsonForm

/-- The values of a type survive being encoded and decoded. -/
structure Survives (α : Type) [JsonForm α] [JsonFormat α] : Prop where
  /-- Decoding undoes encoding. -/
  undone : ∀ a : α, ofJson? (toJson a) = some a
  /-- What encoding writes for a value is in the format of this value, -/
  written : ∀ a : α, format a .written (toJson a)
  /-- and all that is, in whatever order it gives the fields, is decoded as this value. -/
  read : ∀ (a : α) (j : Json), format a .written j → ofJson? j = some a
  /-- Nothing is decoded as a value that is not accepted for it. -/
  read_iff : ∀ (a : α) (j : Json), ofJson? j = some a ↔ format a .accepted j

lemma survives {α : Type} [JsonForm α] [JsonFormat α] [KeepsFormat α] : Survives α where
  undone a := ofJson?_eq_some_iff.2 (accepted_of_written (written_toJson a))
  written := written_toJson
  read _ _ h := ofJson?_eq_some_iff.2 (accepted_of_written h)
  read_iff _ _ := ofJson?_eq_some_iff

/-- Every value of these types is read back from what was written for it. -/
theorem values_survive :
    Survives Span ∧ Survives TokenKind ∧ Survives LineCol ∧ Survives Parameter ∧
      Survives TypeRef ∧ Survives Role ∧ Survives Visibility ∧ Survives Signature :=
  ⟨survives, survives, survives, survives, survives, survives, survives, survives⟩

/-- A parameter named in wide letters, -/
def wideParameter : Parameter := ⟨"größe", ⟨"List<日本>"⟩⟩

/-- and a JSON value that gives its fields from the last to the first. -/
def turnedParameter : Json := .obj [("ty", .str "List<日本>"), ("name", .str "größe")]

theorem values_survive_turned :
    format wideParameter .written turnedParameter ∧
      ofJson? turnedParameter = some wideParameter ∧
      ofJson? (toJson (Span.mk 4294967295 0)) = some (Span.mk 4294967295 0) := by
  obtain ⟨hspan, _, _, hparameter, _⟩ := values_survive
  have hwritten : format wideParameter .written turnedParameter :=
    ⟨[.str "größe", .str "List<日本>"], .cons rfl (.cons rfl .nil), by decide, rfl, .swap _ _ _⟩
  exact ⟨hwritten, hparameter.read _ _ hwritten, hspan.undone _⟩

end JsonForm

end FrontEnd
