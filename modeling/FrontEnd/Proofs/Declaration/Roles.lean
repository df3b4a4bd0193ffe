import FrontEnd.Declaration.Basic
import Mathlib.Data.List.Basic
import Mathlib.Tactic.ByContra
import Mathlib.Tactic.Lemma

/-!
# The grammar of roles

The role of an operation follows from its kind, its modifiers, the number of its parameters, its return
type and the form of its name, in this order. `Operation.ReadsOrWrites` is the grammar of the names of
accessors; the role is decided by it and nothing else, so operations of one shape have one signature
(`Operation.role_decided_by_shape`).
-/

namespace FrontEnd

namespace FlagSet

variable {F : Type} [Flag F]

/-- The bit of the flag is set. -/
def Has (s : FlagSet F) (f : F) : Prop := s.bits.getLsbD (Flag.index f) = true

lemma contains_single_iff {f : F} (hf : Flag.index f < Flag.width F) (s : FlagSet F) :
    s.contains (single f) = true ↔ s.Has f := by
  unfold contains single Has
  rw [BitVec.and_twoPow, beq_iff_eq]
  by_cases hbit : s.bits.getLsbD (Flag.index f) = true
  · simp [hbit]
  · have hne : BitVec.twoPow (Flag.width F) (Flag.index f) ≠ 0#(Flag.width F) := by
      intro hzero
      have hget := congrArg (fun b => b.getLsbD (Flag.index f)) hzero
      simp [hf] at hget
    simp [hbit, hne.symm]

end FlagSet

namespace Operation

variable {o o' : Operation}

/-- A new word of a name begins so. -/
def BeginsWord (c : Char) : Prop := Text.isUppercase c = true ∨ c = '_'

/-- The operation reads a property or writes one, judged by its parameters, its return type and its
name. -/
inductive ReadsOrWrites (o : Operation) : Prop where
  | get {t : TypeRef} {c : Char} {rest : String} : o.params.length = 0 → o.returnType? = some t →
      t.name ≠ "void" → BeginsWord c → o.name = "get" ++ String.singleton c ++ rest → ReadsOrWrites o
  | is {t : TypeRef} {c : Char} {rest : String} : o.params.length = 0 → o.returnType? = some t →
      t.name ≠ "void" → BeginsWord c → o.name = "is" ++ String.singleton c ++ rest →
      t.name = "boolean" ∨ t.name = "Boolean" ∨ t.name = "java.lang.Boolean" → ReadsOrWrites o
  | set {c : Char} {rest : String} : o.params.length = 1 →
      (∀ t, o.returnType? = some t → t.name = "void") → BeginsWord c →
      o.name = "set" ++ String.singleton c ++ rest → ReadsOrWrites o

/-! ### Names -/

/-- The name is the word, then the beginning of a new one, then anything. -/
lemma beginsWithWord_iff (word name : String) :
    beginsWithWord word name = true ↔
      ∃ c rest, BeginsWord c ∧ name = word ++ String.singleton c ++ rest := by
  have hname : ∀ c rest, name = word ++ String.singleton c ++ rest ↔
      word.toList.isPrefixOf? name.toList = some (c :: rest.toList) := by
    intro c rest
    rw [List.isPrefixOf?_eq_some_iff_append_eq, ← String.toList_inj, eq_comm]
    simp
  unfold beginsWithWord
  constructor
  · intro hbegins
    split at hbegins
    next c rest hrest =>
      refine ⟨c, String.ofList rest, by simpa [BeginsWord] using hbegins, ?_⟩
      rw [hname, String.toList_ofList, hrest]
    next => cases hbegins
  · rintro ⟨c, rest, hc, hrest⟩
    rw [hname] at hrest
    rw [hrest]
    simpa [BeginsWord] using hc

/-! ### Types -/

lemma isVoid_iff (t : TypeRef) : t.isVoid = true ↔ t.name = "void" := by
  obtain ⟨name⟩ := t
  simp [TypeRef.isVoid, TypeRef.void]

lemma isBoolean_iff (t : TypeRef) : t.isBoolean = true ↔
    t.name = "boolean" ∨ t.name = "Boolean" ∨ t.name = "java.lang.Boolean" := by
  obtain ⟨name⟩ := t
  simp [TypeRef.isBoolean, TypeRef.boolean, or_assoc]

lemma returnsValue_iff (o : Operation) :
    o.returnsValue = true ↔ ∃ t, o.returnType? = some t ∧ t.name ≠ "void" := by
  unfold returnsValue
  cases o.returnType? with
  | none => simp
  | some t => simp [← isVoid_iff]

/-! ### Accessors -/

lemma isAccessor_iff (o : Operation) : o.isAccessor = true ↔ o.ReadsOrWrites := by
  have hvalue := o.returnsValue_iff
  constructor
  · intro haccessor
    unfold isAccessor at haccessor
    split at haccessor
    next hparams =>
      rw [Bool.and_eq_true, Bool.or_eq_true, Bool.and_eq_true, hvalue] at haccessor
      obtain ⟨⟨t, ht, hvoid⟩, hget | ⟨his, hboolean⟩⟩ := haccessor
      · obtain ⟨c, rest, hc, hname⟩ := (beginsWithWord_iff _ _).1 hget
        exact .get (by rw [hparams]; rfl) ht hvoid hc hname
      · obtain ⟨c, rest, hc, hname⟩ := (beginsWithWord_iff _ _).1 his
        rw [ht, Option.any_some, isBoolean_iff] at hboolean
        exact .is (by rw [hparams]; rfl) ht hvoid hc hname hboolean
    next p hparams =>
      rw [Bool.and_eq_true, Bool.not_eq_true', Bool.eq_false_iff, ne_eq, hvalue] at haccessor
      obtain ⟨hnone, hset⟩ := haccessor
      obtain ⟨c, rest, hc, hname⟩ := (beginsWithWord_iff _ _).1 hset
      refine .set (by rw [hparams]; rfl) ?_ hc hname
      intro t ht
      by_contra hvoid
      exact hnone ⟨t, ht, hvoid⟩
    next => cases haccessor
  · intro hshape
    unfold isAccessor
    cases hshape with
    | get hparams ht hvoid hc hname =>
      rw [List.length_eq_zero_iff.1 hparams]
      have hget := (beginsWithWord_iff "get" o.name).2 ⟨_, _, hc, hname⟩
      simp [hvalue.2 ⟨_, ht, hvoid⟩, hget]
    | is hparams ht hvoid hc hname hboolean =>
      rw [List.length_eq_zero_iff.1 hparams]
      have his := (beginsWithWord_iff "is" o.name).2 ⟨_, _, hc, hname⟩
      simp [hvalue.2 ⟨_, ht, hvoid⟩, his, ht, (isBoolean_iff _).2 hboolean]
    | set hparams hvoid hc hname =>
      obtain ⟨p, hp⟩ := List.length_eq_one_iff.1 hparams
      have hset := (beginsWithWord_iff "set" o.name).2 ⟨_, _, hc, hname⟩
      have hnone : o.returnsValue = false := by
        rw [Bool.eq_false_iff, ne_eq, hvalue]
        rintro ⟨t, ht, hne⟩
        exact hne (hvoid t ht)
      rw [hp]
      simp [hnone, hset]

/-! ### Roles -/

lemma isStatic_iff (o : Operation) : o.isStatic = true ↔ o.modifiers.Has .static :=
  FlagSet.contains_single_iff (by decide) o.modifiers

/-- The role by kind, modifiers and shape, the first that applies. -/
structure Classified (o : Operation) : Prop where
  constructor_iff : o.role = .constructor ↔ o.kind = .constructor
  static_iff : o.role = .static ↔ o.kind ≠ .constructor ∧ o.modifiers.Has .static
  accessor_iff : o.role = .getterOrSetter ↔
    o.kind ≠ .constructor ∧ ¬o.modifiers.Has .static ∧ o.ReadsOrWrites
  method_iff : o.role = .method ↔
    o.kind ≠ .constructor ∧ ¬o.modifiers.Has .static ∧ ¬o.ReadsOrWrites

lemma classified (o : Operation) : o.Classified := by
  have hstatic := o.isStatic_iff
  have haccessor := o.isAccessor_iff
  by_cases hkind : o.kind = .constructor
  · have hrole : o.role = .constructor := by rw [role, if_pos hkind]
    constructor <;> simp [hrole, hkind]
  by_cases hs : o.isStatic = true
  · have hrole : o.role = .static := by rw [role, if_neg hkind, if_pos hs]
    constructor <;> simp [hrole, hkind, hstatic.1 hs]
  by_cases ha : o.isAccessor = true
  · have hrole : o.role = .getterOrSetter := by rw [role, if_neg hkind, if_neg hs, if_pos ha]
    constructor <;> simp [hrole, hkind, ← hstatic, hs, haccessor.1 ha]
  · have hrole : o.role = .method := by rw [role, if_neg hkind, if_neg hs, if_neg ha]
    constructor <;> simp [hrole, hkind, ← hstatic, hs, ← haccessor, ha]

/-- The operations differ at most in their spans and in the names and types of their parameters. -/
structure SameShape (o o' : Operation) : Prop where
  kind_eq : o.kind = o'.kind
  name_eq : o.name = o'.name
  modifiers_eq : o.modifiers = o'.modifiers
  arity_eq : o.arity = o'.arity
  returnType?_eq : o.returnType? = o'.returnType?

namespace SameShape

lemma symm (h : SameShape o o') : SameShape o' o :=
  ⟨h.kind_eq.symm, h.name_eq.symm, h.modifiers_eq.symm, h.arity_eq.symm, h.returnType?_eq.symm⟩

lemma readsOrWrites (h : SameShape o o') (ho : o.ReadsOrWrites) : o'.ReadsOrWrites := by
  have hlength : o.params.length = o'.params.length := h.arity_eq
  cases ho with
  | get hparams ht hvoid hc hname =>
    exact .get (hlength ▸ hparams) (h.returnType?_eq ▸ ht) hvoid hc (h.name_eq ▸ hname)
  | is hparams ht hvoid hc hname hboolean =>
    exact .is (hlength ▸ hparams) (h.returnType?_eq ▸ ht) hvoid hc (h.name_eq ▸ hname) hboolean
  | set hparams hvoid hc hname =>
    exact .set (hlength ▸ hparams) (h.returnType?_eq ▸ hvoid) hc (h.name_eq ▸ hname)

lemma isAccessor_eq (h : SameShape o o') : o.isAccessor = o'.isAccessor := by
  rw [Bool.eq_iff_iff, isAccessor_iff, isAccessor_iff]
  exact ⟨h.readsOrWrites, h.symm.readsOrWrites⟩

lemma signature_eq (h : SameShape o o') : o.signature = o'.signature := by
  have hrole : o.role = o'.role := by
    unfold role isStatic
    rw [h.kind_eq, h.modifiers_eq, h.isAccessor_eq]
  rw [signature, signature, hrole, isAbstract, isAbstract, h.modifiers_eq]

end SameShape

/-- Every operation has the role that its kind, its modifiers and its shape give it. Declarations of one
shape get the same signature, with the same report, whatever they are bound to. -/
theorem role_decided_by_shape :
    (∀ o : Operation, o.Classified) ∧
      ∀ {S S' : Type} (d : Declaration S) (d' : Declaration S'),
        SameShape d.operation d'.operation → d.buildSignature = d'.buildSignature := by
  refine ⟨classified, ?_⟩
  intro S S' d d' hshape
  simp only [Declaration.buildSignature, hshape.signature_eq, hshape.name_eq]

/-- A method that writes a property and is bound to a symbol, and one of the same shape that is not. -/
theorem role_decided_by_shape_of_setters :
    let d : MethodDeclaration :=
      ⟨⟨.method, "setÉtat", .empty, [⟨"a", ⟨"int"⟩⟩], some .void, ⟨0, 9⟩⟩,
        ⟨some ⟨"T", "f", [], .void, false⟩, none⟩⟩
    let d' : MethodDeclaration :=
      ⟨⟨.method, "setÉtat", .empty, [⟨"b", ⟨"String"⟩⟩], some .void, ⟨9, 0⟩⟩, .fresh⟩
    SameShape d.operation d'.operation ∧ d.operation.ReadsOrWrites ∧
      d.operation.role = .getterOrSetter ∧ d.buildSignature = d'.buildSignature := by
  intro d d'
  have hshape : SameShape d.operation d'.operation := ⟨rfl, rfl, rfl, rfl, rfl⟩
  have hrole : d.operation.role = .getterOrSetter := by decide +kernel
  obtain ⟨hclassified, hsame⟩ := role_decided_by_shape
  exact ⟨hshape, ((hclassified d.operation).accessor_iff.1 hrole).2.2, hrole, hsame d d' hshape⟩

end Operation

end FrontEnd
