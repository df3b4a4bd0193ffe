import FrontEnd.Declaration.Basic
import Mathlib.Tactic.Lemma

/-!
# The signature that was asked for first

A declaration keeps the signature it had when it was first asked for one. What is declared before
that shows in the signature, what is declared later does not, and binding the declaration never
does (`signature_after_calls`).
-/

namespace FrontEnd.Declaration

/-- What can be asked of a declaration. -/
inductive Call (S : Type) where
  | withModifiers (modifiers : Modifiers)
  | withParam (p : Parameter)
  | signature
  | bind (s : S)

namespace Call

variable {S : Type}

def declares : Call S → Bool
  | withModifiers _ => true
  | withParam _ => true
  | _ => false

def asks : Call S → Bool
  | signature => true
  | _ => false

def binds : Call S → Bool
  | bind _ => true
  | _ => false

/-- The calls before the signature is asked for, which are all if it never is. -/
def untilAsked (calls : List (Call S)) : List (Call S) := calls.takeWhile fun q => !q.asks

/-- The calls from the first request for the signature on. -/
def sinceAsked (calls : List (Call S)) : List (Call S) := calls.dropWhile fun q => !q.asks

def withoutBinds (calls : List (Call S)) : List (Call S) := calls.filter fun q => !q.binds

end Call

variable {S : Type} {d e : Declaration S} {s : Signature}

/-- Everything about a declaration but the symbol it is bound to. -/
def unbound (d : Declaration S) : Operation × Option Signature := (d.operation, d.node.cached)

lemma signature_of_cached (h : d.node.cached = some s) : d.signature.value = (s, d) := by
  rw [signature, Node.signatureOrBuild, h]
  rfl

lemma signature_of_not_cached (h : d.node.cached = none) :
    d.signature.value = (d.buildSignature.value,
      { d with node := { d.node with cached := some d.buildSignature.value } }) := by
  rw [signature, Node.signatureOrBuild, h]
  rfl

lemma operation_signature (d : Declaration S) : d.signature.value.2.operation = d.operation := rfl

lemma signature_congr (h : d.unbound = e.unbound) :
    d.signature.value.1 = e.signature.value.1 ∧
      d.signature.value.2.unbound = e.signature.value.2.unbound := by
  obtain ⟨ho, hc⟩ := Prod.mk.inj h
  have hbuild : d.buildSignature = e.buildSignature := by rw [buildSignature, buildSignature, ho]
  cases hd : d.node.cached with
  | some s =>
    rw [signature_of_cached hd, signature_of_cached (hc.symm.trans hd)]
    exact ⟨rfl, h⟩
  | none =>
    rw [signature_of_not_cached hd, signature_of_not_cached (hc.symm.trans hd), hbuild]
    exact ⟨rfl, congrArg (·, some e.buildSignature.value) ho⟩

variable [Executable S]

/-- What one call makes of a declaration. -/
def perform (d : Declaration S) : Call S → Declaration S
  | .withModifiers modifiers => d.withModifiers modifiers
  | .withParam p => d.withParam p
  | .signature => d.signature.value.2
  | .bind s => (d.bind s).value.2

def after (d : Declaration S) (calls : List (Call S)) : Declaration S := calls.foldl perform d

lemma bind_cases (d : Declaration S) (symbol : S) : (d.bind symbol).value.2 = d ∨
    (d.bind symbol).value.2 = { d with node := { d.node with slot := some symbol } } := by
  rw [bind, Node.bind]
  cases d.node.slot with
  | none => exact .inr rfl
  | some existing => exact .inl rfl

/-! ### What a call keeps -/

lemma unbound_bind (d : Declaration S) (symbol : S) :
    (d.perform (.bind symbol)).unbound = d.unbound := by
  rw [perform]
  rcases d.bind_cases symbol with hb | hb
  · rw [hb]
  · rw [hb]
    rfl

lemma cached_perform (h : d.node.cached = some s) (q : Call S) :
    (d.perform q).node.cached = some s := by
  cases q with
  | withModifiers modifiers => exact h
  | withParam p => exact h
  | signature =>
    rw [perform, signature_of_cached h]
    exact h
  | bind symbol => exact (congrArg Prod.snd (d.unbound_bind symbol)).trans h

lemma not_cached_perform (h : d.node.cached = none) {q : Call S} (hq : q.asks = false) :
    (d.perform q).node.cached = none := by
  cases q with
  | withModifiers modifiers => exact h
  | withParam p => exact h
  | signature => cases hq
  | bind symbol => exact (congrArg Prod.snd (d.unbound_bind symbol)).trans h

lemma operation_perform {q : Call S} (hq : q.declares = false) :
    (d.perform q).operation = d.operation := by
  cases q with
  | withModifiers modifiers => cases hq
  | withParam p => cases hq
  | signature => exact d.operation_signature
  | bind symbol => exact congrArg Prod.fst (d.unbound_bind symbol)

lemma unbound_perform (h : d.unbound = e.unbound) (q : Call S) :
    (d.perform q).unbound = (e.perform q).unbound := by
  obtain ⟨ho, hc⟩ := Prod.mk.inj h
  cases q with
  | withModifiers modifiers => simp only [perform, withModifiers, unbound, ho, hc]
  | withParam p => simp only [perform, withParam, unbound, ho, hc]
  | signature => exact (signature_congr h).2
  | bind symbol => rw [unbound_bind, unbound_bind, h]

/-! ### What all calls keep -/

lemma cached_after (h : d.node.cached = some s) (calls : List (Call S)) :
    (d.after calls).node.cached = some s := by
  induction calls generalizing d with
  | nil => exact h
  | cons q calls ih => exact ih (cached_perform h q)

lemma operation_after {calls : List (Call S)} (h : ∀ q ∈ calls, q.declares = false) :
    (d.after calls).operation = d.operation := by
  induction calls generalizing d with
  | nil => rfl
  | cons q calls ih =>
    have hq := operation_perform (d := d) (h q List.mem_cons_self)
    exact (ih fun q' hq' => h q' (List.mem_cons_of_mem q hq')).trans hq

lemma unbound_after (h : d.unbound = e.unbound) (calls : List (Call S)) :
    (d.after calls).unbound = (e.after (Call.withoutBinds calls)).unbound := by
  induction calls generalizing d e with
  | nil => exact h
  | cons q calls ih =>
    cases hq : q.binds with
    | false =>
      rw [Call.withoutBinds, List.filter_cons_of_pos (by simp [hq])]
      exact ih (unbound_perform h q)
    | true =>
      obtain ⟨symbol, rfl⟩ : ∃ symbol, q = .bind symbol := by
        cases q with
        | bind symbol => exact ⟨symbol, rfl⟩
        | _ => cases hq
      rw [Call.withoutBinds, List.filter_cons_of_neg (by simp [hq])]
      exact ih ((d.unbound_bind symbol).trans h)

/-- The first request for the signature decides: what comes after it is not seen. -/
lemma signature_after (h : d.node.cached = none) (calls : List (Call S)) :
    (d.after calls).signature.value.1 = (d.after (Call.untilAsked calls)).buildSignature.value := by
  induction calls generalizing d with
  | nil =>
    change d.signature.value.1 = d.buildSignature.value
    rw [signature_of_not_cached h]
  | cons q calls ih =>
    cases hq : q.asks with
    | false =>
      rw [Call.untilAsked, List.takeWhile_cons_of_pos (by simp [hq])]
      exact ih (not_cached_perform h hq)
    | true =>
      obtain rfl : q = .signature := by
        cases q with
        | signature => rfl
        | _ => cases hq
      have hkept : (d.perform .signature).node.cached = some d.buildSignature.value := by
        rw [perform, signature_of_not_cached h]
      rw [Call.untilAsked, List.takeWhile_cons_of_neg (by simp [Call.asks])]
      exact congrArg Prod.fst (signature_of_cached (cached_after hkept calls))

/-- What the signature of a declaration is after some calls. It is the one of the operation as it
was declared at the first request, hence as it is declared now if nothing was declared after that;
that the declaration was bound makes no difference. -/
structure KeepsFirstSignature (d : Declaration S) (calls : List (Call S)) : Prop where
  first : (d.after calls).signature.value.1 =
    (d.after (Call.untilAsked calls)).buildSignature.value
  current : (∀ q ∈ Call.sinceAsked calls, q.declares = false) →
    (d.after calls).signature.value.1 = (d.after calls).buildSignature.value
  unbound : (d.after calls).signature.value.1 =
      (d.after (Call.withoutBinds calls)).signature.value.1 ∧
    (d.after calls).buildSignature.value =
      (d.after (Call.withoutBinds calls)).buildSignature.value

lemma keepsFirstSignature (h : d.node.cached = none) (calls : List (Call S)) :
    d.KeepsFirstSignature calls where
  first := signature_after h calls
  current := by
    intro hlater
    have hsplit :
        d.after calls = (d.after (Call.untilAsked calls)).after (Call.sinceAsked calls) := by
      rw [after, after, after, ← List.foldl_append, Call.untilAsked, Call.sinceAsked,
        List.takeWhile_append_dropWhile]
    have hop : (d.after calls).operation = (d.after (Call.untilAsked calls)).operation := by
      rw [hsplit, operation_after hlater]
    rw [signature_after h calls, buildSignature, buildSignature, hop]
  unbound := by
    have hall := unbound_after (d := d) rfl calls
    refine ⟨(signature_congr hall).1, ?_⟩
    have hop : (d.after calls).operation = (d.after (Call.withoutBinds calls)).operation :=
      congrArg Prod.fst hall
    rw [buildSignature, buildSignature, hop]

/-- Every new declaration keeps the signature it is first asked for, whatever else it is asked. -/
theorem signature_after_calls :
    (∀ name returnType span calls,
      (MethodDeclaration.create name returnType span).KeepsFirstSignature calls) ∧
    ∀ typeName span calls,
      (ConstructorDeclaration.create typeName span).KeepsFirstSignature calls :=
  ⟨fun _ _ _ calls => keepsFirstSignature rfl calls, fun _ _ calls => keepsFirstSignature rfl calls⟩

/-- A method that was asked for its signature before it was declared static. -/
theorem signature_before_static :
    ((MethodDeclaration.create "f" .void .dummy).after
        [.signature, .withModifiers (.single .static)]).signature.value.1 ≠
      ((MethodDeclaration.create "f" .void .dummy).after
        [.signature, .withModifiers (.single .static)]).buildSignature.value := by
  decide

end FrontEnd.Declaration
