import FrontEnd.Declaration.Node
import FrontEnd.Proofs.Threads

/-!
# Nodes shared by threads

One owner binds a node while any number of threads ask for its signature, each with a builder of its
own. A thread that finds no signature runs its builder if nobody else is about to, and waits
otherwise. What is cached agrees after every turn with how far each thread has come
(`SharedNode.inv_after`), and the node is what whole requests make of it, one after the other.
-/

namespace FrontEnd

/-- What is asked of a node. -/
inductive NodeRequest (S : Type) where
  | bind (s : S)
  | signature (build : Unit → Logged NodeEvent Signature)

namespace Node

variable {S : Type} [Executable S]

def perform (n : Node S) : NodeRequest S → Node S
  | .bind s => (n.bind s).value.2
  | .signature build => (n.signatureOrBuild build).value.2

/-- What a sequence of requests makes of a fresh node. -/
def after (requests : List (NodeRequest S)) : Node S := requests.foldl perform fresh

variable {n : Node S}

lemma after_concat (requests : List (NodeRequest S)) (q : NodeRequest S) :
    after (requests ++ [q]) = (after requests).perform q :=
  List.foldl_append

omit [Executable S] in
lemma symbol_eq_ok_iff {s : S} : n.symbol = .ok s ↔ n.slot = some s := by
  rw [symbol]
  cases n.slot with
  | none => simp
  | some existing => simp

lemma bind_of_unbound (h : n.slot = none) (s : S) :
    (n.bind s).value = (.ok (), { n with slot := some s }) := by
  rw [bind, h]

lemma bind_of_bound {existing : S} (h : n.slot = some existing) (s : S) :
    (n.bind s).value = (.error .alreadySet, n) := by
  rw [bind, h]

lemma slot_bind (n : Node S) (s : S) : (n.bind s).value.2.slot = n.slot.or (some s) := by
  cases h : n.slot with
  | none => rw [bind_of_unbound h]; rfl
  | some existing => rw [bind_of_bound h, h]; rfl

/-- To bind a node does not touch its signature. -/
lemma cached_bind (n : Node S) (s : S) : (n.bind s).value.2.cached = n.cached := by
  cases h : n.slot with
  | none => rw [bind_of_unbound h]
  | some existing => rw [bind_of_bound h]

omit [Executable S] in
lemma signatureOrBuild_of_cached {s : Signature} (h : n.cached = some s)
    (build : Unit → Logged NodeEvent Signature) : (n.signatureOrBuild build).value = (s, n) := by
  rw [signatureOrBuild, h]
  rfl

omit [Executable S] in
lemma signatureOrBuild_of_not_cached (h : n.cached = none)
    (build : Unit → Logged NodeEvent Signature) :
    (n.signatureOrBuild build).value =
      ((build ()).value, { n with cached := some (build ()).value }) := by
  rw [signatureOrBuild, h]
  rfl

end Node

/-- How far a thread has come that asks for the signature. -/
inductive AskPhase where
  | asked
  /-- It is running its own builder. -/
  | building
  /-- Its builder has answered, and the answer is not stored yet. -/
  | built (s : Signature)
  | returned (s : Signature)

namespace AskPhase

def builds : AskPhase → Bool
  | building => true
  | built _ => true
  | _ => false

/-- The number of steps up to the return at most. -/
def stepsLeft : AskPhase → Nat
  | asked => 3
  | building => 2
  | built _ => 1
  | returned _ => 0

end AskPhase

/-- A thread that asks for the signature. -/
structure Asker where
  build : Unit → Logged NodeEvent Signature
  phase : AskPhase
  /-- Whether its builder was run. -/
  ran : Bool

/-- A node that is shared by threads. -/
structure SharedNode (S : Type) where
  node : Node S
  /-- The thread that builds the signature. -/
  builder : Option Nat
  askers : List Asker
  /-- The requests in the order in which they took effect. -/
  served : List (NodeRequest S)

/-- What happens next: the node is bound, a thread asks for the signature, or one that has asked
takes a step. Whoever reads the node may do so after any turn. -/
inductive NodeTurn (S : Type) where
  | bind (s : S)
  | ask (build : Unit → Logged NodeEvent Signature)
  | advance (i : Nat)

namespace NodeTurn

variable {S : Type}

def symbol? : NodeTurn S → Option S
  | bind s => some s
  | _ => none

def isBind (turn : NodeTurn S) : Bool := turn.symbol?.isSome

def asks : NodeTurn S → Bool
  | ask _ => true
  | _ => false

/-- The symbols to which the node is to be bound. -/
def symbols (turns : List (NodeTurn S)) : List S := turns.filterMap symbol?

end NodeTurn

namespace SharedNode

variable {S : Type}

def fresh : SharedNode S := ⟨.fresh, none, [], []⟩

def asker? (n : SharedNode S) (i : Nat) : Option Asker := n.askers[i]?

def setAsker (n : SharedNode S) (i : Nat) (asker : Asker) : SharedNode S :=
  { n with askers := n.askers.set i asker }

/-- The next step of a thread. It waits while another one builds. -/
def step (n : SharedNode S) (i : Nat) (asker : Asker) : SharedNode S :=
  match asker.phase with
  | .asked =>
    match n.node.cached with
    | some s =>
      { n.setAsker i { asker with phase := .returned s } with
        served := n.served ++ [.signature asker.build] }
    | none =>
      match n.builder with
      | some _ => n
      | none =>
        { n.setAsker i { asker with phase := .building, ran := true } with builder := some i }
  | .building => n.setAsker i { asker with phase := .built (asker.build ()).value }
  | .built s =>
    { n.setAsker i { asker with phase := .returned s } with
      node := { n.node with cached := some s }
      builder := none
      served := n.served ++ [.signature asker.build] }
  | .returned _ => n

variable [Executable S]

def take (n : SharedNode S) : NodeTurn S → SharedNode S
  | .bind s => { n with node := (n.node.bind s).value.2, served := n.served ++ [.bind s] }
  | .ask build => { n with askers := n.askers ++ [⟨build, .asked, false⟩] }
  | .advance i =>
    match n.asker? i with
    | none => n
    | some asker => n.step i asker

def run (n : SharedNode S) (turns : List (NodeTurn S)) : SharedNode S := turns.foldl take n

def after (turns : List (NodeTurn S)) : SharedNode S := fresh.run turns

end SharedNode

/-! ### What holds after every turn -/

/-- What is cached agrees with how far a thread has come. -/
inductive Asker.Agrees (cached : Option Signature) (asker : Asker) : Prop where
  | asked : asker.phase = .asked → asker.ran = false → Agrees cached asker
  | building : asker.phase = .building → asker.ran = true → cached = none → Agrees cached asker
  | built : asker.phase = .built (asker.build ()).value → asker.ran = true → cached = none →
      Agrees cached asker
  | won : asker.phase = .returned (asker.build ()).value → asker.ran = true →
      cached = some (asker.build ()).value → Agrees cached asker
  | told {s : Signature} : asker.phase = .returned s → asker.ran = false → cached = some s →
      Agrees cached asker

namespace Asker.Agrees

variable {cached : Option Signature} {asker : Asker}

lemma not_ran (h : asker.Agrees cached) (hphase : asker.phase = .asked) : asker.ran = false := by
  cases h with
  | asked _ hran => exact hran
  | building hother _ _ => cases hphase.symm.trans hother
  | built hother _ _ => cases hphase.symm.trans hother
  | won hother _ _ => cases hphase.symm.trans hother
  | told hother _ _ => cases hphase.symm.trans hother

lemma ran_of_builds (h : asker.Agrees cached) (hbuilds : asker.phase.builds = true) :
    asker.ran = true ∧ cached = none := by
  cases h with
  | asked hphase _ =>
    rw [hphase] at hbuilds
    cases hbuilds
  | building _ hran hnone => exact ⟨hran, hnone⟩
  | built _ hran hnone => exact ⟨hran, hnone⟩
  | won hphase _ _ =>
    rw [hphase] at hbuilds
    cases hbuilds
  | told hphase _ _ =>
    rw [hphase] at hbuilds
    cases hbuilds

lemma built_eq (h : asker.Agrees cached) {s : Signature} (hphase : asker.phase = .built s) :
    (asker.build ()).value = s := by
  cases h with
  | asked hother _ => cases hphase.symm.trans hother
  | building hother _ _ => cases hphase.symm.trans hother
  | built hother _ _ =>
    cases hphase.symm.trans hother
    rfl
  | won hother _ _ => cases hphase.symm.trans hother
  | told hother _ _ => cases hphase.symm.trans hother

lemma returned_eq (h : asker.Agrees cached) {s : Signature} (hphase : asker.phase = .returned s) :
    cached = some s := by
  cases h with
  | asked hother _ => cases hphase.symm.trans hother
  | building hother _ _ => cases hphase.symm.trans hother
  | built hother _ _ => cases hphase.symm.trans hother
  | won hother _ hsome =>
    cases hphase.symm.trans hother
    exact hsome
  | told hother _ hsome =>
    cases hphase.symm.trans hother
    exact hsome

end Asker.Agrees

namespace SharedNode

variable {S : Type} [Executable S]

/-- The builder of the thread was run. -/
def Ran (n : SharedNode S) (i : Nat) : Prop := ∃ asker, n.asker? i = some asker ∧ asker.ran = true

/-- At one of the requests that took effect the thread was answered. -/
def Served (served : List (NodeRequest S)) (build : Unit → Logged NodeEvent Signature)
    (s : Signature) : Prop :=
  ∃ earlier later, served = earlier ++ .signature build :: later ∧
    ((Node.after earlier).signatureOrBuild build).value.1 = s

lemma Served.mono {served served' : List (NodeRequest S)} {build : Unit → Logged NodeEvent Signature}
    {s : Signature} (h : Served served build s) (hmore : served <+: served') :
    Served served' build s := by
  obtain ⟨earlier, later, rfl, hanswer⟩ := h
  obtain ⟨more, rfl⟩ := hmore
  refine ⟨earlier, later ++ more, ?_, hanswer⟩
  rw [List.append_assoc, List.cons_append]

/-- What holds after any turns. -/
structure Inv (n : SharedNode S) : Prop where
  node : n.node = Node.after n.served
  agrees : ∀ i asker, n.asker? i = some asker → asker.Agrees n.node.cached
  builder : ∀ i, n.builder = some i ↔ ∃ asker, n.asker? i = some asker ∧ asker.phase.builds = true
  once : ∀ i j, n.Ran i → n.Ran j → i = j
  cached : ∀ s, n.node.cached = some s →
    ∃ i asker, n.asker? i = some asker ∧ asker.ran = true ∧ (asker.build ()).value = s
  served : ∀ i asker s, n.asker? i = some asker → asker.phase = .returned s →
    Served n.served asker.build s

variable {n : SharedNode S} {i : Nat} {asker : Asker}

lemma inv_fresh : (fresh : SharedNode S).Inv where
  node := rfl
  agrees i asker h := by simp [fresh, asker?] at h
  builder i := by simp [fresh, asker?]
  once i j h := by simp [fresh, Ran, asker?] at h
  cached s h := by simp [fresh, Node.fresh] at h
  served i asker s h := by simp [fresh, asker?] at h

/-- A thread takes a step. It keeps what holds if the thread and all others go on agreeing with what
is cached, and if nothing is cached but what the one thread has built whose builder was run. -/
lemma Inv.act (h : n.Inv) (hi : n.asker? i = some asker) (asker' : Asker) {node : Node S}
    {builder : Option Nat} {served : List (NodeRequest S)} (hmore : n.served <+: served)
    (hnode : node = Node.after served) (hagrees : asker'.Agrees node.cached)
    (hothers : ∀ j a, i ≠ j → n.asker? j = some a → a.Agrees n.node.cached → a.Agrees node.cached)
    (hown : builder = some i ↔ asker'.phase.builds = true)
    (hlock : ∀ j, i ≠ j → (builder = some j ↔ n.builder = some j))
    (hkept : asker.ran = true → asker'.ran = true ∧ asker'.build = asker.build)
    (honce : asker'.ran = true → ∀ j, i ≠ j → ¬n.Ran j)
    (hcached : ∀ s, node.cached = some s →
      n.node.cached = some s ∨ asker'.ran = true ∧ (asker'.build ()).value = s)
    (hserved : ∀ s, asker'.phase = .returned s → Served served asker'.build s) :
    Inv ⟨node, builder, n.askers.set i asker', served⟩ := by
  have hasker : ∀ j, asker? ⟨node, builder, n.askers.set i asker', served⟩ j =
      if i = j then some asker' else n.asker? j := getElem?_set_of_getElem? hi asker'
  have hran : ∀ j, i ≠ j → Ran ⟨node, builder, n.askers.set i asker', served⟩ j → n.Ran j := by
    rintro j hij ⟨a, ha, hran⟩
    rw [hasker, if_neg hij] at ha
    exact ⟨a, ha, hran⟩
  have hranOwn : Ran ⟨node, builder, n.askers.set i asker', served⟩ i → asker'.ran = true := by
    rintro ⟨a, ha, hran⟩
    rw [hasker, if_pos rfl] at ha
    obtain rfl := Option.some.inj ha
    exact hran
  exact
    { node := hnode
      agrees := by
        intro j a hj
        rw [hasker] at hj
        split at hj
        next =>
          obtain rfl := Option.some.inj hj
          exact hagrees
        next hij => exact hothers j a hij hj (h.agrees j a hj)
      builder := by
        intro j
        rw [hasker]
        split
        next hij =>
          subst hij
          rw [hown]
          constructor
          · exact fun hbuilds => ⟨asker', rfl, hbuilds⟩
          · rintro ⟨a, ⟨⟩, hbuilds⟩
            exact hbuilds
        next hij => rw [hlock j hij, h.builder]
      once := by
        intro j k hj hk
        by_cases hij : i = j
        · subst hij
          by_contra hik
          exact honce (hranOwn hj) k hik (hran k hik hk)
        · by_cases hik : i = k
          · subst hik
            exact absurd (hran j hij hj) (honce (hranOwn hk) j hij)
          · exact h.once j k (hran j hij hj) (hran k hik hk)
      cached := by
        intro s hs
        rcases hcached s hs with hs | ⟨hran', hbuild⟩
        · obtain ⟨j, a, hj, hran', hbuild⟩ := h.cached s hs
          by_cases hij : i = j
          · subst hij
            obtain rfl : asker = a := Option.some.inj (hi.symm.trans hj)
            obtain ⟨hran'', hsame⟩ := hkept hran'
            exact ⟨i, asker', by rw [hasker, if_pos rfl], hran'', hsame ▸ hbuild⟩
          · exact ⟨j, a, by rw [hasker, if_neg hij, hj], hran', hbuild⟩
        · exact ⟨i, asker', by rw [hasker, if_pos rfl], hran', hbuild⟩
      served := by
        intro j a s hj hphase
        rw [hasker] at hj
        split at hj
        next =>
          obtain rfl := Option.some.inj hj
          exact hserved s hphase
        next => exact (h.served j a s hj hphase).mono hmore }

/-- A thread that keeps the builder, or goes on without it, leaves it where it is. -/
lemma Inv.builder_of_builds_eq (h : n.Inv) (hi : n.asker? i = some asker) {phase : AskPhase}
    (hbuilds : phase.builds = asker.phase.builds) : n.builder = some i ↔ phase.builds = true := by
  rw [h.builder, hbuilds, hi]
  constructor
  · rintro ⟨a, ⟨⟩, hin⟩
    exact hin
  · exact fun hin => ⟨asker, rfl, hin⟩

/-- As long as nothing is cached and nobody builds, no builder was run. -/
lemma Inv.not_ran (h : n.Inv) (hcached : n.node.cached = none) (hbuilder : n.builder = none)
    (j : Nat) : ¬n.Ran j := by
  rintro ⟨a, hj, hran⟩
  have hnone : a.phase.builds = false := by
    rw [Bool.eq_false_iff]
    intro hbuilds
    have hsome := (h.builder j).2 ⟨a, hj, hbuilds⟩
    rw [hbuilder] at hsome
    cases hsome
  cases h.agrees j a hj with
  | asked _ hfresh =>
    rw [hfresh] at hran
    cases hran
  | building hphase _ _ =>
    rw [hphase] at hnone
    cases hnone
  | built hphase _ _ =>
    rw [hphase] at hnone
    cases hnone
  | won _ _ hsome =>
    rw [hcached] at hsome
    cases hsome
  | told _ hfresh _ =>
    rw [hfresh] at hran
    cases hran

lemma Inv.step_asked (h : n.Inv) (hi : n.asker? i = some asker) (hphase : asker.phase = .asked) :
    (n.step i asker).Inv := by
  have hfresh := (h.agrees i asker hi).not_ran hphase
  rw [step, hphase]
  cases hc : n.node.cached with
  | some s =>
    refine h.act hi { asker with phase := .returned s } (List.prefix_append _ _) ?_
      (.told rfl hfresh hc) (fun _ _ _ _ ha => ha) ?_ (fun _ _ => Iff.rfl) (fun hran => ⟨hran, rfl⟩)
      (fun hran => absurd hran (hfresh ▸ Bool.false_ne_true)) (fun _ hs => .inl hs) ?_
    · rw [Node.after_concat, ← h.node, Node.perform, Node.signatureOrBuild_of_cached hc]
      rfl
    · exact h.builder_of_builds_eq hi (by rw [hphase]; rfl)
    · rintro s' ⟨⟩
      refine ⟨n.served, [], rfl, ?_⟩
      rw [← h.node, Node.signatureOrBuild_of_cached hc]
  | none =>
    cases hb : n.builder with
    | some j => exact h
    | none =>
      refine h.act hi { asker with phase := .building, ran := true } (List.prefix_refl _) h.node
        (.building rfl rfl hc) (fun _ _ _ _ ha => ha) ⟨fun _ => rfl, fun _ => rfl⟩ ?_
        (fun _ => ⟨rfl, rfl⟩) (fun _ j _ => h.not_ran hc hb j) (fun _ hs => .inl hs) nofun
      intro j hij
      rw [hb]
      exact ⟨fun hj => absurd (Option.some.inj hj) hij, nofun⟩

lemma Inv.step_building (h : n.Inv) (hi : n.asker? i = some asker)
    (hphase : asker.phase = .building) : (n.step i asker).Inv := by
  obtain ⟨hran, hnone⟩ := (h.agrees i asker hi).ran_of_builds (by rw [hphase]; rfl)
  rw [step, hphase]
  refine h.act hi { asker with phase := .built (asker.build ()).value } (List.prefix_refl _) h.node
    (.built rfl hran hnone) (fun _ _ _ _ ha => ha) ?_ (fun _ _ => Iff.rfl) (fun hran => ⟨hran, rfl⟩)
    ?_ (fun _ hs => .inl hs) nofun
  · exact h.builder_of_builds_eq hi (by rw [hphase]; rfl)
  · exact fun _ j hij hj => hij (h.once i j ⟨asker, hi, hran⟩ hj)

/-- The one thread that has built a signature stores it. -/
lemma Inv.step_built (h : n.Inv) (hi : n.asker? i = some asker) {s : Signature}
    (hphase : asker.phase = .built s) : (n.step i asker).Inv := by
  have hagrees := h.agrees i asker hi
  have hbuilds : asker.phase.builds = true := by rw [hphase]; rfl
  obtain ⟨hran, hnone⟩ := hagrees.ran_of_builds hbuilds
  obtain rfl := hagrees.built_eq hphase
  have hholds : n.builder = some i := (h.builder i).2 ⟨asker, hi, hbuilds⟩
  have hserve := Node.signatureOrBuild_of_not_cached hnone asker.build
  rw [step, hphase]
  refine h.act hi { asker with phase := .returned (asker.build ()).value } (List.prefix_append _ _) ?_
    (.won rfl hran rfl) ?_ ⟨nofun, nofun⟩ ?_ (fun hran => ⟨hran, rfl⟩) ?_ ?_ ?_
  · rw [Node.after_concat, ← h.node, Node.perform, hserve]
  · intro j a hij hj ha
    cases ha with
    | asked hphase hfresh => exact .asked hphase hfresh
    | building hphase hran' _ => exact absurd (h.once i j ⟨asker, hi, hran⟩ ⟨a, hj, hran'⟩) hij
    | built hphase hran' _ => exact absurd (h.once i j ⟨asker, hi, hran⟩ ⟨a, hj, hran'⟩) hij
    | won hphase hran' _ => exact absurd (h.once i j ⟨asker, hi, hran⟩ ⟨a, hj, hran'⟩) hij
    | told hphase hfresh hsome =>
      rw [hnone] at hsome
      cases hsome
  · intro j hij
    rw [hholds]
    exact ⟨nofun, fun hj => absurd (Option.some.inj hj) hij⟩
  · exact fun _ j hij hj => hij (h.once i j ⟨asker, hi, hran⟩ hj)
  · rintro s ⟨⟩
    exact .inr ⟨hran, rfl⟩
  · rintro s ⟨⟩
    refine ⟨n.served, [], rfl, ?_⟩
    rw [← h.node, hserve]

lemma Inv.step (h : n.Inv) (hi : n.asker? i = some asker) : (n.step i asker).Inv := by
  cases hphase : asker.phase with
  | asked => exact h.step_asked hi hphase
  | building => exact h.step_building hi hphase
  | built s => exact h.step_built hi hphase
  | returned s =>
    rw [SharedNode.step, hphase]
    exact h

/-- To bind the node is of no concern to the threads. -/
lemma Inv.bind (h : n.Inv) (s : S) : (n.take (.bind s)).Inv where
  node := by
    rw [take, Node.after_concat, ← h.node]
    rfl
  agrees i asker hi := by
    rw [take, Node.cached_bind]
    exact h.agrees i asker hi
  builder := h.builder
  once := h.once
  cached s' hs := by
    rw [take, Node.cached_bind] at hs
    exact h.cached s' hs
  served i asker s' hi hphase := (h.served i asker s' hi hphase).mono (List.prefix_append _ _)

lemma Inv.ask (h : n.Inv) (build : Unit → Logged NodeEvent Signature) : (n.take (.ask build)).Inv := by
  have hcases : ∀ j a, (n.take (.ask build)).asker? j = some a →
      n.asker? j = some a ∨ a = ⟨build, .asked, false⟩ := fun j a => getElem?_of_getElem?_concat
  have hkept : ∀ j a, n.asker? j = some a → (n.take (.ask build)).asker? j = some a :=
    fun j a hj => getElem?_concat_of_getElem? hj _
  have hran : ∀ j, (n.take (.ask build)).Ran j → n.Ran j := by
    rintro j ⟨a, hj, hran⟩
    rcases hcases j a hj with hj | rfl
    · exact ⟨a, hj, hran⟩
    · cases hran
  exact
    { node := h.node
      agrees := by
        intro j a hj
        rcases hcases j a hj with hj | rfl
        · exact h.agrees j a hj
        · exact .asked rfl rfl
      builder := by
        intro j
        refine (h.builder j).trans ⟨?_, ?_⟩
        · rintro ⟨a, hj, hbuilds⟩
          exact ⟨a, hkept j a hj, hbuilds⟩
        · rintro ⟨a, hj, hbuilds⟩
          rcases hcases j a hj with hj | rfl
          · exact ⟨a, hj, hbuilds⟩
          · cases hbuilds
      once := fun j k hj hk => h.once j k (hran j hj) (hran k hk)
      cached := by
        intro s hs
        obtain ⟨j, a, hj, hbuilt⟩ := h.cached s hs
        exact ⟨j, a, hkept j a hj, hbuilt⟩
      served := by
        intro j a s hj hphase
        rcases hcases j a hj with hj | rfl
        · exact h.served j a s hj hphase
        · cases hphase }

theorem Inv.take (h : n.Inv) (turn : NodeTurn S) : (n.take turn).Inv := by
  cases turn with
  | bind s => exact h.bind s
  | ask build => exact h.ask build
  | advance i =>
    rw [SharedNode.take]
    split
    next => exact h
    next asker hi => exact h.step hi

lemma Inv.run (h : n.Inv) (turns : List (NodeTurn S)) : (n.run turns).Inv := by
  induction turns generalizing n with
  | nil => exact h
  | cons turn turns ih => exact ih (h.take turn)

theorem inv_after (turns : List (NodeTurn S)) : (after turns).Inv := inv_fresh.run turns

end SharedNode

end FrontEnd
