import FrontEnd.Proofs.Declaration.SharedNode

/-!
# Both slots of a node are written once

Whatever the order in which a node is bound and asked for its signature, its slot holds the first
symbol, one thread builds and all are answered with what it has built, and neither side sees
anything of the other (`SharedNode.writesOnce_after`).
-/

namespace FrontEnd.SharedNode

variable {S : Type} [Executable S] {n : SharedNode S} {i : Nat} {asker : Asker}

/-! ### Two sides that do not see each other -/

/-- Only a binding reaches the slot, and only an empty one. -/
lemma slot_take (n : SharedNode S) (turn : NodeTurn S) :
    (n.take turn).node.slot = n.node.slot.or turn.symbol? := by
  cases turn with
  | bind s => exact n.node.slot_bind s
  | ask build => exact Option.or_none.symm
  | advance i =>
    change (n.take (.advance i)).node.slot = n.node.slot.or none
    rw [Option.or_none, take]
    split
    next => rfl
    next asker hi =>
      rw [step]
      split
      next =>
        split
        next => rfl
        next =>
          split
          next => rfl
          next => rfl
      next => rfl
      next => rfl
      next => rfl

lemma slot_run (n : SharedNode S) (turns : List (NodeTurn S)) :
    (n.run turns).node.slot = n.node.slot.or (NodeTurn.symbols turns).head? := by
  induction turns generalizing n with
  | nil => exact Option.or_none.symm
  | cons turn turns ih =>
    have hrest := ih (n.take turn)
    rw [slot_take, Option.or_assoc] at hrest
    refine hrest.trans (congrArg n.node.slot.or ?_)
    cases hs : turn.symbol? with
    | none => rw [NodeTurn.symbols, NodeTurn.symbols, List.filterMap_cons_none hs, Option.none_or]
    | some s => rw [NodeTurn.symbols, NodeTurn.symbols, List.filterMap_cons_some hs]; rfl

lemma slot_after (turns : List (NodeTurn S)) :
    (after turns).node.slot = (NodeTurn.symbols turns).head? :=
  (slot_run fresh turns).trans Option.none_or

/-- All that threads see which ask for the signature. -/
def askersView (n : SharedNode S) : Option Signature × Option Nat × List Asker :=
  (n.node.cached, n.builder, n.askers)

lemma askersView_bind (n : SharedNode S) (s : S) : (n.take (.bind s)).askersView = n.askersView := by
  rw [askersView, take, Node.cached_bind]
  rfl

lemma askersView_take {n m : SharedNode S} (h : n.askersView = m.askersView) (turn : NodeTurn S) :
    (n.take turn).askersView = (m.take turn).askersView := by
  obtain ⟨hcached, hrest⟩ := Prod.mk.inj h
  obtain ⟨hbuilder, haskers⟩ := Prod.mk.inj hrest
  cases turn with
  | bind s => rw [askersView_bind, askersView_bind, h]
  | ask build => simp only [askersView, take, hcached, hbuilder, haskers]
  | advance i =>
    simp only [take, asker?, haskers]
    cases hi : m.askers[i]? with
    | none => exact h
    | some asker =>
      simp only [step, hcached, hbuilder]
      split
      next =>
        split
        next => simp only [askersView, setAsker, hcached, hbuilder, haskers]
        next =>
          split
          next => exact h
          next => simp only [askersView, setAsker, hcached, haskers]
      next => simp only [askersView, setAsker, hcached, hbuilder, haskers]
      next => simp only [askersView, setAsker, haskers]
      next => exact h

lemma askersView_run {n m : SharedNode S} (h : n.askersView = m.askersView)
    (turns : List (NodeTurn S)) :
    (n.run turns).askersView = (m.run (turns.filter fun turn => !turn.isBind)).askersView := by
  induction turns generalizing n m with
  | nil => exact h
  | cons turn turns ih =>
    cases turn with
    | bind s =>
      rw [List.filter_cons_of_neg (by simp [NodeTurn.isBind, NodeTurn.symbol?])]
      exact ih ((n.askersView_bind s).trans h)
    | ask build =>
      rw [List.filter_cons_of_pos (by simp [NodeTurn.isBind, NodeTurn.symbol?])]
      exact ih (askersView_take h _)
    | advance i =>
      rw [List.filter_cons_of_pos (by simp [NodeTurn.isBind, NodeTurn.symbol?])]
      exact ih (askersView_take h _)

/-! ### Every thread is answered -/

lemma stepsLeft_eq_zero {phase : AskPhase} (h : phase.stepsLeft = 0) : ∃ s, phase = .returned s := by
  cases phase with
  | returned s => exact ⟨s, rfl⟩
  | _ => cases h

omit [Executable S] in
/-- A thread that cannot take a step was answered or waits for another to build; a step brings it
nearer to its answer. -/
lemma step_cases (n : SharedNode S) (i : Nat) (asker : Asker) :
    ((∃ s, asker.phase = .returned s) ∨ asker.phase = .asked ∧ ∃ j, n.builder = some j) ∨
      ∃ asker', (n.step i asker).askers = n.askers.set i asker' ∧ asker'.build = asker.build ∧
        asker'.phase.stepsLeft < asker.phase.stepsLeft := by
  cases hphase : asker.phase with
  | asked =>
    rw [step, hphase]
    cases n.node.cached with
    | some s => exact .inr ⟨_, rfl, rfl, by simp [AskPhase.stepsLeft]⟩
    | none =>
      cases hb : n.builder with
      | some j => exact .inl (.inr ⟨rfl, j, rfl⟩)
      | none => exact .inr ⟨_, rfl, rfl, by simp [AskPhase.stepsLeft]⟩
  | building =>
    rw [step, hphase]
    exact .inr ⟨_, rfl, rfl, by simp [AskPhase.stepsLeft]⟩
  | built s =>
    rw [step, hphase]
    exact .inr ⟨_, rfl, rfl, by simp [AskPhase.stepsLeft]⟩
  | returned s => exact .inl (.inl ⟨s, rfl⟩)

/-- The thread takes a step. -/
abbrev Advances (n : SharedNode S) (i : Nat) : Prop :=
  Moves SharedNode.askers Asker.build (fun asker => asker.phase.stepsLeft)
    (fun n i => SharedNode.take n (.advance i)) n i

lemma advances_of_not_blocked (hi : n.asker? i = some asker)
    (hpending : ∀ s, asker.phase ≠ .returned s)
    (hfree : asker.phase = .asked → n.builder = none) : n.Advances i := by
  rcases n.step_cases i asker with hblocked | ⟨asker', haskers, hbuild, hlt⟩
  · rcases hblocked with ⟨s, hreturned⟩ | ⟨hasked, j, hbusy⟩
    · exact absurd hreturned (hpending s)
    · rw [hfree hasked] at hbusy
      cases hbusy
  · refine ⟨asker, asker', hi, ?_, hbuild, hlt⟩
    change (n.take (.advance i)).askers = _
    rw [take, hi]
    exact haskers

/-- As long as a thread is not answered, there is one that can take a step: it itself, or the one
that builds. -/
lemma Inv.exists_advances (h : n.Inv) (hi : n.asker? i = some asker)
    (hpending : asker.phase.stepsLeft ≠ 0) : ∃ j, n.Advances j := by
  cases hbusy : n.builder with
  | none =>
    refine ⟨i, advances_of_not_blocked hi ?_ fun _ => hbusy⟩
    intro s hreturned
    rw [hreturned] at hpending
    exact hpending rfl
  | some j =>
    obtain ⟨a, hj, hbuilds⟩ := (h.builder j).1 hbusy
    refine ⟨j, advances_of_not_blocked hj ?_ ?_⟩
    · intro s hreturned
      rw [hreturned] at hbuilds
      cases hbuilds
    · intro hasked
      rw [hasked] at hbuilds
      cases hbuilds

/-- From any turn on all threads can be brought to their answers, by steps of their own. -/
lemma Inv.finishes (h : n.Inv) : ∃ steps : List Nat, ∀ i asker, n.asker? i = some asker →
    ∃ asker', (n.run (steps.map .advance)).asker? i = some asker' ∧
      asker'.build = asker.build ∧ ∃ s, asker'.phase = .returned s := by
  obtain ⟨steps, hsteps⟩ := exists_steps Inv (fun m i hm => hm.take (.advance i))
    (fun m i asker hm hi hleft => hm.exists_advances hi hleft) h
  refine ⟨steps, fun i asker hi => ?_⟩
  obtain ⟨asker', hi', hbuild, hzero⟩ := hsteps i asker hi
  rw [SharedNode.run, List.foldl_map]
  exact ⟨asker', hi', hbuild, stepsLeft_eq_zero hzero⟩

/-! ### Two slots, each written once -/

/-- What is cached stays cached. -/
lemma Inv.cached_take (h : n.Inv) {s : Signature} (hs : n.node.cached = some s)
    (turn : NodeTurn S) : (n.take turn).node.cached = some s := by
  cases turn with
  | bind symbol => exact (n.node.cached_bind symbol).trans hs
  | ask build => exact hs
  | advance i =>
    rw [SharedNode.take]
    split
    next => exact hs
    next asker hi =>
      cases hphase : asker.phase with
      | asked =>
        rw [SharedNode.step, hphase, hs]
        exact hs
      | building =>
        rw [SharedNode.step, hphase]
        exact hs
      | built s' =>
        have hnone := ((h.agrees i asker hi).ran_of_builds (by rw [hphase]; rfl)).2
        rw [hs] at hnone
        cases hnone
      | returned s' =>
        rw [SharedNode.step, hphase]
        exact hs

lemma Inv.cached_run (h : n.Inv) {s : Signature} (hs : n.node.cached = some s)
    (later : List (NodeTurn S)) : (n.run later).node.cached = some s := by
  induction later generalizing n with
  | nil => exact hs
  | cons turn later ih => exact ih (h.take turn) (h.cached_take hs turn)

/-- There is a signature exactly if a thread was answered. -/
lemma Inv.hasSignature_iff (h : n.Inv) : n.node.hasSignature = true ↔
    ∃ i asker s, n.asker? i = some asker ∧ asker.phase = .returned s := by
  constructor
  · intro hhas
    obtain ⟨s, hs⟩ := Option.isSome_iff_exists.1 hhas
    obtain ⟨i, asker, hi, hran, -⟩ := h.cached s hs
    cases h.agrees i asker hi with
    | asked _ hfresh => cases hran.symm.trans hfresh
    | building _ _ hnone => cases hs.symm.trans hnone
    | built _ _ hnone => cases hs.symm.trans hnone
    | won hphase _ _ => exact ⟨i, asker, _, hi, hphase⟩
    | told _ hfresh _ => cases hran.symm.trans hfresh
  · rintro ⟨i, asker, s, hi, hphase⟩
    exact Option.isSome_iff_exists.2 ⟨s, (h.agrees i asker hi).returned_eq hphase⟩

lemma take_of_not_asks {turn : NodeTurn S} (hturn : turn.asks = false) (hn : n.askers = []) :
    (n.take turn).askers = [] ∧ (n.take turn).node.cached = n.node.cached := by
  cases turn with
  | bind s => exact ⟨hn, n.node.cached_bind s⟩
  | ask build => cases hturn
  | advance i =>
    have hnone : n.asker? i = none := by
      rw [asker?, hn]
      rfl
    rw [take, hnone]
    exact ⟨hn, rfl⟩

lemma run_of_not_asks {turns : List (NodeTurn S)} (hturns : ∀ turn ∈ turns, turn.asks = false)
    (hn : n.askers = []) :
    (n.run turns).askers = [] ∧ (n.run turns).node.cached = n.node.cached := by
  induction turns generalizing n with
  | nil => exact ⟨hn, rfl⟩
  | cons turn turns ih =>
    obtain ⟨haskers, hcached⟩ := take_of_not_asks (hturns turn List.mem_cons_self) hn
    obtain ⟨haskers', hcached'⟩ :=
      ih (fun t ht => hturns t (List.mem_cons_of_mem turn ht)) haskers
    exact ⟨haskers', hcached'.trans hcached⟩

/-- Both slots of a node are written once, by whom ever, and neither touches the other. -/
structure WritesOnce (turns : List (NodeTurn S)) : Prop where
  /-- The slot holds the symbol that was bound first. -/
  slot : (after turns).node.slot = (NodeTurn.symbols turns).head?
  symbol : (after turns).node.symbol = match (NodeTurn.symbols turns).head? with
    | some s => .ok s
    | none => .error .notSet
  isBound : (after turns).node.isBound = true ↔ NodeTurn.symbols turns ≠ []
  bind : NodeTurn.symbols turns = [] → ∀ s,
    ((after turns).node.bind s).value = (.ok (), { (after turns).node with slot := some s })
  /-- Another binding, even to the same symbol, is refused and changes nothing. -/
  rebind : NodeTurn.symbols turns ≠ [] → ∀ s,
    ((after turns).node.bind s).value = (.error .alreadySet, (after turns).node)
  keepsSymbol : ∀ later s, (after turns).node.symbol = .ok s →
    ((after turns).run later).node.symbol = .ok s
  /-- At most one builder is run. -/
  once : ∀ i j, (after turns).Ran i → (after turns).Ran j → i = j
  /-- Whoever is answered is told what one of the threads has built, and this is what is cached. -/
  returned : ∀ i asker s, (after turns).asker? i = some asker → asker.phase = .returned s →
    (after turns).node.cached = some s ∧ ∃ j winner, (after turns).asker? j = some winner ∧
      winner.ran = true ∧ (winner.build ()).value = s
  hasSignature : (after turns).node.hasSignature = true ↔
    ∃ i asker s, (after turns).asker? i = some asker ∧ asker.phase = .returned s
  keepsSignature : ∀ later s, (after turns).node.cached = some s →
    ((after turns).run later).node.cached = some s
  /-- Where nobody asks for the signature, no builder is run. -/
  unasked : (∀ turn ∈ turns, turn.asks = false) →
    (∀ i, ¬(after turns).Ran i) ∧ (after turns).node.cached = none
  /-- The slot is as it would be without the threads, and they are as they would be without it. -/
  apart : (after turns).node.slot = (after (turns.filter NodeTurn.isBind)).node.slot ∧
    (after turns).askersView = (after (turns.filter fun turn => !turn.isBind)).askersView
  /-- All that has happened is what whole requests do, one after the other, and the threads are
  answered what their requests are. -/
  whole : (after turns).node = Node.after (after turns).served ∧
    ∀ i asker s, (after turns).asker? i = some asker → asker.phase = .returned s →
      Served (after turns).served asker.build s
  /-- No thread waits for ever. -/
  finishes : ∃ steps : List Nat, ∀ i asker, (after turns).asker? i = some asker →
    ∃ asker', ((after turns).run (steps.map .advance)).asker? i = some asker' ∧
      asker'.build = asker.build ∧ ∃ s, asker'.phase = .returned s

omit [Executable S] in
lemma symbols_filter_isBind (turns : List (NodeTurn S)) :
    NodeTurn.symbols (turns.filter NodeTurn.isBind) = NodeTurn.symbols turns := by
  rw [NodeTurn.symbols, NodeTurn.symbols, List.filterMap_filter]
  apply List.filterMap_congr
  intro turn _
  cases turn with
  | bind s => rfl
  | ask build => rfl
  | advance i => rfl

/-- After any turns both slots of the node have been written once at most. -/
theorem writesOnce_after (turns : List (NodeTurn S)) : WritesOnce turns := by
  have h := inv_after turns
  have hslot := slot_after turns
  exact
    { slot := hslot
      symbol := by
        cases hhead : (NodeTurn.symbols turns).head? with
        | none => simp [Node.symbol, hslot, hhead]
        | some s => simp [Node.symbol, hslot, hhead]
      isBound := by rw [Node.isBound, hslot, List.isSome_head?]
      bind := fun hnone s => Node.bind_of_unbound (by rw [hslot, hnone]; rfl) s
      rebind := by
        intro hne s
        obtain ⟨existing, rest, hcons⟩ := List.exists_cons_of_ne_nil hne
        exact Node.bind_of_bound (by rw [hslot, hcons]; rfl) s
      keepsSymbol := by
        intro later s hs
        rw [Node.symbol_eq_ok_iff] at hs ⊢
        rw [slot_run, hs, Option.some_or]
      once := h.once
      returned := by
        intro i asker s hi hphase
        have hcached := (h.agrees i asker hi).returned_eq hphase
        exact ⟨hcached, h.cached s hcached⟩
      hasSignature := h.hasSignature_iff
      keepsSignature := fun later s hs => h.cached_run hs later
      unasked := by
        intro hturns
        obtain ⟨haskers, hcached⟩ := run_of_not_asks (n := fresh) hturns rfl
        refine ⟨?_, hcached⟩
        rintro i ⟨asker, hi, -⟩
        rw [asker?, after, haskers] at hi
        cases hi
      apart := by
        refine ⟨?_, askersView_run rfl turns⟩
        rw [hslot, slot_after, symbols_filter_isBind]
      whole := ⟨h.node, h.served⟩
      finishes := h.finishes }

/-- Two threads ask for the signature, each with a builder of its own. The second one builds while
the first waits, and meanwhile the node is bound, and bound again to the same symbol. -/
def contendedTurns : List (NodeTurn MethodSymbol) :=
  [.ask fun _ => .silent ⟨.method, .pub, false⟩, .ask fun _ => .silent ⟨.static, .priv, false⟩,
    .advance 1, .advance 0, .bind ⟨"T", "f", [], .void, false⟩, .advance 1,
    .bind ⟨"T", "f", [], .void, false⟩, .advance 0, .advance 1, .advance 0]

theorem writesOnce_after_contention :
    (after contendedTurns).askers.map Asker.ran = [false, true] ∧
      (after contendedTurns).node =
        ⟨some ⟨"T", "f", [], .void, false⟩, some ⟨.static, .priv, false⟩⟩ ∧
      WritesOnce contendedTurns :=
  ⟨by decide, by decide, writesOnce_after contendedTurns⟩

end FrontEnd.SharedNode
