import FrontEnd.Proofs.Iterator.Walking

/-!
# Iterators stay on their chains

Whatever clients ask for, whatever they link and however they use their iterators, every iterator stands
on the chain of its document (`Iterations.Inv`). So it yields the tokens of the chain in their order and
each once, has ended for good when it has ended, and if nothing is linked in the meantime yields them all
(`Iterations.staysOnChain_after`).
-/

namespace FrontEnd

namespace Document

variable {d : Document} {it : TokenIterator}

lemma tokens_eq_ok_iff : d.tokens = .ok it ↔
    ∃ sentinel, d.sentinel? = some sentinel ∧ it = ⟨d.next? sentinel⟩ := by
  rw [tokens]
  cases d.sentinel? with
  | none => simp
  | some sentinel => simp [eq_comm]

/-- The iterator over the tokens of a document has all of them before it. -/
lemma chainSince_of_tokens (h : d.tokens = .ok it) : d.chainSince it.upcoming = d.real := by
  obtain ⟨sentinel, hsentinel, rfl⟩ := tokens_eq_ok_iff.1 h
  have hzero : sentinel.position = 0 := (at?_eq_some_iff.1 hsentinel).2
  rw [← chainFrom_next?, hzero, real]

end Document

lemma Session.Inv.linksOf_prefix {s : Session} (h : s.Inv) (q : Request) (id : DocumentId) :
    s.linksOf id <+: (s.perform q).linksOf id := by
  obtain ⟨fresh, done, hstep⟩ := perform_step h q
  rw [linksOf, linksOf, hstep.history, List.filter_append]
  exact List.prefix_append _ _

namespace Iterations

/-- What holds however clients use the documents and their iterators. -/
structure Inv (w : Iterations) : Prop where
  session : w.session.Inv
  stands : ∀ x ∈ w.iterations, ∃ d, w.session.store.document? x.document = some d ∧ x.Stands d

variable {w : Iterations} {i : Nat} {x : Iteration} {id : DocumentId} {d : Document}
  {later : List IteratorTurn}

lemma inv_start : start.Inv := ⟨Session.inv_empty, nofun⟩

namespace Inv

lemma stands_of_document? (h : w.Inv) (hx : w.iterations[i]? = some x)
    (hd : w.session.store.document? x.document = some d) : x.Stands d := by
  obtain ⟨d', hd', hstands⟩ := h.stands x (List.mem_of_getElem? hx)
  obtain rfl : d' = d := Option.some.inj (hd'.symm.trans hd)
  exact hstands

/-! ### One turn -/

lemma gain (h : w.Inv) {found : Option Iteration} (hfound : ∀ x, found = some x →
    ∃ d, w.session.store.document? x.document = some d ∧ x.Stands d) : (w.gain found).Inv where
  session := h.session
  stands := by
    intro x hx
    rcases List.mem_append.1 hx with hx | hx
    · exact h.stands x hx
    · exact hfound x (Option.mem_toList.1 hx)

lemma next (h : w.Inv) (i : Nat) : (w.take (.next i)).Inv := by
  rw [take]
  split
  next => exact h
  next x hx =>
    split
    next => exact h
    next d hd =>
      have hstands := h.stands_of_document? hx hd
      have hlearn : ∀ r, x.iterator.upcoming = some r → w.session.store.Holds r :=
        fun r hr => Session.holds_of_document? h.session hd (hstands.upcoming r hr).1
      have hstep : Session.Step w.session none [] [] (w.session.learn x.iterator.upcoming) :=
        Session.learn_step hlearn
      refine ⟨hstep.inv h.session, ?_⟩
      intro y hy
      rcases List.mem_or_eq_of_mem_set hy with hy | rfl
      · exact h.stands y hy
      · exact ⟨d, hd, hstands.next⟩

theorem take (h : w.Inv) (turn : IteratorTurn) : (w.take turn).Inv := by
  cases turn with
  | ask q =>
    refine ⟨Session.perform_inv h.session q, ?_⟩
    intro x hx
    obtain ⟨d, hd, hstands⟩ := h.stands x hx
    obtain ⟨e, links, he, hgrow⟩ := h.session.perform_becomes q hd
    exact ⟨e, he, hstands.grow hgrow⟩
  | chain ref =>
    apply h.gain
    intro x hx
    obtain ⟨r, hr, rfl⟩ := Option.map_eq_some_iff.1 hx
    obtain ⟨d, hd, hholds⟩ := h.session.refs r (List.mem_of_getElem? hr)
    refine ⟨d, hd, .begun (Document.chain_ne_empty_of_holds hholds) _ ?_⟩
    rintro r' ⟨⟩
    exact hholds
  | tokens id =>
    apply h.gain
    intro x hx
    obtain ⟨d, hd, hx⟩ := Option.bind_eq_some_iff.1 hx
    obtain ⟨it, hit, rfl⟩ := Option.map_eq_some_iff.1 hx
    obtain ⟨sentinel, hsentinel, rfl⟩ :=
      Document.tokens_eq_ok_iff.1 (Session.toOption_eq_some_iff.1 hit)
    have hopen := Document.chain_ne_empty_of_holds (Document.holds_of_at? hsentinel)
    exact ⟨d, hd, .begun hopen id fun r hr => Document.holds_of_at? hr⟩
  | clone i =>
    apply h.gain
    intro y hy
    obtain ⟨x, hx, rfl⟩ := Option.map_eq_some_iff.1 hy
    obtain ⟨d, hd, hstands⟩ := h.stands x (List.mem_of_getElem? hx)
    exact ⟨d, hd, .begun hstands.opened _ fun r hr => (hstands.upcoming r hr).1⟩
  | next i => exact h.next i

lemma take_becomes (h : w.Inv) (turn : IteratorTurn) (hd : w.session.store.document? id = some d) :
    ∃ e links, (w.take turn).session.store.document? id = some e ∧ d.Becomes links e := by
  rcases w.session_take_cases turn with ⟨q, hq⟩ | ⟨found, hfound⟩
  · rw [hq]
    exact h.session.perform_becomes q hd
  · rw [hfound]
    exact ⟨d, [], hd, .same⟩

lemma linksOf_take (h : w.Inv) (turn : IteratorTurn) (id : DocumentId) :
    w.session.linksOf id <+: (w.take turn).session.linksOf id := by
  rcases w.session_take_cases turn with ⟨q, hq⟩ | ⟨found, hfound⟩
  · rw [hq]
    exact h.session.linksOf_prefix q id
  · rw [hfound]
    exact List.prefix_refl _

/-- A turn in which nothing is linked in a document leaves it as it is, once it is open. -/
lemma document?_take (h : w.Inv) {turn : IteratorTurn} (hd : w.session.store.document? id = some d)
    (hopen : d.chain ≠ #[]) (hquiet : (w.take turn).session.linksOf id = w.session.linksOf id) :
    (w.take turn).session.store.document? id = some d := by
  rcases w.session_take_cases turn with ⟨q, hq⟩ | ⟨found, hfound⟩
  · rw [hq] at hquiet ⊢
    exact h.session.document?_of_linksOf_eq hd hopen hquiet
  · rw [hfound]
    exact hd

/-! ### A run of turns -/

lemma run (h : w.Inv) (later : List IteratorTurn) : (w.run later).Inv := by
  induction later generalizing w with
  | nil => exact h
  | cons turn later ih => exact ih (h.take turn)

lemma run_becomes (h : w.Inv) (later : List IteratorTurn)
    (hd : w.session.store.document? id = some d) :
    ∃ e links, (w.run later).session.store.document? id = some e ∧ d.Becomes links e := by
  induction later generalizing w d with
  | nil => exact ⟨d, [], hd, .same⟩
  | cons turn later ih =>
    obtain ⟨e, links, he, hgrow⟩ := h.take_becomes turn hd
    obtain ⟨f, more, hf, hgrow'⟩ := ih (h.take turn) he
    exact ⟨f, _, hf, hgrow.trans hgrow'⟩

lemma linksOf_run (h : w.Inv) (later : List IteratorTurn) (id : DocumentId) :
    w.session.linksOf id <+: (w.run later).session.linksOf id := by
  induction later generalizing w with
  | nil => exact List.prefix_refl _
  | cons turn later ih => exact (h.linksOf_take turn id).trans (ih (h.take turn))

/-- Each call of an iterator finds its document. -/
lemma length_shown (h : w.Inv) (hx : w.iterations[i]? = some x) (later : List IteratorTurn) :
    (w.shown i later).length = later.countP (·.calls i) := by
  induction later generalizing w x with
  | nil => rfl
  | cons turn later ih =>
    obtain ⟨d, hd, -⟩ := h.stands x (List.mem_of_getElem? hx)
    rw [shown_cons, shown_of_document? hx hd, List.length_append, List.length_replicate,
      ih (h.take turn) (getElem?_take hx turn), List.countP_cons, Nat.add_comm]

/-- If nothing is linked in its document, all calls of an iterator find it as it is. -/
lemma shown_eq_replicate (h : w.Inv) (hx : w.iterations[i]? = some x) (hid : x.document = id)
    (hd : w.session.store.document? id = some d)
    (hquiet : (w.run later).session.linksOf id = w.session.linksOf id) :
    w.shown i later = List.replicate (later.countP (·.calls i)) d := by
  induction later generalizing w x with
  | nil => rfl
  | cons turn later ih =>
    have hfound : w.session.store.document? x.document = some d := hid ▸ hd
    have hopen := (h.stands_of_document? hx hfound).opened
    -- the links of the document only grow, so they are the same after the first turn already
    have hfirst := h.linksOf_take turn id
    have hrest : (w.take turn).session.linksOf id <+: w.session.linksOf id :=
      hquiet ▸ (h.take turn).linksOf_run later id
    have hsame := (hfirst.eq_of_length_le hrest.length_le).symm
    have hnext := h.document?_take hd hopen hsame
    rw [shown_cons, shown_of_document? hx hfound, ih (h.take turn) (getElem?_take hx turn)
      ((Iteration.document_foldl_next _ x).trans hid) hnext (hquiet.trans hsame.symm),
      List.replicate_append_replicate, List.countP_cons, Nat.add_comm]

/-! ### What iterators yield -/

lemma undisturbed (h : w.Inv) (hx : w.iterations[i]? = some x)
    (hd : w.session.store.document? x.document = some d)
    (hquiet : (w.run later).session.linksOf x.document = w.session.linksOf x.document) :
    ∃ y, (w.run later).iterations[i]? = some y ∧ y.answers = x.answers ++
      (List.range (later.countP (·.calls i))).map fun k => (d.chainSince x.iterator.upcoming)[k]? := by
  refine ⟨_, getElem?_run hx later, ?_⟩
  rw [h.shown_eq_replicate hx rfl hd hquiet, (h.stands_of_document? hx hd).answers_foldl_replicate]

/-- A new iterator yields all that is before it, if nothing is linked before it has. -/
lemma drains (h : w.Inv) {turn : IteratorTurn} {it : TokenIterator}
    (hturn : w.take turn = w.gain (some (.begun id it)))
    (hd : w.session.store.document? id = some d)
    (hquiet : (w.run (turn :: later)).session.linksOf id = w.session.linksOf id) :
    ∃ x, (w.run (turn :: later)).iterations[w.iterations.length]? = some x ∧
      x.Drains (d.chainSince it.upcoming) (later.countP (·.calls w.iterations.length)) := by
  have hnext := h.take turn
  change ((w.take turn).run later).session.linksOf id = _ at hquiet
  change ∃ x, ((w.take turn).run later).iterations[_]? = some x ∧ _
  rw [hturn] at hnext hquiet ⊢
  have hx := w.getElem?_gain_length (some (.begun id it))
  obtain ⟨y, hy, hanswers⟩ := hnext.undisturbed hx hd hquiet
  exact ⟨y, hy, Iteration.drains_of_answers_eq hanswers⟩

/-- What an iterator has yielded since is what comes next in the chain. -/
lemma continued (h : w.Inv) (hx : w.iterations[i]? = some x) (later : List IteratorTurn) :
    ∃ y d more, (w.run later).iterations[i]? = some y ∧
      (w.run later).session.store.document? x.document = some d ∧ y.answers = x.answers ++ more ∧
      more.reduceOption <+: d.chainSince x.iterator.upcoming := by
  obtain ⟨d, hd, hstands⟩ := h.stands x (List.mem_of_getElem? hx)
  obtain ⟨e, links, he, hgrow⟩ := h.run_becomes later hd
  obtain ⟨more, hmore⟩ := Iteration.answers_prefix_foldl_next (w.shown i later) x
  have hy := getElem?_run hx later
  obtain ⟨e', he', hstands'⟩ := (h.run later).stands _ (List.mem_of_getElem? hy)
  rw [Iteration.document_foldl_next] at he'
  obtain rfl : e' = e := Option.some.inj (he'.symm.trans he)
  refine ⟨_, e', more, hy, he, hmore.symm, ?_⟩
  cases hup : x.iterator.upcoming with
  | none =>
    rw [Iteration.foldl_next_of_ended _ hup] at hmore
    rw [List.append_cancel_left hmore, List.reduceOption_replicate_none]
    exact List.nil_prefix
  | some r =>
    -- both the old and the new state yield a beginning of one chain, and the old part cancels
    have hprefix := hstands'.yielded_prefix
    rw [Iteration.origin_foldl_next, Iteration.yielded, ← hmore, List.reduceOption_append,
      ((hstands.grow hgrow).upcoming r hup).2.2] at hprefix
    exact (List.prefix_append_right_inj _).1 hprefix

/-- The clone begins where the original stands, so what each yields from there on is the beginning of
the same chain. -/
lemma cloned (h : w.Inv) (hx : w.iterations[i]? = some x) (later : List IteratorTurn) :
    ∃ y z d more, (w.run (.clone i :: later)).iterations[i]? = some y ∧
      (w.run (.clone i :: later)).iterations[w.iterations.length]? = some z ∧
      (w.run (.clone i :: later)).session.store.document? x.document = some d ∧
      y.answers = x.answers ++ more ∧ more.reduceOption <+: d.chainSince x.iterator.upcoming ∧
      z.yielded <+: d.chainSince x.iterator.upcoming := by
  have hz := w.getElem?_gain_length (some (.begun x.document x.iterator))
  rw [← take_clone hx] at hz
  have hy : (w.take (.clone i)).iterations[i]? = some x := getElem?_take_of_not_calls hx rfl
  obtain ⟨y, d, more, hy, hd, hanswers, hmore⟩ := (h.take (.clone i)).continued hy later
  obtain ⟨z, d', all, hz, hd', hall, hprefix⟩ := (h.take (.clone i)).continued hz later
  obtain rfl : d' = d := Option.some.inj (hd'.symm.trans hd)
  refine ⟨y, z, d', more, hy, hz, hd, hanswers, hmore, ?_⟩
  rw [Iteration.yielded, hall]
  exact hprefix

/-- An iterator that has ended has ended for good. -/
lemma fused (h : w.Inv) (hx : w.iterations[i]? = some x) (hnone : none ∈ x.answers)
    (later : List IteratorTurn) : (w.run later).iterations[i]? = some { x with
      answers := x.answers ++ List.replicate (later.countP (·.calls i)) none } := by
  obtain ⟨d, hd, hstands⟩ := h.stands x (List.mem_of_getElem? hx)
  rw [getElem?_run hx, Iteration.foldl_next_of_ended _ (hstands.upcoming_eq_none hnone),
    h.length_shown hx]

end Inv

/-- No iterator skips a token, repeats one or makes one up, whatever happens between its calls. -/
structure StaysOnChain (w : Iterations) : Prop where
  /-- What it has yielded is the beginning of the chain since the token it was begun at. -/
  yielded : ∀ x ∈ w.iterations, ∃ d, w.session.store.document? x.document = some d ∧
    x.yielded <+: d.chainSince x.origin
  /-- Each call is answered, and the answers depend on what the calls find alone. -/
  own : ∀ (i : Nat) (x : Iteration) (later : List IteratorTurn), w.iterations[i]? = some x →
    (w.run later).iterations[i]? = some ((w.shown i later).foldl Iteration.next x) ∧
      (w.shown i later).length = later.countP (·.calls i)
  /-- What is done with iterators changes no document, and no iterator but the one that is called. -/
  harmless : ∀ turn, (∀ q, turn ≠ .ask q) → (w.take turn).session.store = w.session.store ∧
    ∀ (i : Nat) (x : Iteration), turn.calls i = false → w.iterations[i]? = some x →
      (w.take turn).iterations[i]? = some x
  /-- Once it has answered that there is no token, it answers so for ever. -/
  fused : ∀ (i : Nat) (x : Iteration) (later : List IteratorTurn),
    w.iterations[i]? = some x → none ∈ x.answers → (w.run later).iterations[i]? = some { x with
      answers := x.answers ++ List.replicate (later.countP (·.calls i)) none }
  /-- A clone and its original both go on along the chain from where the clone was made. -/
  cloned : ∀ (i : Nat) (x : Iteration) (later : List IteratorTurn),
    w.iterations[i]? = some x → ∃ y z d more, (w.run (.clone i :: later)).iterations[i]? = some y ∧
      (w.run (.clone i :: later)).iterations[w.iterations.length]? = some z ∧
      (w.run (.clone i :: later)).session.store.document? x.document = some d ∧
      y.answers = x.answers ++ more ∧ more.reduceOption <+: d.chainSince x.iterator.upcoming ∧
      z.yielded <+: d.chainSince x.iterator.upcoming
  /-- While nothing is linked in its document, it yields what is before it, and then ends. -/
  undisturbed : ∀ (i : Nat) (x : Iteration) (d : Document) (later : List IteratorTurn),
    w.iterations[i]? = some x → w.session.store.document? x.document = some d →
      (w.run later).session.linksOf x.document = w.session.linksOf x.document →
        ∃ y, (w.run later).iterations[i]? = some y ∧ y.answers = x.answers ++
          (List.range (later.countP (·.calls i))).map ((d.chainSince x.iterator.upcoming)[·]?)
  /-- So one that is new yields the whole chain from its token on, or all tokens of the document. -/
  chain : ∀ (ref : Nat) (r : LinkedToken) (d : Document) (later : List IteratorTurn),
    w.session.refs[ref]? = some r → w.session.store.document? r.document = some d →
      (w.run (.chain ref :: later)).session.linksOf r.document = w.session.linksOf r.document →
        ∃ x, (w.run (.chain ref :: later)).iterations[w.iterations.length]? = some x ∧
          x.Drains (d.chainFrom r.position) (later.countP (·.calls w.iterations.length))
  tokens : ∀ id d later, w.session.store.document? id = some d → d.isOpened = true →
    (w.run (.tokens id :: later)).session.linksOf id = w.session.linksOf id →
      ∃ x, (w.run (.tokens id :: later)).iterations[w.iterations.length]? = some x ∧
        x.Drains d.real (later.countP (·.calls w.iterations.length))
  clone : ∀ (i : Nat) (x : Iteration) (d : Document) (later : List IteratorTurn),
    w.iterations[i]? = some x → w.session.store.document? x.document = some d →
      (w.run (.clone i :: later)).session.linksOf x.document = w.session.linksOf x.document →
        ∃ z, (w.run (.clone i :: later)).iterations[w.iterations.length]? = some z ∧
          z.Drains (d.chainSince x.iterator.upcoming) (later.countP (·.calls w.iterations.length))

theorem inv_after (turns : List IteratorTurn) : (after turns).Inv := inv_start.run turns

/-- However requests and calls of iterators are interleaved, all iterators stay on their chains. -/
theorem staysOnChain_after (turns : List IteratorTurn) : (after turns).StaysOnChain := by
  have h := inv_after turns
  exact
    { yielded := by
        intro x hx
        obtain ⟨d, hd, hstands⟩ := h.stands x hx
        exact ⟨d, hd, hstands.yielded_prefix⟩
      own := fun i x later hx => ⟨getElem?_run hx later, h.length_shown hx later⟩
      harmless := by
        intro turn hturn
        obtain ⟨found, hfound⟩ := session_take _ hturn
        refine ⟨?_, fun i x hcalls hx => getElem?_take_of_not_calls hx hcalls⟩
        rw [hfound, Session.learn]
      fused := fun i x later hx hnone => h.fused hx hnone later
      cloned := fun i x later hx => h.cloned hx later
      undisturbed := fun i x d later hx hd hquiet => h.undisturbed hx hd hquiet
      chain := fun ref r d later hr hd hquiet => h.drains (take_chain hr) hd hquiet
      tokens := by
        intro id d later hd hopen hquiet
        obtain ⟨it, hit, -⟩ := Document.tokens_of_isOpened (Document.isOpened_iff.1 hopen)
        rw [← Document.chainSince_of_tokens hit]
        exact h.drains (take_tokens hd hit) hd hquiet
      clone := fun i x d later hx hd hquiet => h.drains (take_clone hx) hd hquiet }

/-- An iterator is made on an empty chain, and another one at the sentinel. The second one has ended when
a second token is linked, but its clone has not. -/
def overtakenTurns : List IteratorTurn :=
  [.ask (.create "ab" .unnamed false), .ask (.build ⟨0⟩), .ask (.sentinel ⟨0⟩), .tokens ⟨0⟩, .chain 0,
    .ask (.push 0 ⟨7⟩ ⟨⟨0, 1⟩, "a"⟩ none), .next 0, .next 1, .clone 1, .next 1,
    .ask (.push 0 ⟨7⟩ ⟨⟨1, 2⟩, "b"⟩ none), .next 0, .next 1, .next 2, .next 2]

theorem staysOnChain_after_overtaken :
    ((after overtakenTurns).iterations.map fun x => x.answers.map (·.map LinkedToken.position)) =
        [[none, none], [some 0, some 1, none], [some 1, some 2]] ∧
      (after overtakenTurns).StaysOnChain :=
  ⟨by decide, staysOnChain_after overtakenTurns⟩

end Iterations

end FrontEnd
