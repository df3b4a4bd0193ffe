import FrontEnd.Proofs.Session.Steps

/-!
# Every request is a step

Each request is a `Session.Step` that changes at most the document it is about (`perform_step`), so
every session satisfies the invariant (`inv_after`). Links come about in one way only: a token is
handed in (`handIn_step`), whether for a linked token, for a builder or straight after it was minted.
-/

namespace FrontEnd

namespace Session

variable {s s' : Session} {target : Option DocumentId}

lemma toOption_eq_some_iff {ε α : Type} {answer : Except ε α} {a : α} :
    answer.toOption = some a ↔ answer = .ok a := by
  cases answer with
  | error e => simp [Except.toOption]
  | ok b => simp [Except.toOption]

lemma map_eq_ok_iff {ε α β : Type} {answer : Except ε α} {f : α → β} {b : β} :
    answer.map f = .ok b ↔ ∃ a, answer = .ok a ∧ f a = b := by
  cases answer with
  | error e => simp [Except.map]
  | ok a => simp [Except.map]

/-! ### Requests that link nothing -/

/-- A change of the store without a link, after which clients may have got more. -/
lemma step_of_change (hc : s.store.Change target [] s'.store) (hm : s'.minted = s.minted)
    (hh : s'.history = s.history) (hl : s'.loose = s.loose)
    (hr : ∀ r ∈ s'.refs, r ∈ s.refs ∨ s'.store.Holds r)
    (hb : ∀ b ∈ s'.builders, b ∈ s.builders ∨ s'.store.Holds b.tail) :
    Step s target [] [] s' where
  change := ⟨[], hc, rfl⟩
  minted := by rw [hm, List.append_nil]
  own := nofun
  history := by rw [hh, List.append_nil]
  numbers := by
    rw [hl]
    exact List.Subperm.refl _
  linked := nofun
  refs := hr
  tails := hb

lemma step_refl (s : Session) (target : Option DocumentId) : Step s target [] [] s :=
  step_of_change .same rfl rfl rfl (fun _ h => .inl h) (fun _ h => .inl h)

lemma learn_step {found : Option LinkedToken} (h : ∀ r, found = some r → s.store.Holds r) :
    Step s target [] [] (s.learn found) := by
  refine step_of_change .same rfl rfl rfl ?_ ?_
  · intro r hr
    rcases List.mem_append.1 hr with hr | hr
    · exact .inl hr
    · exact .inr (h r (Option.mem_toList.1 hr))
  · exact fun b hb => .inl hb

lemma holds_of_document? {id : DocumentId} {d : Document} {r : LinkedToken} (hs : s.Inv)
    (hd : s.store.document? id = some d) (hr : d.Holds r) : s.store.Holds r := by
  refine ⟨d, ?_, hr⟩
  rw [(hs.sound.sound hd).document_eq hr, hs.sound.numbered hd, hd]

lemma sentinel_step (hs : s.Inv) (id : DocumentId) :
    Step s target [] [] (s.perform (.sentinel id)) := by
  apply learn_step
  intro r hr
  obtain ⟨d, hd, hr⟩ := Option.bind_eq_some_iff.1 hr
  exact holds_of_document? hs hd (Document.holds_of_at? hr)

lemma first_step (hs : s.Inv) (id : DocumentId) : Step s target [] [] (s.perform (.first id)) := by
  apply learn_step
  intro r hr
  obtain ⟨d, hd, hr⟩ := Option.bind_eq_some_iff.1 hr
  have hfirst : d.first = .ok r := toOption_eq_some_iff.1 hr
  unfold Document.first at hfirst
  split at hfirst
  · cases hfirst
  · split at hfirst
    · cases hfirst
    · next hnext =>
      cases hfirst
      exact holds_of_document? hs hd (Document.holds_of_at? hnext)

lemma next_step (hs : s.Inv) (ref : Nat) : Step s target [] [] (s.perform (.next ref)) := by
  apply learn_step
  intro r hr
  obtain ⟨onto, -, hr⟩ := Option.bind_eq_some_iff.1 hr
  obtain ⟨d, hd, hr⟩ := Option.bind_eq_some_iff.1 hr
  exact holds_of_document? hs hd (Document.holds_of_at? hr)

lemma tail_step (hs : s.Inv) (builder : Nat) : Step s target [] [] (s.perform (.tail builder)) := by
  apply learn_step
  intro r hr
  obtain ⟨b, hb, rfl⟩ := Option.map_eq_some_iff.1 hr
  exact hs.tails b (List.mem_of_getElem? hb)

lemma tryOpen_step (hs : s.Inv) (id : DocumentId) :
    Step s (some id) [] [] (s.perform (.tryOpen id)) := by
  obtain ⟨hc, hholds⟩ := Store.tryOpen_change hs.sound id
  refine step_of_change hc rfl rfl rfl ?_ ?_
  · intro r hr
    rcases List.mem_append.1 hr with hr | hr
    · exact .inl hr
    · exact .inr (hholds r (toOption_eq_some_iff.1 (Option.mem_toList.1 hr)))
  · exact fun b hb => .inl hb

lemma build_step (hs : s.Inv) (id : DocumentId) :
    Step s (some id) [] [] (s.perform (.build id)) := by
  obtain ⟨hc, hholds⟩ := Store.tryOpen_change hs.sound id
  rw [perform, Store.value_build]
  refine step_of_change hc rfl rfl rfl ?_ ?_
  · exact fun r hr => .inl hr
  · intro b hb
    rcases List.mem_append.1 hb with hb | hb
    · exact .inl hb
    · have hok := toOption_eq_some_iff.1 (Option.mem_toList.1 hb)
      obtain ⟨r, hr, rfl⟩ := map_eq_ok_iff.1 hok
      exact .inr (hholds r hr)

/-! ### Requests that mint and link -/

lemma mint_step (hs : s.Inv) (id : DocumentId) (kind : TokenKind) (excerpt : Excerpt)
    (constant : Option String) :
    ∃ fresh, Step s target fresh [] (s.perform (.mint id kind excerpt constant)) := by
  rw [perform]
  cases hd : s.store.document? id with
  | none => exact ⟨[], step_refl s target⟩
  | some d =>
    refine ⟨[⟨id, (d.mint kind excerpt constant).value⟩], ?_⟩
    exact
      { change := ⟨[], .same, rfl⟩
        minted := rfl
        own := by
          intro m hm
          obtain rfl := List.mem_singleton.1 hm
          exact hs.sound.numbered hd
        history := (List.append_nil _).symm
        numbers := by
          rw [List.map_nil, List.append_nil]
          exact List.Subperm.refl _
        linked := nofun
        refs := fun r hr => .inl hr
        tails := fun b hb => .inl hb }

lemma record_nil (s : Session) (id : DocumentId) : s.record id [] = s := by
  rw [record, List.map_nil, List.append_nil]

/-- A token that is loose, or just minted, is handed in to be linked onto a token of a chain. -/
lemma handIn_step (hs : s.Inv) {id : DocumentId} {tokens : List Token}
    (hown : ∀ t ∈ tokens, t.document = id) {onto : LinkedToken} (ho : s.store.Holds onto)
    {number : Nat} {t : Token} (hget : (s.record id tokens).minted[number]? = some ⟨t.document, t⟩)
    (hnumber : (s.loose.erase number ++ [number]).Subperm
      (s.loose ++ List.range' s.minted.length tokens.length)) :
    ∃ done, Step s (some onto.document) (tokens.map (Minted.mk id)) done
      ((s.record id tokens).handIn ⟨onto.document, number, t⟩ (s.store.link onto t).value.2
        (s.store.link onto t).value.1.toOption) := by
  obtain ⟨hc, hholds⟩ := Store.link_change hs.sound ho t
  have hfresh : ∀ m ∈ tokens.map (Minted.mk id), m.token.document = m.document := by
    intro m hm
    obtain ⟨u, hu, rfl⟩ := List.mem_map.1 hm
    exact hown u hu
  cases hv : (s.store.link onto t).value.1 with
  | error cause =>
    rw [hv] at hc
    refine ⟨[], ?_⟩
    exact
      { change := ⟨[], hc, rfl⟩
        minted := rfl
        own := hfresh
        history := rfl
        numbers := by
          rw [List.length_map, List.map_nil, List.append_nil]
          exact (List.sublist_append_left _ _).subperm.trans hnumber
        linked := nofun
        refs := by
          intro r hr
          rcases List.mem_append.1 hr with hr | hr
          · exact .inl hr
          · cases hr
        tails := fun b hb => .inl hb }
  | ok r =>
    rw [hv] at hc
    obtain rfl := (Store.link_ok hs.sound ho hv).token_eq
    have hdoc : onto.document = r.document :=
      Option.some.inj (hc.target_eq hs.sound r (List.mem_singleton_self r))
    refine ⟨[⟨onto.document, number, r.token⟩], ?_⟩
    exact
      { change := ⟨[r], hc, rfl⟩
        minted := rfl
        own := hfresh
        history := rfl
        numbers := by
          rw [List.length_map]
          exact hnumber
        linked := by
          intro l hl
          obtain rfl := List.mem_singleton.1 hl
          rw [hdoc]
          exact hget
        refs := by
          intro r' hr
          rcases List.mem_append.1 hr with hr | hr
          · exact .inl hr
          · obtain rfl := List.mem_singleton.1 hr
            exact .inr (hholds r' hv)
        tails := fun b hb => .inl hb }

lemma Step.advance {fresh : List Minted} {done : List Link} (h : Step s target fresh done s')
    (builder : Nat) {found : Option ChainBuilder}
    (hfound : ∀ b, found = some b → s'.store.Holds b.tail) :
    Step s target fresh done (s'.advance builder found) := by
  cases found with
  | none => exact h
  | some b =>
    exact
      { h with
        tails := by
          intro b' hb
          rcases List.mem_or_eq_of_mem_set hb with hb | rfl
          · exact h.tails b' hb
          · exact .inr (hfound b' rfl) }

lemma loose?_eq_some_iff {number : Nat} {t : Token} :
    s.loose? number = some t ↔
      number ∈ s.loose ∧ ∃ m, s.minted[number]? = some m ∧ m.token = t := by
  unfold loose?
  split
  · simp [*]
  · simp [*]

lemma loose_step (hs : s.Inv) {onto : LinkedToken} (ho : s.store.Holds onto) {number : Nat}
    {t : Token} (ht : s.loose? number = some t) :
    ∃ fresh done, Step s (some onto.document) fresh done
      (s.handIn ⟨onto.document, number, t⟩ (s.store.link onto t).value.2
        (s.store.link onto t).value.1.toOption) := by
  obtain ⟨hn, m, hget, rfl⟩ := loose?_eq_some_iff.1 ht
  have hm := hs.own m (List.mem_of_getElem? hget)
  have hget' : (s.record onto.document []).minted[number]? =
      some ⟨m.token.document, m.token⟩ := by
    rw [record_nil, hget, hm]
  have hnumber : (s.loose.erase number ++ [number]).Subperm (s.loose ++ []) := by
    rw [List.append_nil]
    exact (List.perm_append_comm.trans (List.perm_cons_erase hn).symm).subperm
  have hown : ∀ u ∈ ([] : List Token), u.document = onto.document := nofun
  have hstep := handIn_step hs hown ho hget' hnumber
  rw [record_nil] at hstep
  exact ⟨_, hstep⟩

lemma link_step (hs : s.Inv) (onto number : Nat) :
    ∃ fresh done, Step s ((Request.link onto number).target? s) fresh done
      (s.perform (.link onto number)) := by
  rw [perform, Request.target?]
  split
  next r t hr ht =>
    rw [hr]
    exact loose_step hs (hs.refs r (List.mem_of_getElem? hr)) ht
  next => exact ⟨[], [], step_refl s _⟩

lemma tail_attach (s : Store) (b : ChainBuilder) (t : Token) :
    (s.attach b t).value.1.toOption.map ChainBuilder.tail = (s.link b.tail t).value.1.toOption := by
  rw [Store.value_attach]
  cases (s.link b.tail t).value.1 with
  | error cause => rfl
  | ok r => rfl

lemma holds_attach (hs : s.Inv) {b b' : ChainBuilder} (hb : b ∈ s.builders) {t : Token}
    (h : (s.store.attach b t).value.1.toOption = some b') :
    (s.store.attach b t).value.2.Holds b'.tail := by
  rw [toOption_eq_some_iff] at h
  rw [Store.value_attach] at h ⊢
  obtain ⟨r, hr, rfl⟩ := map_eq_ok_iff.1 h
  exact (Store.link_change hs.sound (hs.tails b hb) t).2 r hr

/-- What a builder attaches is handed in for the builder's tail. -/
lemma builder_step (hs : s.Inv) {b : ChainBuilder} (hb : b ∈ s.builders) (builder : Nat)
    {number : Nat} {t : Token} {fresh : List Minted} {done : List Link}
    (h : Step s (some b.document) fresh done (s'.handIn ⟨b.document, number, t⟩
      (s.store.link b.tail t).value.2 (s.store.link b.tail t).value.1.toOption)) :
    Step s (some b.document) fresh done ((s'.handIn ⟨b.document, number, t⟩
      (s.store.attach b t).value.2
        ((s.store.attach b t).value.1.toOption.map ChainBuilder.tail)).advance builder
          (s.store.attach b t).value.1.toOption) := by
  have hstore : (s.store.attach b t).value.2 = (s.store.link b.tail t).value.2 := by
    rw [Store.value_attach]
  refine Step.advance ?_ builder fun b' hb' => holds_attach hs hb hb'
  rw [tail_attach, hstore]
  exact h

lemma attach_step (hs : s.Inv) (builder number : Nat) :
    ∃ fresh done, Step s ((Request.attach builder number).target? s) fresh done
      (s.perform (.attach builder number)) := by
  rw [perform, Request.target?]
  split
  next b t hb ht =>
    rw [hb]
    have hmem := List.mem_of_getElem? hb
    obtain ⟨fresh, done, hstep⟩ := loose_step hs (hs.tails b hmem) ht
    exact ⟨fresh, done, builder_step hs hmem builder hstep⟩
  next => exact ⟨[], [], step_refl s _⟩

lemma minted_step (hs : s.Inv) {b : ChainBuilder} (hb : b ∈ s.builders) {t : Token}
    (ht : t.document = b.document) :
    ∃ fresh done, Step s (some b.document) fresh done ((s.record b.document [t]).handIn
      ⟨b.document, s.minted.length, t⟩ (s.store.link b.tail t).value.2
        (s.store.link b.tail t).value.1.toOption) := by
  have hown : ∀ u ∈ [t], u.document = b.document := by
    intro u hu
    obtain rfl := List.mem_singleton.1 hu
    exact ht
  have hget : (s.record b.document [t]).minted[s.minted.length]? = some ⟨t.document, t⟩ := by
    rw [ht]
    exact List.getElem?_concat_length
  have hnumber : (s.loose.erase s.minted.length ++ [s.minted.length]).Subperm
      (s.loose ++ List.range' s.minted.length 1) :=
    (List.subperm_append_right _).2 List.erase_sublist.subperm
  exact ⟨_, handIn_step hs hown (hs.tails b hb) hget hnumber⟩

lemma push_step (hs : s.Inv) (builder : Nat) (kind : TokenKind) (excerpt : Excerpt)
    (constant : Option String) :
    ∃ fresh done, Step s ((Request.push builder kind excerpt constant).target? s) fresh done
      (s.perform (.push builder kind excerpt constant)) := by
  rw [perform, Request.target?]
  split
  next => exact ⟨[], [], step_refl s _⟩
  next b hb =>
    rw [hb]
    split
    next => exact ⟨[], [], step_refl s _⟩
    next d hd =>
      have hmem := List.mem_of_getElem? hb
      obtain ⟨fresh, done, hstep⟩ := minted_step hs hmem
        (t := (d.mint kind excerpt constant).value) (hs.sound.numbered hd)
      simp only [Store.value_push hd]
      exact ⟨fresh, done, builder_step hs hmem builder hstep⟩

lemma scan_step {σ : Type} (hs : s.Inv) (id : DocumentId) (eofKind : Option TokenKind)
    (decider : Decider σ) (m : σ) :
    ∃ fresh done, Step s (some id) fresh done (s.perform (.scan id eofKind decider m)) := by
  obtain ⟨⟨links, hc, hlinks⟩, htail⟩ := Store.scan_change hs.sound id eofKind decider m
  rw [perform]
  generalize s.store.scanTokens id eofKind decider m = tokens at hlinks
  have hown : ∀ t ∈ tokens, t.document = id := by
    intro t ht
    rw [← hlinks] at ht
    obtain ⟨r, hr, rfl⟩ := List.mem_map.1 ht
    exact (Option.some.inj (hc.target_eq hs.sound r hr)).symm
  refine ⟨tokens.map (Minted.mk id),
    (tokens.zipIdx s.minted.length).map fun p => Link.mk id p.2 p.1, ?_⟩
  exact
    { change := by
        refine ⟨links, hc, ?_⟩
        rw [hlinks, List.map_map]
        exact (List.zipIdx_map_fst _ _).symm
      minted := rfl
      own := by
        intro m hm
        obtain ⟨t, ht, rfl⟩ := List.mem_map.1 hm
        exact hown t ht
      history := rfl
      numbers := by
        have hmap : ((tokens.zipIdx s.minted.length).map fun p => Link.mk id p.2 p.1).map
            Link.number = List.range' s.minted.length tokens.length := by
          rw [List.map_map]
          exact List.zipIdx_map_snd _ _
        rw [hmap, List.length_map]
        exact List.Subperm.refl _
      linked := by
        intro l hl
        obtain ⟨⟨t, number⟩, hp, rfl⟩ := List.mem_map.1 hl
        obtain ⟨hle, hlt, hget⟩ := List.mem_zipIdx hp
        have hindex : number - s.minted.length < tokens.length := by omega
        simp only [record]
        rw [List.getElem?_append_right hle, List.getElem?_map, List.getElem?_eq_getElem hindex,
          Option.map_some, hget]
      refs := fun r hr => .inl hr
      tails := by
        intro b hb
        rcases List.mem_append.1 hb with hb | hb
        · exact .inl hb
        · exact .inr (htail b (toOption_eq_some_iff.1 (Option.mem_toList.1 hb))) }

/-! ### Every session -/

/-- Each request changes at most the document it is about. -/
theorem perform_step (hs : s.Inv) (q : Request) :
    ∃ fresh done, Step s (q.target? s) fresh done (s.perform q) := by
  cases q with
  | create text names verifyImages =>
    refine ⟨[], [], step_of_change (.create text names verifyImages) rfl rfl rfl ?_ ?_⟩
    · exact fun r hr => .inl hr
    · exact fun b hb => .inl hb
  | tryOpen id => exact ⟨[], [], tryOpen_step hs id⟩
  | sentinel id => exact ⟨[], [], sentinel_step hs id⟩
  | first id => exact ⟨[], [], first_step hs id⟩
  | next ref => exact ⟨[], [], next_step hs ref⟩
  | tail builder => exact ⟨[], [], tail_step hs builder⟩
  | mint id kind excerpt constant =>
    obtain ⟨fresh, hstep⟩ := mint_step hs id kind excerpt constant
    exact ⟨fresh, [], hstep⟩
  | link onto number => exact link_step hs onto number
  | build id => exact ⟨[], [], build_step hs id⟩
  | attach builder number => exact attach_step hs builder number
  | push builder kind excerpt constant => exact push_step hs builder kind excerpt constant
  | scan id eofKind decider m => exact scan_step hs id eofKind decider m

lemma perform_inv (hs : s.Inv) (q : Request) : (s.perform q).Inv := by
  obtain ⟨fresh, done, hstep⟩ := perform_step hs q
  exact hstep.inv hs

lemma run_inv (hs : s.Inv) (requests : List Request) : (s.run requests).Inv := by
  induction requests generalizing s with
  | nil => exact hs
  | cons q requests ih => exact ih (perform_inv hs q)

theorem inv_after (requests : List Request) : (after requests).Inv := run_inv inv_empty requests

end Session

end FrontEnd
