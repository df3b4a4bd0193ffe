import FrontEnd.Proofs.Session.History
import FrontEnd.Proofs.Session.Replies

/-!
# What a builder knows of its chain

A builder keeps the last token it has linked and the number of those it has linked, beside a chain
that every client with a linked token can extend. A request leaves the builder as it is, moves it on
by one link or starts it (`builder_step`). So the builder always stands as many steps behind the
sentinel as it has linked tokens; as long as nobody else links in its document it stands at the end
of the chain, and once somebody has overtaken it, it never moves again (`seesChain_after`).
-/

namespace FrontEnd

namespace Document

/-- The token so many successors behind the sentinel, if the chain goes that far. -/
def behindSentinel? (d : Document) : Nat → Option LinkedToken
  | 0 => d.sentinel?
  | steps + 1 => (d.behindSentinel? steps).bind d.next?

lemma behindSentinel?_eq_at? (d : Document) (steps : Nat) : d.behindSentinel? steps = d.at? steps := by
  induction steps with
  | zero => rfl
  | succ steps ih =>
    rw [behindSentinel?, ih]
    cases hr : d.at? steps with
    | none =>
      have hsize := at?_eq_none_iff.1 hr
      exact (at?_eq_none_iff.2 (Nat.le_succ_of_le hsize)).symm
    | some r =>
      obtain ⟨-, rfl⟩ := at?_eq_some_iff.1 hr
      rfl

lemma real_eq_nil_of_not_isOpened {d : Document} (h : d.isOpened = false) : d.real = [] := by
  rw [real, chainFrom, isOpened_eq_false_iff.1 h]
  rfl

/-- The iterator of an open document yields the tokens behind the sentinel. -/
lemma tokens_of_isOpened {d : Document} (h : 0 < d.chain.size) :
    ∃ walk, d.tokens = .ok walk ∧ walk.remaining d = d.real := by
  obtain ⟨t, ht⟩ : ∃ t, d.chain[0]? = some t := ⟨_, Array.getElem?_eq_getElem h⟩
  have hsentinel : d.sentinel? = some ⟨t, 0⟩ := at?_eq_some_iff.2 ⟨ht, rfl⟩
  refine ⟨⟨d.next? ⟨t, 0⟩⟩, by rw [tokens, hsentinel], ?_⟩
  cases hr : d.next? ⟨t, 0⟩ with
  | none => exact (chainFrom_of_at?_eq_none hr).symm
  | some r =>
    obtain ⟨-, hposition⟩ := at?_eq_some_iff.1 hr
    change r :: d.chainFrom (r.position + 1) = d.chainFrom 1
    rw [chainFrom_of_at?_eq_some hr, hposition]

variable {σ : Type}

/-- The builder of a scan that succeeds stands at the end of the chain, behind all its tokens. -/
lemma scan_ok (d : Document) {eofKind : Option TokenKind} {decider : Decider σ} {m : σ}
    {b : ChainBuilder} (h : (d.scan eofKind decider m).value.result = .ok b) :
    d.isOpened = false ∧ b.size = b.tail.position ∧
      b.size = (d.scanTokens eofKind decider m).length := by
  rcases ChainBuilder.start_cases d with ⟨cause, hs⟩ | ⟨hc, hfits, -⟩
  · rw [scan_of_refused hs] at h
    cases h
  have hopen := isOpened_eq_false_iff.2 hc
  have hchain : (d.scan eofKind decider m).value.document.chain.toList.length =
      (Token.sentinel d.id :: d.scanTokens eofKind decider m).length := by
    rw [chain_scan_of_not_isOpened hopen hfits]
  have hstop := scanned_stop decider hopen hfits eofKind m
  rw [List.length_cons, Array.length_toList] at hchain
  refine ⟨hopen, ?_⟩
  rw [d.value_scan eofKind decider m] at h hchain
  generalize (d.scan eofKind decider.recorded (m, [])).value = o at hstop h hchain
  cases hstop with
  | finished hscanned _ _ =>
    cases h
    have hlast := hscanned.step.last
    have hsize := hscanned.step.size_eq
    simp only [ScanOutcome.forget] at hchain
    omega
  | closed hscanned _ _ =>
    cases h
    have hlast := hscanned.step.last
    have hsize := hscanned.step.size_eq
    simp only [ScanOutcome.forget, Array.size_push] at hchain ⊢
    omega
  | stuck _ _ _ => cases h

end Document

namespace Store

variable {s : Store}

/-- A token that is linked comes right behind the one it is linked onto, in the same document. -/
lemma link_behind (hs : s.Sound) {onto r : LinkedToken} (ho : s.Holds onto) {t : Token}
    (h : (s.link onto t).value.1 = .ok r) :
    r.position = onto.position + 1 ∧ r.document = onto.document ∧
      ∃ d, s.document? onto.document = some d ∧ d.next? onto = none := by
  obtain ⟨d, hd, ho⟩ := ho
  rw [link, value_update_some hd] at h
  rcases d.link_cases onto t with ⟨cause, hl⟩ | ⟨hnone, hl⟩
  · rw [hl] at h
    cases h
  · obtain ⟨hown, -, -, -, hsize⟩ := Document.linkError?_eq_none_iff.1 hnone
    rw [hl] at h
    cases h
    refine ⟨hsize, hown.trans (hs.numbered hd), d, hd, ?_⟩
    exact Document.at?_eq_none_iff.2 (Nat.le_of_eq hsize)

end Store

/-- Whether a builder has linked a token. -/
def Reply.isBuilt : Reply → Bool
  | builder (.ok _) => true
  | _ => false

namespace Session

/-- How many tokens a request links through a builder. -/
def pushes (s : Session) (builder : Nat) : Request → Nat
  | .attach i number => if i = builder ∧ (s.reply (.attach i number)).isBuilt = true then 1 else 0
  | .push i kind excerpt constant =>
    if i = builder ∧ (s.reply (.push i kind excerpt constant)).isBuilt = true then 1 else 0
  | .scan id eofKind decider memory =>
    if s.builders.length = builder ∧ (s.store.scan id eofKind decider memory).value.1.isOk = true then
      (s.store.scanTokens id eofKind decider memory).length
    else 0
  | _ => 0

/-- How many tokens some requests link through a builder. -/
def pushesBy (s : Session) (builder : Nat) : List Request → Nat
  | [] => 0
  | q :: requests => s.pushes builder q + (s.perform q).pushesBy builder requests

/-- Whatever some requests link in a document, they link through a builder. -/
def LinksThrough (s : Session) (builder : Nat) (id : DocumentId) : List Request → Prop
  | [] => True
  | q :: requests => ((s.perform q).linksOf id = s.linksOf id ∨ 0 < s.pushes builder q) ∧
      (s.perform q).LinksThrough builder id requests

variable {s s' : Session} {builder : Nat}

lemma pushesBy_append (s : Session) (builder : Nat) (requests later : List Request) :
    s.pushesBy builder (requests ++ later) =
      s.pushesBy builder requests + (s.run requests).pushesBy builder later := by
  induction requests generalizing s with
  | nil => exact (Nat.zero_add _).symm
  | cons q requests ih =>
    rw [List.cons_append, pushesBy, pushesBy, ih, Nat.add_assoc]
    rfl

lemma linksThrough_append {id : DocumentId} {requests later : List Request} :
    s.LinksThrough builder id (requests ++ later) ↔
      s.LinksThrough builder id requests ∧ (s.run requests).LinksThrough builder id later := by
  induction requests generalizing s with
  | nil =>
    rw [List.nil_append, LinksThrough, true_and]
    rfl
  | cons q requests ih =>
    rw [List.cons_append, LinksThrough, LinksThrough, ih, and_assoc]
    rfl

/-! ### What a request makes of a builder -/

/-- A request leaves a builder as it is, moves it on to a token it has linked, or starts it. -/
inductive BuilderStep (s : Session) (builder : Nat) (q : Request) :
    Option ChainBuilder → Option ChainBuilder → Prop where
  | kept (b : Option ChainBuilder) : s.pushes builder q = 0 → BuilderStep s builder q b b
  | pushed {b : ChainBuilder} {t : Token} {r : LinkedToken} :
      (s.store.link b.tail t).value.1 = .ok r → s.pushes builder q = 1 →
      ((s.perform q).linksOf b.document).length = (s.linksOf b.document).length + 1 →
      BuilderStep s builder q (some b) (some ⟨r, b.size + 1⟩)
  | started {b : ChainBuilder} :
      b.size = b.tail.position → s.pushes builder q = b.size →
      ((s.perform q).linksOf b.document).length = b.size →
      BuilderStep s builder q none (some b)

lemma linksOf_handIn_some (s : Session) (link : Link) (store : Store) (r : LinkedToken) :
    (s.handIn link store (some r)).linksOf link.document = s.linksOf link.document ++ [link] := by
  simp [linksOf, handIn]

lemma linksOf_advance (s : Session) {id : DocumentId} (builder : Nat) (b : Option ChainBuilder) :
    (s.advance builder b).linksOf id = s.linksOf id := by
  cases b with
  | none => rfl
  | some b => rfl

lemma linksOf_eq_nil_of_not_isOpened (hs : s.Inv) {id : DocumentId} {d : Document}
    (hd : s.store.document? id = some d) (hopen : d.isOpened = false) : s.linksOf id = [] := by
  have htokens := hs.tokens id
  rw [Store.tokensOf, hd, Option.map_some, Option.getD_some,
    Document.real_eq_nil_of_not_isOpened hopen, List.map_nil] at htokens
  exact List.map_eq_nil_iff.1 htokens.symm

/-- A builder that hands in a token moves on if the token is linked; no other builder moves. -/
lemma builderStep_handIn {q : Request} {i : Nat} {b : ChainBuilder} (s₀ : Session) (number : Nat)
    (t : Token) (hb : s.builders[i]? = some b) (hbuilders : s₀.builders = s.builders)
    (hhistory : s₀.history = s.history)
    (hperform : s.perform q = (s₀.handIn ⟨b.document, number, t⟩ (s.store.attach b t).value.2
      ((s.store.attach b t).value.1.toOption.map ChainBuilder.tail)).advance i
        (s.store.attach b t).value.1.toOption)
    (hpushes : s.pushes builder q =
      if i = builder ∧ (Reply.builder (s.store.attach b t).value.1).isBuilt = true then 1 else 0) :
    BuilderStep s builder q s.builders[builder]? (s.perform q).builders[builder]? := by
  rw [Store.value_attach] at hperform hpushes
  cases hv : (s.store.link b.tail t).value.1 with
  | error cause =>
    rw [hv] at hperform hpushes
    have hsame : (s.perform q).builders = s.builders := by
      rw [hperform]
      exact hbuilders
    rw [hsame]
    exact .kept _ (hpushes.trans (if_neg fun h => Bool.noConfusion h.2))
  | ok r =>
    rw [hv] at hperform hpushes
    have hset : (s.perform q).builders = s.builders.set i ⟨r, b.size + 1⟩ := by
      rw [hperform, ← hbuilders]
      rfl
    rw [hset]
    by_cases hi : i = builder
    · subst hi
      obtain ⟨hlt, -⟩ := List.getElem?_eq_some_iff.1 hb
      rw [hb, List.getElem?_set_self hlt]
      refine .pushed hv (hpushes.trans (if_pos ⟨rfl, rfl⟩)) ?_
      have hlinks : (s.perform q).linksOf b.document =
          s₀.linksOf b.document ++ [⟨b.document, number, t⟩] := by
        rw [hperform, linksOf_advance]
        exact linksOf_handIn_some s₀ ⟨b.document, number, t⟩ _ r
      rw [hlinks, List.length_append, List.length_singleton, linksOf, hhistory, linksOf]
    · rw [List.getElem?_set_ne hi]
      exact .kept _ (hpushes.trans (if_neg fun h => hi h.1))

/-- A request that links nothing through a builder may have started one at most. -/
lemma builderStep_started {q : Request} (found : Option ChainBuilder)
    (hbuilders : (s.perform q).builders = s.builders ++ found.toList)
    (hnone : s.builders.length ≠ builder ∨ found = none → s.pushes builder q = 0)
    (hsome : ∀ b, found = some b → s.builders.length = builder →
      b.size = b.tail.position ∧ s.pushes builder q = b.size ∧
        ((s.perform q).linksOf b.document).length = b.size) :
    BuilderStep s builder q s.builders[builder]? (s.perform q).builders[builder]? := by
  cases found with
  | none =>
    rw [hbuilders, Option.toList_none, List.append_nil]
    exact .kept _ (hnone (.inr rfl))
  | some b =>
    rw [hbuilders, Option.toList_some]
    rcases Nat.lt_trichotomy builder s.builders.length with hlt | rfl | hlt
    · rw [List.getElem?_append_left hlt]
      exact .kept _ (hnone (.inl hlt.ne'))
    · obtain ⟨hposition, hpushes, hlinks⟩ := hsome b rfl rfl
      rw [List.getElem?_concat_length, List.getElem?_eq_none_iff.2 (Nat.le_refl _)]
      exact .started hposition hpushes hlinks
    · have hout : (s.builders ++ [b]).length ≤ builder := by simpa using Nat.succ_le_of_lt hlt
      rw [List.getElem?_eq_none_iff.2 hout, List.getElem?_eq_none_iff.2 hlt.le]
      exact .kept _ (hnone (.inl hlt.ne))

lemma builderStep_build (hs : s.Inv) (builder : Nat) (id : DocumentId) :
    BuilderStep s builder (.build id) s.builders[builder]?
      (s.perform (.build id)).builders[builder]? := by
  refine builderStep_started (s.store.build id).value.1.toOption rfl (fun _ => rfl) ?_
  intro b hb _
  rw [toOption_eq_some_iff, Store.value_build] at hb
  obtain ⟨r, hr, rfl⟩ := map_eq_ok_iff.1 hb
  cases hd : s.store.document? id with
  | none =>
    rw [Store.tryOpen, Store.value_update_none hd] at hr
    cases hr
  | some d =>
    rw [Store.tryOpen, Store.value_update_some hd] at hr
    rcases d.tryOpen_cases with ⟨cause, ho⟩ | ⟨hc, -, ho⟩
    · rw [ho] at hr
      cases hr
    · rw [ho] at hr
      cases hr
      have hnil := linksOf_eq_nil_of_not_isOpened hs hd (Document.isOpened_eq_false_iff.2 hc)
      refine ⟨rfl, rfl, ?_⟩
      have hid : ChainBuilder.document ⟨⟨Token.sentinel d.id, 0⟩, 0⟩ = id := hs.sound.numbered hd
      rw [hid]
      exact congrArg List.length hnil

lemma builderStep_scan {σ : Type} (hs : s.Inv) (builder : Nat) (id : DocumentId)
    (eofKind : Option TokenKind) (decider : Decider σ) (memory : σ) :
    BuilderStep s builder (.scan id eofKind decider memory) s.builders[builder]?
      (s.perform (.scan id eofKind decider memory)).builders[builder]? := by
  refine builderStep_started (s.store.scan id eofKind decider memory).value.1.toOption rfl ?_ ?_
  · intro h
    refine if_neg ?_
    rintro ⟨hlength, hok⟩
    rcases h with hne | hnone
    · exact hne hlength
    · cases hv : (s.store.scan id eofKind decider memory).value.1 with
      | error e =>
        rw [hv] at hok
        cases hok
      | ok b =>
        rw [hv] at hnone
        cases hnone
  · intro b hb hlength
    rw [toOption_eq_some_iff] at hb
    have hpushes : s.pushes builder (.scan id eofKind decider memory) =
        (s.store.scanTokens id eofKind decider memory).length := if_pos ⟨hlength, by rw [hb]; rfl⟩
    cases hd : s.store.document? id with
    | none =>
      rw [Store.scan, hd] at hb
      cases hb
    | some d =>
      have htokens : s.store.scanTokens id eofKind decider memory =
          d.scanTokens eofKind decider memory := by
        rw [Store.scanTokens, hd]
        rfl
      rw [Store.scan, hd] at hb
      obtain ⟨hopen, hposition, hsize⟩ := d.scan_ok hb
      obtain ⟨⟨links, hgrow⟩, hholds⟩ := d.scan_becomes eofKind decider memory
      have hdocument : b.document = id :=
        ((hgrow.sound (hs.sound.sound hd)).document_eq (hholds b hb)).trans
          (hgrow.id_eq.trans (hs.sound.numbered hd))
      have hnil := linksOf_eq_nil_of_not_isOpened hs hd hopen
      refine ⟨hposition, ?_, ?_⟩
      · rw [hpushes, htokens, hsize]
      · rw [hdocument, hsize, ← htokens]
        have hlinks : (s.perform (.scan id eofKind decider memory)).linksOf id = s.linksOf id ++
            ((s.store.scanTokens id eofKind decider memory).zipIdx s.minted.length).map
              fun p => Link.mk id p.2 p.1 := by
          simp [linksOf, perform, List.filter_map, Function.comp_def]
        rw [hlinks, hnil, List.nil_append, List.length_map, List.length_zipIdx]

/-- A request that is not about a builder leaves it as it is. -/
lemma builderStep_same {q : Request} (hbuilders : (s.perform q).builders = s.builders)
    (hpushes : s.pushes builder q = 0) :
    BuilderStep s builder q s.builders[builder]? (s.perform q).builders[builder]? := by
  rw [hbuilders]
  exact .kept _ hpushes

/-- Whatever is asked for, each builder takes one of these steps. -/
theorem perform_builderStep (hs : s.Inv) (builder : Nat) (q : Request) :
    BuilderStep s builder q s.builders[builder]? (s.perform q).builders[builder]? := by
  cases q with
  | build id => exact builderStep_build hs builder id
  | scan id eofKind decider memory => exact builderStep_scan hs builder id eofKind decider memory
  | mint id kind excerpt constant =>
    refine builderStep_same ?_ rfl
    rw [perform]
    split
    next => rfl
    next => rfl
  | link onto number =>
    refine builderStep_same ?_ rfl
    rw [perform]
    split
    next => rfl
    next => rfl
  | attach i number =>
    cases hb : s.builders[i]? with
    | none =>
      refine builderStep_same ?_ ?_
      · simp only [perform, hb]
      · simp [pushes, reply, hb, Reply.isBuilt]
    | some b =>
      cases ht : s.loose? number with
      | none =>
        refine builderStep_same ?_ ?_
        · simp only [perform, hb, ht]
        · simp [pushes, reply, hb, ht, Reply.isBuilt]
      | some t =>
        refine builderStep_handIn s number t hb rfl rfl ?_ ?_
        · simp only [perform, hb, ht]
        · simp only [pushes, reply, hb, ht]
  | push i kind excerpt constant =>
    cases hb : s.builders[i]? with
    | none =>
      refine builderStep_same ?_ ?_
      · simp only [perform, hb]
      · simp [pushes, reply, hb, Reply.isBuilt]
    | some b =>
      obtain ⟨d, hd, -⟩ := hs.tails b (List.mem_of_getElem? hb)
      have hdocument : s.store.document? b.document = some d := hd
      refine builderStep_handIn (s.record b.document [(d.mint kind excerpt constant).value])
        s.minted.length (d.mint kind excerpt constant).value hb rfl rfl ?_ ?_
      · simp only [perform, hb, hdocument, Store.value_push hdocument]
      · simp only [pushes, reply, hb, Store.value_push hdocument]
  | _ => exact .kept _ rfl

/-! ### What holds of a builder -/

/-- A builder stands as many steps behind the sentinel as it has linked tokens. -/
lemma size_eq_after (builder : Nat) (requests : List Request) :
    empty.pushesBy builder requests =
        ((after requests).builders[builder]?.map ChainBuilder.size).getD 0 ∧
      ∀ b, (after requests).builders[builder]? = some b → b.size = b.tail.position := by
  induction requests using List.reverseRecOn with
  | nil => exact ⟨rfl, nofun⟩
  | append_singleton requests q ih =>
    obtain ⟨hcount, hposition⟩ := ih
    have hs := inv_after requests
    have hstep := perform_builderStep hs builder q
    rw [pushesBy_append, hcount, after_concat]
    change _ + ((after requests).pushes builder q + 0) = _ ∧ _
    generalize hb : (after requests).builders[builder]? = before at hstep hposition ⊢
    generalize ((after requests).perform q).builders[builder]? = next at hstep ⊢
    cases hstep with
    | kept _ hpushes =>
      rw [hpushes]
      exact ⟨rfl, hposition⟩
    | @pushed b t r hlink hpushes _ =>
      have hbehind := (Store.link_behind hs.sound (hs.tails b (List.mem_of_getElem? hb)) hlink).1
      rw [hpushes]
      refine ⟨rfl, ?_⟩
      rintro b' ⟨⟩
      rw [hbehind, ← hposition b rfl]
    | started hsize hpushes _ =>
      rw [hpushes]
      refine ⟨Nat.zero_add _, ?_⟩
      rintro b' ⟨⟩
      exact hsize

/-- Where only the builder links, the links of the document are the builder's. -/
lemma length_linksOf_after {requests : List Request} {b : ChainBuilder}
    (hb : (after requests).builders[builder]? = some b)
    (hthrough : empty.LinksThrough builder b.document requests) :
    ((after requests).linksOf b.document).length = b.size := by
  induction requests using List.reverseRecOn generalizing b with
  | nil => cases hb
  | append_singleton requests q ih =>
    have hs := inv_after requests
    have hstep := perform_builderStep hs builder q
    obtain ⟨hthrough, hq, -⟩ := linksThrough_append.1 hthrough
    rw [after_concat] at hb ⊢
    rw [hb] at hstep
    generalize hbefore : (after requests).builders[builder]? = before at hstep
    cases hstep with
    | kept _ hpushes =>
      have hsame : ((after requests).perform q).linksOf b.document =
          (after requests).linksOf b.document :=
        hq.resolve_right (hpushes ▸ Nat.lt_irrefl 0)
      rw [hsame, ih hbefore hthrough]
    | @pushed b t r hlink hpushes hlength =>
      have hdocument : r.document = b.document :=
        (Store.link_behind hs.sound (hs.tails b (List.mem_of_getElem? hbefore)) hlink).2.1
      change (((after requests).perform q).linksOf r.document).length = b.size + 1
      change empty.LinksThrough builder r.document requests at hthrough
      rw [hdocument] at hthrough ⊢
      rw [hlength, ih hbefore hthrough]
    | started _ _ hlength => exact hlength

/-- A builder that has been overtaken: it stays as it is, and every token it is to link is
refused. -/
structure Stalled (s : Session) (builder : Nat) (b : ChainBuilder) : Prop where
  builds : s.builders[builder]? = some b
  push : ∀ kind excerpt constant, ∃ cause,
    s.reply (.push builder kind excerpt constant) = .builder (.error cause)
  attach : ∀ number t, s.loose? number = some t →
    ∃ cause, s.reply (.attach builder number) = .builder (.error cause)

/-- What follows the builder's last token is none of its own. -/
structure Overtaken (s : Session) (builder : Nat) (b : ChainBuilder) : Prop where
  builds : s.builders[builder]? = some b
  followed : ∃ d r, s.store.document? b.document = some d ∧ d.next? b.tail = some r

namespace Overtaken

variable {b : ChainBuilder}

lemma link_error (hs : s.Inv) (h : s.Overtaken builder b) (t : Token) :
    ∃ cause, (s.store.link b.tail t).value.1 = .error cause := by
  obtain ⟨d, r, hd, hr⟩ := h.followed
  cases hv : (s.store.link b.tail t).value.1 with
  | error cause => exact ⟨cause, rfl⟩
  | ok r' =>
    have hholds := hs.tails b (List.mem_of_getElem? h.builds)
    obtain ⟨-, -, d', hd', hnone⟩ := Store.link_behind hs.sound hholds hv
    obtain rfl : d' = d := Option.some.inj (hd'.symm.trans hd)
    rw [hr] at hnone
    cases hnone

lemma perform (hs : s.Inv) (h : s.Overtaken builder b) (q : Request) :
    (s.perform q).Overtaken builder b := by
  obtain ⟨d, r, hd, hr⟩ := h.followed
  obtain ⟨e, links, he, hgrow⟩ := hs.perform_becomes q hd
  refine ⟨?_, e, r, he, hgrow.next?_eq hr⟩
  have hstep := perform_builderStep hs builder q
  rw [h.builds] at hstep
  generalize (s.perform q).builders[builder]? = next at hstep ⊢
  cases hstep with
  | kept _ _ => rfl
  | pushed hlink _ _ =>
    obtain ⟨cause, herror⟩ := h.link_error hs _
    rw [hlink] at herror
    cases herror

lemma run (hs : s.Inv) (h : s.Overtaken builder b) (later : List Request) :
    (s.run later).Overtaken builder b := by
  induction later generalizing s with
  | nil => exact h
  | cons q later ih => exact ih (perform_inv hs q) (h.perform hs q)

lemma stalled (hs : s.Inv) (h : s.Overtaken builder b) : s.Stalled builder b where
  builds := h.builds
  push kind excerpt constant := by
    obtain ⟨d, r, hd, -⟩ := h.followed
    obtain ⟨cause, herror⟩ := h.link_error hs (d.mint kind excerpt constant).value
    refine ⟨cause, ?_⟩
    simp only [reply, h.builds, Store.value_push hd, Store.value_attach, herror]
    rfl
  attach number t ht := by
    obtain ⟨cause, herror⟩ := h.link_error hs t
    refine ⟨cause, ?_⟩
    simp only [reply, h.builds, ht, Store.value_attach, herror]
    rfl

end Overtaken

/-- Another client that links onto the builder's last token overtakes it. -/
lemma overtaken_of_link (hs : s.Inv) {b : ChainBuilder} (hb : s.builders[builder]? = some b)
    {onto number : Nat} {r : LinkedToken} (honto : s.refs[onto]? = some b.tail)
    (hreply : s.reply (.link onto number) = .token (.ok r)) :
    (s.perform (.link onto number)).Overtaken builder b := by
  have hholds := hs.tails b (List.mem_of_getElem? hb)
  cases ht : s.loose? number with
  | none =>
    simp only [reply, honto, ht] at hreply
    cases hreply
  | some t =>
    simp only [reply, honto, ht] at hreply
    have hlink : (s.store.link b.tail t).value.1 = .ok r := by
      injection hreply
    obtain ⟨hposition, hdocument, -⟩ := Store.link_behind hs.sound hholds hlink
    obtain ⟨e, he, hr⟩ := (Store.link_change hs.sound hholds t).2 r hlink
    simp only [perform, honto, ht]
    refine ⟨hb, e, r, ?_, ?_⟩
    · rw [hdocument] at he
      exact he
    · rw [Document.Holds, hposition] at hr
      exact hr

/-- What a builder says of its document is true, whatever other clients have linked there. -/
structure SeesChain (requests : List Request) (builder : Nat) (b : ChainBuilder) (d : Document) :
    Prop where
  reached : ∀ steps, d.behindSentinel? steps = some b.tail ↔ steps = b.size
  counts : b.size = empty.pushesBy builder requests
  /-- As long as all links of the document are its own, it stands at the end of the chain. -/
  alone : empty.LinksThrough builder b.document requests → d.next? b.tail = none ∧
    ∃ walk, d.tokens = .ok walk ∧ (walk.remaining d).length = b.size
  /-- As soon as its last token has a successor, it is stalled for ever. -/
  overtaken : ∀ r, d.next? b.tail = some r →
    ∀ later, ((after requests).run later).Stalled builder b
  /-- That is so from the first link on that another client makes onto that token. -/
  linked : ∀ onto number r, (after requests).refs[onto]? = some b.tail →
    (after requests).reply (.link onto number) = .token (.ok r) →
      ∀ later, ((after requests).run (.link onto number :: later)).Stalled builder b

/-- After any requests in any order every builder sees its chain as it is. -/
theorem seesChain_after (requests : List Request) (builder : Nat) (b : ChainBuilder)
    (hb : (after requests).builders[builder]? = some b) :
    ∃ d, (after requests).store.document? b.document = some d ∧
      SeesChain requests builder b d := by
  have hs := inv_after requests
  obtain ⟨hcount, hposition⟩ := size_eq_after builder requests
  have hsize := hposition b hb
  obtain ⟨d, hfound, hholds⟩ := hs.tails b (List.mem_of_getElem? hb)
  have hd : (after requests).store.document? b.document = some d := hfound
  refine ⟨d, hd, ?_⟩
  exact
    { reached := by
        intro steps
        rw [Document.behindSentinel?_eq_at?, hsize]
        constructor
        · intro hat
          exact (Document.at?_eq_some_iff.1 hat).2.symm
        · rintro rfl
          exact hholds
      counts := by
        rw [hcount, hb]
        rfl
      alone := by
        intro hthrough
        have hlength : d.real.length = b.size := by
          have htokens := congrArg List.length (hs.tokens b.document)
          rw [List.length_map, List.length_map, length_linksOf_after hb hthrough, Store.tokensOf,
            hd] at htokens
          exact htokens
        obtain ⟨hlt, -⟩ := Array.getElem?_eq_some_iff.1 (Document.holds_iff.1 hholds)
        obtain ⟨walk, hwalk, hremaining⟩ := Document.tokens_of_isOpened (Nat.zero_lt_of_lt hlt)
        refine ⟨?_, walk, hwalk, hremaining ▸ hlength⟩
        rw [Document.real, Document.length_chainFrom] at hlength
        exact Document.at?_eq_none_iff.2 (by omega)
      overtaken := by
        intro r hr later
        have hover : (after requests).Overtaken builder b := ⟨hb, d, r, hd, hr⟩
        exact (hover.run hs later).stalled (run_inv hs later)
      linked := by
        intro onto number r honto hreply later
        have hover := overtaken_of_link hs hb honto hreply
        have hnext := perform_inv hs (.link onto number)
        exact (hover.run hnext later).stalled (run_inv hnext later) }

/-- A builder has linked one token, and two more are loose. -/
def overtakingRequests : List Request :=
  [.create "abc" .unnamed false, .build ⟨0⟩, .push 0 ⟨7⟩ ⟨⟨0, 1⟩, "a"⟩ none,
    .mint ⟨0⟩ ⟨7⟩ ⟨⟨1, 2⟩, "b"⟩ none, .mint ⟨0⟩ ⟨7⟩ ⟨⟨2, 3⟩, "c"⟩ none]

theorem seesChain_after_overtaking :
    ∃ b d, (after overtakingRequests).builders[0]? = some b ∧
      (after overtakingRequests).store.document? b.document = some d ∧ b.size = 1 ∧
      d.next? b.tail = none ∧
      ((after overtakingRequests).run [.link 0 1, .attach 0 2]).Stalled 0 b := by
  have hb : (after overtakingRequests).builders[0]? =
      some ⟨⟨⟨⟨7⟩, .owned "a", ⟨0, 1⟩, ⟨0⟩⟩, 1⟩, 1⟩ := by decide
  obtain ⟨d, hd, h⟩ := seesChain_after overtakingRequests 0 _ hb
  have hthrough : empty.LinksThrough 0 ⟨0⟩ overtakingRequests :=
    ⟨.inl (by decide), .inl (by decide), .inr (by decide), .inl (by decide), .inl (by decide), trivial⟩
  refine ⟨_, d, hb, hd, rfl, (h.alone hthrough).1, ?_⟩
  exact h.linked 0 1 _ (by decide) rfl [.attach 0 2]

end Session

end FrontEnd
