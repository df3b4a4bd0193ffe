import FrontEnd.Proofs.Scan.InStep
import FrontEnd.Store

/-!
# How a store changes

A store changes in two ways: a document is created, or one document grows. `Store.Change` says so,
names that document and lists the tokens that were linked; each operation on a store is one change.
What was in a chain stays there, chains stay sound, no other document changes, and the tokens of
every document are those it had and those of the listed ones that are its own.
-/

namespace FrontEnd

namespace Store

def Holds (s : Store) (r : LinkedToken) : Prop :=
  ∃ d, s.document? r.document = some d ∧ d.Holds r

def tokensOf (s : Store) (id : DocumentId) : List LinkedToken :=
  ((s.document? id).map Document.real).getD []

/-- The whole chain of a document, its sentinel included. -/
def chainOf (s : Store) (id : DocumentId) : List LinkedToken :=
  ((s.document? id).map fun d => d.chainFrom 0).getD []

/-- The tokens minted in the course of a scan of a document. -/
def scanTokens {σ : Type} (s : Store) (id : DocumentId) (eofKind : Option TokenKind)
    (decider : Decider σ) (memory : σ) : List Token :=
  ((s.document? id).map fun d => d.scanTokens eofKind decider memory).getD []

/-- Every document has the number under which it is found, and a sound chain. -/
structure Sound (s : Store) : Prop where
  numbered : ∀ {id d}, s.document? id = some d → d.id = id
  sound : ∀ {id d}, s.document? id = some d → d.Sound

/-- What one operation can make of a store that changes no document but the target, with the tokens
it has linked. -/
inductive Change (s : Store) (target : Option DocumentId) : List LinkedToken → Store → Prop where
  | same : Change s target [] s
  | create (text : String) (names : KindNames) (verifyImages : Bool) :
      Change s target [] (s.create text names verifyImages).2
  | update {id : DocumentId} {d e : Document} {links : List LinkedToken} :
      target = some id → s.document? id = some d → d.Becomes links e → Change s target links (s.put e)

/-- A token was linked onto the last one of a chain, and is itself the last one now. -/
structure LinksLast (s : Store) (onto : LinkedToken) (t : Token) (linked : LinkedToken)
    (s' : Store) : Prop where
  last : (s.chainOf onto.document).getLast? = some onto
  token_eq : linked.token = t
  chain_eq : s'.chainOf onto.document = s.chainOf onto.document ++ [linked]

/-! ### Finding documents -/

lemma document?_put_self {s : Store} {d e : Document} (h : s.document? e.id = some d) :
    (s.put e).document? e.id = some e := by
  obtain ⟨hlt, -⟩ := Array.getElem?_eq_some_iff.1 h
  rw [document?, put, Array.getElem?_setIfInBounds_self_of_lt hlt]

lemma Sound.document?_put {s : Store} (hs : s.Sound) {id : DocumentId} {d e : Document}
    (hd : s.document? id = some d) (he : e.id = d.id) : (s.put e).document? id = some e := by
  have hid : e.id = id := he.trans (hs.numbered hd)
  rw [← hid] at hd ⊢
  exact document?_put_self hd

lemma Sound.put_self {s : Store} (hs : s.Sound) {id : DocumentId} {d : Document}
    (hd : s.document? id = some d) : s.put d = s := by
  have hid := hs.numbered hd
  obtain ⟨hlt, hget⟩ := Array.getElem?_eq_some_iff.1 hd
  rw [put, hid, Array.setIfInBounds_def, dif_pos hlt, ← hget, Array.set_getElem_self]

lemma document?_put_of_ne {s : Store} {e : Document} {id : DocumentId} (h : id ≠ e.id) :
    (s.put e).document? id = s.document? id := by
  rw [document?, put, Array.getElem?_setIfInBounds_ne]
  · rfl
  · intro he
    apply h
    exact congrArg DocumentId.mk he.symm

lemma document?_create (s : Store) (text : String) (names : KindNames) (verifyImages : Bool)
    (id : DocumentId) :
    (s.create text names verifyImages).2.document? id =
      if id = ⟨s.documents.size⟩ then some (.create id text names verifyImages)
      else s.document? id := by
  simp only [document?, create, Array.getElem?_push]
  by_cases h : id.val = s.documents.size
  · obtain rfl : id = ⟨s.documents.size⟩ := congrArg DocumentId.mk h
    simp
  · rw [if_neg h, if_neg]
    intro he
    exact h (congrArg DocumentId.val he)

lemma document?_of_create {s : Store} {text : String} {names : KindNames} {verifyImages : Bool}
    {id : DocumentId} {d : Document} (h : s.document? id = some d) :
    (s.create text names verifyImages).2.document? id = some d := by
  rw [document?_create, if_neg, h]
  rintro rfl
  obtain ⟨hlt, -⟩ := Array.getElem?_eq_some_iff.1 h
  exact Nat.lt_irrefl _ hlt

/-! ### What a change keeps -/

namespace Change

variable {s s' : Store} {target : Option DocumentId} {links : List LinkedToken}

/-- Every document of the store is still there and has grown, by its own tokens among the linked
ones; whatever document is new has no chain. -/
lemma document?_cases (h : Change s target links s') (hs : s.Sound) (id : DocumentId) :
    (∃ d e, s.document? id = some d ∧ s'.document? id = some e ∧
      d.Becomes (links.filter (·.document = id)) e) ∨
    s.document? id = none ∧ links.filter (·.document = id) = [] ∧
      ∀ e, s'.document? id = some e → e.id = id ∧ e.chain = #[] := by
  cases h with
  | same =>
    cases hd : s.document? id with
    | none => exact .inr ⟨rfl, rfl, nofun⟩
    | some d => exact .inl ⟨d, d, rfl, rfl, .same⟩
  | create text names verifyImages =>
    cases hd : s.document? id with
    | some d => exact .inl ⟨d, d, rfl, document?_of_create hd, .same⟩
    | none =>
      refine .inr ⟨rfl, rfl, ?_⟩
      intro e he
      rw [document?_create, hd] at he
      split at he
      next hid =>
        obtain rfl := Option.some.inj he
        exact ⟨rfl, rfl⟩
      next => cases he
  | @update other d e _ _ hd hgrow =>
    have hid := hs.numbered hd
    have hown := hgrow.document_eq
    rw [hid] at hown
    by_cases ho : id = other
    · subst ho
      have hall : links.filter (·.document = id) = links := by
        rw [List.filter_eq_self]
        intro r hr
        exact decide_eq_true (hown r hr)
      rw [hall]
      exact .inl ⟨d, e, hd, hs.document?_put hd hgrow.id_eq, hgrow⟩
    · have hnil : links.filter (·.document = id) = [] := by
        rw [List.filter_eq_nil_iff]
        intro r hr heq
        exact ho ((of_decide_eq_true heq).symm.trans (hown r hr))
      have hput : (s.put e).document? id = s.document? id := by
        apply document?_put_of_ne
        rwa [hgrow.id_eq, hid]
      rw [hnil, hput]
      cases hi : s.document? id with
      | some f => exact .inl ⟨f, f, rfl, rfl, .same⟩
      | none => exact .inr ⟨rfl, rfl, nofun⟩

lemma frame (h : Change s target links s') (hs : s.Sound) {id : DocumentId} {d : Document}
    (hid : target ≠ some id) (hd : s.document? id = some d) : s'.document? id = some d := by
  cases h with
  | same => exact hd
  | create text names verifyImages => exact document?_of_create hd
  | @update other f e _ ho hf hgrow =>
    rw [document?_put_of_ne, hd]
    rintro rfl
    rw [hgrow.id_eq, hs.numbered hf] at hid
    exact hid ho

lemma target_eq (h : Change s target links s') (hs : s.Sound) :
    ∀ r ∈ links, target = some r.document := by
  cases h with
  | same => exact nofun
  | create text names verifyImages => exact nofun
  | update ho hd hgrow =>
    intro r hr
    rw [ho, hgrow.document_eq r hr, hs.numbered hd]

lemma sound (h : Change s target links s') (hs : s.Sound) : s'.Sound := by
  have hcases : ∀ {id e}, s'.document? id = some e → e.id = id ∧ e.Sound := by
    intro id e he
    rcases h.document?_cases hs id with ⟨d, e', hd, he', hgrow⟩ | ⟨-, -, hnew⟩
    · obtain rfl : e' = e := Option.some.inj (he'.symm.trans he)
      exact ⟨hgrow.id_eq.trans (hs.numbered hd), hgrow.sound (hs.sound hd)⟩
    · obtain ⟨hid, hempty⟩ := hnew e he
      exact ⟨hid, Document.sound_of_chain_eq_empty hempty⟩
  exact ⟨fun he => (hcases he).1, fun he => (hcases he).2⟩

lemma holds (h : Change s target links s') (hs : s.Sound) {r : LinkedToken} (hr : s.Holds r) :
    s'.Holds r := by
  obtain ⟨d, hd, hr⟩ := hr
  rcases h.document?_cases hs r.document with ⟨d', e, hd', he, hgrow⟩ | ⟨hnone, -⟩
  · obtain rfl : d' = d := Option.some.inj (hd'.symm.trans hd)
    exact ⟨e, he, hgrow.holds hr⟩
  · rw [hnone] at hd
    cases hd

/-- The tokens of every document are those it had and its own among the linked ones. -/
lemma tokensOf_eq (h : Change s target links s') (hs : s.Sound) (id : DocumentId) :
    s'.tokensOf id = s.tokensOf id ++ links.filter (·.document = id) := by
  unfold tokensOf
  rcases h.document?_cases hs id with ⟨d, e, hd, he, hgrow⟩ | ⟨hnone, hnil, hnew⟩
  · rw [hd, he]
    exact hgrow.real_eq
  · rw [hnone, hnil]
    cases he : s'.document? id with
    | none => rfl
    | some e =>
      have hempty := (hnew e he).2
      have hreal := congrArg List.length (e.map_token_chainFrom 1)
      rw [List.length_map, hempty] at hreal
      exact List.eq_nil_of_length_eq_zero hreal

end Change

/-! ### The operations as changes -/

lemma value_update_some {α : Type} {s : Store} {id : DocumentId} {d : Document}
    {act : Document → Logged DocumentEvent (Except ChainError α × Document)}
    (h : s.document? id = some d) :
    (s.update id act).value = ((act d).value.1, s.put (act d).value.2) := by
  rw [update, h]
  rfl

lemma value_update_none {α : Type} {s : Store} {id : DocumentId}
    {act : Document → Logged DocumentEvent (Except ChainError α × Document)}
    (h : s.document? id = none) :
    (s.update id act).value = (.error (.unknownDocument id), s) := by
  rw [update, h]
  rfl

lemma holds_put {s : Store} (hs : s.Sound) {id : DocumentId} {d e : Document}
    {links : List LinkedToken} (hd : s.document? id = some d) (hgrow : d.Becomes links e)
    {r : LinkedToken} (hr : e.Holds r) : (s.put e).Holds r := by
  have hown : r.document = e.id := (hgrow.sound (hs.sound hd)).document_eq hr
  refine ⟨e, ?_, hr⟩
  rw [hown, hgrow.id_eq, hs.numbered hd]
  exact hs.document?_put hd hgrow.id_eq

section Operations

variable {s : Store}

lemma tryOpen_change (hs : s.Sound) (id : DocumentId) :
    Change s (some id) [] (s.tryOpen id).value.2 ∧
      ∀ r, (s.tryOpen id).value.1 = .ok r → (s.tryOpen id).value.2.Holds r := by
  rw [tryOpen]
  cases hd : s.document? id with
  | none =>
    rw [value_update_none hd]
    exact ⟨.same, nofun⟩
  | some d =>
    rw [value_update_some hd]
    refine ⟨.update rfl hd d.tryOpen_becomes, ?_⟩
    intro r hr
    exact holds_put hs hd d.tryOpen_becomes (Document.tryOpen_holds (Prod.ext hr rfl))

lemma value_build (s : Store) (id : DocumentId) :
    (s.build id).value = ((s.tryOpen id).value.1.map fun sentinel => ⟨sentinel, 0⟩,
      (s.tryOpen id).value.2) := by
  rw [build, tryOpen]
  cases hd : s.document? id with
  | none =>
    rw [value_update_none hd, value_update_none hd]
    rfl
  | some d =>
    rw [value_update_some hd, value_update_some hd]
    rfl

/-- Linking onto a token of a chain changes the chain by the token it answers with. -/
lemma link_change (hs : s.Sound) {onto : LinkedToken} (ho : s.Holds onto) (t : Token) :
    Change s (some onto.document) (s.link onto t).value.1.toOption.toList (s.link onto t).value.2 ∧
      ∀ r, (s.link onto t).value.1 = .ok r → (s.link onto t).value.2.Holds r := by
  obtain ⟨d, hd, ho⟩ := ho
  rw [link, value_update_some hd]
  refine ⟨.update rfl hd (Document.link_becomes ho t), ?_⟩
  intro r hr
  exact holds_put hs hd (Document.link_becomes ho t) (Document.link_holds (Prod.ext hr rfl))

/-- A link that succeeds is made onto the last token of a chain. -/
lemma link_ok (hs : s.Sound) {onto r : LinkedToken} (ho : s.Holds onto) {t : Token}
    (h : (s.link onto t).value.1 = .ok r) : s.LinksLast onto t r (s.link onto t).value.2 := by
  obtain ⟨d, hd, ho⟩ := ho
  rw [link, value_update_some hd] at h ⊢
  rcases d.link_cases onto t with ⟨cause, hl⟩ | ⟨hnone, hl⟩
  · rw [hl] at h
    cases h
  · have hsize := (Document.linkError?_eq_none_iff.1 hnone).2.2.2.2
    have hput := hs.document?_put (e := { d with chain := d.chain.push t }) hd rfl
    rw [hl] at h ⊢
    cases h
    refine ⟨?_, rfl, ?_⟩
    · rw [chainOf, hd]
      exact Document.getLast?_chainFrom ho hsize
    · rw [chainOf, chainOf, Logged.value_silent, hput, hd]
      exact d.chainFrom_push t (Nat.zero_le _)

/-- A token is linked exactly if it passes the checks and nothing is linked yet where it goes. -/
lemma link_ok_iff {onto : LinkedToken} {d : Document} (hd : s.document? onto.document = some d)
    (ho : d.Holds onto) (t : Token) :
    (∃ r, (s.link onto t).value.1 = .ok r) ↔
      t.document = d.id ∧ t.span.start ≤ t.span.stop ∧ t.span.stop ≤ d.len ∧
        onto.token.span.stop ≤ t.span.start ∧ (d.chainFrom 0).getLast? = some onto := by
  rw [Document.getLast?_chainFrom_iff ho, ← Document.linkError?_eq_none_iff, link,
    value_update_some hd]
  cases hl : d.linkError? onto t with
  | some cause => simp [Document.link_of_error hl]
  | none => simp [Document.link_of_no_error hl]

lemma link_error (hs : s.Sound) {onto : LinkedToken} {t : Token} {cause : ChainError}
    (h : (s.link onto t).value.1 = .error cause) : (s.link onto t).value.2 = s := by
  rw [link] at h ⊢
  cases hd : s.document? onto.document with
  | none => rw [value_update_none hd]
  | some d =>
    rw [value_update_some hd] at h ⊢
    rcases d.link_cases onto t with ⟨cause', hl⟩ | ⟨-, hl⟩
    · rw [hl]
      exact hs.put_self hd
    · rw [hl] at h
      cases h

lemma value_attach (s : Store) (b : ChainBuilder) (t : Token) :
    (s.attach b t).value = ((s.link b.tail t).value.1.map fun linked => ⟨linked, b.size + 1⟩,
      (s.link b.tail t).value.2) := by
  rw [attach, link, ChainBuilder.document]
  cases hd : s.document? b.tail.document with
  | none =>
    rw [value_update_none hd, value_update_none hd]
    rfl
  | some d =>
    rw [value_update_some hd, value_update_some hd]
    rfl

lemma value_push {b : ChainBuilder} {d : Document} (hd : s.document? b.document = some d)
    (kind : TokenKind) (excerpt : Excerpt) (constant : Option String) :
    (s.push b kind excerpt constant).value =
      (s.attach b (d.mint kind excerpt constant).value).value := by
  rw [push, attach, value_update_some hd, value_update_some hd]
  rfl

lemma attach_ok (hs : s.Sound) {b b' : ChainBuilder} (hb : s.Holds b.tail) {t : Token}
    (h : (s.attach b t).value.1 = .ok b') :
    s.LinksLast b.tail t b'.tail (s.attach b t).value.2 := by
  rw [value_attach] at h ⊢
  cases hv : (s.link b.tail t).value.1 with
  | error cause =>
    rw [hv] at h
    cases h
  | ok r =>
    rw [hv] at h
    cases h
    exact link_ok hs hb hv

lemma scan_change {σ : Type} (hs : s.Sound) (id : DocumentId) (eofKind : Option TokenKind)
    (decider : Decider σ) (m : σ) :
    (∃ links, Change s (some id) links (s.scan id eofKind decider m).value.2.2 ∧
        links.map LinkedToken.token = s.scanTokens id eofKind decider m) ∧
      ∀ b, (s.scan id eofKind decider m).value.1 = .ok b →
        (s.scan id eofKind decider m).value.2.2.Holds b.tail := by
  rw [scan, scanTokens]
  cases hd : s.document? id with
  | none => exact ⟨⟨[], .same, rfl⟩, nofun⟩
  | some d =>
    obtain ⟨links, hgrow, hlinks⟩ := d.scan_links eofKind decider m
    obtain ⟨-, htail⟩ := d.scan_becomes eofKind decider m
    refine ⟨⟨links, .update rfl hd hgrow, hlinks⟩, ?_⟩
    intro b hb
    exact holds_put hs hd hgrow (htail b hb)

end Operations

end Store

end FrontEnd
