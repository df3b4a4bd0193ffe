import FrontEnd.Proofs.Session.Builders
import FrontEnd.Proofs.Session.Refusals
import FrontEnd.Proofs.Text.Boundary

/-!
# Tokens read at a cursor

What a cursor reads in the text of a document is accepted by that document: the token stands for the
text at its span, and can only come too early or too late for a link. A driver that begins a lexeme
after each token it has pushed is never too early, and if nobody else links anything, never too late
(`drivers_succeed`).
-/

namespace FrontEnd

lemma Document.Becomes.eq_of_isOpened {d e : Document} {links : List LinkedToken}
    (h : d.Becomes links e) (hopen : d.chain ≠ #[]) (hnil : links = []) : e = d := by
  induction h with
  | same => rfl
  | opened _ hempty ih =>
    obtain rfl := ih hnil
    exact absurd hempty hopen
  | linked _ _ _ _ => simp at hnil

lemma Document.Refuses.cause_eq {d : Document} {onto : LinkedToken} {t : Token} {cause : ChainError}
    (h : d.Refuses onto t cause) (hown : t.document = d.id)
    (hin : t.span.start ≤ t.span.stop ∧ t.span.stop ≤ d.len) :
    cause = .outOfOrder onto.token.span.stop t.span.start ∨
      cause = .alreadyLinked onto.token.kind := by
  cases h with
  | foreign hforeign => exact absurd hown hforeign
  | bounds _ hout => exact absurd hin hout
  | order _ _ _ => exact .inl rfl
  | linked _ _ _ _ => exact .inr rfl

namespace InStep

variable {d : Document} {b : ChainBuilder} {c c' : Cursor}

/-- Behind the chain the cursor may be moved in any way. -/
lemma moved_of_behind (h : InStep d b c) (hb : b.tail.token.span.stop ≤ c.start)
    (m : c.Moves c') : InStep d b c' ∧ b.tail.token.span.stop ≤ c'.start := by
  obtain ⟨before, hc⟩ := h.placed
  obtain ⟨later, hc'⟩ := hc.moves m
  have hstart : b.tail.token.span.stop ≤ c'.start := UInt32.le_trans hb (hc.start_le_start m)
  refine ⟨?_, hstart⟩
  exact
    { text_eq := m.text_eq.trans h.text_eq
      placed := ⟨_, hc'⟩
      holds := h.holds
      last := h.last
      size_eq := h.size_eq
      behind := UInt32.le_trans hstart hc'.start_le_pos }

end InStep

namespace Session

variable {s : Session} {id : DocumentId}

/-! ### Requests that link nothing in a document -/

/-- An open document in which a request links nothing stays as it is. -/
lemma Inv.document?_of_linksOf_eq (h : s.Inv) {d : Document} (hd : s.store.document? id = some d)
    (hopen : d.chain ≠ #[]) {q : Request} (hq : (s.perform q).linksOf id = s.linksOf id) :
    (s.perform q).store.document? id = some d := by
  obtain ⟨e, links, he, hgrow⟩ := h.perform_becomes q hd
  have hbefore := h.tokens id
  have hafter := (perform_inv h q).tokens id
  rw [hq, ← hbefore, Store.tokensOf, Store.tokensOf, hd, he, Option.map_some, Option.map_some,
    Option.getD_some, Option.getD_some, hgrow.real_eq, List.map_append] at hafter
  have hnil : links = [] := List.map_eq_nil_iff.1 (List.append_right_eq_self.1 hafter)
  rw [he, hgrow.eq_of_isOpened hopen hnil]

/-- A builder stays as it is if nothing is linked in its document. -/
lemma Inv.builders_of_linksOf_eq (h : s.Inv) {i : Nat} {b : ChainBuilder}
    (hb : s.builders[i]? = some b) {q : Request}
    (hq : (s.perform q).linksOf b.document = s.linksOf b.document) :
    (s.perform q).builders[i]? = some b := by
  have hstep := perform_builderStep h i q
  rw [hb] at hstep
  generalize (s.perform q).builders[i]? = next at hstep ⊢
  cases hstep with
  | kept _ _ => rfl
  | pushed _ _ hlength =>
    rw [hq] at hlength
    exact absurd hlength.symm (Nat.succ_ne_self _)

/-! ### Tokens read in a text -/

/-- The token stands for a piece of the text of the document, and nothing but the place where it is
to go can speak against linking it. -/
structure ReadsText (s : Session) (d : Document) (t : Token) : Prop where
  ordered : t.span.start ≤ t.span.stop
  inside : t.span.stop.toNat ≤ d.text.utf8ByteSize
  starts : Text.IsBoundary d.text t.span.start.toNat
  stops : Text.IsBoundary d.text t.span.stop.toNat
  reads : d.textAt? t.span = some t.image.text
  source : ∀ later e r, (s.run later).store.document? d.id = some e → r.token = t →
    e.sourceOf r = r.token.image.text
  refused : ∀ later onto cause, (s.run later).store.Holds onto → onto.document = d.id →
    ((s.run later).store.link onto t).value.1 = .error cause →
      cause = .outOfOrder onto.token.span.stop t.span.start ∨ cause = .alreadyLinked onto.token.kind

/-- A token minted at a cursor over the text of a document reads what the text does. -/
lemma Inv.readsText (h : s.Inv) {d : Document} (hd : s.store.document? id = some d)
    (hfits : d.text.utf8ByteSize < UInt32.size) {c : Cursor} (m : (Cursor.ofText d.text).Moves c)
    (kind : TokenKind) : s.ReadsText d (d.mint kind c.excerpt none).value := by
  obtain ⟨before, hc⟩ := (Cursor.placed_ofText hfits).moves m
  have htext : c.text = d.text := m.text_eq
  have hslice : Text.slice? d.text c.start.toNat c.pos.toNat = some c.lexeme := htext ▸ hc.slice_eq
  have hcut : Text.IsBoundary d.text c.start.toNat ∧ Text.IsBoundary d.text c.pos.toNat := by
    by_contra hno
    rw [Text.slice?_eq_none_iff.2 (.inr (Classical.not_and_iff_not_or_not.1 hno))] at hslice
    cases hslice
  have hlen : c.pos ≤ d.len := by
    rw [UInt32.le_iff_toNat_le, Document.toNat_len hfits]
    exact hcut.2.le_size
  have hid := h.sound.numbered hd
  have hlater : ∀ later, ∃ e, (s.run later).store.document? d.id = some e ∧ e.id = d.id ∧
      e.text = d.text := by
    intro later
    obtain ⟨e, links, he, hgrow⟩ := h.run_becomes later (hid.symm ▸ hd)
    exact ⟨e, he, hgrow.id_eq, hgrow.text_eq⟩
  exact
    { ordered := hc.start_le_pos
      inside := hcut.2.le_size
      starts := hcut.1
      stops := hcut.2
      reads := hslice
      source := by
        intro later e r he hr
        obtain ⟨e', he', -, htext⟩ := hlater later
        obtain rfl : e' = e := Option.some.inj (he'.symm.trans he)
        rw [Document.sourceOf, Document.textAt?, htext, hr]
        exact congrArg (Option.getD · "") hslice
      refused := by
        rintro later onto cause ⟨e, he, ho⟩ honto hl
        obtain ⟨e', he', heid, htext⟩ := hlater later
        rw [← honto] at he'
        obtain rfl : e' = e := Option.some.inj (he'.symm.trans he)
        have hrefuses := (Store.link_error_iff he ho _ cause).1 hl
        refine hrefuses.cause_eq heid.symm ⟨hc.start_le_pos, ?_⟩
        rwa [Document.len, htext] }

/-! ### Driving a builder -/

/-- A client has a builder of its own and a cursor over the text of the document. It moves the
cursor as it likes and pushes the lexeme at the cursor, or hands in a token it has minted from it;
after each token it first begins a lexeme. Whatever is asked for meanwhile links nothing in the
document. The flag says whether the lexeme at the cursor is pushed already. -/
inductive Driven (id : DocumentId) (builder : Nat) : Session → Cursor → Bool → Prop where
  | built {requests : List Request} {d : Document} {c : Cursor} :
      (after requests).store.document? id = some d → d.isOpened = false →
      d.text.utf8ByteSize < UInt32.size → builder = (after requests).builders.length →
      (Cursor.ofText d.text).Moves c →
      Driven id builder ((after requests).perform (.build id)) c false
  | begun {s : Session} {c c' : Cursor} {spent : Bool} :
      Driven id builder s c spent → c' = c.mark ∨ c' = c.markAndRead.2 →
      Driven id builder s c' false
  | moved {s : Session} {c c' : Cursor} :
      Driven id builder s c false → c.Move c' → Driven id builder s c' false
  | pushed {s : Session} {c : Cursor} (kind : TokenKind) (constant : Option String) :
      Driven id builder s c false →
      Driven id builder (s.perform (.push builder kind c.excerpt constant)) c true
  | attached {s : Session} {c : Cursor} {number : Nat} {t : Token} :
      Driven id builder s c false → s.loose? number = some t → t.document = id →
      t.span = c.excerpt.span → Driven id builder (s.perform (.attach builder number)) c true
  | waited {s : Session} {c : Cursor} {spent : Bool} (q : Request) :
      Driven id builder s c spent → (s.perform q).linksOf id = s.linksOf id →
      Driven id builder (s.perform q) c spent

/-- The builder keeps step with the cursor, and a lexeme that is not pushed yet lies behind the
chain. -/
structure Follows (s : Session) (id : DocumentId) (builder : Nat) (c : Cursor) (spent : Bool)
    (d : Document) (b : ChainBuilder) : Prop where
  inv : s.Inv
  found : s.store.document? id = some d
  builds : s.builders[builder]? = some b
  step : InStep d b c
  behind : spent = false → b.tail.token.span.stop ≤ c.start

namespace Follows

variable {builder : Nat} {c c' : Cursor} {spent : Bool} {d : Document} {b : ChainBuilder}

lemma id_eq (h : s.Follows id builder c spent d b) : d.id = id := h.inv.sound.numbered h.found

lemma document_eq (h : s.Follows id builder c spent d b) : b.document = id :=
  ((h.inv.sound.sound h.found).document_eq h.step.holds).trans h.id_eq

lemma built (hs : s.Inv) (hd : s.store.document? id = some d) (hopen : d.isOpened = false)
    (hfits : d.text.utf8ByteSize < UInt32.size) (m : (Cursor.ofText d.text).Moves c) :
    (s.perform (.build id)).Follows id s.builders.length c false
      { d with chain := #[Token.sentinel d.id] } ⟨⟨Token.sentinel d.id, 0⟩, 0⟩ := by
  have hbuild : (s.store.build id).value = (.ok ⟨⟨Token.sentinel d.id, 0⟩, 0⟩,
      s.store.put { d with chain := #[Token.sentinel d.id] }) := by
    rw [Store.build, Store.value_update_some hd, ChainBuilder.start_of_not_isOpened hopen hfits]
  exact
    { inv := perform_inv hs _
      found := by
        rw [perform, hbuild]
        exact hs.sound.document?_put hd rfl
      builds := by
        rw [perform, hbuild]
        exact List.getElem?_concat_length
      step := (InStep.start hfits).moved m
      behind := fun _ => UInt32.zero_le }

lemma begun (h : s.Follows id builder c spent d b) (m : c.mark.Moves c') :
    s.Follows id builder c' false d b where
  inv := h.inv
  found := h.found
  builds := h.builds
  step := h.step.moved m
  behind := fun _ => h.step.behind_start m

lemma moved (h : s.Follows id builder c false d b) (m : c.Moves c') :
    s.Follows id builder c' false d b where
  inv := h.inv
  found := h.found
  builds := h.builds
  step := (h.step.moved_of_behind (h.behind rfl) m).1
  behind := fun _ => (h.step.moved_of_behind (h.behind rfl) m).2

/-- A token of the lexeme at the cursor is linked. -/
lemma value_attach (h : s.Follows id builder c false d b) {t : Token} (ht : t.document = id)
    (hspan : t.span = c.excerpt.span) :
    (s.store.attach b t).value = (.ok ⟨⟨t, d.chain.size⟩, b.size + 1⟩,
      s.store.put { d with chain := d.chain.push t }) := by
  have hfound : s.store.document? b.document = some d := h.document_eq.symm ▸ h.found
  have hnone := h.step.linkError?_of_span (h.behind rfl) (ht.trans h.id_eq.symm) hspan
  rw [Store.attach, Store.value_update_some hfound, ChainBuilder.attach_eq,
    Document.link_of_no_error hnone]
  rfl

lemma value_push (h : s.Follows id builder c false d b) (kind : TokenKind)
    (constant : Option String) :
    (s.store.push b kind c.excerpt constant).value =
      (s.store.attach b (d.mint kind c.excerpt constant).value).value :=
  Store.value_push (h.document_eq.symm ▸ h.found) kind c.excerpt constant

/-- What a builder has answered with is what it goes on from. -/
lemma linked {s' : Session} (h : s.Follows id builder c false d b) {t : Token}
    (hspan : t.span = c.excerpt.span) (hinv : s'.Inv)
    (hstore : s'.store = s.store.put { d with chain := d.chain.push t })
    (hbuilders : s'.builders = s.builders.set builder ⟨⟨t, d.chain.size⟩, b.size + 1⟩) :
    s'.Follows id builder c true { d with chain := d.chain.push t }
      ⟨⟨t, d.chain.size⟩, b.size + 1⟩ where
  inv := hinv
  found := by
    rw [hstore]
    exact h.inv.sound.document?_put h.found rfl
  builds := by
    rw [hbuilders]
    exact List.getElem?_set_self (List.getElem?_eq_some_iff.1 h.builds).1
  step := h.step.pushed t (congrArg Span.stop hspan)
  behind := nofun

lemma pushed (h : s.Follows id builder c false d b) (kind : TokenKind) (constant : Option String) :
    ∃ d' b',
      (s.perform (.push builder kind c.excerpt constant)).Follows id builder c true d' b' := by
  have hfound : s.store.document? b.document = some d := h.document_eq.symm ▸ h.found
  have hvalue := (h.value_push kind constant).trans (h.value_attach h.id_eq rfl)
  have hspan : (d.mint kind c.excerpt constant).value.span = c.excerpt.span := rfl
  refine ⟨_, _, h.linked hspan (perform_inv h.inv _) ?_ ?_⟩
  · simp only [perform, h.builds, hfound, hvalue]
    rfl
  · simp only [perform, h.builds, hfound, hvalue]
    rfl

lemma attached (h : s.Follows id builder c false d b) {number : Nat} {t : Token}
    (hloose : s.loose? number = some t) (ht : t.document = id) (hspan : t.span = c.excerpt.span) :
    ∃ d' b', (s.perform (.attach builder number)).Follows id builder c true d' b' := by
  have hvalue := h.value_attach ht hspan
  refine ⟨_, _, h.linked hspan (perform_inv h.inv _) ?_ ?_⟩
  · simp only [perform, h.builds, hloose, hvalue]
    rfl
  · simp only [perform, h.builds, hloose, hvalue]
    rfl

lemma reply_push (h : s.Follows id builder c false d b) (kind : TokenKind)
    (constant : Option String) :
    s.reply (.push builder kind c.excerpt constant) =
      .builder (.ok ⟨⟨(d.mint kind c.excerpt constant).value, d.chain.size⟩, b.size + 1⟩) := by
  have hvalue := (h.value_push kind constant).trans (h.value_attach h.id_eq rfl)
  simp only [reply, h.builds, hvalue]

lemma reply_attach (h : s.Follows id builder c false d b) {number : Nat} {t : Token}
    (hloose : s.loose? number = some t) (ht : t.document = id) (hspan : t.span = c.excerpt.span) :
    s.reply (.attach builder number) = .builder (.ok ⟨⟨t, d.chain.size⟩, b.size + 1⟩) := by
  simp only [reply, h.builds, hloose, h.value_attach ht hspan]

lemma waited (h : s.Follows id builder c spent d b) {q : Request}
    (hq : (s.perform q).linksOf id = s.linksOf id) :
    (s.perform q).Follows id builder c spent d b where
  inv := perform_inv h.inv q
  found := by
    have hopen : d.chain ≠ #[] := by
      intro hempty
      have hlast := h.step.last
      rw [hempty] at hlast
      cases hlast
    exact h.inv.document?_of_linksOf_eq h.found hopen hq
  builds := by
    obtain rfl := h.document_eq
    exact h.inv.builders_of_linksOf_eq h.builds hq
  step := h.step
  behind := h.behind

end Follows

/-- However a builder is driven, it follows the cursor. -/
lemma Driven.follows {builder : Nat} {c : Cursor} {spent : Bool}
    (h : Driven id builder s c spent) : ∃ d b, s.Follows id builder c spent d b := by
  induction h with
  | built hd hopen hfits hbuilder m =>
    rw [hbuilder]
    exact ⟨_, _, Follows.built (inv_after _) hd hopen hfits m⟩
  | begun _ hc ih =>
    obtain ⟨d, b, hfollows⟩ := ih
    rcases hc with rfl | rfl
    · exact ⟨d, b, hfollows.begun .refl⟩
    · exact ⟨d, b, hfollows.begun Cursor.Move.read.moves⟩
  | moved _ m ih =>
    obtain ⟨d, b, hfollows⟩ := ih
    exact ⟨d, b, hfollows.moved m.moves⟩
  | pushed kind constant _ ih =>
    obtain ⟨d, b, hfollows⟩ := ih
    exact hfollows.pushed kind constant
  | attached _ hloose ht hspan ih =>
    obtain ⟨d, b, hfollows⟩ := ih
    exact hfollows.attached hloose ht hspan
  | waited q _ hq ih =>
    obtain ⟨d, b, hfollows⟩ := ih
    exact ⟨d, b, hfollows.waited hq⟩

/-- What is minted at a cursor over a text reads that text, and one who drives a builder by such a
cursor, as the only one to link, is never refused. -/
theorem drivers_succeed :
    (∀ requests id d c, (after requests).store.document? id = some d →
      d.text.utf8ByteSize < UInt32.size → (Cursor.ofText d.text).Moves c →
      ∀ kind, ∃ t, (after requests).reply (.mint id kind c.excerpt none) = .minted t ∧
        (after requests).ReadsText d t) ∧
    ∀ id builder s c, Driven id builder s c false →
      (∀ kind constant, ∃ b,
        s.reply (.push builder kind c.excerpt constant) = .builder (.ok b)) ∧
      ∀ number t, s.loose? number = some t → t.document = id → t.span = c.excerpt.span →
        ∃ b, s.reply (.attach builder number) = .builder (.ok b) := by
  constructor
  · intro requests id d c hd hfits m kind
    refine ⟨_, ?_, (inv_after requests).readsText hd hfits m kind⟩
    simp only [reply, hd]
  · intro id builder s c h
    obtain ⟨d, b, hfollows⟩ := h.follows
    constructor
    · intro kind constant
      exact ⟨_, hfollows.reply_push kind constant⟩
    · intro number t hloose ht hspan
      exact ⟨_, hfollows.reply_attach hloose ht hspan⟩

/-- The first letter is read with the second one, which is put back. -/
def firstLetter : Cursor := ((Cursor.ofText "éa").markAndRead.2.read.2).unread 1

def secondLetter : Cursor := firstLetter.markAndRead.2

def pushedLetter : List Request :=
  [.create "éa" .unnamed false, .build ⟨0⟩, .push 0 ⟨7⟩ firstLetter.excerpt none]

theorem drivers_succeed_letters :
    (firstLetter.excerpt, secondLetter.excerpt) = (⟨⟨0, 2⟩, "é"⟩, ⟨⟨2, 3⟩, "a"⟩) ∧
      (∃ t, (after pushedLetter).reply (.mint ⟨0⟩ ⟨7⟩ secondLetter.excerpt none) = .minted t ∧
        ∃ d, (after pushedLetter).store.document? ⟨0⟩ = some d ∧
          (after pushedLetter).ReadsText d t) ∧
      ∃ b, (after pushedLetter).reply (.push 0 ⟨7⟩ secondLetter.excerpt none) =
        .builder (.ok b) := by
  have hfirst : (Cursor.ofText "éa").Moves firstLetter :=
    (Cursor.Move.markAndRead.moves.tail .read).tail (.unread 1)
  have hsecond : (Cursor.ofText "éa").Moves secondLetter := hfirst.tail .markAndRead
  have hbuilt : Driven ⟨0⟩ 0 (after (pushedLetter.take 2)) firstLetter false :=
    @Driven.built ⟨0⟩ 0 (pushedLetter.take 1) _ _ rfl rfl (by decide) rfl hfirst
  have hdriven : Driven ⟨0⟩ 0 (after pushedLetter) secondLetter false :=
    .begun (.pushed ⟨7⟩ none hbuilt) (.inr rfl)
  refine ⟨by decide, ?_, (drivers_succeed.2 _ _ _ _ hdriven).1 ⟨7⟩ none⟩
  obtain ⟨t, hreply, hreads⟩ :=
    drivers_succeed.1 pushedLetter ⟨0⟩ _ secondLetter rfl (by decide) hsecond ⟨7⟩
  exact ⟨t, hreply, _, rfl, hreads⟩

end Session

end FrontEnd
