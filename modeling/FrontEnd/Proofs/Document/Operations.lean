import FrontEnd.Proofs.Document.Growth
import FrontEnd.Proofs.Scan.Calls

/-!
# What the operations make of a document

Opening, linking, pushing and scanning are growths of a chain: each answer is a refusal that leaves
the document as it was, or comes with the tokens that were linked. A token that an operation
answers with is in the chain.
-/

namespace FrontEnd

namespace Document

lemma isOpened_eq_false_iff {d : Document} : d.isOpened = false ↔ d.chain = #[] := by
  simp [isOpened]

/-- A document opens exactly if its text fits and it was not open. -/
lemma tryOpen_cases (d : Document) :
    (∃ cause, d.tryOpen.value = (.error cause, d)) ∨
      d.chain = #[] ∧ d.text.utf8ByteSize < UInt32.size ∧ d.tryOpen.value =
        (.ok ⟨Token.sentinel d.id, 0⟩, { d with chain := #[Token.sentinel d.id] }) := by
  unfold tryOpen
  split
  next cause _ => exact .inl ⟨_, rfl⟩
  next extent hextent =>
    split
    next => exact .inl ⟨_, rfl⟩
    next hopen =>
      refine .inr ⟨isOpened_eq_false_iff.1 (by simpa using hopen), ?_, rfl⟩
      by_contra hsize
      rw [Span.ofRange?, if_pos (by decide), if_neg hsize] at hextent
      cases hextent

lemma tryOpen_of_isOpened {d : Document} (h : d.isOpened = true)
    (hsize : d.text.utf8ByteSize < UInt32.size) :
    d.tryOpen.value = (.error .alreadyOpened, d) := by
  unfold tryOpen
  rw [Span.ofRange?, if_pos (by decide), if_pos hsize]
  simp [h]

lemma tryOpen_of_not_isOpened {d : Document} (h : d.isOpened = false)
    (hsize : d.text.utf8ByteSize < UInt32.size) :
    d.tryOpen.value =
      (.ok ⟨Token.sentinel d.id, 0⟩, { d with chain := #[Token.sentinel d.id] }) := by
  unfold tryOpen
  rw [Span.ofRange?, if_pos (by decide), if_pos hsize]
  simp [h]

lemma link_cases (d : Document) (onto : LinkedToken) (t : Token) :
    (∃ cause, d.link onto t = (.error cause, d)) ∨ d.linkError? onto t = none ∧
      d.link onto t = (.ok ⟨t, d.chain.size⟩, { d with chain := d.chain.push t }) := by
  cases h : d.linkError? onto t with
  | some cause => exact .inl ⟨cause, link_of_error h⟩
  | none => exact .inr ⟨rfl, link_of_no_error h⟩

lemma tryOpen_becomes (d : Document) : d.Becomes [] d.tryOpen.value.2 := by
  rcases d.tryOpen_cases with ⟨cause, h⟩ | ⟨hc, -, h⟩
  · rw [h]
    exact .same
  · rw [h]
    exact .opened .same hc

lemma tryOpen_holds {d e : Document} {r : LinkedToken} (h : d.tryOpen.value = (.ok r, e)) :
    e.Holds r := by
  rcases d.tryOpen_cases with ⟨cause, h'⟩ | ⟨-, -, h'⟩
  · simp [h'] at h
  · rw [h'] at h
    obtain ⟨rfl, rfl⟩ : ⟨Token.sentinel d.id, 0⟩ = r ∧ _ = e := by simpa using h
    rw [holds_iff]
    rfl

lemma link_becomes {d : Document} {onto : LinkedToken} (ho : d.Holds onto) (t : Token) :
    d.Becomes (d.link onto t).1.toOption.toList (d.link onto t).2 := by
  rcases d.link_cases onto t with ⟨cause, h⟩ | ⟨hl, h⟩
  · rw [h]
    exact .same
  · rw [h]
    exact .linked .same ho hl

lemma link_holds {d e : Document} {onto r : LinkedToken} {t : Token}
    (h : d.link onto t = (.ok r, e)) : e.Holds r := by
  rcases d.link_cases onto t with ⟨cause, h'⟩ | ⟨-, h'⟩
  · simp [h'] at h
  · rw [h'] at h
    obtain ⟨rfl, rfl⟩ : ⟨t, d.chain.size⟩ = r ∧ _ = e := by simpa using h
    simp [holds_iff]

end Document

namespace ChainBuilder

lemma value_start (d : Document) :
    (start d).value = (d.tryOpen.value.1.map fun sentinel => ⟨sentinel, 0⟩, d.tryOpen.value.2) :=
  rfl

lemma attach_eq (b : ChainBuilder) (d : Document) (t : Token) :
    b.attach d t = ((d.link b.tail t).1.map fun linked => ⟨linked, b.size + 1⟩,
      (d.link b.tail t).2) :=
  rfl

lemma value_push (b : ChainBuilder) (d : Document) (kind : TokenKind) (excerpt : Excerpt)
    (constant : Option String) :
    (b.push d kind excerpt constant).value = b.attach d (d.mint kind excerpt constant).value :=
  rfl

lemma start_cases (d : Document) :
    (∃ cause, (start d).value = (.error cause, d)) ∨
      d.chain = #[] ∧ d.text.utf8ByteSize < UInt32.size ∧ (start d).value =
        (.ok ⟨⟨Token.sentinel d.id, 0⟩, 0⟩, { d with chain := #[Token.sentinel d.id] }) := by
  rw [value_start]
  rcases d.tryOpen_cases with ⟨cause, h⟩ | ⟨hc, hsize, h⟩
  · exact .inl ⟨cause, by rw [h]; rfl⟩
  · exact .inr ⟨hc, hsize, by rw [h]; rfl⟩

lemma start_of_isOpened {d : Document} (h : d.isOpened = true)
    (hfits : d.text.utf8ByteSize < UInt32.size) :
    (start d).value = (.error .alreadyOpened, d) := by
  rw [value_start, Document.tryOpen_of_isOpened h hfits]
  rfl

lemma start_of_not_isOpened {d : Document} (h : d.isOpened = false)
    (hfits : d.text.utf8ByteSize < UInt32.size) :
    (start d).value = (.ok ⟨⟨Token.sentinel d.id, 0⟩, 0⟩,
      { d with chain := #[Token.sentinel d.id] }) := by
  rw [value_start, Document.tryOpen_of_not_isOpened h hfits]
  rfl

lemma attach_becomes {b : ChainBuilder} {d e : Document} {t : Token} (hb : d.Holds b.tail)
    {answer : Except ChainError ChainBuilder} (h : b.attach d t = (answer, e)) :
    d.Becomes (answer.map ChainBuilder.tail).toOption.toList e ∧
      ∀ b', answer = .ok b' → e.Holds b'.tail := by
  have hgrow := Document.link_becomes hb t
  rw [attach_eq] at h
  obtain ⟨rfl, rfl⟩ := Prod.mk.inj h
  rcases d.link_cases b.tail t with ⟨cause, hl⟩ | ⟨-, hl⟩
  · rw [hl] at hgrow ⊢
    exact ⟨hgrow, nofun⟩
  · rw [hl] at hgrow ⊢
    refine ⟨hgrow, ?_⟩
    rintro b' ⟨⟩
    exact Document.link_holds hl

lemma push_becomes {b : ChainBuilder} {d e : Document} {kind : TokenKind} {excerpt : Excerpt}
    {constant : Option String} (hb : d.Holds b.tail) {answer : Except ChainError ChainBuilder}
    (h : (b.push d kind excerpt constant).value = (answer, e)) :
    d.Becomes (answer.map ChainBuilder.tail).toOption.toList e ∧
      ∀ b', answer = .ok b' → e.Holds b'.tail :=
  attach_becomes hb h

end ChainBuilder

/-! ### Scans -/

section Scan

variable {σ : Type}

/-- However the decider answers, a scan does nothing but open the document and link tokens. -/
lemma growth_scanInvariant (d : Document) (decider : Decider σ) :
    ScanInvariant decider fun e b _ _ => (∃ links, d.Becomes links e) ∧ e.Holds b.tail where
  skip h _ _ _ := h
  push := by
    rintro e b c m lexeme f b' ⟨⟨links, hgrow⟩, hb⟩ - - - hp
    obtain ⟨hmore, hb'⟩ := ChainBuilder.push_becomes hb hp
    exact ⟨⟨_, hgrow.trans hmore⟩, hb' b' rfl⟩

lemma Document.scan_becomes (d : Document) (eofKind : Option TokenKind) (decider : Decider σ)
    (m : σ) :
    (∃ links, d.Becomes links (d.scan eofKind decider m).value.document) ∧
      ∀ b, (d.scan eofKind decider m).value.result = .ok b →
        (d.scan eofKind decider m).value.document.Holds b.tail := by
  rcases ChainBuilder.start_cases d with ⟨cause, hs⟩ | ⟨hc, -, hs⟩
  · rw [Document.scan_of_refused hs]
    exact ⟨⟨[], .same⟩, nofun⟩
  have hstart : { d with chain := #[Token.sentinel d.id] }.Holds ⟨Token.sentinel d.id, 0⟩ :=
    Document.holds_iff.2 rfl
  have hend := (growth_scanInvariant d decider).scan eofKind (m := m) hs
    ⟨⟨[], .opened .same hc⟩, hstart⟩
  generalize (d.scan eofKind decider m).value = o at hend ⊢
  cases hend with
  | finished h _ _ =>
    refine ⟨h.1, ?_⟩
    rintro b ⟨⟩
    exact h.2
  | closed h _ _ hp =>
    obtain ⟨hmore, hb'⟩ := ChainBuilder.push_becomes h.2 hp
    obtain ⟨links, hgrow⟩ := h.1
    refine ⟨⟨_, hgrow.trans hmore⟩, ?_⟩
    rintro b ⟨⟩
    exact hb' _ rfl
  | closeRefused h _ _ hp =>
    obtain ⟨hmore, -⟩ := ChainBuilder.push_becomes h.2 hp
    obtain ⟨links, hgrow⟩ := h.1
    exact ⟨⟨_, hgrow.trans hmore⟩, nofun⟩
  | stuck h _ _ => exact ⟨h.1, nofun⟩
  | refused h _ _ _ hp =>
    obtain ⟨hmore, -⟩ := ChainBuilder.push_becomes h.2 hp
    obtain ⟨links, hgrow⟩ := h.1
    exact ⟨⟨_, hgrow.trans hmore⟩, nofun⟩

end Scan

end FrontEnd
