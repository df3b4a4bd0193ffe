import FrontEnd.Proofs.Session.Plain
import FrontEnd.Proofs.Text.Boundary

/-!
# Names and verification show in warnings only

Two sessions in which the same is asked of documents with the same texts answer the same, however
their documents name kinds and whether or not they verify images. Only warnings can differ, and a
document warns exactly of shared images that are not what its text reads
(`indistinguishable_of_alike`).
-/

namespace FrontEnd

/-- Two requests that ask the same, but may want a document with other names or verification. -/
inductive Request.Alike : Request → Request → Prop where
  | same (q : Request) : Alike q q
  | create (text : String) (names names' : KindNames) (verifyImages verifyImages' : Bool) :
      Alike (.create text names verifyImages) (.create text names' verifyImages')

lemma Request.Alike.plain_eq {q q' : Request} (h : q.Alike q') : q.plain = q'.plain := by
  cases h with
  | same q => rfl
  | create text names names' verifyImages verifyImages' => rfl

namespace Document

/-- Two documents in which all that there is to read is the same. -/
structure ReadsAlike (d e : Document) : Prop where
  id : d.id = e.id
  text : d.text = e.text
  len : d.len = e.len
  isOpened : d.isOpened = e.isOpened
  chain : d.chain = e.chain
  sentinel : d.sentinel? = e.sentinel?
  first : d.first = e.first
  tokens : d.tokens = e.tokens
  source : ∀ r, d.sourceOf r = e.sourceOf r
  place : ∀ offset, d.locate offset = e.locate offset
  successor : ∀ r, d.next? r = e.next? r
  linked : ∀ r, d.isLinked r = e.isLinked r
  walk : ∀ position, d.chainFrom position = e.chainFrom position
  iterator : ∀ it : TokenIterator, it.next d = it.next e ∧ it.remaining d = it.remaining e

lemma readsAlike_of_plain_eq {d e : Document} (h : d.plain = e.plain) : d.ReadsAlike e where
  id := (congrArg Document.id h :)
  text := (congrArg Document.text h :)
  len := (congrArg Document.len h :)
  isOpened := (congrArg Document.isOpened h :)
  chain := (congrArg Document.chain h :)
  sentinel := (congrArg Document.sentinel? h :)
  first := (congrArg Document.first h :)
  tokens := (congrArg Document.tokens h :)
  source r := (congrArg (Document.sourceOf · r) h :)
  place offset := (congrArg (Document.locate · offset) h :)
  successor r := (congrArg (Document.next? · r) h :)
  linked r := (congrArg (Document.isLinked · r) h :)
  walk position := (congrArg (Document.chainFrom · position) h :)
  iterator it := ⟨(congrArg it.next h :), (congrArg it.remaining h :)⟩

/-- When a document warns as it mints a token: exactly if it verifies images and is given a shared
one that is not the text at the span. That text is missing if the span is reversed, goes past the end
or does not begin and end where a character does. The shared image is kept in every case. -/
structure WarnsOfMismatch (d : Document) (kind : TokenKind) (excerpt : Excerpt)
    (constant : Option String) : Prop where
  kept : ∀ image, constant = some image →
    (d.mint kind excerpt constant).value.image = .shared image
  warns : (∃ e ∈ (d.mint kind excerpt constant).events, e.isWarning = true) ↔
    d.verifyImages = true ∧ ∃ image, constant = some image ∧ d.textAt? excerpt.span ≠ some image
  warning : ∀ image, d.verifyImages = true → constant = some image →
    d.textAt? excerpt.span ≠ some image →
    (d.mint kind excerpt constant).events.filter DocumentEvent.isWarning =
      [.imageMismatch d.id (d.label kind) excerpt.span image (d.textAt? excerpt.span)]
  missing : d.textAt? excerpt.span = none ↔
    excerpt.span.stop < excerpt.span.start ∨ d.text.utf8ByteSize < excerpt.span.stop.toNat ∨
      ¬Text.IsBoundary d.text excerpt.span.start.toNat ∨
      ¬Text.IsBoundary d.text excerpt.span.stop.toNat
  present : ∀ part, d.textAt? excerpt.span = some part ↔ ∃ before after,
    d.text = before ++ part ++ after ∧ before.utf8ByteSize = excerpt.span.start.toNat ∧
      (before ++ part).utf8ByteSize = excerpt.span.stop.toNat

variable {d : Document} {kind : TokenKind} {excerpt : Excerpt} {constant : Option String}

lemma textAt?_eq_none_iff {span : Span} :
    d.textAt? span = none ↔
      span.stop < span.start ∨ d.text.utf8ByteSize < span.stop.toNat ∨
        ¬Text.IsBoundary d.text span.start.toNat ∨ ¬Text.IsBoundary d.text span.stop.toNat := by
  rw [textAt?, Text.slice?_eq_none_iff, UInt32.lt_iff_toNat_lt]
  constructor
  · rintro (hlt | hno)
    · exact .inl hlt
    · exact .inr (.inr hno)
  · rintro (hlt | hpast | hno)
    · exact .inl hlt
    · exact .inr (.inr fun hstop => Nat.not_lt.2 hstop.le_size hpast)
    · exact .inr hno

/-- The warnings of a minting are the report on its image. -/
lemma warnings_mint (d : Document) (kind : TokenKind) (excerpt : Excerpt)
    (constant : Option String) :
    (d.mint kind excerpt constant).events.filter DocumentEvent.isWarning =
      d.imageReport kind excerpt.span constant := by
  have hminted :
      [DocumentEvent.minted d.id kind excerpt.span].filter DocumentEvent.isWarning = [] :=
    rfl
  rw [mint, List.filter_append, hminted, List.append_nil, List.filter_eq_self]
  intro e he
  cases constant with
  | none => cases he
  | some image =>
    rw [imageReport] at he
    split at he
    next =>
      obtain rfl := List.mem_singleton.1 he
      rfl
    next => cases he

lemma warnsOfMismatch (d : Document) (kind : TokenKind) (excerpt : Excerpt)
    (constant : Option String) : d.WarnsOfMismatch kind excerpt constant where
  kept := by
    rintro image rfl
    rfl
  warns := by
    have hwarn : (∃ e ∈ (d.mint kind excerpt constant).events, e.isWarning = true) ↔
        d.imageReport kind excerpt.span constant ≠ [] := by
      rw [← d.warnings_mint, Ne, List.filter_eq_nil_iff]
      simp
    rw [hwarn]
    cases constant with
    | none => simp [imageReport]
    | some image => simp [imageReport]
  warning := by
    rintro image hverify rfl hdiffers
    rw [d.warnings_mint, imageReport, if_pos ⟨hverify, hdiffers⟩]
  missing := textAt?_eq_none_iff
  present _ := Text.slice?_eq_some_iff

end Document

namespace Session

/-- Two sequences of requests that are answered alike: with the same replies and the same reports
but for warnings, after which clients hold the same and read the same in all documents. -/
structure Indistinguishable (requests requests' : List Request) : Prop where
  replies : (empty.transcript requests).map Prod.fst = (empty.transcript requests').map Prod.fst
  reports : (empty.transcript requests).map (fun p => withoutWarnings p.2) =
    (empty.transcript requests').map fun p => withoutWarnings p.2
  minted : (after requests).minted = (after requests').minted
  loose : (after requests).loose = (after requests').loose
  history : (after requests).history = (after requests').history
  refs : (after requests).refs = (after requests').refs
  builders : (after requests).builders = (after requests').builders
  documents : ∀ id, Option.Rel Document.ReadsAlike ((after requests).store.document? id)
    ((after requests').store.document? id)

lemma map_plain_eq {requests requests' : List Request}
    (h : List.Forall₂ Request.Alike requests requests') :
    requests.map Request.plain = requests'.map Request.plain := by
  induction h with
  | nil => rfl
  | cons hq _ ih => rw [List.map_cons, List.map_cons, hq.plain_eq, ih]

lemma document?_rel_of_plain_eq {s s' : Store} (h : s.plain = s'.plain) (id : DocumentId) :
    Option.Rel Document.ReadsAlike (s.document? id) (s'.document? id) := by
  have hid := congrArg (Store.document? · id) h
  simp only [Store.document?_plain] at hid
  cases hd : s.document? id with
  | none =>
    rw [hd] at hid
    rw [Option.map_eq_none_iff.1 hid.symm]
    exact .none
  | some d =>
    rw [hd] at hid
    obtain ⟨e, he, hplain⟩ := Option.map_eq_some_iff.1 hid.symm
    rw [he]
    exact .some (Document.readsAlike_of_plain_eq hplain.symm)

/-- How documents name kinds and whether they verify images shows in nothing but warnings, and each
document that verifies images warns exactly of those that are not its text. -/
theorem indistinguishable_of_alike :
    (∀ requests requests', List.Forall₂ Request.Alike requests requests' →
      Indistinguishable requests requests') ∧
    ∀ (d : Document) kind excerpt constant, d.WarnsOfMismatch kind excerpt constant := by
  refine ⟨fun requests requests' h => ?_, Document.warnsOfMismatch⟩
  have hplain := map_plain_eq h
  have htranscript : (empty.transcript requests).map (fun p => (p.1, withoutWarnings p.2)) =
      (empty.transcript requests').map fun p => (p.1, withoutWarnings p.2) := by
    rw [← transcript_plain, ← transcript_plain, hplain]
  have hrun : (after requests).plain = (after requests').plain := by
    rw [after, after, ← run_plain, ← run_plain, hplain]
  have hreplies := congrArg (List.map Prod.fst) htranscript
  have hreports := congrArg (List.map Prod.snd) htranscript
  simp only [List.map_map] at hreplies hreports
  exact
    { replies := hreplies
      reports := hreports
      minted := (congrArg Session.minted hrun :)
      loose := (congrArg Session.loose hrun :)
      history := (congrArg Session.history hrun :)
      refs := (congrArg Session.refs hrun :)
      builders := (congrArg Session.builders hrun :)
      documents := document?_rel_of_plain_eq (congrArg Session.store hrun) }

/-- A shared image is given for the first half of a character of two bytes. -/
def halvedRequests (names : KindNames) (verifyImages : Bool) : List Request :=
  [.create "é" names verifyImages, .build ⟨0⟩, .push 0 ⟨0⟩ ⟨⟨0, 1⟩, "?"⟩ (some "e")]

theorem indistinguishable_halved :
    List.Forall₂ Request.Alike (halvedRequests (.table #["letter"]) true)
        (halvedRequests .unnamed false) ∧
      (empty.transcript (halvedRequests (.table #["letter"]) true)).map (·.2.length) = [0, 1, 2] ∧
      (empty.transcript (halvedRequests .unnamed false)).map (·.2.length) = [0, 1, 1] ∧
      Indistinguishable (halvedRequests (.table #["letter"]) true)
        (halvedRequests .unnamed false) := by
  have halike : List.Forall₂ Request.Alike (halvedRequests (.table #["letter"]) true)
      (halvedRequests .unnamed false) :=
    .cons (.create _ _ _ _ _) (.cons (.same _) (.cons (.same _) .nil))
  exact ⟨halike, by decide, by decide, indistinguishable_of_alike.1 _ _ halike⟩

end Session

end FrontEnd
