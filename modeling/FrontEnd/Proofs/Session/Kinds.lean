import FrontEnd.Proofs.Session.Views

/-!
# The kinds of tokens

Kinds belong to whoever reads the text, the reserved one too: nothing that mints or links a token looks
at its kind. A session hands each kind on as it was handed in (`perform_kinds`), so the kinds of all
tokens ever minted are those handed in, one for one, and a token behind the sentinel is implicit exactly
if the kind handed in for it was (`keepsKinds_after`).
-/

namespace FrontEnd

/-- The name of the reserved kind is used for another one only if a document gives it that name. -/
lemma KindNames.label_eq_implicit_iff (names : KindNames) (kind : TokenKind) :
    names.label kind = "implicit token" ↔
      kind.isImplicit = true ∨ names.name? kind = some "implicit token" := by
  unfold label
  by_cases himplicit : kind.isImplicit = true
  · simp [himplicit]
  · rw [if_neg himplicit, or_iff_right himplicit]
    cases names.name? kind with
    | some name => simp
    | none =>
      have hfirst : "token of kind " ++ toString kind.raw.toInt ≠ "implicit token" := by
        intro h
        have hchars := congrArg (fun s => s.toList.head?) h
        simp at hchars
      simpa using hfirst

/-- The kind handed in after a call for the text it has read, if it has read any and names it. -/
def Call.kind? (call : Call) : Option TokenKind :=
  if call.after.pos = call.after.start then none else call.lexeme?.map Lexeme.kind

/-- The kinds handed in for the tokens of a scan: by the answers of the decider, and for the end of the
text if the scan comes there. -/
def Document.scanKinds {σ : Type} (d : Document) (eofKind : Option TokenKind) (decider : Decider σ)
    (memory : σ) : List TokenKind :=
  (d.calls eofKind decider memory).filterMap Call.kind? ++
    match (d.scan eofKind decider memory).value.result with
    | .ok _ => eofKind.toList
    | .error _ => []

lemma Call.map_kind_minted? (d : Document) (call : Call) :
    (call.minted? d).map Token.kind = call.kind? := by
  unfold minted? kind?
  split
  next => rfl
  next => exact Option.map_map _ _ _

lemma Document.map_kind_scanTokens {σ : Type} (d : Document) (eofKind : Option TokenKind)
    (decider : Decider σ) (memory : σ) :
    (d.scanTokens eofKind decider memory).map Token.kind = d.scanKinds eofKind decider memory := by
  have hcalls : ((d.calls eofKind decider memory).filterMap (Call.minted? d)).map Token.kind =
      (d.calls eofKind decider memory).filterMap Call.kind? := by
    rw [List.map_filterMap]
    exact congrArg (List.filterMap · _) (funext fun call => call.map_kind_minted? d)
  rw [scanTokens, scanKinds, List.map_append, hcalls]
  congr 1
  cases (d.scan eofKind decider memory).value.result with
  | error cause => rfl
  | ok b =>
    cases eofKind with
    | none => rfl
    | some kind => rfl

/-- The kinds handed in with a request, each for a token to be minted by a document. -/
def Request.kinds (s : Session) : Request → List (DocumentId × TokenKind)
  | .mint id kind _ _ =>
    match s.store.document? id with
    | none => []
    | some _ => [(id, kind)]
  | .push builder kind _ _ =>
    match s.builders[builder]? with
    | none => []
    | some b =>
      match s.store.document? b.document with
      | none => []
      | some _ => [(b.document, kind)]
  | .scan id eofKind decider memory =>
    match s.store.document? id with
    | none => []
    | some d => (d.scanKinds eofKind decider memory).map (id, ·)
  | _ => []

/-- The kind of a minted token, for the document that minted it. -/
def Minted.kind (m : Minted) : DocumentId × TokenKind := (m.document, m.token.kind)

namespace Session

/-- The kinds handed in with some requests, in their order. -/
def kindsOf (s : Session) : List Request → List (DocumentId × TokenKind)
  | [] => []
  | q :: requests => q.kinds s ++ (s.perform q).kindsOf requests

/-- Every kind is kept as it was handed in. -/
structure KeepsKinds (s : Session) (given : List (DocumentId × TokenKind)) : Prop where
  minted : s.minted.map Minted.kind = given
  sentinel : ∀ id d r, s.store.document? id = some d → d.sentinel? = some r →
    r.token.isImplicit = true ∧ d.label r.token.kind = "implicit token"
  /-- The kind of a token behind the sentinel is the one handed in when it was minted. -/
  real : ∀ id d, s.store.document? id = some d → ∀ r ∈ d.real, ∃ number,
    s.numberOf? r = some number ∧ given[number]? = some (id, r.token.kind)
  /-- If nobody has handed in the reserved kind for a document, no token behind its sentinel goes by
  the name of that kind, unless the document gives this name to another. -/
  reserved : ∀ id d, s.store.document? id = some d → (id, .implicit) ∉ given → ∀ r ∈ d.real,
    r.token.isImplicit = false ∧ (d.label r.token.kind = "implicit token" ↔
      d.names.name? r.token.kind = some "implicit token")

variable {s : Session}

lemma minted_advance (s : Session) (builder : Nat) (found : Option ChainBuilder) :
    (s.advance builder found).minted = s.minted := by
  cases found with
  | none => rfl
  | some b => rfl

lemma minted_record (s : Session) (id : DocumentId) (tokens : List Token) :
    (s.record id tokens).minted.map Minted.kind =
      s.minted.map Minted.kind ++ (tokens.map Token.kind).map (id, ·) := by
  rw [record, List.map_append, List.map_map, List.map_map]
  rfl

/-- A request mints a token of each kind that is handed in with it, and no other tokens. -/
lemma perform_kinds (s : Session) (q : Request) :
    (s.perform q).minted.map Minted.kind = s.minted.map Minted.kind ++ q.kinds s := by
  cases q with
  | mint id kind excerpt constant =>
    rw [perform, Request.kinds]
    cases s.store.document? id with
    | none => exact (List.append_nil _).symm
    | some d => exact s.minted_record id [(d.mint kind excerpt constant).value]
  | push builder kind excerpt constant =>
    rw [perform, Request.kinds]
    cases s.builders[builder]? with
    | none => exact (List.append_nil _).symm
    | some b =>
      dsimp only
      cases s.store.document? b.document with
      | none => exact (List.append_nil _).symm
      | some d =>
        rw [minted_advance]
        exact s.minted_record b.document [(d.mint kind excerpt constant).value]
  | scan id eofKind decider memory =>
    have hscan : (s.store.scanTokens id eofKind decider memory).map Token.kind =
        match s.store.document? id with
        | none => []
        | some d => d.scanKinds eofKind decider memory := by
      rw [Store.scanTokens]
      cases s.store.document? id with
      | none => rfl
      | some d => exact d.map_kind_scanTokens eofKind decider memory
    rw [perform, Request.kinds]
    refine (s.minted_record id _).trans ?_
    rw [hscan]
    cases s.store.document? id with
    | none => rfl
    | some d => rfl
  | link onto number =>
    refine Eq.trans ?_ (List.append_nil _).symm
    rw [perform]
    split
    next => rfl
    next => rfl
  | attach builder number =>
    refine Eq.trans ?_ (List.append_nil _).symm
    rw [perform]
    split
    next =>
      rw [minted_advance]
      rfl
    next => rfl
  | create | tryOpen | sentinel | first | next | tail | build => exact (List.append_nil _).symm

lemma run_kinds (s : Session) (requests : List Request) :
    (s.run requests).minted.map Minted.kind = s.minted.map Minted.kind ++ s.kindsOf requests := by
  induction requests generalizing s with
  | nil => exact (List.append_nil _).symm
  | cons q requests ih =>
    rw [kindsOf, ← List.append_assoc, ← perform_kinds]
    exact ih (s.perform q)

/-- A token behind a sentinel has the kind handed in under its number. -/
lemma Inv.kind_real (h : s.Inv) {id : DocumentId} {d : Document} {r : LinkedToken}
    (hd : s.store.document? id = some d) (hr : r ∈ d.real) :
    ∃ number, s.numberOf? r = some number ∧
      (s.minted.map Minted.kind)[number]? = some (id, r.token.kind) := by
  have hholds := Document.holds_of_mem_chainFrom hr
  have hown : r.document = id := ((h.sound.sound hd).document_eq hholds).trans (h.sound.numbered hd)
  have hpos : r.position ≠ 0 := by
    have hmem := List.mem_map_of_mem (f := LinkedToken.position) hr
    rw [Document.real, Document.map_position_chainFrom, List.mem_range'_1] at hmem
    omega
  obtain ⟨number, hnumber, hget⟩ := h.exists_numberOf? (holds_of_document? h hd hholds) hpos
  refine ⟨number, hnumber, ?_⟩
  rw [List.getElem?_map, hget, hown]
  rfl

/-- Whatever was asked for, every token has the kind that was handed in for it. -/
theorem keepsKinds_after (requests : List Request) :
    (after requests).KeepsKinds (empty.kindsOf requests) := by
  have h := inv_after requests
  have hminted : (after requests).minted.map Minted.kind = empty.kindsOf requests :=
    (run_kinds empty requests).trans (List.nil_append _)
  have hreal : ∀ {id d}, (after requests).store.document? id = some d → ∀ r ∈ d.real, ∃ number,
      (after requests).numberOf? r = some number ∧
        (empty.kindsOf requests)[number]? = some (id, r.token.kind) := by
    intro id d hd r hr
    rw [← hminted]
    exact h.kind_real hd hr
  exact
    { minted := hminted
      sentinel := by
        intro id d r hd hr
        obtain ⟨r', real, hchained⟩ := h.wellChained hd (Document.isOpened_of_sentinel? hr)
        obtain rfl : r' = r := Option.some.inj (hchained.starts.symm.trans hr)
        exact ⟨hchained.implicit, (KindNames.label_eq_implicit_iff _ _).2 (.inl hchained.implicit)⟩
      real := fun id d hd => hreal hd
      reserved := by
        intro id d hd hnone r hr
        have himplicit : r.token.isImplicit = false := by
          rw [Token.isImplicit, TokenKind.isImplicit, decide_eq_false_iff_not]
          intro hkind
          obtain ⟨number, -, hget⟩ := hreal hd r hr
          rw [hkind] at hget
          exact hnone (List.mem_of_getElem? hget)
        refine ⟨himplicit, ?_⟩
        rw [Document.label, KindNames.label_eq_implicit_iff, ← Token.isImplicit, himplicit]
        simp }

/-- Two documents are read by builders. A client hands in the reserved kind for the first one and a
kind for the second one that is given the name of the reserved one there. -/
def reservedRequests : List Request :=
  [.create "a" .unnamed false, .create "a" (.table #["implicit token"]) false, .build ⟨0⟩, .build ⟨1⟩,
    .push 0 .implicit ⟨⟨0, 1⟩, "a"⟩ none, .push 1 ⟨0⟩ ⟨⟨0, 0⟩, ""⟩ none, .push 1 ⟨1⟩ ⟨⟨0, 1⟩, "a"⟩ none]

theorem keepsKinds_after_reserved :
    empty.kindsOf reservedRequests = [(⟨0⟩, .implicit), (⟨1⟩, ⟨0⟩), (⟨1⟩, ⟨1⟩)] ∧
      (after reservedRequests).KeepsKinds (empty.kindsOf reservedRequests) :=
  ⟨by decide, keepsKinds_after reservedRequests⟩

/-- A scan of an empty text that is to end with a token of the reserved kind. -/
def implicitEndRequests : List Request :=
  [.create "" .unnamed false, .scan ⟨0⟩ (some .implicit) (Decider.every ⟨7⟩) ()]

lemma document_of_implicitEnd :
    ((Document.create ⟨0⟩ "" .unnamed false).scan (some .implicit) (Decider.every ⟨7⟩)
      ()).value.document = { Document.create ⟨0⟩ "" .unnamed false with
        chain := #[Token.sentinel ⟨0⟩, ⟨.implicit, .shared "", ⟨0, 0⟩, ⟨0⟩⟩] } := by
  have hstart : (ChainBuilder.start (Document.create ⟨0⟩ "" .unnamed false)).value =
      (.ok ⟨⟨Token.sentinel ⟨0⟩, 0⟩, 0⟩, { Document.create ⟨0⟩ "" .unnamed false with
        chain := #[Token.sentinel ⟨0⟩] }) := rfl
  rw [Document.scan]
  split
  next cause e events hs => simp [hs] at hstart
  next b e events hs =>
    obtain ⟨rfl, rfl⟩ : b = _ ∧ e = _ := by simpa [hs] using hstart
    -- the loop over the text stops at once
    rw [scanLexemes_of_ahead_nil (Decider.every ⟨7⟩) rfl]
    rfl

/-- A token behind the sentinel can be implicit and go by the name of the reserved kind. -/
theorem implicit_behind_sentinel :
    ∃ d, (after implicitEndRequests).store.document? ⟨0⟩ = some d ∧
      d.real.map (fun r => (r.token.isImplicit, d.label r.token.kind)) =
        [(true, "implicit token")] := by
  have hstore : (after implicitEndRequests).store =
      (after [.create "" .unnamed false]).store.put ((Document.create ⟨0⟩ "" .unnamed false).scan
        (some .implicit) (Decider.every ⟨7⟩) ()).value.document := rfl
  rw [hstore, document_of_implicitEnd]
  exact ⟨_, rfl, by decide⟩

end Session

end FrontEnd
