import FrontEnd.Proofs.Session.Requests

/-!
# Chains and the history of links

However the requests of the clients are interleaved, the tokens of a document are those of the links
that succeeded on it, in their order and each once. A link succeeds only at the end of a chain, and
what was linked stays where it is (`linksOnce_after`).
-/

namespace FrontEnd

namespace Session

/-- No link is lost, made twice or taken back, neither up to now nor later. -/
structure LinksOnce (s : Session) : Prop where
  tokens : ∀ id, (s.store.tokensOf id).map LinkedToken.token = (s.linksOf id).map Link.token
  once : (s.history.map Link.number).Nodup
  linked : ∀ l ∈ s.history, s.minted[l.number]? = some ⟨l.document, l.token⟩
  link : ∀ onto ∈ s.refs, ∀ t r, (s.store.link onto t).value.1 = .ok r →
    s.store.LinksLast onto t r (s.store.link onto t).value.2
  accepts : ∀ onto ∈ s.refs, ∀ t, ∃ d, s.store.document? onto.document = some d ∧
    ((∃ r, (s.store.link onto t).value.1 = .ok r) ↔
      t.document = d.id ∧ t.span.start ≤ t.span.stop ∧ t.span.stop ≤ d.len ∧
        onto.token.span.stop ≤ t.span.start ∧ (d.chainFrom 0).getLast? = some onto)
  refuses : ∀ onto t cause, (s.store.link onto t).value.1 = .error cause →
    (s.store.link onto t).value.2 = s.store
  attach : ∀ b ∈ s.builders, ∀ t b', (s.store.attach b t).value.1 = .ok b' →
    s.store.LinksLast b.tail t b'.tail (s.store.attach b t).value.2
  push : ∀ b ∈ s.builders, ∀ kind excerpt constant b',
    (s.store.push b kind excerpt constant).value.1 = .ok b' →
      ∃ d, s.store.document? b.document = some d ∧
        s.store.LinksLast b.tail (d.mint kind excerpt constant).value b'.tail
          (s.store.push b kind excerpt constant).value.2
  stable : ∀ later id d, s.store.document? id = some d →
    ∃ e, (s.run later).store.document? id = some e ∧ d.chain.toList <+: e.chain.toList ∧
      ∀ r r', d.next? r = some r' → e.next? r = some r'
  frame : ∀ q id d, q.target? s ≠ some id → s.store.document? id = some d →
    (s.perform q).store.document? id = some d

namespace Inv

variable {s : Session}

lemma push_ok (h : s.Inv) {b b' : ChainBuilder} (hb : b ∈ s.builders) {kind : TokenKind}
    {excerpt : Excerpt} {constant : Option String}
    (hp : (s.store.push b kind excerpt constant).value.1 = .ok b') :
    ∃ d, s.store.document? b.document = some d ∧
      s.store.LinksLast b.tail (d.mint kind excerpt constant).value b'.tail
        (s.store.push b kind excerpt constant).value.2 := by
  obtain ⟨d, hd, -⟩ := h.tails b hb
  have hpush := Store.value_push hd kind excerpt constant
  refine ⟨d, hd, ?_⟩
  rw [hpush] at hp ⊢
  exact Store.attach_ok h.sound (h.tails b hb) hp

lemma perform_becomes (h : s.Inv) (q : Request) {id : DocumentId} {d : Document}
    (hd : s.store.document? id = some d) :
    ∃ e links, (s.perform q).store.document? id = some e ∧ d.Becomes links e := by
  obtain ⟨fresh, done, hstep⟩ := perform_step h q
  obtain ⟨links, hchange, -⟩ := hstep.change
  rcases hchange.document?_cases h.sound id with ⟨d', e, hd', he, hgrow⟩ | ⟨hnone, -⟩
  · obtain rfl : d' = d := Option.some.inj (hd'.symm.trans hd)
    exact ⟨e, _, he, hgrow⟩
  · rw [hnone] at hd
    cases hd

lemma run_becomes (h : s.Inv) (later : List Request) {id : DocumentId} {d : Document}
    (hd : s.store.document? id = some d) :
    ∃ e links, (s.run later).store.document? id = some e ∧ d.Becomes links e := by
  induction later generalizing s d with
  | nil => exact ⟨d, [], hd, .same⟩
  | cons q later ih =>
    obtain ⟨e, links, he, hgrow⟩ := h.perform_becomes q hd
    obtain ⟨f, more, hf, hgrow'⟩ := ih (perform_inv h q) he
    exact ⟨f, _, hf, hgrow.trans hgrow'⟩

lemma frame (h : s.Inv) (q : Request) {id : DocumentId} {d : Document}
    (hq : q.target? s ≠ some id) (hd : s.store.document? id = some d) :
    (s.perform q).store.document? id = some d := by
  obtain ⟨fresh, done, hstep⟩ := perform_step h q
  obtain ⟨links, hchange, -⟩ := hstep.change
  exact hchange.frame h.sound hq hd

end Inv

/-- In every session each link takes effect once and for all, and on one document only. -/
theorem linksOnce_after (requests : List Request) : (after requests).LinksOnce := by
  have h := inv_after requests
  exact
    { tokens := h.tokens
      once := h.nodup_history
      linked := h.linked
      link := fun onto ho t r hr => Store.link_ok h.sound (h.refs onto ho) hr
      accepts := by
        intro onto ho t
        obtain ⟨d, hd, hholds⟩ := h.refs onto ho
        exact ⟨d, hd, Store.link_ok_iff hd hholds t⟩
      refuses := fun onto t cause hl => Store.link_error h.sound hl
      attach := fun b hb t b' hb' => Store.attach_ok h.sound (h.tails b hb) hb'
      push := fun b hb _ _ _ b' hp => h.push_ok hb hp
      stable := by
        intro later id d hd
        obtain ⟨e, links, he, hgrow⟩ := h.run_becomes later hd
        exact ⟨e, he, hgrow.chain_prefix, fun r r' hr => hgrow.next?_eq hr⟩
      frame := fun q id d hq hd => h.frame q hq hd }

/-- Two clients race for the sentinel with one token each, and a builder comes too late. -/
def racingRequests : List Request :=
  [.create "ab" .unnamed false, .build ⟨0⟩, .sentinel ⟨0⟩, .mint ⟨0⟩ ⟨7⟩ ⟨⟨0, 1⟩, "a"⟩ none,
    .mint ⟨0⟩ ⟨7⟩ ⟨⟨0, 2⟩, "ab"⟩ none, .link 0 1, .link 0 0, .push 0 ⟨7⟩ ⟨⟨0, 1⟩, "a"⟩ none]

theorem linksOnce_after_race :
    (after racingRequests).history.map Link.number = [1] ∧ (after racingRequests).LinksOnce :=
  ⟨by decide, linksOnce_after racingRequests⟩

end Session

end FrontEnd
