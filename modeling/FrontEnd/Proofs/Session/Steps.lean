import FrontEnd.Proofs.Session.Basic
import Mathlib.Data.List.Perm.Subperm

/-!
# Steps of a session

Whatever is asked for, a session takes a `Session.Step`: at most one chain grows, by tokens that were
loose or have just been minted, and each token is used up by the first attempt to link it. From this
alone follows what holds of every session (`Session.Inv`), above all that the chains are the history
of the successful links.
-/

namespace FrontEnd

namespace Session

/-- What holds of a session after any requests. A number is loose or linked, and that at most once;
the tokens of a document are those of its links, in the order in which these succeeded. -/
structure Inv (s : Session) : Prop where
  sound : s.store.Sound
  refs : ∀ r ∈ s.refs, s.store.Holds r
  tails : ∀ b ∈ s.builders, s.store.Holds b.tail
  own : ∀ m ∈ s.minted, m.token.document = m.document
  numbers : (s.loose ++ s.history.map Link.number).Subperm (List.range s.minted.length)
  linked : ∀ l ∈ s.history, s.minted[l.number]? = some ⟨l.document, l.token⟩
  tokens : ∀ id, (s.store.tokensOf id).map LinkedToken.token = (s.linksOf id).map Link.token

/-- What one request can make of a session, with the tokens minted and linked on the way. -/
structure Step (s : Session) (target : Option DocumentId) (fresh : List Minted) (done : List Link)
    (s' : Session) : Prop where
  change : ∃ links, s.store.Change target links s'.store ∧
    links.map LinkedToken.token = done.map Link.token
  minted : s'.minted = s.minted ++ fresh
  own : ∀ m ∈ fresh, m.token.document = m.document
  history : s'.history = s.history ++ done
  numbers : (s'.loose ++ done.map Link.number).Subperm
    (s.loose ++ List.range' s.minted.length fresh.length)
  linked : ∀ l ∈ done, s'.minted[l.number]? = some ⟨l.document, l.token⟩
  refs : ∀ r ∈ s'.refs, r ∈ s.refs ∨ s'.store.Holds r
  tails : ∀ b ∈ s'.builders, b ∈ s.builders ∨ s'.store.Holds b.tail

lemma inv_empty : empty.Inv where
  sound := ⟨fun h => by simp [empty, Store.empty, Store.document?] at h,
    fun h => by simp [empty, Store.empty, Store.document?] at h⟩
  refs := nofun
  tails := nofun
  own := nofun
  numbers := List.nil_subperm
  linked := nofun
  tokens := fun _ => rfl

lemma Inv.nodup_history {s : Session} (h : s.Inv) : (s.history.map Link.number).Nodup := by
  obtain ⟨numbers, hperm, hsub⟩ := h.numbers
  have hall := hperm.nodup_iff.1 (hsub.nodup List.nodup_range)
  exact (List.nodup_append.1 hall).2.1

namespace Step

variable {s s' : Session} {target : Option DocumentId} {fresh : List Minted} {done : List Link}

lemma own_all (hs : s.Inv) (h : Step s target fresh done s') :
    ∀ m ∈ s'.minted, m.token.document = m.document := by
  rw [h.minted]
  intro m hm
  rcases List.mem_append.1 hm with hm | hm
  · exact hs.own m hm
  · exact h.own m hm

lemma document_eq_of_linked (hs : s.Inv) (h : Step s target fresh done s') {l : Link}
    (hl : l ∈ done) : l.token.document = l.document :=
  h.own_all hs _ (List.mem_of_getElem? (h.linked l hl))

/-- No number is used twice: what is loose or linked now was loose or linked, or is fresh. -/
lemma numbers_all (hs : s.Inv) (h : Step s target fresh done s') :
    (s'.loose ++ s'.history.map Link.number).Subperm (List.range s'.minted.length) := by
  have hfresh := (List.subperm_append_right (s.history.map Link.number)).2 h.numbers
  have hused := (List.subperm_append_right (List.range' s.minted.length fresh.length)).2 hs.numbers
  have hnew : (s'.loose ++ s'.history.map Link.number).Perm
      (s'.loose ++ done.map Link.number ++ s.history.map Link.number) := by
    rw [h.history, List.map_append, List.append_assoc]
    exact List.Perm.append_left _ List.perm_append_comm
  have hold : (s.loose ++ List.range' s.minted.length fresh.length ++
      s.history.map Link.number).Perm
      (s.loose ++ s.history.map Link.number ++ List.range' s.minted.length fresh.length) := by
    rw [List.append_assoc, List.append_assoc]
    exact List.Perm.append_left _ List.perm_append_comm
  have hrange : List.range s'.minted.length =
      List.range s.minted.length ++ List.range' s.minted.length fresh.length := by
    have happend := List.range'_append_1 (s := 0) (m := s.minted.length) (n := fresh.length)
    rw [Nat.zero_add] at happend
    rw [h.minted, List.length_append, List.range_eq_range', List.range_eq_range', happend]
  rw [hrange]
  exact hnew.subperm.trans (hfresh.trans (hold.subperm.trans hused))

lemma map_token_filter (hs : s.Inv) (h : Step s target fresh done s') {links : List LinkedToken}
    (hlinks : links.map LinkedToken.token = done.map Link.token) (id : DocumentId) :
    (links.filter (·.document = id)).map LinkedToken.token =
      (done.filter (·.document = id)).map Link.token := by
  have hdone : done.filter (·.document = id) = done.filter (·.token.document = id) := by
    apply List.filter_congr
    intro l hl
    rw [h.document_eq_of_linked hs hl]
  have hmap := congrArg (List.filter (·.document = id)) hlinks
  rw [List.filter_map, List.filter_map] at hmap
  rw [hdone]
  exact hmap

/-- One step keeps what holds of a session. -/
theorem inv (hs : s.Inv) (h : Step s target fresh done s') : s'.Inv := by
  obtain ⟨links, hchange, hlinks⟩ := h.change
  exact
    { sound := hchange.sound hs.sound
      refs := by
        intro r hr
        rcases h.refs r hr with hr | hr
        · exact hchange.holds hs.sound (hs.refs r hr)
        · exact hr
      tails := by
        intro b hb
        rcases h.tails b hb with hb | hb
        · exact hchange.holds hs.sound (hs.tails b hb)
        · exact hb
      own := h.own_all hs
      numbers := h.numbers_all hs
      linked := by
        intro l hl
        rw [h.history, List.mem_append] at hl
        rcases hl with hl | hl
        · rw [h.minted]
          have hget := hs.linked l hl
          rw [List.getElem?_append_left (List.getElem?_eq_some_iff.1 hget).1, hget]
        · exact h.linked l hl
      tokens := by
        intro id
        rw [hchange.tokensOf_eq hs.sound, linksOf, h.history, List.map_append, List.filter_append,
          List.map_append, hs.tokens id, h.map_token_filter hs hlinks, linksOf] }

end Step

end Session

end FrontEnd
