import FrontEnd.Proofs.Session.Basic

/-!
# Iterators beside the requests of a session

Clients also walk along chains with iterators: from a linked token they have got, from behind a
sentinel, or from where another iterator stands. Between two calls of `next` anything can happen, but
an iterator moves by its own calls only, and what these answer depends on nothing else than what its
document was when they were made (`Iterations.getElem?_run`).
-/

namespace FrontEnd

/-- An iterator that a client has got, and what it has answered since. -/
structure Iteration where
  document : DocumentId
  /-- The token that was to be yielded first, none if there was none. -/
  origin : Option LinkedToken
  iterator : TokenIterator
  answers : List (Option LinkedToken)

namespace Iteration

def begun (document : DocumentId) (iterator : TokenIterator) : Iteration :=
  ⟨document, iterator.upcoming, iterator, []⟩

def yielded (x : Iteration) : List LinkedToken := x.answers.reduceOption

/-- One call of `next`. -/
def next (x : Iteration) (d : Document) : Iteration :=
  { x with iterator := (x.iterator.next d).2, answers := x.answers ++ [(x.iterator.next d).1] }

@[simp] lemma upcoming_next (x : Iteration) (d : Document) :
    (x.next d).iterator.upcoming = x.iterator.upcoming.bind d.next? := rfl

@[simp] lemma answers_next (x : Iteration) (d : Document) :
    (x.next d).answers = x.answers ++ [x.iterator.upcoming] := rfl

end Iteration

/-- A session whose clients have got iterators; these are named by their place. -/
structure Iterations where
  session : Session
  iterations : List Iteration

/-- What happens next: a request is made, an iterator is made from a linked token, for the tokens behind
a sentinel or as a clone, or `next` is called on one. -/
inductive IteratorTurn : Type 1 where
  | ask (q : Request)
  | chain (ref : Nat)
  | tokens (id : DocumentId)
  | clone (i : Nat)
  | next (i : Nat)

/-- Whether the turn is a call of `next` on the iterator. -/
def IteratorTurn.calls (i : Nat) : IteratorTurn → Bool
  | next j => j = i
  | _ => false

namespace Iterations

def start : Iterations := ⟨.empty, []⟩

/-- A client has got an iterator, if there was one. -/
def gain (w : Iterations) (found : Option Iteration) : Iterations :=
  { w with iterations := w.iterations ++ found.toList }

/-- A token that is yielded is one more linked token that clients have got. -/
def take (w : Iterations) : IteratorTurn → Iterations
  | .ask q => { w with session := w.session.perform q }
  | .chain ref => w.gain (w.session.refs[ref]?.map fun r => .begun r.document (.startingAt r))
  | .tokens id =>
    w.gain ((w.session.store.document? id).bind fun d => d.tokens.toOption.map (.begun id))
  | .clone i => w.gain (w.iterations[i]?.map fun x => .begun x.document x.iterator)
  | .next i =>
    match w.iterations[i]? with
    | none => w
    | some x =>
      match w.session.store.document? x.document with
      | none => w
      | some d => ⟨w.session.learn (x.iterator.next d).1, w.iterations.set i (x.next d)⟩

def run (w : Iterations) (turns : List IteratorTurn) : Iterations := turns.foldl take w

def after (turns : List IteratorTurn) : Iterations := start.run turns

/-- What the iterator's calls of `next` find of its document, one call after the other. -/
def shown (w : Iterations) (i : Nat) : List IteratorTurn → List Document
  | [] => []
  | turn :: later =>
    (if turn.calls i then
      (w.iterations[i]?.bind fun x => w.session.store.document? x.document).toList
    else []) ++ (w.take turn).shown i later

/-! ### What one turn does -/

variable {w : Iterations} {i : Nat} {x : Iteration} {turn : IteratorTurn}

/-- Whatever is done with iterators, clients get at most one more linked token by it. -/
lemma session_take (w : Iterations) (hturn : ∀ q, turn ≠ .ask q) :
    ∃ found, (w.take turn).session = w.session.learn found := by
  have hsame : w.session = w.session.learn none := by simp [Session.learn]
  cases turn with
  | ask q => exact absurd rfl (hturn q)
  | next j =>
    rw [take]
    split
    next => exact ⟨none, hsame⟩
    next y hy =>
      split
      next => exact ⟨none, hsame⟩
      next d hd => exact ⟨_, rfl⟩
  | _ => exact ⟨none, hsame⟩

/-- All that can become of the session in a turn: a request is performed, or a token has been yielded. -/
lemma session_take_cases (w : Iterations) (turn : IteratorTurn) :
    (∃ q, (w.take turn).session = w.session.perform q) ∨
      ∃ found, (w.take turn).session = w.session.learn found := by
  by_cases hturn : ∃ q, turn = .ask q
  · obtain ⟨q, rfl⟩ := hturn
    exact .inl ⟨q, rfl⟩
  · exact .inr (w.session_take fun q hq => hturn ⟨q, hq⟩)

lemma getElem?_gain (hx : w.iterations[i]? = some x) (found : Option Iteration) :
    (w.gain found).iterations[i]? = some x := by
  obtain ⟨hlt, -⟩ := List.getElem?_eq_some_iff.1 hx
  rw [gain, List.getElem?_append_left hlt, hx]

lemma getElem?_gain_length (w : Iterations) (found : Option Iteration) :
    (w.gain found).iterations[w.iterations.length]? = found := by
  cases found with
  | none => simp [gain]
  | some y => exact List.getElem?_concat_length

lemma take_chain {ref : Nat} {r : LinkedToken} (hr : w.session.refs[ref]? = some r) :
    w.take (.chain ref) = w.gain (some (.begun r.document (.startingAt r))) := by
  rw [take, hr, Option.map_some]

lemma take_tokens {id : DocumentId} {d : Document} {it : TokenIterator}
    (hd : w.session.store.document? id = some d) (hit : d.tokens = .ok it) :
    w.take (.tokens id) = w.gain (some (.begun id it)) := by
  rw [take, hd, Option.bind_some, hit]
  rfl

lemma take_clone (hx : w.iterations[i]? = some x) :
    w.take (.clone i) = w.gain (some (.begun x.document x.iterator)) := by
  rw [take, hx, Option.map_some]

lemma take_next (hx : w.iterations[i]? = some x) {d : Document}
    (hd : w.session.store.document? x.document = some d) :
    w.take (.next i) =
      ⟨w.session.learn (x.iterator.next d).1, w.iterations.set i (x.next d)⟩ := by
  simp only [take, hx, hd]

lemma shown_of_not_calls (hturn : turn.calls i = false) : w.shown i [turn] = [] := by
  simp [shown, hturn]

lemma shown_of_document? (hx : w.iterations[i]? = some x) {d : Document}
    (hd : w.session.store.document? x.document = some d) (turn : IteratorTurn) :
    w.shown i [turn] = List.replicate (if turn.calls i then 1 else 0) d := by
  rw [shown, shown, List.append_nil, hx, Option.bind_some, hd]
  cases turn.calls i with
  | true => rfl
  | false => rfl

lemma shown_cons (w : Iterations) (i : Nat) (turn : IteratorTurn) (later : List IteratorTurn) :
    w.shown i (turn :: later) = w.shown i [turn] ++ (w.take turn).shown i later := by
  rw [shown, shown, shown, List.append_nil]

/-- An iterator is moved by its own calls, and by no other turn. -/
lemma getElem?_take (hx : w.iterations[i]? = some x) (turn : IteratorTurn) :
    (w.take turn).iterations[i]? = some ((w.shown i [turn]).foldl Iteration.next x) := by
  cases turn with
  | ask q => exact hx
  | chain ref => exact getElem?_gain hx _
  | tokens id => exact getElem?_gain hx _
  | clone j => exact getElem?_gain hx _
  | next j =>
    by_cases hj : j = i
    · subst hj
      cases hd : w.session.store.document? x.document with
      | none => simp [take, shown, IteratorTurn.calls, hx, hd]
      | some d =>
        obtain ⟨hlt, -⟩ := List.getElem?_eq_some_iff.1 hx
        have hshown : w.shown j [.next j] = [d] := by
          rw [shown_of_document? hx hd, IteratorTurn.calls, if_pos (decide_eq_true rfl)]
          rfl
        rw [take_next hx hd, List.getElem?_set_self hlt, hshown]
        rfl
    · have hshown : w.shown i [.next j] = [] := shown_of_not_calls (decide_eq_false hj)
      rw [hshown, take]
      split
      next => exact hx
      next y hy =>
        split
        next => exact hx
        next d hd => rw [List.getElem?_set_ne hj, hx, List.foldl_nil]

lemma getElem?_take_of_not_calls (hx : w.iterations[i]? = some x) (hturn : turn.calls i = false) :
    (w.take turn).iterations[i]? = some x := by
  rw [getElem?_take hx, shown_of_not_calls hturn, List.foldl_nil]

/-- What an iterator answers depends on what its own calls find, and on nothing else. -/
theorem getElem?_run (hx : w.iterations[i]? = some x) (later : List IteratorTurn) :
    (w.run later).iterations[i]? = some ((w.shown i later).foldl Iteration.next x) := by
  induction later generalizing w x with
  | nil => exact hx
  | cons turn later ih =>
    rw [shown_cons, List.foldl_append]
    exact ih (getElem?_take hx turn)

end Iterations

end FrontEnd
