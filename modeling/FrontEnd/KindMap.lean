import FrontEnd.TokenKind

/-!
# Sparse names of kinds

A map from kinds to names that holds each kind at most once. Naming a kind again replaces the
name it had; `get?_insert` says that no other name changes.
-/

namespace FrontEnd

namespace KindMap

/-- The entries with `name` for `kind`, in the place of an earlier name if there was one. -/
def put (kind : TokenKind) (name : String) : List (TokenKind × String) → List (TokenKind × String)
  | [] => [(kind, name)]
  | e :: rest => if e.1 = kind then (kind, name) :: rest else e :: put kind name rest

theorem mem_keys_put {kind other : TokenKind} {name : String}
    {entries : List (TokenKind × String)} :
    other ∈ (put kind name entries).map Prod.fst ↔ other = kind ∨ other ∈ entries.map Prod.fst := by
  induction entries with
  | nil => simp [put]
  | cons e rest ih =>
    by_cases h : e.1 = kind
    · simp [put, h]
    · simp only [put, h, if_false, List.map_cons, List.mem_cons, ih]
      exact or_left_comm

theorem nodup_keys_put {kind : TokenKind} {name : String} {entries : List (TokenKind × String)}
    (h : (entries.map Prod.fst).Nodup) : ((put kind name entries).map Prod.fst).Nodup := by
  induction entries with
  | nil => simp [put]
  | cons e rest ih =>
    rw [List.map_cons, List.nodup_cons] at h
    by_cases hk : e.1 = kind
    · rw [put, if_pos hk, List.map_cons, List.nodup_cons]
      exact hk ▸ h
    · rw [put, if_neg hk, List.map_cons, List.nodup_cons, mem_keys_put]
      exact ⟨fun hm => hm.elim hk h.1, ih h.2⟩

theorem lookup_put (kind other : TokenKind) (name : String) (entries : List (TokenKind × String)) :
    (put kind name entries).lookup other =
      if other = kind then some name else entries.lookup other := by
  induction entries with
  | nil =>
    by_cases h : other = kind
    · simp [put, h]
    · have hb : (other == kind) = false := by simpa using h
      simp [put, List.lookup_cons, h, hb]
  | cons e rest ih =>
    obtain ⟨k, n⟩ := e
    by_cases hk : k = kind
    · subst hk
      by_cases h : other = k
      · simp [put, h]
      · have hb : (other == k) = false := by simpa using h
        simp [put, List.lookup_cons, h, hb]
    · by_cases h : other = k
      · subst h
        simp [put, hk]
      · have hb : (other == k) = false := by simpa using h
        simpa [put, List.lookup_cons, hk, hb] using ih

end KindMap

/-- Names for some kinds, each kind at most once. -/
structure KindMap where
  entries : List (TokenKind × String)
  nodup_keys : (entries.map Prod.fst).Nodup

namespace KindMap

def empty : KindMap := ⟨[], List.nodup_nil⟩

def size (m : KindMap) : Nat := m.entries.length

def get? (m : KindMap) (kind : TokenKind) : Option String :=
  m.entries.lookup kind

def insert (m : KindMap) (kind : TokenKind) (name : String) : KindMap :=
  ⟨put kind name m.entries, nodup_keys_put m.nodup_keys⟩

/-- Names a kind and gives back the name it had. -/
def replace (m : KindMap) (kind : TokenKind) (name : String) : Option String × KindMap :=
  (m.get? kind, m.insert kind name)

/-- The map of a list of pairs; of several names for a kind the last one holds. -/
def ofList (pairs : List (TokenKind × String)) : KindMap :=
  pairs.foldl (fun m p => m.insert p.1 p.2) empty

@[simp] theorem get?_empty (kind : TokenKind) : empty.get? kind = none := rfl

theorem get?_insert (m : KindMap) (kind other : TokenKind) (name : String) :
    (m.insert kind name).get? other = if other = kind then some name else m.get? other :=
  lookup_put kind other name m.entries

end KindMap

end FrontEnd
