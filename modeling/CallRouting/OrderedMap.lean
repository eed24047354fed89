/-!
# Maps in insertion order

A map from names to values that remembers the order in which its names were first inserted. The
order is part of what a reader of the map can see, so two maps with the same bindings in another
order are different maps.

`insert` replaces the value of a name that is present and keeps its place; a new name goes last.
The view is `entries`, and `get?` and `keys` are read off it.
-/

namespace CallRouting

/-- The entries with `key` bound to `value`: in place if the key occurs, at the end otherwise. -/
def insertEntry {α : Type} (key : String) (value : α) : List (String × α) → List (String × α)
  | [] => [(key, value)]
  | (k, v) :: rest => if k = key then (k, value) :: rest else (k, v) :: insertEntry key value rest

theorem map_fst_insertEntry {α : Type} (key : String) (value : α) (l : List (String × α)) :
    (insertEntry key value l).map Prod.fst
      = if key ∈ l.map Prod.fst then l.map Prod.fst else l.map Prod.fst ++ [key] := by
  induction l with
  | nil => simp [insertEntry]
  | cons e rest ih =>
    obtain ⟨k, v⟩ := e
    by_cases h : k = key
    · simp [insertEntry, h]
    · have h' : ¬key = k := fun e ↦ h e.symm
      by_cases hm : key ∈ rest.map Prod.fst
      · simp only [insertEntry, if_neg h, List.map_cons, ih, List.mem_cons, hm, or_true, if_true]
      · simp only [insertEntry, if_neg h, List.map_cons, ih, List.mem_cons, hm, h', or_self,
          if_false, List.cons_append]

/-- A map from names to values in insertion order. No name has two entries. -/
structure OrderedMap (α : Type) where
  /-- The bindings, oldest first. -/
  entries : List (String × α)
  /-- Each name is bound once. -/
  nodup : (entries.map Prod.fst).Nodup
  deriving DecidableEq

namespace OrderedMap

variable {α β : Type}

/-- The map with no entries. -/
def empty : OrderedMap α := ⟨[], by simp⟩

instance : Inhabited (OrderedMap α) := ⟨empty⟩

instance : EmptyCollection (OrderedMap α) := ⟨empty⟩

/-- The names, oldest first. -/
def keys (m : OrderedMap α) : List String := m.entries.map Prod.fst

/-- The values, in the order of their names. -/
def values (m : OrderedMap α) : List α := m.entries.map Prod.snd

/-- The value bound to a name. -/
def get? (m : OrderedMap α) (key : String) : Option α := m.entries.lookup key

/-- Whether a name is bound. -/
def contains (m : OrderedMap α) (key : String) : Bool := (m.get? key).isSome

/-- Whether nothing is bound. -/
def isEmpty (m : OrderedMap α) : Bool := m.entries.isEmpty

/-- How many names are bound. -/
def size (m : OrderedMap α) : Nat := m.entries.length

/-- Binds a name: in its place if it is bound, after all others if it is new. -/
def insert (m : OrderedMap α) (key : String) (value : α) : OrderedMap α :=
  ⟨insertEntry key value m.entries, by
    rw [map_fst_insertEntry]
    split
    · exact m.nodup
    · exact List.nodup_append.2 ⟨m.nodup, by simp, by grind⟩⟩

/-- Inserts the entries of a list one after the other. -/
def insertAll (m : OrderedMap α) (l : List (String × α)) : OrderedMap α :=
  l.foldl (fun m e ↦ m.insert e.1 e.2) m

/-- The map of a list of bindings: a repeated name keeps its first place and its last value. -/
def ofList (l : List (String × α)) : OrderedMap α := empty.insertAll l

/-- The map with every value replaced by its image; names and order stay. -/
def map (f : α → β) (m : OrderedMap α) : OrderedMap β :=
  ⟨m.entries.map fun e ↦ (e.1, f e.2), by simpa [Function.comp_def] using m.nodup⟩

/-! ## What the operations do to the view -/

@[simp] theorem entries_insert (m : OrderedMap α) (key : String) (value : α) :
    (m.insert key value).entries = insertEntry key value m.entries := rfl

@[ext] theorem ext {m n : OrderedMap α} (h : m.entries = n.entries) : m = n := by
  cases m; cases n; simp_all

/-- A name that is bound keeps the list of names; a new one is added at its end. -/
theorem keys_insert (m : OrderedMap α) (key : String) (value : α) :
    (m.insert key value).keys = if key ∈ m.keys then m.keys else m.keys ++ [key] :=
  map_fst_insertEntry key value m.entries

theorem lookup_insertEntry (key : String) (value : α) (l : List (String × α)) (k : String) :
    (insertEntry key value l).lookup k = if k = key then some value else l.lookup k := by
  induction l with
  | nil => by_cases h : k = key <;> simp [insertEntry, List.lookup_cons, h, beq_eq_false_iff_ne.2]
  | cons e rest ih =>
    obtain ⟨k', v'⟩ := e
    by_cases h : k' = key
    · subst h
      by_cases hk : k = k' <;> simp [insertEntry, List.lookup_cons, hk, beq_eq_false_iff_ne.2]
    · by_cases hk : k = k'
      · subst hk
        simp [insertEntry, h]
      · simp [insertEntry, List.lookup_cons, h, hk, beq_eq_false_iff_ne.2, ih]

/-- After an insertion the name has the new value and every other name its old one. -/
theorem get?_insert (m : OrderedMap α) (key : String) (value : α) (k : String) :
    (m.insert key value).get? k = if k = key then some value else m.get? k :=
  lookup_insertEntry key value m.entries k

end OrderedMap

end CallRouting
