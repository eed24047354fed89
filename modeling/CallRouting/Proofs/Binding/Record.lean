import CallRouting.Binding.Record
import CallRouting.Proofs.OrderedMap

/-!
# The last write counts

A record is described by its names, which are those of the catalog, and by the value of each name.
Making assignments one after the other leaves the names alone, and gives each name of the catalog
what the last assignment to it says. The record has a place exactly for the names of the catalog
all along, so what is warned of can be told from the catalog alone.
-/

namespace CallRouting.Binding

/-- What the last assignment to a parameter says, if there is one: a value, or none for a parameter
that it clears. -/
def lastWrite (assignments : List Assignment) (name : String) : Option (Option ParameterValue) :=
  (assignments.reverse.find? fun a ↦ a.parameter = name).map Assignment.value

@[simp] theorem lastWrite_nil (name : String) : lastWrite [] name = none := rfl

theorem lastWrite_append (l l' : List Assignment) (name : String) :
    lastWrite (l ++ l') name = (lastWrite l' name).or (lastWrite l name) := by
  rw [lastWrite, List.reverse_append, List.find?_append, Option.map_or, lastWrite, lastWrite]

theorem lastWrite_singleton (a : Assignment) (name : String) :
    lastWrite [a] name = if a.parameter = name then some a.value else none := by
  rw [lastWrite, List.reverse_singleton]
  by_cases h : a.parameter = name
  · rw [List.find?_cons_of_pos (by simpa using h), if_pos h, Option.map_some]
  · rw [List.find?_cons_of_neg (by simpa using h), if_neg h, List.find?_nil, Option.map_none]

theorem lastWrite_eq_none_iff {l : List Assignment} {name : String} :
    lastWrite l name = none ↔ ∀ a ∈ l, a.parameter ≠ name := by
  simp [lastWrite]

theorem lastWrite_map {α : Type} (f : α → Assignment) (l : List α) (name : String) :
    lastWrite (l.map f) name
      = (l.reverse.find? fun a ↦ (f a).parameter = name).map fun a ↦ (f a).value := by
  rw [lastWrite, ← List.map_reverse, List.find?_map, Option.map_map]
  rfl

theorem exists_of_lastWrite {l : List Assignment} {name : String} {value : Option ParameterValue}
    (h : lastWrite l name = some value) : ∃ a ∈ l, a.parameter = name ∧ a.value = value := by
  obtain ⟨a, hfind, rfl⟩ := Option.map_eq_some_iff.mp h
  have hname : a.parameter = name := by simpa using List.find?_some hfind
  exact ⟨a, List.mem_reverse.mp (List.mem_of_find?_eq_some hfind), hname, rfl⟩

theorem lastWrite_eq_some_of_forall {l : List Assignment} {a : Assignment} (ha : a ∈ l)
    (hl : ∀ b ∈ l, b.parameter = a.parameter → b.value = a.value) :
    lastWrite l a.parameter = some a.value := by
  cases h : lastWrite l a.parameter with
  | none => exact absurd rfl (lastWrite_eq_none_iff.mp h a ha)
  | some value =>
    obtain ⟨b, hb, hname, rfl⟩ := exists_of_lastWrite h
    rw [hl b hb hname]

namespace Record

/-! ## One assignment -/

variable {s : Record × List Warning}

theorem names_assign (a : Assignment) : (assign s a).1.names = s.1.names := by
  rw [assign]
  by_cases h : s.1.values.contains a.parameter = true
  · rw [if_pos h, names, names, OrderedMap.keys_insert, if_pos (OrderedMap.contains_iff.mp h)]
  · rw [if_neg h]

theorem get?_assign {name : String} (h : name ∈ s.1.names) (a : Assignment) :
    (assign s a).1.get? name = if a.parameter = name then a.value else s.1.get? name := by
  rw [assign]
  by_cases hn : a.parameter = name
  · subst hn
    rw [if_pos (OrderedMap.contains_iff.mpr h), if_pos rfl, get?, OrderedMap.get?_insert,
      if_pos rfl, Option.join_some]
  · rw [if_neg hn]
    split
    · rw [get?, OrderedMap.get?_insert, if_neg fun heq ↦ hn heq.symm, get?]
    · rfl

/-! ## A list of assignments -/

theorem assignAll_concat (catalog : Catalog) (l : List Assignment) (a : Assignment) :
    assignAll catalog (l ++ [a]) = assign (assignAll catalog l) a := by
  rw [assignAll, List.foldl_append, List.foldl_cons, List.foldl_nil, assignAll]

theorem names_unset (catalog : Catalog) : (unset catalog).names = catalog.names.eraseDups := by
  rw [unset, names, OrderedMap.keys_ofList, List.map_map]
  simp [Function.comp_def]

theorem get?_unset (catalog : Catalog) (name : String) : (unset catalog).get? name = none := by
  rw [unset, get?, OrderedMap.get?_ofList, ← List.map_reverse,
    lookup_map_pair (fun n ↦ n) fun _ ↦ (none : Option ParameterValue)]
  cases catalog.names.reverse.find? fun n ↦ n = name <;> rfl

theorem names_materialize (catalog : Catalog) (l : List Assignment) :
    (materialize catalog l).names = catalog.names.eraseDups := by
  induction l using List.reverseRecOn with
  | nil => exact names_unset catalog
  | append_singleton l a ih => rw [materialize, assignAll_concat, names_assign, ← materialize, ih]

/-- **The last write counts.** An assignment without a value clears what was there. -/
theorem get?_materialize {catalog : Catalog} {name : String} (h : name ∈ catalog.names)
    (l : List Assignment) : (materialize catalog l).get? name = (lastWrite l name).join := by
  induction l using List.reverseRecOn with
  | nil => rw [lastWrite_nil, Option.join_none]; exact get?_unset catalog name
  | append_singleton l a ih =>
    have hmem : name ∈ (materialize catalog l).names := by
      rw [names_materialize]
      exact List.mem_eraseDups.mpr h
    rw [materialize, assignAll_concat, get?_assign hmem, ← materialize, ih, lastWrite_append,
      lastWrite_singleton]
    by_cases hn : a.parameter = name
    · rw [if_pos hn, if_pos hn, Option.some_or, Option.join_some]
    · rw [if_neg hn, if_neg hn, Option.none_or]

theorem contains_materialize (catalog : Catalog) (l : List Assignment) (name : String) :
    (materialize catalog l).values.contains name = catalog.contains name := by
  have hnames : name ∈ (materialize catalog l).values.keys ↔ name ∈ catalog.names := by
    rw [show (materialize catalog l).values.keys = catalog.names.eraseDups from
      names_materialize catalog l, List.mem_eraseDups]
  rw [Bool.eq_iff_iff, OrderedMap.contains_iff, hnames, Catalog.contains_iff]

/-- The assignments that a catalog has no parameter for. -/
def dropped (catalog : Catalog) (l : List Assignment) : List Assignment :=
  l.filter fun a ↦ !catalog.contains a.parameter

theorem warnings_eq (catalog : Catalog) (l : List Assignment) :
    warnings catalog l = (dropped catalog l).map fun a ↦ .assignmentDropped a.parameter := by
  induction l using List.reverseRecOn with
  | nil => rfl
  | append_singleton l a ih =>
    -- Whether the last assignment is dropped is asked of the record so far, which has a place
    -- exactly for the names of the catalog.
    rw [warnings, assignAll_concat, assign, ← materialize, ← warnings, ih, contains_materialize,
      dropped, dropped, List.filter_append, List.map_append]
    cases hcontains : catalog.contains a.parameter with
    | true => simp [hcontains]
    | false => simp [hcontains]

theorem exists_of_get?_materialize {catalog : Catalog} {l : List Assignment} {name : String}
    {v : ParameterValue} (h : (materialize catalog l).get? name = some v) :
    ∃ a ∈ l, a.parameter = name ∧ a.value = some v := by
  have hplace : (materialize catalog l).values.get? name = some (some v) :=
    Option.join_eq_some_iff.mp h
  have hname : name ∈ catalog.names := by
    rw [← Catalog.contains_iff, ← contains_materialize catalog l, OrderedMap.contains, hplace,
      Option.isSome_some]
  rw [get?_materialize hname, Option.join_eq_some_iff] at h
  exact exists_of_lastWrite h

end Record

end CallRouting.Binding
