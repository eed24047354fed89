import CallRouting.OrderedMap
import Mathlib.Data.List.Induction
import Mathlib.Data.List.Nodup
import Mathlib.Data.List.Perm.Basic

/-!
# Reading maps in insertion order

What `get?` and `keys` say about the entries of a map, and what is in a map that was filled from a
list of bindings: the names of the list, each at its first place, with the last value of each. The
entries of a map can also be gone through in the order of other names, which loses none of them if
all names of the map are among these.
-/

namespace CallRouting

theorem lookup_map_pair {α β : Type} (key : α → String) (f : α → β) (l : List α) (name : String) :
    (l.map fun a ↦ (key a, f a)).lookup name = (l.find? fun a ↦ key a = name).map f := by
  induction l with
  | nil => rfl
  | cons a rest ih =>
    rw [List.map_cons, List.lookup_cons, List.find?_cons]
    by_cases h : key a = name
    · simp [h]
    · simp [h, beq_eq_false_iff_ne.mpr (Ne.symm h), ih]

theorem lookup_eq_find? {β : Type} (l : List (String × β)) (name : String) :
    l.lookup name = (l.find? fun e ↦ e.1 = name).map Prod.snd := by
  have h := lookup_map_pair Prod.fst Prod.snd l name
  rwa [List.map_id''] at h
  exact fun _ ↦ rfl

theorem eraseDups_eq_self {l : List String} (h : l.Nodup) : l.eraseDups = l := by
  induction l with
  | nil => rfl
  | cons name rest ih =>
    obtain ⟨hnotMem, hrest⟩ := List.nodup_cons.mp h
    rw [List.eraseDups_cons, List.filter_eq_self.mpr, ih hrest]
    intro other hother
    rw [Bool.not_eq_true', beq_eq_false_iff_ne]
    exact fun heq ↦ hnotMem (heq ▸ hother)

theorem eraseDups_concat (l : List String) (name : String) :
    (l ++ [name]).eraseDups = if name ∈ l then l.eraseDups else l.eraseDups ++ [name] := by
  rw [List.eraseDups_append]
  by_cases h : name ∈ l
  · simp [List.removeAll, h]
  · simp [List.removeAll, h, List.eraseDups_cons]

theorem nodup_map_fst_filterMap {α β : Type} {key : α → String} {f : α → Option (String × β)}
    {l : List α} (h : (l.map key).Nodup) (hf : ∀ a e, f a = some e → e.1 = key a) :
    ((l.filterMap f).map Prod.fst).Nodup := by
  rw [List.Nodup, List.pairwise_map] at h
  rw [List.Nodup, List.pairwise_map, List.pairwise_filterMap]
  refine h.imp fun {a b} hne e he e' he' heq ↦ hne ?_
  rw [← hf a e he, ← hf b e' he', heq]

namespace OrderedMap

variable {α : Type}

/-! ## Lookup and membership -/

private theorem lookup_eq_some_of_mem {l : List (String × α)} (hl : (l.map Prod.fst).Nodup)
    {key : String} {value : α} (h : (key, value) ∈ l) : l.lookup key = some value := by
  induction l with
  | nil => simp at h
  | cons e rest ih =>
    obtain ⟨k, v⟩ := e
    rw [List.map_cons, List.nodup_cons] at hl
    rcases List.mem_cons.mp h with heq | hrest
    · obtain ⟨rfl, rfl⟩ := Prod.mk.injEq .. ▸ heq
      rw [List.lookup_cons_self]
    · have hne : ¬key = k := by
        rintro rfl
        exact hl.1 (List.mem_map.mpr ⟨(key, value), hrest, rfl⟩)
      rw [List.lookup_cons, beq_eq_false_iff_ne.mpr hne]
      exact ih hl.2 hrest

private theorem mem_of_lookup_eq_some {l : List (String × α)} {key : String} {value : α}
    (h : l.lookup key = some value) : (key, value) ∈ l := by
  obtain ⟨l₁, l₂, rfl, -⟩ := List.lookup_eq_some_iff.mp h
  simp

theorem get?_eq_some_iff {m : OrderedMap α} {key : String} {value : α} :
    m.get? key = some value ↔ (key, value) ∈ m.entries :=
  ⟨mem_of_lookup_eq_some, lookup_eq_some_of_mem m.nodup⟩

theorem mem_keys_iff {m : OrderedMap α} {key : String} :
    key ∈ m.keys ↔ ∃ value, m.get? key = some value := by
  simp only [get?_eq_some_iff, keys, List.mem_map, Prod.exists, exists_and_right, exists_eq_right]

theorem contains_iff {m : OrderedMap α} {key : String} : m.contains key = true ↔ key ∈ m.keys := by
  rw [contains, Option.isSome_iff_exists, mem_keys_iff]

theorem get?_eq_none_iff {m : OrderedMap α} {key : String} :
    m.get? key = none ↔ key ∉ m.keys := by
  rw [mem_keys_iff, Option.eq_none_iff_forall_ne_some, not_exists]

theorem lookup_reverse_entries (m : OrderedMap α) (key : String) :
    m.entries.reverse.lookup key = m.get? key := by
  have hnodup : (m.entries.reverse.map Prod.fst).Nodup := by
    rw [List.map_reverse]
    exact List.nodup_reverse.mpr m.nodup
  ext value
  rw [get?_eq_some_iff, ← List.mem_reverse]
  exact ⟨mem_of_lookup_eq_some, lookup_eq_some_of_mem hnodup⟩

/-! ## Maps filled from a list -/

theorem insertAll_append (m : OrderedMap α) (l l' : List (String × α)) :
    m.insertAll (l ++ l') = (m.insertAll l).insertAll l' := by
  rw [insertAll, insertAll, insertAll, List.foldl_append]

theorem ofList_concat (l : List (String × α)) (e : String × α) :
    ofList (l ++ [e]) = (ofList l).insert e.1 e.2 := by
  rw [ofList, insertAll_append, ← ofList, insertAll, List.foldl_cons, List.foldl_nil]

/-- The last binding of a name counts. -/
theorem get?_ofList (l : List (String × α)) (key : String) :
    (ofList l).get? key = l.reverse.lookup key := by
  induction l using List.reverseRecOn with
  | nil => rfl
  | append_singleton l e ih =>
    rw [ofList_concat, get?_insert, ih, List.reverse_append, List.reverse_singleton,
      List.singleton_append, List.lookup_cons]
    by_cases h : key = e.1
    · rw [if_pos h, beq_iff_eq.mpr h]
    · rw [if_neg h, beq_eq_false_iff_ne.mpr h]

private theorem insertEntry_of_not_mem {key : String} (value : α) {l : List (String × α)}
    (h : key ∉ l.map Prod.fst) : insertEntry key value l = l ++ [(key, value)] := by
  induction l with
  | nil => rfl
  | cons e rest ih =>
    obtain ⟨k, v⟩ := e
    rw [List.map_cons, List.mem_cons, not_or] at h
    rw [insertEntry, if_neg (Ne.symm h.1), ih h.2, List.cons_append]

theorem entries_ofList {l : List (String × α)} (h : (l.map Prod.fst).Nodup) :
    (ofList l).entries = l := by
  induction l using List.reverseRecOn with
  | nil => rfl
  | append_singleton l e ih =>
    rw [List.map_append, List.map_singleton, List.nodup_append] at h
    obtain ⟨hl, -, hne⟩ := h
    rw [ofList_concat, entries_insert, ih hl]
    exact insertEntry_of_not_mem e.2 fun hmem ↦ hne _ hmem _ (List.mem_singleton.mpr rfl) rfl

theorem get?_ofList_eq_some_iff {l : List (String × α)} (h : (l.map Prod.fst).Nodup) {key : String}
    {value : α} : (ofList l).get? key = some value ↔ (key, value) ∈ l := by
  rw [get?_eq_some_iff, entries_ofList h]

theorem mem_of_get?_ofList {l : List (String × α)} {key : String} {value : α}
    (h : (ofList l).get? key = some value) : (key, value) ∈ l := by
  rw [get?_ofList] at h
  exact List.mem_reverse.mp (mem_of_lookup_eq_some h)

/-- The first binding of a name gives the name its place. -/
theorem keys_ofList (l : List (String × α)) : (ofList l).keys = (l.map Prod.fst).eraseDups := by
  induction l using List.reverseRecOn with
  | nil => rfl
  | append_singleton l e ih =>
    rw [ofList_concat, keys_insert, ih, List.map_append, List.map_singleton, eraseDups_concat]
    simp only [List.mem_eraseDups]

theorem entries_eq_map_keys {m : OrderedMap α} {f : String → α}
    (h : ∀ key ∈ m.keys, m.get? key = some (f key)) :
    m.entries = m.keys.map fun key ↦ (key, f key) := by
  rw [keys, List.map_map]
  refine (List.map_congr_left fun e he ↦ ?_).trans (List.map_id _) |>.symm
  have hvalue : m.get? e.1 = some e.2 := get?_eq_some_iff.mpr he
  rw [h e.1 (List.mem_map_of_mem he)] at hvalue
  exact Prod.ext rfl (Option.some.inj hvalue)

/-! ## Entries in the order of other names -/

/-- The entries of a map in the order of a list of names. -/
def along (m : OrderedMap α) (names : List String) : List (String × α) :=
  names.filterMap fun name ↦ (m.get? name).map (name, ·)

theorem mem_along_iff {m : OrderedMap α} {names : List String} {e : String × α} :
    e ∈ m.along names ↔ e.1 ∈ names ∧ e ∈ m.entries := by
  obtain ⟨key, value⟩ := e
  rw [along, List.mem_filterMap, ← get?_eq_some_iff]
  constructor
  · rintro ⟨name, hname, hentry⟩
    obtain ⟨_, hvalue, hpair⟩ := Option.map_eq_some_iff.mp hentry
    obtain ⟨rfl, rfl⟩ := Prod.mk.inj hpair
    exact ⟨hname, hvalue⟩
  · rintro ⟨hkey, hvalue⟩
    exact ⟨key, hkey, Option.map_eq_some_iff.mpr ⟨value, hvalue, rfl⟩⟩

theorem map_fst_along (m : OrderedMap α) (names : List String) :
    (m.along names).map Prod.fst = names.filter m.contains := by
  rw [along, List.map_filterMap, ← List.filterMap_eq_filter]
  refine List.filterMap_congr fun name _ ↦ ?_
  cases h : m.get? name <;> simp [Option.guard, contains, h]

theorem along_map_fst {m : OrderedMap α} {l : List (String × α)} (h : l ⊆ m.entries) :
    m.along (l.map Prod.fst) = l := by
  have hself : ∀ e ∈ l, (m.get? e.1).map (e.1, ·) = some e := by
    intro e he
    rw [get?_eq_some_iff.mpr (h he), Option.map_some]
  rw [along, List.filterMap_map]
  exact (List.filterMap_congr hself).trans List.filterMap_some

section Distinct

variable {m : OrderedMap α} {names : List String} (hnodup : names.Nodup)

include hnodup

/-- If all names of a map are in a list, its entries are only brought into another order. -/
theorem along_perm (hkeys : m.keys ⊆ names) : (m.along names).Perm m.entries := by
  have hnodup' : (m.along names).Nodup := by
    refine List.Nodup.of_map Prod.fst ?_
    rw [map_fst_along]
    exact hnodup.filter _
  refine (List.perm_ext_iff_of_nodup hnodup' m.nodup.of_map).mpr fun e ↦ ?_
  rw [mem_along_iff]
  exact and_iff_right_of_imp fun he ↦ hkeys (List.mem_map_of_mem he)

/-- There is one way to bring the entries of a map into the order of a list of names. -/
theorem eq_along_of_perm {l : List (String × α)} (hperm : l.Perm m.entries)
    (horder : (l.map Prod.fst).Sublist names) : l = m.along names := by
  have hkeys : m.keys ⊆ names := fun name hname ↦
    horder.subset ((hperm.map Prod.fst).mem_iff.mpr hname)
  have horder' : ((m.along names).map Prod.fst).Sublist names := by
    rw [map_fst_along]
    exact List.filter_sublist
  -- Both lists have the names of the map in the order of `names`, and names tell entries apart.
  have hnames : l.map Prod.fst = (m.along names).map Prod.fst := by
    refine (hnodup.perm_iff_eq_of_sublist horder horder').mp ?_
    exact (hperm.trans (along_perm hnodup hkeys).symm).map Prod.fst
  have hmem : m.along names ⊆ m.entries := fun e he ↦ (mem_along_iff.mp he).2
  rw [← along_map_fst hperm.subset, hnames, along_map_fst hmem]

end Distinct

end OrderedMap

end CallRouting
