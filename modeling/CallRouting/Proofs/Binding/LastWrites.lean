import CallRouting.Proofs.Binding.Record

/-!
# Records of any catalog and any assignments

Nothing here asks that a catalog be one that compiles, or that assignments come in the order of
their sources: names may be repeated or malformed, and any assignment may come anywhere. What a
record is made of is what the last assignment to each name of the catalog says, and nothing else
(`Record.materialize_congr`). So an assignment to a name outside the catalog makes no difference to
the record, and neither does the order of two assignments to different parameters.
-/

namespace CallRouting.Binding

/-- What a list of assignments leaves of a parameter that has a place in the record. -/
inductive Leaves (l : List Assignment) (name : String) : Option ParameterValue → Prop
  /-- No assignment is to the parameter. -/
  | untouched (h : ∀ a ∈ l, a.parameter ≠ name) : Leaves l name none
  /-- There is a last assignment to the parameter, which may clear it. -/
  | last {before after : List Assignment} {a : Assignment} (hl : l = before ++ a :: after)
      (ha : a.parameter = name) (hafter : ∀ b ∈ after, b.parameter ≠ name) : Leaves l name a.value

theorem leaves_lastWrite (l : List Assignment) (name : String) :
    Leaves l name (lastWrite l name).join := by
  cases h : lastWrite l name with
  | none => exact .untouched (lastWrite_eq_none_iff.mp h)
  | some value =>
    obtain ⟨a, hfind, rfl⟩ := Option.map_eq_some_iff.mp h
    obtain ⟨ha, after, before, hl, hafter⟩ := List.find?_eq_some_iff_append.mp hfind
    have hsplit : l = before.reverse ++ a :: after.reverse := by
      rw [← List.reverse_reverse l, hl, List.reverse_append, List.reverse_cons, List.append_assoc,
        List.singleton_append]
    refine .last hsplit (by simpa using ha) fun b hb ↦ ?_
    simpa using hafter b (List.mem_reverse.mp hb)

theorem lastWrite_swap {a b : Assignment} (h : a.parameter ≠ b.parameter) (xs ys : List Assignment)
    (name : String) :
    lastWrite (xs ++ a :: b :: ys) name = lastWrite (xs ++ b :: a :: ys) name := by
  have hpair : lastWrite [a, b] name = lastWrite [b, a] name := by
    rw [← List.singleton_append, lastWrite_append, lastWrite_singleton, lastWrite_singleton,
      ← List.singleton_append, lastWrite_append, lastWrite_singleton, lastWrite_singleton]
    -- At most one of the two is an assignment to the name.
    by_cases ha : a.parameter = name
    · rw [if_pos ha, if_neg fun hb ↦ h (ha.trans hb.symm), Option.none_or, Option.or_none]
    · rw [if_neg ha, Option.none_or, Option.or_none]
  have hsplit : ∀ c d : Assignment, lastWrite (xs ++ c :: d :: ys) name
      = ((lastWrite ys name).or (lastWrite [c, d] name)).or (lastWrite xs name) := fun c d ↦ by
    rw [← lastWrite_append, ← lastWrite_append]
    rfl
  rw [hsplit, hsplit, hpair]

theorem lastWrite_filter {p : Assignment → Bool} {l : List Assignment} {name : String}
    (h : ∀ a ∈ l, a.parameter = name → p a = true) :
    lastWrite (l.filter p) name = lastWrite l name := by
  induction l using List.reverseRecOn with
  | nil => rfl
  | append_singleton l a ih =>
    obtain ⟨hl, ha⟩ := List.forall_mem_append.mp h
    rw [List.filter_append, lastWrite_append, lastWrite_append, ih hl]
    by_cases hname : a.parameter = name
    · rw [List.filter_cons_of_pos (ha a List.mem_cons_self hname), List.filter_nil]
    · have hnone : lastWrite [a] name = none := by rw [lastWrite_singleton, if_neg hname]
      have hfiltered : lastWrite ([a].filter p) name = none :=
        lastWrite_eq_none_iff.mpr fun b hb ↦ by
          rwa [List.mem_singleton.mp (List.mem_of_mem_filter hb)]
      rw [hnone, hfiltered]

namespace Record

/-- **The places of a record.** There is one for each name of the catalog, and it holds what the
last assignment to the name says. -/
theorem get?_values_materialize (catalog : Catalog) (l : List Assignment) (name : String) :
    (materialize catalog l).values.get? name
      = if name ∈ catalog.names then some (lastWrite l name).join else none := by
  have hplaces : name ∈ (materialize catalog l).values.keys ↔ name ∈ catalog.names := by
    rw [← OrderedMap.contains_iff, contains_materialize, Catalog.contains_iff]
  by_cases hname : name ∈ catalog.names
  · obtain ⟨value, hvalue⟩ := OrderedMap.mem_keys_iff.mp (hplaces.mpr hname)
    rw [if_pos hname, ← get?_materialize hname, get?, hvalue, Option.join_some]
  · rw [if_neg hname, OrderedMap.get?_eq_none_iff, hplaces]
    exact hname

theorem entries_materialize (catalog : Catalog) (l : List Assignment) :
    (materialize catalog l).values.entries
      = catalog.names.eraseDups.map fun name ↦ (name, (lastWrite l name).join) := by
  rw [← names_materialize catalog l]
  refine OrderedMap.entries_eq_map_keys fun name hname ↦ ?_
  have hdeclared : name ∈ catalog.names := by
    rw [← List.mem_eraseDups, ← names_materialize catalog l]
    exact hname
  rw [get?_values_materialize, if_pos hdeclared]

/-- **A record depends on the last assignment to each name of the catalog only.** -/
theorem materialize_congr {catalog : Catalog} {l l' : List Assignment}
    (h : ∀ name ∈ catalog.names, lastWrite l name = lastWrite l' name) :
    materialize catalog l = materialize catalog l' := by
  have hentries : (materialize catalog l).values.entries
      = (materialize catalog l').values.entries := by
    rw [entries_materialize, entries_materialize]
    exact List.map_congr_left fun name hname ↦ by rw [h name (List.mem_eraseDups.mp hname)]
  exact congrArg Record.mk (OrderedMap.ext hentries)

/-! ## Assignments that are dropped -/

theorem dropped_eq (catalog : Catalog) (l : List Assignment) :
    dropped catalog l = l.filter fun a ↦ a.parameter ∉ catalog.names := by
  rw [dropped]
  refine List.filter_congr fun a _ ↦ ?_
  rw [Bool.eq_iff_iff, Bool.not_eq_true', decide_eq_true_eq, ← Catalog.contains_iff,
    Bool.not_eq_true]

/-- **The last assignment to each parameter counts**, for any catalog and any assignments. The names
of the record are those of the catalog, each once, in the order of their first declarations. The
place of each holds what the last assignment to it says, and nothing if there is none. Assignments
to other names are dropped, with one warning each, in their order, and make no difference to the
record. Assignments that come after others change nothing about the parameters that they are not
to, and two assignments one after the other, to different parameters, may be exchanged. -/
theorem record_of_last_assignments (catalog : Catalog) (l : List Assignment) :
    let record := materialize catalog l
    record.names = catalog.names.eraseDups ∧
    (∀ name ∈ catalog.names, ∃ value,
      record.values.get? name = some value ∧ Leaves l name value) ∧
    assignAll catalog l
      = (record, (dropped catalog l).map fun a ↦ .assignmentDropped a.parameter) ∧
    dropped catalog l = l.filter (fun a ↦ a.parameter ∉ catalog.names) ∧
    materialize catalog (l.filter fun a ↦ a.parameter ∈ catalog.names) = record ∧
    (∀ later name, (∀ a ∈ later, a.parameter ≠ name) →
      (materialize catalog (l ++ later)).values.get? name = record.values.get? name) ∧
    (∀ before a b after, l = before ++ a :: b :: after → a.parameter ≠ b.parameter →
      materialize catalog (before ++ b :: a :: after) = record) := by
  refine ⟨names_materialize catalog l, fun name hname ↦ ⟨_, ?_, leaves_lastWrite l name⟩,
    Prod.ext rfl (warnings_eq catalog l), dropped_eq catalog l, ?_, fun later name hlater ↦ ?_,
    ?_⟩
  · rw [get?_values_materialize, if_pos hname]
  · refine materialize_congr fun name hname ↦ lastWrite_filter fun a _ ha ↦ ?_
    rw [ha]
    exact decide_eq_true hname
  · rw [get?_values_materialize, get?_values_materialize, lastWrite_append,
      lastWrite_eq_none_iff.mpr hlater, Option.none_or]
  · rintro before a b after rfl hne
    exact materialize_congr fun name _ ↦ lastWrite_swap hne.symm before after name

private def zoneCatalog : Catalog :=
  ⟨[.plain "Region" .string, .plain "no name" .boolean, .plain "Region" .boolean]⟩

private def zoneAssignments : List Assignment :=
  [⟨"Zone", some (.string "far"), .builtIn⟩, ⟨"Region", some (.string "north"), .staticContext⟩,
    ⟨"no name", some (.boolean true), .inputContext⟩, ⟨"Region", none, .clientContext⟩]

/-- A repeated name has one place, the last assignment clears it although its source comes first,
and what is not declared is warned of. -/
theorem record_of_cleared_region :
    (materialize zoneCatalog zoneAssignments).names = ["Region", "no name"] ∧
    (materialize zoneCatalog zoneAssignments).values.get? "Region" = some none ∧
    Leaves zoneAssignments "Region" none ∧
    warnings zoneCatalog zoneAssignments = [.assignmentDropped "Zone"] ∧
    (materialize zoneCatalog
      (zoneAssignments ++ [⟨"no name", none, .builtIn⟩])).values.get? "Region" = some none := by
  obtain ⟨hnames, hplaces, hwarnings, -, -, hlater, -⟩ :=
    record_of_last_assignments zoneCatalog zoneAssignments
  have hcleared : (materialize zoneCatalog zoneAssignments).values.get? "Region" = some none := rfl
  obtain ⟨value, hvalue, hleaves⟩ := hplaces "Region" (by decide)
  obtain rfl := Option.some.inj (hvalue.symm.trans hcleared)
  refine ⟨hnames.trans rfl, hcleared, hleaves, ?_, ?_⟩
  · rw [warnings, hwarnings]
    rfl
  · rw [hlater [⟨"no name", none, .builtIn⟩] "Region" (by decide), hcleared]

end Record

end CallRouting.Binding
