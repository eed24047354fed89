import CallRouting.Binding.Compile
import CallRouting.Proofs.OrderedMap

/-!
# What a draft gathers

A draft gathers the steps of an operation and, beside them, a table of the parameters that the steps
aim at with the sources of the steps for each. Whichever loop a step comes from, it is pushed in one
way, so the table is a fold over the steps and stays together with them: its names are the targets
of the steps (`keys_sourceTable`), and each has the sources of the steps for it
(`get?_sourceTable`). The overlaps, which are read off the table, can therefore be told from the
steps alone (`Draft.overlaps_pushAll`).
-/

namespace CallRouting.Binding

/-- The steps that aim at a parameter, in the order in which they are run. -/
def stepsFor (steps : List Step) (parameter : String) : List Step :=
  steps.filter fun s ↦ s.target? = some parameter

/-- The sources of the steps that aim at a parameter, in the order of the steps. -/
def sourcesOf (steps : List Step) (parameter : String) : List Source :=
  (stepsFor steps parameter).map Step.source

/-- The parameters that steps aim at, each once, in the order of the first step. -/
def targets (steps : List Step) : List String := (steps.filterMap Step.target?).eraseDups

/-- The overlaps among the steps of an operation. -/
def overlapsOf (operation : String) (steps : List Step) : List Overlap :=
  ((targets steps).map fun p ↦ (⟨operation, p, sourcesOf steps p⟩ : Overlap)).filter
    fun o ↦ 1 < o.sources.length

/-- The table of sources by parameter that steps make one after the other. -/
def sourceTable (steps : List Step) : OrderedMap (List Source) :=
  steps.foldl addSource OrderedMap.empty

/-! ## Targets and sources, step by step -/

theorem targets_concat (steps : List Step) (s : Step) :
    targets (steps ++ [s])
      = match s.target? with
        | none => targets steps
        | some p => if p ∈ targets steps then targets steps else targets steps ++ [p] := by
  rw [targets, List.filterMap_append]
  cases htarget : s.target? with
  | none => simp [htarget, targets]
  | some p =>
    rw [List.filterMap_cons_some htarget, List.filterMap_nil, eraseDups_concat, ← targets]
    simp only [targets, List.mem_eraseDups]

theorem mem_targets_iff {steps : List Step} {p : String} :
    p ∈ targets steps ↔ ∃ s ∈ steps, s.target? = some p := by
  rw [targets, List.mem_eraseDups, List.mem_filterMap]

theorem sourcesOf_concat (steps : List Step) (s : Step) (p : String) :
    sourcesOf (steps ++ [s]) p
      = sourcesOf steps p ++ if s.target? = some p then [s.source] else [] := by
  rw [sourcesOf, stepsFor, List.filter_append, List.map_append, ← stepsFor, ← sourcesOf]
  by_cases h : s.target? = some p
  · simp [h]
  · simp [h]

theorem sourcesOf_eq_nil {steps : List Step} {p : String} (h : p ∉ targets steps) :
    sourcesOf steps p = [] := by
  rw [sourcesOf, stepsFor, List.map_eq_nil_iff, List.filter_eq_nil_iff]
  intro s hs htarget
  exact h (mem_targets_iff.mpr ⟨s, hs, by simpa using htarget⟩)

/-! ## The table -/

theorem sourceTable_concat (steps : List Step) (s : Step) :
    sourceTable (steps ++ [s]) = addSource (sourceTable steps) s := by
  rw [sourceTable, List.foldl_append, List.foldl_cons, List.foldl_nil, sourceTable]

theorem keys_sourceTable (steps : List Step) : (sourceTable steps).keys = targets steps := by
  induction steps using List.reverseRecOn with
  | nil => rfl
  -- The table grows at its end, so the induction takes the last step away and not the first.
  | append_singleton steps s ih =>
    rw [sourceTable_concat, addSource, targets_concat]
    cases s.target? with
    | none => exact ih
    | some p => rw [OrderedMap.keys_insert, ih]

theorem get?_sourceTable (steps : List Step) {p : String} (hp : p ∈ targets steps) :
    (sourceTable steps).get? p = some (sourcesOf steps p) := by
  induction steps using List.reverseRecOn generalizing p with
  | nil => cases hp
  | append_singleton steps s ih =>
    -- A parameter without an entry has no sources yet, so a step extends the sources either way.
    have hentry : ∀ q, ((sourceTable steps).get? q).getD [] = sourcesOf steps q := by
      intro q
      by_cases hq : q ∈ targets steps
      · rw [ih hq, Option.getD_some]
      · rw [sourcesOf_eq_nil hq, OrderedMap.get?_eq_none_iff.mpr (keys_sourceTable steps ▸ hq),
          Option.getD_none]
    rw [targets_concat] at hp
    rw [sourceTable_concat, addSource, sourcesOf_concat]
    cases htarget : s.target? with
    | none =>
      rw [htarget] at hp
      simpa using ih hp
    | some q =>
      dsimp only
      rw [OrderedMap.get?_insert, hentry]
      by_cases hpq : p = q
      · subst hpq
        simp
      · have hne : ¬q = p := Ne.symm hpq
        have hold : p ∈ targets steps := by
          simp only [htarget] at hp
          split_ifs at hp
          · exact hp
          · exact (List.mem_append.mp hp).resolve_right (by simpa using hpq)
        simp [hpq, hne, ih hold]

theorem entries_sourceTable (steps : List Step) :
    (sourceTable steps).entries = (targets steps).map fun p ↦ (p, sourcesOf steps p) := by
  rw [← keys_sourceTable]
  refine OrderedMap.entries_eq_map_keys fun p hp ↦ get?_sourceTable steps ?_
  rwa [← keys_sourceTable]

/-- The overlaps of steps are the entries of the table that have several sources. -/
theorem overlapsOf_eq_map_entries (operation : String) (steps : List Step) :
    overlapsOf operation steps
      = ((sourceTable steps).entries.filter fun e ↦ 1 < e.2.length).map
          fun e ↦ ⟨operation, e.1, e.2⟩ := by
  rw [overlapsOf, entries_sourceTable, List.filter_map, List.filter_map, List.map_map]
  rfl

theorem eq_of_mem_overlapsOf {operation : String} {steps : List Step} {o : Overlap}
    (h : o ∈ overlapsOf operation steps) :
    o = ⟨operation, o.parameter, sourcesOf steps o.parameter⟩ := by
  obtain ⟨p, -, rfl⟩ := List.mem_map.mp (List.mem_filter.mp h).1
  rfl

/-! ## Drafts -/

namespace Draft

/-- The draft with several more steps, one after the other. -/
def pushAll (d : Draft) (steps : List Step) : Draft := steps.foldl push d

theorem pushAll_append (d : Draft) (steps steps' : List Step) :
    d.pushAll (steps ++ steps') = (d.pushAll steps).pushAll steps' := by
  rw [pushAll, pushAll, pushAll, List.foldl_append]

theorem pushAll_cons (d : Draft) (s : Step) (steps : List Step) :
    d.pushAll (s :: steps) = (d.push s).pushAll steps := by
  rw [pushAll, pushAll, List.foldl_cons]

theorem steps_pushAll (d : Draft) (steps : List Step) :
    (d.pushAll steps).steps = d.steps ++ steps := by
  induction steps generalizing d with
  | nil => rw [pushAll, List.foldl_nil, List.append_nil]
  | cons s rest ih => rw [pushAll_cons, ih, push, List.append_assoc, List.singleton_append]

theorem targets_pushAll (d : Draft) (steps : List Step) :
    (d.pushAll steps).targets = steps.foldl addSource d.targets := by
  induction steps generalizing d with
  | nil => rfl
  | cons s rest ih => rw [pushAll_cons, ih, push, List.foldl_cons]

theorem overlaps_pushAll (operation : String) (steps : List Step) :
    (empty.pushAll steps).overlaps operation = overlapsOf operation steps := by
  rw [overlaps, targets_pushAll, overlapsOf_eq_map_entries]
  rfl

end Draft

end CallRouting.Binding
