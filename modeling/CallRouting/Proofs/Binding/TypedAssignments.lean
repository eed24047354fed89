import CallRouting.Proofs.Binding.Acceptance
import CallRouting.Proofs.Binding.Assignments
import CallRouting.Proofs.Binding.Record

/-!
# Assignments of compiled programs

The checks of the compilation are about targets: a step aims at a parameter of the catalog that is
not built-in, and a value that an operation fixes is of the type of its parameter. The checks of a
run are about values. `Program.WellFormed` is what the first leave to the second, and with it a run
makes assignments that are for parameters of the catalog and of their types, whatever values it is
given.

A run has an answer of its own for names that the catalog does not have: a built-in value for one is
passed over, a value of the client is not checked, a member of the input leaves it without a value
and an assignment is dropped. In a well-formed program only the first of these is ever used.
-/

namespace CallRouting.Binding

open Call (Input)

/-- An assignment is for a parameter: it has its name, a value of its type if it has one, and comes
from the built-in values exactly if the parameter is built-in. -/
structure Assignment.IsFor (a : Assignment) (p : Parameter) : Prop where
  /-- The name is that of the parameter. -/
  name : p.name = a.parameter
  /-- A value is of the type of the parameter. -/
  type : ∀ v, a.value = some v → v.type = p.type
  /-- The built-in values are the source for built-in parameters and for no others. -/
  source : a.source = .builtIn ↔ p.isBuiltIn = true

/-- A record in which every value that is set is of the type of its parameter. -/
def Record.IsTyped (catalog : Catalog) (r : Record) : Prop :=
  ∀ name v, r.get? name = some v → ∃ p ∈ catalog.parameters, p.name = name ∧ v.type = p.type

/-- A step that aims at no parameter but one that a declaration may aim at. -/
inductive Step.Fits (catalog : Catalog) : Step → Prop
  /-- All built-in values are taken. -/
  | builtIns : Fits catalog .builtIns
  /-- The client's value is for a parameter that is not built-in. -/
  | clientContext {name : String} {p : Parameter} (hget : catalog.get? name = some p)
      (hopen : p.isBuiltIn = false) : Fits catalog (.clientContext name)
  /-- A member is for a parameter that is not built-in. -/
  | inputContext {member name : String} {p : Parameter} (hget : catalog.get? name = some p)
      (hopen : p.isBuiltIn = false) : Fits catalog (.inputContext member name)
  /-- A fixed value is for such a parameter, and of its type. -/
  | staticContext {name : String} {value : ParameterValue} {p : Parameter}
      (hget : catalog.get? name = some p) (hopen : p.isBuiltIn = false)
      (htype : value.type = p.type) : Fits catalog (.staticContext name value)

/-- What is known of a program before it is run. -/
structure Program.WellFormed (p : Program) : Prop where
  /-- The steps fit the catalog. -/
  steps : ∀ step ∈ p.steps, step.Fits p.catalog
  /-- They are in the order of precedence. -/
  order : p.steps.Pairwise fun a b ↦ a.source.rank ≤ b.source.rank

/-! ## What the compilation sees to -/

section Compilation

variable {service : Service} {catalog : Catalog} {o : Operation}
  (hsound : Sound service catalog) (ho : o ∈ service.operations)

include hsound ho

/-- The steps of a sound operation fit the catalog, each by the check of its declaration. -/
theorem fits_of_mem_stepsOf {step : Step} (h : step ∈ stepsOf service catalog o) :
    step.Fits catalog := by
  have hget : ∀ {name p}, Open catalog p → p.name = name → catalog.get? name = some p :=
    fun hopen hname ↦ (get?_eq_some_iff_of_nodup hsound.nodup).mpr ⟨hopen.1, hname⟩
  rw [stepsOf, List.mem_append, List.mem_append, List.mem_append] at h
  obtain ((hbuiltIns | hclient) | hmember) | hstatic := h
  · split_ifs at hbuiltIns
    · rw [List.mem_singleton.mp hbuiltIns]
      exact .builtIns
    · cases hbuiltIns
  · obtain ⟨name, hname, rfl⟩ := List.mem_map.mp hclient
    obtain ⟨p, hp, hopen⟩ := Catalog.exists_of_isOpen (List.mem_filter.mp hname).2
    exact .clientContext hp hopen
  · obtain ⟨b, hb, rfl⟩ := List.mem_map.mp hmember
    obtain ⟨p, hopen, hname⟩ := (hsound.operations o ho).bindings b hb
    exact .inputContext (hget hopen hname) hopen.2
  · obtain ⟨p, hp, hstep⟩ := List.mem_filterMap.mp hstatic
    obtain ⟨v, hv, rfl⟩ := Option.map_eq_some_iff.mp hstep
    obtain ⟨raw, hraw, hvalue⟩ := Option.bind_eq_some_iff.mp hv
    obtain ⟨q, hopen, hname, hadmits⟩ :=
      (hsound.operations o ho).statics _ (OrderedMap.get?_eq_some_iff.mp hraw)
    exact .staticContext (hget hopen hname) hopen.2 (type_of_admits hadmits hvalue)

theorem wellFormed_programOf : (programOf service catalog o).WellFormed where
  steps := by
    intro step hstep
    rw [steps_programOf] at hstep
    exact fits_of_mem_stepsOf hsound ho hstep
  order := by
    rw [steps_programOf]
    exact pairwise_rank_stepsOf service catalog o

end Compilation

/-- The programs of an accepted service are well formed, with the catalog of the service. -/
theorem wellFormed_of_program? {service : Service} {integrations : List Call.Integration}
    {compiled : Compiled} {name : String} {program : Program}
    (hcompile : compile service integrations = .ok compiled)
    (hprogram : compiled.program? name = some program) :
    service.catalog? = some program.catalog ∧ program.WellFormed := by
  obtain ⟨catalog, o, hcatalog, hsound, hlast, rfl⟩ :=
    exists_operation_of_program? hcompile hprogram
  have ho : o ∈ service.operations := Service.mem_of_lastOperation? hlast
  exact ⟨hcatalog, wellFormed_programOf hsound ho⟩

/-! ## What a step writes -/

theorem Assignment.exists_isFor_of_open {catalog : Catalog} {name : String} {p : Parameter}
    {value : Option ParameterValue} {source : Source} (hget : catalog.get? name = some p)
    (hopen : p.isBuiltIn = false) (hsource : source ≠ .builtIn)
    (htype : ∀ v, value = some v → v.type = p.type) :
    ∃ declared ∈ catalog.parameters, (⟨name, value, source⟩ : Assignment).IsFor declared := by
  obtain ⟨hp, hname⟩ := Catalog.of_get?_eq_some hget
  exact ⟨p, hp, hname, htype, iff_of_false hsource (Bool.eq_false_iff.mp hopen)⟩

namespace Program

section Step

variable {p : Program} {builtIns : BuiltInValues} {client : OrderedMap ParameterValue}
  {input : Input}

/-- **One step.** A step that fits the catalog and finds no fault makes assignments that are for
parameters of the catalog. -/
theorem isFor_of_mem_stepWrites {step : Step} (hfits : step.Fits p.catalog)
    (hfault : p.stepFault builtIns client input step = none) {a : Assignment}
    (ha : a ∈ p.stepWrites builtIns client input step) :
    ∃ declared ∈ p.catalog.parameters, a.IsFor declared := by
  cases hfits with
  | builtIns =>
    obtain ⟨e, he, rfl⟩ := List.mem_map.mp ha
    obtain ⟨hmem, hbuiltIn⟩ := List.mem_filter.mp he
    have htype := List.findSome?_eq_none_iff.mp hfault e hmem
    rw [builtInFault, if_pos hbuiltIn] at htype
    -- the filter keeps built-in parameters only, so the name is declared
    rw [isBuiltIn] at hbuiltIn
    split at hbuiltIn
    · cases hbuiltIn
    · next declared hget =>
      obtain ⟨hdeclared, hname⟩ := Catalog.of_get?_eq_some hget
      refine ⟨declared, hdeclared, hname, fun v hv ↦ ?_, iff_of_true rfl hbuiltIn⟩
      rw [← Option.some.inj hv]
      exact type_of_typeFault_eq_none hget htype
  | @clientContext name declared hget hopen =>
    rw [List.mem_singleton.mp ha]
    refine Assignment.exists_isFor_of_open hget hopen (by decide) fun v hv ↦ ?_
    rw [stepFault, hv, Option.bind_some] at hfault
    exact type_of_typeFault_eq_none hget hfault
  | inputContext hget hopen =>
    rw [List.mem_singleton.mp ha]
    refine Assignment.exists_isFor_of_open hget hopen (by decide) fun v hv ↦ ?_
    exact type_of_memberValue hget hfault hv
  | staticContext hget hopen htype =>
    rw [List.mem_singleton.mp ha]
    refine Assignment.exists_isFor_of_open hget hopen (by decide) fun v hv ↦ ?_
    rwa [← Option.some.inj hv]

end Step

end Program

/-! ## What is left of assignments -/

section Left

variable {catalog : Catalog} {l : List Assignment}

theorem Assignment.IsFor.contains {p : Parameter} {a : Assignment} (ha : a.IsFor p)
    (hp : p ∈ catalog.parameters) : catalog.contains a.parameter = true := by
  rw [Catalog.contains_iff, ← ha.name]
  exact List.mem_map_of_mem hp

namespace Record

theorem dropped_eq_nil (h : ∀ a ∈ l, ∃ p ∈ catalog.parameters, a.IsFor p) :
    dropped catalog l = [] := by
  refine List.filter_eq_nil_iff.mpr fun a ha ↦ ?_
  obtain ⟨p, hp, hfor⟩ := h a ha
  rw [hfor.contains hp]
  exact Bool.false_ne_true

theorem isTyped_materialize (h : ∀ a ∈ l, ∃ p ∈ catalog.parameters, a.IsFor p) :
    (materialize catalog l).IsTyped catalog := by
  intro name v hv
  obtain ⟨a, ha, rfl, hvalue⟩ := exists_of_get?_materialize hv
  obtain ⟨p, hp, hfor⟩ := h a ha
  exact ⟨p, hp, hfor.name, hfor.type v hvalue⟩

end Record

end Left

/-! ## What a run assigns -/

namespace Program.WellFormed

variable {p : Program} (hp : p.WellFormed) {builtIns : BuiltInValues}
  {client : OrderedMap ParameterValue} {input : Input} {l : List Assignment}

include hp

/-- **A run.** The assignments of a run are for parameters of the catalog. -/
theorem isFor_of_mem_assignments (hl : p.assignments builtIns client input = .ok l)
    {a : Assignment} (ha : a ∈ l) : ∃ declared ∈ p.catalog.parameters, a.IsFor declared := by
  rw [assignments, assignmentsOf_eq, unlessFault_eq_ok_iff, List.findSome?_eq_none_iff] at hl
  obtain ⟨hfault, rfl⟩ := hl
  obtain ⟨step, hstep, ha⟩ := List.mem_flatMap.mp ha
  exact isFor_of_mem_stepWrites (hp.steps step hstep) (hfault step hstep) ha

theorem pairwise_assignments (hl : p.assignments builtIns client input = .ok l) :
    l.Pairwise fun a b ↦ a.source.rank ≤ b.source.rank := by
  rw [assignments, assignmentsOf_eq, unlessFault_eq_ok_iff] at hl
  obtain ⟨-, rfl⟩ := hl
  refine List.pairwise_flatMap.mpr ⟨fun step _ ↦ ?_, hp.order.imp fun hrank a ha b hb ↦ ?_⟩
  · refine List.pairwise_of_forall_mem_list fun a ha b hb ↦ ?_
    exact Nat.le_of_eq (congrArg Source.rank
      ((source_of_mem_stepWrites ha).trans (source_of_mem_stepWrites hb).symm))
  · rwa [source_of_mem_stepWrites ha, source_of_mem_stepWrites hb]

theorem isTyped_of_resolve {record : Record}
    (hrecord : p.resolve builtIns client input = .ok record) : record.IsTyped p.catalog := by
  rw [resolve] at hrecord
  cases hl : p.assignments builtIns client input with
  | error e =>
    rw [hl] at hrecord
    cases hrecord
  | ok l =>
    rw [hl] at hrecord
    obtain rfl := Except.ok.inj hrecord
    exact Record.isTyped_materialize fun a ha ↦ hp.isFor_of_mem_assignments hl ha

end Program.WellFormed

end CallRouting.Binding
