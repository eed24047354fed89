import CallRouting.Binding.Program
import CallRouting.Proofs.FirstFault
import Mathlib.Data.List.Basic

/-!
# A run as first fault and assignments

A run of a program is described, like the compilation of a service, by what is wrong with the values
that one step takes, and by the assignments that the step makes if nothing is wrong with them. So
`resolve_eq` says that a run ends with the first fault of its steps, or else with the record that
the assignments of all steps leave.
-/

namespace CallRouting

/-- The value of a member that is there and not null. -/
def Call.Input.given? (i : Call.Input) (name : String) : Option Json.Value :=
  (i.member? name).filter (· ≠ .null)

namespace Binding

open Call (Input)

namespace Program

variable (p : Program) (builtIns : BuiltInValues) (client : OrderedMap ParameterValue)
  (input : Input)

/-! ## What is wrong with one value -/

/-- What is wrong with a value for a parameter, if anything is. -/
def typeFault (parameter : String) (value : ParameterValue) (origin : Source) : Option Failure :=
  match p.catalog.get? parameter with
  | none => none
  | some declared =>
    if value.type = declared.type then none
    else some (.mistyped parameter origin declared.type value.type)

/-- What is wrong with a built-in value, if anything is. -/
def builtInFault (e : String × ParameterValue) : Option Failure :=
  if p.isBuiltIn e.1 then p.typeFault e.1 e.2 .builtIn else none

/-- What is wrong with a member of the input as the value of a parameter, if anything is. -/
def memberFault (member parameter : String) : Option Failure :=
  match input.given? member, p.catalog.get? parameter with
  | none, _ | _, none => none
  | some raw, some declared =>
    match ParameterValue.ofJson declared.type raw with
    | .ok _ => none
    | .error cause => some (.invalidMember member parameter cause)

/-- The first thing that is wrong with the values that a step takes, if anything is. -/
def stepFault : Step → Option Failure
  | .builtIns => (builtIns.flatMap OrderedMap.entries).findSome? p.builtInFault
  | .clientContext parameter =>
    (client.get? parameter).bind fun v ↦ p.typeFault parameter v .clientContext
  | .inputContext member parameter => p.memberFault input member parameter
  | .staticContext _ _ => none

theorem exists_of_typeFault {parameter : String} {value : ParameterValue} {origin : Source}
    {failure : Failure} (h : p.typeFault parameter value origin = some failure) :
    ∃ declared, p.catalog.get? parameter = some declared ∧ value.type ≠ declared.type ∧
      failure = .mistyped parameter origin declared.type value.type := by
  rw [typeFault] at h
  cases hget : p.catalog.get? parameter with
  | none =>
    rw [hget] at h
    cases h
  | some declared =>
    simp only [hget] at h
    by_cases htype : value.type = declared.type
    · rw [if_pos htype] at h
      cases h
    · rw [if_neg htype] at h
      exact ⟨declared, rfl, htype, (Option.some.inj h).symm⟩

variable {p} in
theorem type_of_typeFault_eq_none {parameter : String} {value : ParameterValue} {origin : Source}
    {declared : Parameter} (hget : p.catalog.get? parameter = some declared)
    (h : p.typeFault parameter value origin = none) : value.type = declared.type := by
  rw [typeFault, hget] at h
  dsimp only at h
  split_ifs at h with htype
  exact htype

theorem exists_of_memberFault {member parameter : String} {failure : Failure}
    (h : p.memberFault input member parameter = some failure) :
    ∃ cause, failure = .invalidMember member parameter cause := by
  rw [memberFault] at h
  split at h
  · cases h
  · cases h
  · split at h
    · cases h
    · exact ⟨_, (Option.some.inj h).symm⟩

/-! ## What is assigned if nothing is wrong -/

/-- The value that a member of the input has for a parameter that it fits. -/
def memberValue (member parameter : String) : Option ParameterValue :=
  if p.catalog.contains parameter then (input.given? member).bind ParameterValue.ofUntyped?
  else none

/-- The assignments that a step makes. -/
def stepWrites : Step → List Assignment
  | .builtIns =>
    ((builtIns.flatMap OrderedMap.entries).filter fun e ↦ p.isBuiltIn e.1).map fun e ↦
      ⟨e.1, some e.2, .builtIn⟩
  | .clientContext parameter => [⟨parameter, client.get? parameter, .clientContext⟩]
  | .inputContext member parameter =>
    [⟨parameter, p.memberValue input member parameter, .inputContext⟩]
  | .staticContext parameter value => [⟨parameter, some value, .staticContext⟩]

theorem map_toUntyped_memberValue {member parameter : String}
    (hdeclared : p.catalog.contains parameter = true)
    (hfault : p.memberFault input member parameter = none) :
    (p.memberValue input member parameter).map ParameterValue.toUntyped = input.given? member := by
  obtain ⟨declared, hget⟩ := Option.isSome_iff_exists.mp hdeclared
  rw [memberFault, hget] at hfault
  rw [memberValue, if_pos hdeclared]
  cases hgiven : input.given? member with
  | none => rfl
  | some raw =>
    rw [hgiven] at hfault
    cases hv : ParameterValue.ofJson declared.type raw with
    | error cause => simp [hv] at hfault
    | ok v =>
      obtain ⟨rfl, -⟩ := ParameterValue.ofJson_eq_ok_iff.mp hv
      simp

variable {p input} in
theorem type_of_memberValue {member parameter : String} {declared : Parameter} {v : ParameterValue}
    (hget : p.catalog.get? parameter = some declared)
    (hfault : p.memberFault input member parameter = none)
    (hv : p.memberValue input member parameter = some v) : v.type = declared.type := by
  have hdeclared : p.catalog.contains parameter = true := Option.isSome_iff_exists.mpr ⟨_, hget⟩
  have hgiven := p.map_toUntyped_memberValue input hdeclared hfault
  rw [hv, Option.map_some] at hgiven
  rw [memberFault, ← hgiven, hget] at hfault
  cases htype : ParameterValue.ofJson declared.type v.toUntyped with
  | error cause => simp [htype] at hfault
  | ok w =>
    obtain ⟨-, hw⟩ := ParameterValue.ofJson_eq_ok_iff.mp htype
    have hvw := ParameterValue.ofUntyped?_of_ofJson htype
    rw [ParameterValue.ofUntyped?_toUntyped] at hvw
    rwa [Option.some.inj hvw]

variable {p builtIns client input} in
theorem source_of_mem_stepWrites {step : Step} {a : Assignment}
    (h : a ∈ p.stepWrites builtIns client input step) : a.source = step.source := by
  cases step with
  | builtIns =>
    obtain ⟨e, -, rfl⟩ := List.mem_map.mp h
    rfl
  | clientContext parameter | inputContext member parameter | staticContext parameter value =>
    rw [List.mem_singleton.mp h]
    rfl

/-! ## Steps and runs -/

theorem checkType_eq (parameter : String) (value : ParameterValue) (origin : Source) :
    p.checkType parameter value origin = unlessFault (p.typeFault parameter value origin) () := by
  rw [checkType, typeFault]
  cases p.catalog.get? parameter with
  | none => rfl
  | some declared => by_cases h : value.type = declared.type <;> simp [h]

theorem builtInAssignments_eq (l : List (String × ParameterValue)) :
    p.builtInAssignments l
      = unlessFault (l.findSome? p.builtInFault)
          ((l.filter fun e ↦ p.isBuiltIn e.1).map fun e ↦ ⟨e.1, some e.2, .builtIn⟩) := by
  induction l with
  | nil => rfl
  | cons e rest ih =>
    obtain ⟨parameter, value⟩ := e
    rw [builtInAssignments, List.findSome?_cons, builtInFault, List.filter_cons]
    by_cases h : p.isBuiltIn parameter = true
    · rw [if_pos h, if_pos h, if_pos h, checkType_eq, ih]
      cases p.typeFault parameter value .builtIn with
      | some e => rfl
      | none => exact map_unlessFault _ _ _
    · rw [if_neg h, if_neg h, if_neg h, ih]

theorem inputValue_eq (member parameter : String) :
    p.inputValue input member parameter
      = unlessFault (p.memberFault input member parameter)
          (p.memberValue input member parameter) := by
  rw [inputValue, memberFault, memberValue, Catalog.contains, Call.Input.given?]
  cases hraw : input.member? member with
  | none => simp
  | some raw =>
    by_cases hnull : raw = .null
    · subst hnull
      rw [Option.filter_some_neg (by simp), Option.bind_none, ite_self]
      rfl
    · rw [Option.filter_some_pos (by simpa using hnull)]
      -- A member for a parameter that is not declared is passed over, whatever its value is.
      cases hget : p.catalog.get? parameter with
      | none => cases raw <;> simp
      | some declared =>
        cases hv : ParameterValue.ofJson declared.type raw with
        | error cause => simp [hv]
        | ok v =>
          obtain ⟨rfl, -⟩ := ParameterValue.ofJson_eq_ok_iff.mp hv
          simp [hv]

theorem stepAssignments_eq (step : Step) :
    p.stepAssignments builtIns client input step
      = unlessFault (p.stepFault builtIns client input step)
          (p.stepWrites builtIns client input step) := by
  cases step with
  | builtIns => exact p.builtInAssignments_eq _
  | clientContext parameter =>
    rw [stepAssignments, clientAssignment, stepFault, stepWrites]
    cases client.get? parameter with
    | none => rfl
    | some value =>
      dsimp only [Option.bind_some]
      rw [checkType_eq, map_unlessFault, map_unlessFault]
  | inputContext member parameter =>
    rw [stepAssignments, inputValue_eq, map_unlessFault, stepFault, stepWrites]
  | staticContext parameter value => rfl

theorem assignmentsOf_eq (steps : List Step) :
    p.assignmentsOf builtIns client input steps
      = unlessFault (steps.findSome? (p.stepFault builtIns client input))
          (steps.flatMap (p.stepWrites builtIns client input)) := by
  induction steps with
  | nil => rfl
  | cons step rest ih =>
    rw [assignmentsOf, stepAssignments_eq, ih, List.findSome?_cons, List.flatMap_cons]
    cases p.stepFault builtIns client input step with
    | some e => rfl
    | none => exact map_unlessFault _ _ _

/-- **A run as first fault and assignments.** -/
theorem resolve_eq :
    p.resolve builtIns client input
      = unlessFault (p.steps.findSome? (p.stepFault builtIns client input))
          (Record.materialize p.catalog
            (p.steps.flatMap (p.stepWrites builtIns client input))) := by
  rw [resolve, assignments, assignmentsOf_eq, map_unlessFault]

variable {p builtIns client input} in
theorem assignments_congr {others : BuiltInValues} {client' : OrderedMap ParameterValue}
    {input' : Input}
    (h : ∀ step ∈ p.steps,
      p.stepFault others client' input' step = p.stepFault builtIns client input step ∧
      p.stepWrites others client' input' step = p.stepWrites builtIns client input step) :
    p.assignments others client' input' = p.assignments builtIns client input := by
  have hfault : p.steps.findSome? (p.stepFault others client' input')
      = p.steps.findSome? (p.stepFault builtIns client input) :=
    findSome?_congr fun step hstep ↦ (h step hstep).1
  have hwrites : p.steps.flatMap (p.stepWrites others client' input')
      = p.steps.flatMap (p.stepWrites builtIns client input) :=
    List.flatMap_congr fun step hstep ↦ (h step hstep).2
  rw [assignments, assignments, assignmentsOf_eq, assignmentsOf_eq, hfault, hwrites]

variable {p builtIns client input} in
theorem resolve_congr {others : BuiltInValues} {client' : OrderedMap ParameterValue}
    {input' : Input}
    (h : p.assignments others client' input' = p.assignments builtIns client input) :
    p.resolve others client' input' = p.resolve builtIns client input := by
  rw [resolve, resolve, h]

variable {p builtIns} in
theorem assignments_congr_builtIns {others : BuiltInValues}
    (h : (others.flatMap OrderedMap.entries).filter (fun e ↦ p.isBuiltIn e.1)
      = (builtIns.flatMap OrderedMap.entries).filter fun e ↦ p.isBuiltIn e.1) :
    p.assignments others client input = p.assignments builtIns client input := by
  -- Built-in values for other parameters have no fault, so the scan may leave them out as well.
  have hscan : ∀ l : List (String × ParameterValue),
      l.findSome? p.builtInFault = (l.filter fun e ↦ p.isBuiltIn e.1).findSome? p.builtInFault := by
    intro l
    rw [findSome?_filter]
    refine findSome?_congr fun e _ ↦ ?_
    rw [builtInFault]
    cases p.isBuiltIn e.1 <;> rfl
  refine assignments_congr fun step _ ↦ ?_
  cases step with
  | builtIns =>
    constructor
    · rw [stepFault, stepFault, hscan, h, ← hscan]
    · rw [stepWrites, stepWrites, h]
  | _ => exact ⟨rfl, rfl⟩

variable {p client} in
theorem assignments_congr_client {client' : OrderedMap ParameterValue}
    (h : ∀ parameter, .clientContext parameter ∈ p.steps →
      client'.get? parameter = client.get? parameter) :
    p.assignments builtIns client' input = p.assignments builtIns client input := by
  refine assignments_congr fun step hstep ↦ ?_
  cases step with
  | clientContext parameter =>
    constructor
    · rw [stepFault, stepFault, h parameter hstep]
    · rw [stepWrites, stepWrites, h parameter hstep]
  | _ => exact ⟨rfl, rfl⟩

variable {p input} in
theorem assignments_congr_input {input' : Input}
    (h : ∀ member parameter, .inputContext member parameter ∈ p.steps →
      input'.given? member = input.given? member) :
    p.assignments builtIns client input' = p.assignments builtIns client input := by
  refine assignments_congr fun step hstep ↦ ?_
  cases step with
  | inputContext member parameter =>
    constructor
    · rw [stepFault, stepFault, memberFault, memberFault, h member parameter hstep]
    · rw [stepWrites, stepWrites, memberValue, memberValue, h member parameter hstep]
  | _ => exact ⟨rfl, rfl⟩

end Program

end Binding

end CallRouting
