import CallRouting.Proofs.Binding.Acceptance

/-!
# Which violation a refusal reports

A service can violate the rules for declarations in several places at once, and the compilation
reports one violation. `Service.declarations` lists what is checked in the order in which it is
checked, and `Violates` says of one declaration which rule it breaks and with which error. A service
is refused with the first violation of the list.

The list follows the declarations of the service except in one place: the values that an operation
fixes are checked in the order of the catalog, after all names that the operation fixes values for.
-/

namespace CallRouting

namespace Binding

/-- A declaration of a service. -/
inductive Declaration where
  /-- The parameter at a place of the catalog. -/
  | parameter (place : Nat) (p : Parameter)
  /-- A client parameter. -/
  | client (name : String) (client : ClientParameter)
  /-- A declaration of an operation that aims at a parameter: it binds a member of the input to it,
  or fixes its value. -/
  | target (o : Operation) (source : Source) (name : String)
  /-- The value that an operation fixes for a parameter of the catalog. -/
  | fixedValue (o : Operation) (p : Parameter) (raw : Json.Value)

/-- The rule that a declaration breaks, with the error that reports it. -/
inductive Violates (service : Service) (catalog : Catalog) : Declaration → CompileError → Prop
  /-- The name of a parameter is malformed. -/
  | malformed {place : Nat} {p : Parameter} (hname : ¬IsName p.name) :
      Violates service catalog (.parameter place p) (.invalidParameterName service.name p.name)
  /-- The name of a parameter is well formed, but that of an earlier parameter. -/
  | repeated {place : Nat} {p q : Parameter} (hname : IsName p.name)
      (hearlier : q ∈ catalog.parameters.take place) (hsame : q.name = p.name) :
      Violates service catalog (.parameter place p) (.duplicateParameter service.name p.name)
  /-- A client parameter is not in the catalog. -/
  | unknownClient {name : String} {client : ClientParameter} (hname : name ∉ catalog.names) :
      Violates service catalog (.client name client)
        (.unknownParameter service.name name .clientContext)
  /-- A client parameter has another type than the parameter of its name, which is not built-in. -/
  | clientType {name : String} {client : ClientParameter} {p : Parameter}
      (hget : catalog.get? name = some p) (hopen : p.isBuiltIn = false)
      (htype : client.type ≠ p.type) :
      Violates service catalog (.client name client)
        (.clientContextType service.name name client.type p.type)
  /-- A declaration of an operation aims at a parameter that is not in the catalog. -/
  | unknownTarget {o : Operation} {source : Source} {name : String} (hname : name ∉ catalog.names) :
      Violates service catalog (.target o source name)
        (.unknownParameter (service.name ++ "." ++ o.name) name source)
  /-- A declaration of an operation aims at a built-in parameter. -/
  | builtInTarget {o : Operation} {source : Source} {name : String} {p : Parameter}
      (hget : catalog.get? name = some p) (hbuiltIn : p.isBuiltIn = true) :
      Violates service catalog (.target o source name)
        (.builtInTarget (service.name ++ "." ++ o.name) name source)
  /-- A fixed value is not of the type of its parameter. -/
  | fixedType {o : Operation} {p : Parameter} {raw : Json.Value} (htype : ¬p.type.Admits raw) :
      Violates service catalog (.fixedValue o p raw)
        (.staticType o.name p.name ⟨p.type, raw.kindName⟩)

end Binding

open Binding

/-- The declarations of an operation, in the order in which they are checked. -/
def Operation.declarations (o : Operation) (catalog : Catalog) : List Declaration :=
  o.bindings.map (fun b ↦ .target o .inputContext b.2)
    ++ o.staticParams.keys.map (.target o .staticContext)
    ++ catalog.parameters.filterMap fun p ↦ (o.staticParams.get? p.name).map (.fixedValue o p)

/-- The declarations of a service, in the order in which they are checked. -/
def Service.declarations (s : Service) (catalog : Catalog) : List Declaration :=
  catalog.parameters.zipIdx.map (fun e ↦ .parameter e.2 e.1)
    ++ s.clientParameters.entries.map (fun e ↦ .client e.1 e.2)
    ++ s.operations.flatMap fun o ↦ o.declarations catalog

namespace Binding

/-! ## The violation of one declaration -/

/-- What the compilation finds wrong with a declaration, if anything is. -/
private def Declaration.fault (service : Service) (catalog : Catalog) :
    Declaration → Option CompileError
  | .parameter place p => parameterFault service.name catalog place p
  | .client name c => clientFault service.name catalog (name, c)
  | .target o source name => targetFault (service.name ++ "." ++ o.name) catalog source name
  | .fixedValue o p raw =>
    match ParameterValue.ofJson p.type raw with
    | .error cause => some (.staticType o.name p.name cause)
    | .ok _ => none

section Declaration

variable {service : Service} {catalog : Catalog} {e : CompileError}

private theorem parameterFault_eq_some_iff {place : Nat} {p : Parameter} :
    parameterFault service.name catalog place p = some e ↔
      Violates service catalog (.parameter place p) e := by
  rw [parameterFault]
  by_cases hname : isParameterName p.name = true
  · rw [if_neg (by simpa using hname)]
    have hisName : IsName p.name := isParameterName_iff.mp hname
    constructor
    · intro h
      split_ifs at h with hearlier
      obtain ⟨q, hq, hsame⟩ := List.mem_map.mp hearlier
      obtain rfl := Option.some.inj h
      exact .repeated hisName hq hsame
    · intro h
      -- The two rules for a parameter exclude each other, since a repeated name is well formed.
      cases h with
      | malformed hmalformed => exact absurd hisName hmalformed
      | repeated _ hearlier hsame => rw [if_pos (List.mem_map.mpr ⟨_, hearlier, hsame⟩)]
  · rw [if_pos (by simpa using hname)]
    have hmalformed : ¬IsName p.name := isParameterName_iff.not.mp hname
    constructor
    · intro h
      obtain rfl := Option.some.inj h
      exact .malformed hmalformed
    · intro h
      cases h with
      | malformed => rfl
      | repeated hisName => exact absurd hisName hmalformed

private theorem clientFault_eq_some_iff {name : String} {client : ClientParameter} :
    clientFault service.name catalog (name, client) = some e ↔
      Violates service catalog (.client name client) e := by
  rw [clientFault]
  cases hget : catalog.get? name with
  | none =>
    have hunknown : name ∉ catalog.names := Catalog.get?_eq_none_iff.mp hget
    constructor
    · intro h
      obtain rfl := Option.some.inj h
      exact .unknownClient hunknown
    · intro h
      cases h with
      | unknownClient => rfl
      | clientType hfound =>
        rw [hget] at hfound
        cases hfound
  | some declared =>
    dsimp only
    constructor
    · intro h
      split_ifs at h with hfits
      obtain ⟨hopen, htype⟩ := not_or.mp hfits
      obtain rfl := Option.some.inj h
      exact .clientType hget (Bool.eq_false_iff.mpr hopen) htype
    · intro h
      cases h with
      | unknownClient hunknown =>
        exact absurd (Catalog.get?_eq_none_iff.mpr hunknown) (by simp [hget])
      | clientType hfound hopen htype =>
        obtain rfl := Option.some.inj (hget.symm.trans hfound)
        exact if_neg (not_or.mpr ⟨Bool.eq_false_iff.mp hopen, htype⟩)

private theorem targetFault_eq_some_iff {o : Operation} {source : Source} {name : String} :
    targetFault (service.name ++ "." ++ o.name) catalog source name = some e ↔
      Violates service catalog (.target o source name) e := by
  rw [targetFault]
  cases hget : catalog.get? name with
  | none =>
    have hunknown : name ∉ catalog.names := Catalog.get?_eq_none_iff.mp hget
    constructor
    · intro h
      obtain rfl := Option.some.inj h
      exact .unknownTarget hunknown
    · intro h
      cases h with
      | unknownTarget => rfl
      | builtInTarget hfound =>
        rw [hget] at hfound
        cases hfound
  | some declared =>
    dsimp only
    constructor
    · intro h
      split_ifs at h with hbuiltIn
      obtain rfl := Option.some.inj h
      exact .builtInTarget hget hbuiltIn
    · intro h
      cases h with
      | unknownTarget hunknown =>
        exact absurd (Catalog.get?_eq_none_iff.mpr hunknown) (by simp [hget])
      | builtInTarget hfound hbuiltIn =>
        obtain rfl := Option.some.inj (hget.symm.trans hfound)
        exact if_pos hbuiltIn

private theorem Declaration.fault_eq_some_iff (d : Declaration) (e : CompileError) :
    d.fault service catalog = some e ↔ Violates service catalog d e := by
  cases d with
  | parameter place p => exact parameterFault_eq_some_iff
  | client name c => exact clientFault_eq_some_iff
  | target o source name => exact targetFault_eq_some_iff
  | fixedValue o p raw =>
    rw [fault]
    constructor
    · intro h
      cases hread : ParameterValue.ofJson p.type raw with
      | ok v => simp [hread] at h
      | error cause =>
        rw [hread] at h
        obtain ⟨htype, rfl⟩ := ofJson_eq_error_iff.mp hread
        obtain rfl := Option.some.inj h
        exact .fixedType htype
    · intro h
      cases h with
      | fixedType htype => rw [ofJson_eq_error_iff.mpr ⟨htype, rfl⟩]

end Declaration

/-! ## The first violation -/

section First

variable {service : Service} {catalog : Catalog}

private theorem findSome?_operation (o : Operation) :
    (o.declarations catalog).findSome? (Declaration.fault service catalog)
      = operationFault service.name catalog o := by
  have hvalues : (catalog.parameters.filterMap fun p ↦
        (o.staticParams.get? p.name).map (.fixedValue o p)).findSome?
          (Declaration.fault service catalog)
      = catalog.parameters.findSome? (staticFault o.name o.staticParams) := by
    rw [findSome?_filterMap]
    refine findSome?_congr fun p _ ↦ ?_
    rw [staticFault]
    cases o.staticParams.get? p.name <;> rfl
  rw [Operation.declarations, List.findSome?_append, List.findSome?_append, hvalues,
    List.findSome?_map, List.findSome?_map, operationFault, List.findSome?_map, Option.or_assoc]
  rfl

private theorem findSome?_service :
    (service.declarations catalog).findSome? (Declaration.fault service catalog)
      = serviceFault service catalog := by
  have hoperations : (service.operations.flatMap fun o ↦ o.declarations catalog).findSome?
        (Declaration.fault service catalog)
      = service.operations.findSome? (operationFault service.name catalog) := by
    rw [findSome?_flatMap]
    exact findSome?_congr fun o _ ↦ findSome?_operation o
  rw [Service.declarations, List.append_assoc, List.findSome?_append, List.findSome?_append,
    List.findSome?_map, List.findSome?_map, hoperations]
  rfl

end First

/-- **Which violation a refusal reports.** A service is refused exactly if it has endpoint rules and
one of its declarations breaks a rule. The error is that of the first declaration that does: first
the catalog, then the client parameters, then operation by operation the bound members, the names
of the fixed values and, in the order of the catalog, the fixed values themselves. -/
theorem compile_refuses_first_violation (service : Service) (integrations : List Call.Integration)
    (e : CompileError) :
    compile service integrations = .error e ↔
      ∃ rules, service.endpointRules = some rules ∧
        FirstFault (Violates service rules.parameters) (service.declarations rules.parameters)
          e := by
  cases hrules : service.endpointRules with
  | none =>
    rw [compile_of_catalog?_eq_none (Service.catalog?_of_no_rules hrules)]
    simp
  | some rules =>
    rw [compile_eq (Service.catalog?_of_rules hrules), unlessFault_eq_error_iff,
      ← findSome?_service, findSome?_eq_some_iff_firstFault Declaration.fault_eq_some_iff]
    simp

-- Both fixed values are of the wrong type, and the one that is declared first is not the first in
-- the catalog.
example : compile
    ⟨"Vault", some ⟨none, ⟨[.plain "Door" .string, .plain "Key" .boolean]⟩, .null⟩, none,
      [⟨"Open", none, .ofList [("Key", .string "no"), ("Door", .bool true)]⟩]⟩ []
    = .error (.staticType "Open" "Door" ⟨.string, "boolean"⟩) := rfl

end Binding

end CallRouting
