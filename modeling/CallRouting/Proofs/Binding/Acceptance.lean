import CallRouting.Proofs.Binding.Compile
import Mathlib.Data.List.Nodup

/-!
# Which services are accepted

A service with endpoint rules is accepted exactly if its declarations are sound: the names of the
catalog are well formed and distinct, and every other declaration aims at a parameter that may be
aimed at, with the right type. `Sound` says so without any check, one declaration at a time.

The loop over fixed values goes through the catalog and not through what an operation fixes. That it
sees every fixed value follows from the check of their names, and that it sees each with the right
type from the names of the catalog being distinct.
-/

namespace CallRouting

/-- What the name of a parameter looks like: an ASCII letter, then ASCII letters, digits and
underscores. -/
def IsName (s : String) : Prop :=
  ∃ c cs, s.toList = c :: cs ∧ c.isAlpha = true ∧ ∀ d ∈ cs, d.isAlphanum = true ∨ d = '_'

/-- The untyped values that are of a type: texts, or truth values. -/
def ValueType.Admits : ValueType → Json.Value → Prop
  | .string, raw => ∃ s, raw = .string s
  | .boolean, raw => ∃ b, raw = .bool b

namespace Binding

/-- A declaration that fixes or binds a parameter may aim at it: it is declared and not built-in. -/
def Open (catalog : Catalog) (p : Parameter) : Prop :=
  p ∈ catalog.parameters ∧ p.isBuiltIn = false

/-- An operation whose declarations are sound. -/
structure SoundOperation (catalog : Catalog) (o : Operation) : Prop where
  /-- Members are bound to parameters that may be aimed at. -/
  bindings : ∀ b ∈ o.bindings, ∃ p, Open catalog p ∧ p.name = b.2
  /-- Fixed values are for such parameters too, and of their type. -/
  statics : ∀ e ∈ o.staticParams.entries, ∃ p, Open catalog p ∧ p.name = e.1 ∧ p.type.Admits e.2

/-- A service whose declarations are sound with its catalog. -/
structure Sound (service : Service) (catalog : Catalog) : Prop where
  /-- The names of the catalog are well formed. -/
  names : ∀ p ∈ catalog.parameters, IsName p.name
  /-- No two parameters have one name. -/
  nodup : catalog.names.Nodup
  /-- Client parameters are declared in the catalog, with the same type unless they are built-in. -/
  clients : ∀ e ∈ service.clientParameters.entries,
    ∃ p ∈ catalog.parameters, p.name = e.1 ∧ (p.isBuiltIn = false → e.2.type = p.type)
  /-- The operations are sound. -/
  operations : ∀ o ∈ service.operations, SoundOperation catalog o

/-! ## Names -/

theorem isLetter_eq_isAlpha (c : Char) : isLetter c = c.isAlpha := by
  have halpha : c.isAlpha
      = (decide ('A' ≤ c ∧ c ≤ 'Z') || (decide ('a' ≤ c) && decide (c ≤ 'z'))) := rfl
  rw [isLetter, halpha, Bool.decide_and, Bool.or_comm]

theorem isNameChar_iff {c : Char} : isNameChar c = true ↔ c.isAlphanum = true ∨ c = '_' := by
  rw [isNameChar, isLetter_eq_isAlpha, Char.isAlphanum, Bool.or_eq_true, beq_iff_eq]
  rfl

theorem isParameterName_iff {s : String} : isParameterName s = true ↔ IsName s := by
  rw [isParameterName, IsName]
  cases s.toList with
  | nil => simp
  | cons c cs =>
    rw [Bool.and_eq_true, isLetter_eq_isAlpha, List.all_eq_true]
    constructor
    · rintro ⟨hc, hcs⟩
      exact ⟨c, cs, rfl, hc, fun d hd ↦ isNameChar_iff.mp (hcs d hd)⟩
    · rintro ⟨c', cs', heq, hc, hcs⟩
      obtain ⟨rfl, rfl⟩ := List.cons.inj heq
      exact ⟨hc, fun d hd ↦ isNameChar_iff.mpr (hcs d hd)⟩

theorem checkParameters_eq_ok_iff {service : String} {seen : List String} {l : List Parameter} :
    checkParameters service seen l = .ok () ↔
      (∀ p ∈ l, IsName p.name) ∧ (l.map Parameter.name).Nodup ∧ ∀ p ∈ l, p.name ∉ seen := by
  induction l generalizing seen with
  | nil => simp [checkParameters]
  | cons p rest ih =>
    rw [checkParameters, List.map_cons, List.nodup_cons, List.mem_map]
    by_cases hname : isParameterName p.name = true
    · rw [if_neg (by simpa using hname)]
      by_cases hseen : p.name ∈ seen
      · simp [hseen]
      · rw [if_neg hseen, ih]
        have hp : IsName p.name := isParameterName_iff.mp hname
        -- The rest is checked with this name among those seen, so that it does not come again.
        constructor
        · rintro ⟨hnames, hnodup, hrest⟩
          refine ⟨List.forall_mem_cons.mpr ⟨hp, hnames⟩, ⟨?_, hnodup⟩,
            List.forall_mem_cons.mpr ⟨hseen, fun q hq ↦ ?_⟩⟩
          · rintro ⟨q, hq, heq⟩
            exact hrest q hq (heq ▸ List.mem_cons_self)
          · exact fun hmem ↦ hrest q hq (List.mem_cons_of_mem _ hmem)
        · rintro ⟨hnames, ⟨hfresh, hnodup⟩, hrest⟩
          refine ⟨(List.forall_mem_cons.mp hnames).2, hnodup, fun q hq hmem ↦ ?_⟩
          rcases List.mem_cons.mp hmem with heq | hmem
          · exact hfresh ⟨q, hq, heq⟩
          · exact hrest q (List.mem_cons_of_mem _ hq) hmem
    · rw [if_pos (by simpa using hname)]
      simp [isParameterName_iff.not.mp hname]

/-! ## Types of fixed values -/

theorem ofJson_eq_ok_iff_admits {type : ValueType} {raw : Json.Value} :
    (∃ v, ParameterValue.ofJson type raw = .ok v) ↔ type.Admits raw := by
  cases type <;> cases raw <;> simp [ParameterValue.ofJson, ValueType.Admits]

theorem SoundOperation.exists_ofJson {catalog : Catalog} {o : Operation}
    (h : SoundOperation catalog o) {e : String × Json.Value} (he : e ∈ o.staticParams.entries) :
    ∃ p v, Open catalog p ∧ p.name = e.1 ∧ ParameterValue.ofJson p.type e.2 = .ok v := by
  obtain ⟨p, hopen, hname, hadmits⟩ := h.statics e he
  obtain ⟨v, hv⟩ := ofJson_eq_ok_iff_admits.mpr hadmits
  exact ⟨p, v, hopen, hname, hv⟩

theorem ofJson_eq_error_iff {type : ValueType} {raw : Json.Value} {cause : TypeMismatch} :
    ParameterValue.ofJson type raw = .error cause ↔
      ¬type.Admits raw ∧ cause = ⟨type, raw.kindName⟩ := by
  cases type <;> cases raw <;> simp [ParameterValue.ofJson, ValueType.Admits, eq_comm]

theorem type_of_admits {type : ValueType} {raw : Json.Value} {v : ParameterValue}
    (hadmits : type.Admits raw) (hv : ParameterValue.ofUntyped? raw = some v) : v.type = type := by
  obtain ⟨w, hw⟩ := ofJson_eq_ok_iff_admits.mpr hadmits
  obtain ⟨rfl, htype⟩ := ParameterValue.ofJson_eq_ok_iff.mp hw
  rw [ParameterValue.ofUntyped?_toUntyped] at hv
  rwa [← Option.some.inj hv]

theorem catalogFault_eq_none_iff {service : String} {catalog : Catalog} :
    catalogFault service catalog = none ↔
      (∀ p ∈ catalog.parameters, IsName p.name) ∧ catalog.names.Nodup := by
  have hcheck := checkParameters_eq service catalog
  constructor
  · intro h
    rw [h, unlessFault_none] at hcheck
    obtain ⟨hnames, hnodup, -⟩ := checkParameters_eq_ok_iff.mp hcheck
    exact ⟨hnames, hnodup⟩
  · rintro ⟨hnames, hnodup⟩
    rw [checkParameters_eq_ok_iff.mpr ⟨hnames, hnodup, fun p _ ↦ List.not_mem_nil⟩] at hcheck
    exact (unlessFault_eq_ok_iff.mp hcheck.symm).1

theorem staticFault_eq_none_iff {operation : String} {values : OrderedMap Json.Value}
    {p : Parameter} :
    staticFault operation values p = none ↔
      ∀ raw, values.get? p.name = some raw → p.type.Admits raw := by
  rw [staticFault]
  cases values.get? p.name with
  | none => simp
  | some raw =>
    simp only [Option.some.injEq, forall_eq', ← ofJson_eq_ok_iff_admits]
    cases ParameterValue.ofJson p.type raw <;> simp

/-! ## Faults of a catalog with distinct names -/

section DistinctNames

variable {catalog : Catalog} (hnodup : catalog.names.Nodup)

include hnodup

theorem get?_eq_some_iff_of_nodup {name : String} {p : Parameter} :
    catalog.get? name = some p ↔ p ∈ catalog.parameters ∧ p.name = name := by
  constructor
  · exact Catalog.of_get?_eq_some
  · rintro ⟨hp, rfl⟩
    have hcontains : catalog.contains p.name = true :=
      Catalog.contains_iff.mpr (List.mem_map_of_mem hp)
    obtain ⟨q, hq⟩ := Option.isSome_iff_exists.mp hcontains
    obtain ⟨hqmem, hqname⟩ := Catalog.of_get?_eq_some hq
    rw [hq, List.inj_on_of_nodup_map hnodup hqmem hp hqname]

theorem exists_get?_iff {name : String} {sort : Parameter → Prop} :
    (∃ p, catalog.get? name = some p ∧ sort p) ↔
      ∃ p ∈ catalog.parameters, p.name = name ∧ sort p := by
  simp only [get?_eq_some_iff_of_nodup hnodup, and_assoc]

theorem clientFault_eq_none_iff {service : String} {e : String × ClientParameter} :
    clientFault service catalog e = none ↔
      ∃ p ∈ catalog.parameters, p.name = e.1 ∧ (p.isBuiltIn = false → e.2.type = p.type) := by
  rw [← exists_get?_iff hnodup, clientFault]
  cases catalog.get? e.1 with
  | none => simp
  | some declared => cases h : declared.isBuiltIn <;> simp [h]

theorem targetFault_eq_none_iff {scope : String} {source : Source} {name : String} :
    targetFault scope catalog source name = none ↔ ∃ p, Open catalog p ∧ p.name = name := by
  have hopen : (∃ p, Open catalog p ∧ p.name = name) ↔
      ∃ p ∈ catalog.parameters, p.name = name ∧ p.isBuiltIn = false := by
    simp only [Open, and_assoc, and_comm (a := Parameter.isBuiltIn _ = false)]
  rw [hopen, ← exists_get?_iff hnodup, targetFault]
  cases catalog.get? name with
  | none => simp
  | some declared => cases h : declared.isBuiltIn <;> simp [h]

/-- The loop over the catalog sees every fixed value of an operation whose fixed values are all for
parameters of the catalog, and it sees each with the parameter that it is for. -/
theorem operationFault_eq_none_iff {service : String} {o : Operation} :
    operationFault service catalog o = none ↔ SoundOperation catalog o := by
  simp only [operationFault, Option.or_eq_none_iff, List.findSome?_eq_none_iff,
    targetFault_eq_none_iff hnodup, staticFault_eq_none_iff]
  constructor
  · rintro ⟨hbindings, hkeys, hvalues⟩
    refine ⟨fun b hb ↦ hbindings b.2 (List.mem_map_of_mem hb), fun e he ↦ ?_⟩
    obtain ⟨p, hopen, hname⟩ := hkeys e.1 (List.mem_map_of_mem he)
    refine ⟨p, hopen, hname, hvalues p hopen.1 e.2 ?_⟩
    rw [hname]
    exact OrderedMap.get?_eq_some_iff.mpr he
  · rintro ⟨hbindings, hstatics⟩
    refine ⟨fun name hname ↦ ?_, fun name hname ↦ ?_, fun p hp raw hraw ↦ ?_⟩
    · obtain ⟨b, hb, rfl⟩ := List.mem_map.mp hname
      exact hbindings b hb
    · obtain ⟨e, he, rfl⟩ := List.mem_map.mp hname
      obtain ⟨p, hopen, hp, -⟩ := hstatics e he
      exact ⟨p, hopen, hp⟩
    -- The value is known to fit a parameter of that name, which is this one: names are distinct.
    · obtain ⟨q, hopen, hq, hadmits⟩ := hstatics _ (OrderedMap.get?_eq_some_iff.mp hraw)
      rwa [← List.inj_on_of_nodup_map hnodup hopen.1 hp hq]

end DistinctNames

/-! ## Services -/

theorem compile_of_catalog?_eq_none {service : Service} (h : service.catalog? = none)
    (integrations : List Call.Integration) :
    compile service integrations = .ok ⟨service.name, OrderedMap.empty, [], []⟩ := by
  rw [compile, h]

/-- A service has no fault if its declarations are sound. That the names of the catalog are distinct
comes first, since the faults of all other declarations are those of `Sound` only then. -/
theorem serviceFault_eq_none_iff {service : Service} {catalog : Catalog} :
    serviceFault service catalog = none ↔ Sound service catalog := by
  rw [serviceFault, Option.or_eq_none_iff, Option.or_eq_none_iff, catalogFault_eq_none_iff,
    List.findSome?_eq_none_iff, List.findSome?_eq_none_iff]
  constructor
  · rintro ⟨⟨hnames, hnodup⟩, hclients, hoperations⟩
    exact ⟨hnames, hnodup, fun e he ↦ (clientFault_eq_none_iff hnodup).mp (hclients e he),
      fun o ho ↦ (operationFault_eq_none_iff hnodup).mp (hoperations o ho)⟩
  · rintro ⟨hnames, hnodup, hclients, hoperations⟩
    exact ⟨⟨hnames, hnodup⟩, fun e he ↦ (clientFault_eq_none_iff hnodup).mpr (hclients e he),
      fun o ho ↦ (operationFault_eq_none_iff hnodup).mpr (hoperations o ho)⟩

section Sound

variable {service : Service} {catalog : Catalog} (hsound : Sound service catalog)

include hsound

theorem checkClientParameters_of_sound :
    checkClientParameters service.name catalog service.clientParameters.entries
      = .ok (openClientNames catalog service.clientParameters.entries) := by
  rw [checkClientParameters_eq, unlessFault_eq_ok_iff, List.findSome?_eq_none_iff]
  exact ⟨fun e he ↦ (clientFault_eq_none_iff hsound.nodup).mpr (hsound.clients e he), rfl⟩

theorem draftOperation_of_sound {o : Operation} (ho : o ∈ service.operations) :
    draftOperation service.name catalog
        (openClientNames catalog service.clientParameters.entries) o
      = .ok (Draft.empty.pushAll (stepsOf service catalog o)) := by
  rw [draftOperation_eq, unlessFault_eq_ok_iff]
  exact ⟨(operationFault_eq_none_iff hsound.nodup).mpr (hsound.operations o ho), rfl⟩

theorem compileOperation_of_sound {o : Operation} (ho : o ∈ service.operations) :
    compileOperation service.name catalog
        (openClientNames catalog service.clientParameters.entries) o
      = .ok (programOf service catalog o, overlapsOf o.name (stepsOf service catalog o)) := by
  rw [compileOperation_eq, unlessFault_eq_ok_iff]
  exact ⟨(operationFault_eq_none_iff hsound.nodup).mpr (hsound.operations o ho), rfl⟩

end Sound

/-- **Soundness and completeness of the checks**, with what an accepted service is compiled to. -/
theorem compile_eq_ok_iff {service : Service} {catalog : Catalog}
    (h : service.catalog? = some catalog) {integrations : List Call.Integration}
    {compiled : Compiled} :
    compile service integrations = .ok compiled ↔
      Sound service catalog ∧ compiled = compiledOf service catalog integrations := by
  rw [compile_eq h, unlessFault_eq_ok_iff, serviceFault_eq_none_iff]

/-- A program in the table of an accepted service is that of the last operation of its name. -/
theorem exists_operation_of_program? {service : Service} {integrations : List Call.Integration}
    {compiled : Compiled} {name : String} {program : Program}
    (hcompile : compile service integrations = .ok compiled)
    (hprogram : compiled.program? name = some program) :
    ∃ catalog o, service.catalog? = some catalog ∧ Sound service catalog ∧
      service.lastOperation? name = some o ∧ program = programOf service catalog o := by
  cases hcatalog : service.catalog? with
  | none =>
    rw [compile_of_catalog?_eq_none hcatalog] at hcompile
    obtain rfl := Except.ok.inj hcompile
    cases hprogram
  | some catalog =>
    obtain ⟨hsound, rfl⟩ := (compile_eq_ok_iff hcatalog).mp hcompile
    rw [program?_compiledOf] at hprogram
    obtain ⟨o, ho, rfl⟩ := Option.map_eq_some_iff.mp hprogram
    exact ⟨catalog, o, rfl, hsound, ho, rfl⟩

/-- What is compiled, without the warnings. -/
def Compiled.bindings (c : Compiled) : String × OrderedMap Program × List Overlap :=
  (c.service, c.programs, c.overlaps)

theorem map_bindings_compile (service : Service) (integrations others : List Call.Integration) :
    (compile service integrations).map Compiled.bindings
      = (compile service others).map Compiled.bindings := by
  cases h : service.catalog? with
  | none => rw [compile_of_catalog?_eq_none h, compile_of_catalog?_eq_none h]
  | some catalog =>
    rw [compile_eq h, compile_eq h, map_unlessFault, map_unlessFault]
    rfl

/-- **Exact acceptance.** A service is accepted exactly if it has no endpoint rules or is sound. An
accepted service has a program for the name of each of its operations, in the order of the first
operations of each name, and none at all without endpoint rules. Which integrations there are
decides neither what is accepted nor what is compiled. -/
theorem compile_accepts_iff_sound (service : Service) (integrations : List Call.Integration) :
    ((∃ compiled, compile service integrations = .ok compiled) ↔
      service.endpointRules = none ∨
        ∃ rules, service.endpointRules = some rules ∧ Sound service rules.parameters) ∧
    (∀ compiled, compile service integrations = .ok compiled →
      compiled.programs.keys
        = if service.endpointRules.isSome then (service.operations.map Operation.name).eraseDups
          else []) ∧
    ∀ others : List Call.Integration,
      (compile service integrations).map Compiled.bindings
        = (compile service others).map Compiled.bindings := by
  cases hrules : service.endpointRules with
  | none =>
    have hcatalog : service.catalog? = none := Service.catalog?_of_no_rules hrules
    refine ⟨?_, ?_, map_bindings_compile service integrations⟩
    · rw [compile_of_catalog?_eq_none hcatalog]
      simp
    · rintro compiled h
      rw [compile_of_catalog?_eq_none hcatalog] at h
      obtain rfl := Except.ok.inj h
      rfl
  | some rules =>
    have hcatalog : service.catalog? = some rules.parameters := Service.catalog?_of_rules hrules
    refine ⟨?_, ?_, map_bindings_compile service integrations⟩
    · simp only [compile_eq_ok_iff hcatalog]
      simp
    · rintro compiled h
      obtain ⟨-, rfl⟩ := (compile_eq_ok_iff hcatalog).mp h
      rw [Option.isSome_some, if_pos rfl]
      exact keys_compiledOf service rules.parameters integrations

end Binding

end CallRouting
