import CallRouting.Proofs.Binding.Acceptance
import CallRouting.Proofs.Settings.Options

/-!
# Which settings are accepted

Settings are checked against a service as it is, whether or not its bindings can be compiled. What
is expected of a value is said by `Service.ClientType` and `Service.BuiltInType`, and
`Setting.Refused` says of one setting what is wrong with it. `settings_checked_entry_by_entry` has
both outcomes: what accepted settings become, and which setting a refusal is about.

A null value is only accepted for what the settings may speak of: it passes the check of its type,
but the name of a client parameter must be known in any case.
-/

namespace CallRouting

/-- The type that the value of a client parameter is expected to have. The client parameter is one
of the service; the catalog, if there is one, decides about a name that it has. -/
inductive Service.ClientType (s : Service) (name : String) : ValueType → Prop
  /-- The catalog has the name. -/
  | catalog {client : ClientParameter} {rules : EndpointRules} {p : Parameter}
      (hclient : (name, client) ∈ s.clientParameters.entries)
      (hrules : s.endpointRules = some rules)
      (hget : rules.parameters.get? name = some p) : ClientType s name p.type
  /-- There is no catalog, or it does not have the name. -/
  | declared {client : ClientParameter} (hclient : (name, client) ∈ s.clientParameters.entries)
      (hnone : ∀ rules, s.endpointRules = some rules → name ∉ rules.parameters.names) :
      ClientType s name client.type

/-- The type that the value of a built-in identifier is expected to have: that of the first
parameter that uses it. -/
def Service.BuiltInType (s : Service) (identifier : String) (type : ValueType) : Prop :=
  ∃ rules before p after, s.endpointRules = some rules ∧
    rules.parameters.parameters = before ++ p :: after ∧ p.builtIn = some identifier ∧
    (∀ q ∈ before, q.builtIn ≠ some identifier) ∧ p.type = type

/-- Whether a parameter uses a built-in identifier. -/
def Service.usesBuiltIn (s : Service) (identifier : String) : Bool :=
  s.endpointRules.any fun rules ↦
    rules.parameters.parameters.any fun p ↦ p.builtIn = some identifier

/-- One of the values that settings have. -/
inductive Setting where
  /-- A value for a client parameter. -/
  | client (name : String) (raw : Json.Value)
  /-- A value for a built-in identifier. -/
  | builtIn (identifier : String) (raw : Json.Value)

/-- What is wrong with a setting. -/
inductive Setting.Refused (s : Service) : Setting → SettingsError → Prop
  /-- The service has no such client parameter, even if the value is null. -/
  | unknown {name : String} {raw : Json.Value} (hname : name ∉ s.clientParameters.keys) :
      Refused s (.client name raw) (.unknownClientContext s.name name)
  /-- The value of a client parameter is not of the type expected of it. -/
  | client {name : String} {raw : Json.Value} {type : ValueType}
      (hexpected : s.ClientType name type) (hnull : raw ≠ .null) (htype : ¬type.Admits raw) :
      Refused s (.client name raw) (.invalidValue name ⟨type, raw.kindName⟩)
  /-- The value of a built-in identifier that is used is not of the type expected of it. -/
  | builtIn {identifier : String} {raw : Json.Value} {type : ValueType}
      (hexpected : s.BuiltInType identifier type) (hnull : raw ≠ .null) (htype : ¬type.Admits raw) :
      Refused s (.builtIn identifier raw) (.invalidValue identifier ⟨type, raw.kindName⟩)

/-- The settings in the order in which they are checked. -/
def Settings.entries (s : Settings) : List Setting :=
  s.clientContext.entries.map (fun e ↦ .client e.1 e.2)
    ++ s.builtIns.entries.map fun e ↦ .builtIn e.1 e.2

/-! ## Expected types -/

section Expected

variable {s : Service}

theorem clientContextType?_eq_some_iff {name : String} {type : ValueType} :
    s.clientContextType? name = some type ↔ s.ClientType name type := by
  rw [Service.clientContextType?]
  constructor
  · intro h
    cases hclient : s.clientParameters.get? name with
    | none => simp [hclient] at h
    | some client =>
      have hentry := OrderedMap.get?_eq_some_iff.mp hclient
      cases hfind : s.catalog?.bind fun c ↦ c.get? name with
      | some p =>
        simp only [hclient, hfind] at h
        obtain rfl := Option.some.inj h
        obtain ⟨catalog, hcatalog, hget⟩ := Option.bind_eq_some_iff.mp hfind
        obtain ⟨rules, hrules, rfl⟩ := Option.map_eq_some_iff.mp hcatalog
        exact .catalog hentry hrules hget
      | none =>
        simp only [hclient, hfind] at h
        obtain rfl := Option.some.inj h
        refine .declared hentry fun rules hrules ↦ ?_
        rw [Service.catalog?_of_rules hrules, Option.bind_some] at hfind
        exact Catalog.get?_eq_none_iff.mp hfind
  · rintro (⟨hentry, hrules, hget⟩ | ⟨hentry, hnone⟩)
    · rw [OrderedMap.get?_eq_some_iff.mpr hentry, Service.catalog?_of_rules hrules,
        Option.bind_some, hget]
    · have hfind : (s.catalog?.bind fun c ↦ c.get? name) = none := by
        cases hrules : s.endpointRules with
        | none => rw [Service.catalog?_of_no_rules hrules, Option.bind_none]
        | some rules =>
          rw [Service.catalog?_of_rules hrules, Option.bind_some]
          exact Catalog.get?_eq_none_iff.mpr (hnone rules hrules)
      rw [OrderedMap.get?_eq_some_iff.mpr hentry, hfind]

theorem clientContextType?_eq_none_iff {name : String} :
    s.clientContextType? name = none ↔ name ∉ s.clientParameters.keys := by
  rw [Service.clientContextType?, ← OrderedMap.get?_eq_none_iff]
  cases s.clientParameters.get? name with
  | none => simp
  | some client => cases s.catalog?.bind fun c ↦ c.get? name <;> simp

private theorem find?_builtIns (c : Catalog) (identifier : String) :
    (c.builtIns.find? fun p ↦ p.builtIn = some identifier)
      = c.parameters.find? fun p ↦ p.builtIn = some identifier := by
  rw [Catalog.builtIns, List.find?_filter]
  congr
  funext p
  cases h : p.builtIn <;> simp [Parameter.isBuiltIn, h]

theorem builtInType?_eq_some_iff {identifier : String} {type : ValueType} :
    s.builtInType? identifier = some type ↔ s.BuiltInType identifier type := by
  rw [Service.builtInType?, Service.BuiltInType]
  cases hrules : s.endpointRules with
  | none =>
    rw [Service.catalog?_of_no_rules hrules]
    simp
  | some rules =>
    rw [Service.catalog?_of_rules hrules]
    simp only [find?_builtIns, Option.map_eq_some_iff, List.find?_eq_some_iff_append]
    constructor
    · rintro ⟨p, ⟨hp, before, after, hsplit, hbefore⟩, htype⟩
      refine ⟨rules, before, p, after, rfl, hsplit, by simpa using hp, fun q hq ↦ ?_, htype⟩
      simpa using hbefore q hq
    · rintro ⟨_, before, p, after, heq, hsplit, hp, hbefore, htype⟩
      obtain rfl := Option.some.inj heq
      refine ⟨p, ⟨by simpa using hp, before, after, hsplit, fun q hq ↦ ?_⟩, htype⟩
      simpa using hbefore q hq

theorem isSome_builtInType? (s : Service) (identifier : String) :
    (s.builtInType? identifier).isSome = s.usesBuiltIn identifier := by
  rw [Service.builtInType?, Service.usesBuiltIn]
  cases hrules : s.endpointRules with
  | none =>
    rw [Service.catalog?_of_no_rules hrules]
    rfl
  | some rules =>
    rw [Service.catalog?_of_rules hrules]
    dsimp only [Option.any_some]
    rw [find?_builtIns, Option.isSome_map, List.isSome_find?]

end Expected

/-! ## The fault of one setting -/

private theorem entryFault_eq_some_iff {type? : String → Option ValueType}
    {unknown : String → Option SettingsError} {e : String × Json.Value} {error : SettingsError} :
    entryFault type? unknown e = some error ↔
      (type? e.1 = none ∧ unknown e.1 = some error) ∨
      ∃ type, type? e.1 = some type ∧ e.2 ≠ .null ∧ ¬type.Admits e.2 ∧
        error = .invalidValue e.1 ⟨type, e.2.kindName⟩ := by
  rw [entryFault]
  cases htype : type? e.1 with
  | none => simp
  | some type =>
    by_cases hnull : e.2 = .null
    · simp [hnull]
    · cases hread : ParameterValue.ofJson type e.2 with
      | error cause =>
        obtain ⟨hadmits, rfl⟩ := Binding.ofJson_eq_error_iff.mp hread
        simp [hnull, hadmits, hread, eq_comm]
      | ok v =>
        have hadmits : type.Admits e.2 := Binding.ofJson_eq_ok_iff_admits.mp ⟨v, hread⟩
        simp [hnull, hadmits, hread]

/-- What the check finds wrong with a setting, if anything is. -/
private def Setting.fault (s : Service) : Setting → Option SettingsError
  | .client name raw => s.clientSettingFault (name, raw)
  | .builtIn identifier raw => s.builtInSettingFault (identifier, raw)

private theorem Setting.fault_eq_some_iff {s : Service} (setting : Setting)
    (error : SettingsError) : setting.fault s = some error ↔ setting.Refused s error := by
  cases setting with
  | client name raw =>
    rw [fault, Service.clientSettingFault, entryFault_eq_some_iff, clientContextType?_eq_none_iff]
    constructor
    · rintro (⟨hname, herror⟩ | ⟨type, htype, hnull, hadmits, rfl⟩)
      · obtain rfl := Option.some.inj herror
        exact .unknown hname
      · exact .client (clientContextType?_eq_some_iff.mp htype) hnull hadmits
    · rintro (hname | ⟨hexpected, hnull, hadmits⟩)
      · exact .inl ⟨hname, rfl⟩
      · exact .inr ⟨_, clientContextType?_eq_some_iff.mpr hexpected, hnull, hadmits, rfl⟩
  | builtIn identifier raw =>
    rw [fault, Service.builtInSettingFault, entryFault_eq_some_iff]
    constructor
    · rintro (⟨-, herror⟩ | ⟨type, htype, hnull, hadmits, rfl⟩)
      · cases herror
      · exact .builtIn (builtInType?_eq_some_iff.mp htype) hnull hadmits
    · intro h
      cases h with
      | builtIn hexpected hnull hadmits =>
        exact .inr ⟨_, builtInType?_eq_some_iff.mpr hexpected, hnull, hadmits, rfl⟩

private theorem client_not_refused_iff {s : Service} {name : String} {raw : Json.Value} :
    (∀ error, ¬(Setting.client name raw).Refused s error) ↔
      s.isClientParameter name = true ∧
        (raw = .null ∨ ∃ type, s.ClientType name type ∧ type.Admits raw) := by
  rw [Service.isClientParameter, OrderedMap.contains_iff]
  constructor
  · intro h
    have hname : name ∈ s.clientParameters.keys := by
      by_contra hunknown
      exact h _ (.unknown hunknown)
    refine ⟨hname, ?_⟩
    obtain ⟨type, htype⟩ := Option.ne_none_iff_exists'.mp
      (clientContextType?_eq_none_iff.not.mpr (not_not.mpr hname))
    have hexpected := clientContextType?_eq_some_iff.mp htype
    by_contra hwrong
    obtain ⟨hnull, hadmits⟩ := not_or.mp hwrong
    exact h _ (.client hexpected hnull fun hfits ↦ hadmits ⟨type, hexpected, hfits⟩)
  · rintro ⟨hname, hvalue⟩ error h
    cases h with
    | unknown hunknown => exact hunknown hname
    | client hexpected hnull hadmits =>
      obtain ⟨type, hexpected', hfits⟩ := hvalue.resolve_left hnull
      -- One type is expected at most, so a value that fits some expected type fits this one.
      have hsame := (clientContextType?_eq_some_iff.mpr hexpected).symm.trans
        (clientContextType?_eq_some_iff.mpr hexpected')
      exact hadmits (Option.some.inj hsame ▸ hfits)

private theorem builtIn_not_refused_iff {s : Service} {identifier : String} {raw : Json.Value} :
    (∀ error, ¬(Setting.builtIn identifier raw).Refused s error) ↔
      (s.usesBuiltIn identifier = true →
        raw = .null ∨ ∃ type, s.BuiltInType identifier type ∧ type.Admits raw) := by
  rw [← isSome_builtInType?]
  constructor
  · intro h hused
    obtain ⟨type, htype⟩ := Option.isSome_iff_exists.mp hused
    have hexpected := builtInType?_eq_some_iff.mp htype
    by_contra hwrong
    obtain ⟨hnull, hadmits⟩ := not_or.mp hwrong
    exact h _ (.builtIn hexpected hnull fun hfits ↦ hadmits ⟨type, hexpected, hfits⟩)
  · intro hvalue error h
    cases h with
    | builtIn hexpected hnull hadmits =>
      have htype := builtInType?_eq_some_iff.mpr hexpected
      obtain ⟨type, hexpected', hfits⟩ :=
        (hvalue (Option.isSome_of_eq_some htype)).resolve_left hnull
      have hsame := htype.symm.trans (builtInType?_eq_some_iff.mpr hexpected')
      exact hadmits (Option.some.inj hsame ▸ hfits)

/-! ## Both outcomes -/

section Outcome

variable {service : Service} {settings : Settings}

theorem ofSettings_eq_error_iff {error : SettingsError} :
    ClientOptions.ofSettings service settings = .error error ↔
      FirstFault (Setting.Refused service) settings.entries error := by
  rw [← findSome?_eq_some_iff_firstFault Setting.fault_eq_some_iff, ClientOptions.ofSettings_eq,
    unlessFault_eq_error_iff, Settings.entries, List.findSome?_append, List.findSome?_map,
    List.findSome?_map]
  rfl

theorem exists_ofSettings_eq_ok_iff :
    (∃ options, ClientOptions.ofSettings service settings = .ok options) ↔
      (∀ e ∈ settings.clientContext.entries, service.isClientParameter e.1 = true ∧
        (e.2 = .null ∨ ∃ type, service.ClientType e.1 type ∧ type.Admits e.2)) ∧
      ∀ e ∈ settings.builtIns.entries, service.usesBuiltIn e.1 = true →
        e.2 = .null ∨ ∃ type, service.BuiltInType e.1 type ∧ type.Admits e.2 := by
  have hrefused : (∃ error, FirstFault (Setting.Refused service) settings.entries error) ↔
      ∃ setting ∈ settings.entries, ∃ error, setting.Refused service error :=
    exists_firstFault_iff
  simp only [← ofSettings_eq_error_iff] at hrefused
  have haccepted : (∃ options, ClientOptions.ofSettings service settings = .ok options) ↔
      ¬∃ error, ClientOptions.ofSettings service settings = .error error := by
    cases ClientOptions.ofSettings service settings <;> simp
  simp only [haccepted, hrefused, Settings.entries, List.mem_append, List.mem_map, not_exists,
    not_and, ← client_not_refused_iff, ← builtIn_not_refused_iff]
  constructor
  · intro h
    exact ⟨fun e he ↦ h _ (.inl ⟨e, he, rfl⟩), fun e he ↦ h _ (.inr ⟨e, he, rfl⟩)⟩
  · rintro ⟨hclient, hbuiltIn⟩ setting (⟨e, he, rfl⟩ | ⟨e, he, rfl⟩)
    · exact hclient e he
    · exact hbuiltIn e he

theorem entries_of_ofSettings_eq_ok {options : ClientOptions}
    (haccepted : ClientOptions.ofSettings service settings = .ok options) :
    options.clientContext.entries.map (fun e ↦ (e.1, e.2.toUntyped))
        = settings.clientContext.entries.filter (fun e ↦ e.2 ≠ .null) ∧
      options.builtIns.entries.map (fun e ↦ (e.1, e.2.toUntyped))
        = settings.builtIns.entries.filter
          (fun e ↦ e.2 ≠ .null ∧ service.usesBuiltIn e.1 = true) ∧
      options.resolver = none := by
  rw [ClientOptions.ofSettings_eq, unlessFault_eq_ok_iff, Option.or_eq_none_iff,
    List.findSome?_eq_none_iff, List.findSome?_eq_none_iff] at haccepted
  obtain ⟨⟨hclient, hbuiltIn⟩, rfl⟩ := haccepted
  refine ⟨?_, ?_, rfl⟩
  · rw [OrderedMap.entries_ofList (nodup_map_fst_entryValue _),
      map_toUntyped_filterMap_entryValue hclient]
    refine List.filter_congr fun e he ↦ ?_
    -- a name that is no client parameter is at fault
    have hname : (service.clientContextType? e.1).isSome = true := by
      by_contra hnone
      have hfault := hclient e he
      rw [Service.clientSettingFault, entryFault, Option.not_isSome_iff_eq_none.mp hnone] at hfault
      cases hfault
    rw [hname]
    simp
  · rw [OrderedMap.entries_ofList (nodup_map_fst_entryValue _),
      map_toUntyped_filterMap_entryValue hbuiltIn]
    simp only [isSome_builtInType?]

end Outcome

/-- **The check of settings.** Whether or not the bindings of a service can be compiled, settings
are accepted for it exactly if

* every client parameter that they name is one of the service, and its value is null or exactly of
  the type expected of it, and
* the value of every built-in identifier that a parameter uses is null or exactly of the type of the
  first such parameter.

The options then hold the values that are not null, without those of identifiers that no parameter
uses, in the order of the settings, and no resolver.

Otherwise the error is about the first setting that is refused, client parameters before built-in
identifiers. -/
theorem settings_checked_entry_by_entry (service : Service) (settings : Settings) :
    ((∃ options, ClientOptions.ofSettings service settings = .ok options) ↔
      (∀ e ∈ settings.clientContext.entries, service.isClientParameter e.1 = true ∧
        (e.2 = .null ∨ ∃ type, service.ClientType e.1 type ∧ type.Admits e.2)) ∧
      ∀ e ∈ settings.builtIns.entries, service.usesBuiltIn e.1 = true →
        e.2 = .null ∨ ∃ type, service.BuiltInType e.1 type ∧ type.Admits e.2) ∧
    (∀ options, ClientOptions.ofSettings service settings = .ok options →
      options.clientContext.entries.map (fun e ↦ (e.1, e.2.toUntyped))
          = settings.clientContext.entries.filter (fun e ↦ e.2 ≠ .null) ∧
        options.builtIns.entries.map (fun e ↦ (e.1, e.2.toUntyped))
          = settings.builtIns.entries.filter
            (fun e ↦ e.2 ≠ .null ∧ service.usesBuiltIn e.1 = true) ∧
        options.resolver = none) ∧
    ∀ error, ClientOptions.ofSettings service settings = .error error ↔
      FirstFault (Setting.Refused service) settings.entries error :=
  ⟨exists_ofSettings_eq_ok_iff, fun _ haccepted ↦ entries_of_ofSettings_eq_ok haccepted,
    fun _ ↦ ofSettings_eq_error_iff⟩

end CallRouting
