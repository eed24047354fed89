import CallRouting.Proofs.FirstFault
import CallRouting.Proofs.OrderedMap
import CallRouting.Settings.Options

/-!
# Settings as first fault and options

The two loops over settings take their entries in the same way. They differ in the type that a name
stands for, and in what becomes of a name that stands for nothing: it is at fault among the client
parameters, and passed over among the built-in identifiers. So both are described by what is wrong
with one entry and by what one entry sets, with the types and the names at fault as parameters.

What comes of it for the calls of a client is that accepted settings leave options of the right
types (`clientContextType?_of_get?` and `builtInType?_of_get?`), and that the options hold what the
settings say (`map_toUntyped_clientContext` and `map_toUntyped_builtIns`).
-/

namespace CallRouting

namespace Settings

/-- What settings say for a client parameter; null says nothing. -/
def clientValue? (s : Settings) (name : String) : Option Json.Value :=
  (s.clientContext.get? name).filter (· ≠ .null)

/-- What settings say for a built-in identifier; null says nothing. -/
def builtInValue? (s : Settings) (identifier : String) : Option Json.Value :=
  (s.builtIns.get? identifier).filter (· ≠ .null)

end Settings

/-! ## One entry -/

section Entry

variable (type? : String → Option ValueType) (unknown : String → Option SettingsError)

/-- What is wrong with an entry, if anything is. -/
def entryFault (e : String × Json.Value) : Option SettingsError :=
  match type? e.1 with
  | none => unknown e.1
  | some type =>
    if e.2 = .null then none
    else
      match ParameterValue.ofJson type e.2 with
      | .error cause => some (.invalidValue e.1 cause)
      | .ok _ => none

/-- What an entry sets, if nothing is wrong with it: nothing for null or for a name without a
type. -/
def entryValue (e : String × Json.Value) : Option (String × ParameterValue) :=
  if (type? e.1).isSome then (ParameterValue.ofUntyped? e.2).map fun v ↦ (e.1, v) else none

variable {type? unknown}

theorem exists_value_of_fits {e : String × Json.Value} {type : ValueType}
    (hfault : entryFault type? unknown e = none) (htype : type? e.1 = some type)
    (hnull : e.2 ≠ .null) : ∃ v : ParameterValue, v.type = type ∧ e.2 = v.toUntyped := by
  rw [entryFault, htype] at hfault
  dsimp only at hfault
  rw [if_neg hnull] at hfault
  cases hread : ParameterValue.ofJson type e.2 with
  | error cause =>
    rw [hread] at hfault
    cases hfault
  | ok v =>
    obtain ⟨hraw, hv⟩ := ParameterValue.ofJson_eq_ok_iff.mp hread
    exact ⟨v, hv, hraw⟩

theorem entryValue_null (name : String) : entryValue type? (name, .null) = none := by
  rw [entryValue]
  exact ite_self none

theorem entryValue_toUntyped {name : String} (hname : (type? name).isSome = true)
    (v : ParameterValue) : entryValue type? (name, v.toUntyped) = some (name, v) := by
  rw [entryValue, if_pos hname, ParameterValue.ofUntyped?_toUntyped, Option.map_some]

theorem of_entryValue_eq_some {e : String × Json.Value} {set : String × ParameterValue}
    (h : entryValue type? e = some set) :
    set.1 = e.1 ∧ (type? e.1).isSome = true ∧ ParameterValue.ofUntyped? e.2 = some set.2 := by
  rw [entryValue] at h
  split_ifs at h with hsome
  obtain ⟨v, hv, rfl⟩ := Option.map_eq_some_iff.mp h
  exact ⟨rfl, hsome, hv⟩

theorem type?_of_entryValue {e : String × Json.Value} {name : String} {v : ParameterValue}
    (hfault : entryFault type? unknown e = none) (hvalue : entryValue type? e = some (name, v)) :
    type? name = some v.type := by
  obtain ⟨rfl, hsome, hv⟩ := of_entryValue_eq_some hvalue
  obtain ⟨type, htype⟩ := Option.isSome_iff_exists.mp hsome
  have hnull : e.2 ≠ .null := by
    intro hnull
    rw [hnull] at hv
    cases hv
  obtain ⟨w, rfl, hraw⟩ := exists_value_of_fits hfault htype hnull
  rw [hraw, ParameterValue.ofUntyped?_toUntyped] at hv
  rw [htype, Option.some.inj hv]

/-- Entries without fault set what they hold, except null and names that stand for nothing. -/
theorem map_toUntyped_filterMap_entryValue {l : List (String × Json.Value)}
    (hfault : ∀ e ∈ l, entryFault type? unknown e = none) :
    (l.filterMap (entryValue type?)).map (fun set ↦ (set.1, set.2.toUntyped))
      = l.filter fun e ↦ e.2 ≠ .null ∧ (type? e.1).isSome = true := by
  rw [List.map_filterMap, ← List.filterMap_eq_filter]
  refine List.filterMap_congr fun e he ↦ ?_
  obtain ⟨name, raw⟩ := e
  by_cases hnull : raw = .null
  · subst hnull
    rw [entryValue_null]
    simp [Option.guard]
  · by_cases hsome : (type? name).isSome = true
    · obtain ⟨type, htype⟩ := Option.isSome_iff_exists.mp hsome
      obtain ⟨v, -, rfl⟩ := exists_value_of_fits (hfault _ he) htype hnull
      rw [entryValue_toUntyped hsome]
      simp [Option.guard, hnull, hsome]
    · rw [entryValue, if_neg hsome]
      simp [Option.guard, hsome]

theorem nodup_map_fst_entryValue (m : OrderedMap Json.Value) :
    ((m.entries.filterMap (entryValue type?)).map Prod.fst).Nodup :=
  nodup_map_fst_filterMap m.nodup fun _ _ hvalue ↦ (of_entryValue_eq_some hvalue).1

/-! ## The loops -/

private theorem read_typed {name : String} {raw : Json.Value} {type : ValueType}
    (htype : type? name = some type) (values : OrderedMap ParameterValue)
    (go : OrderedMap ParameterValue → Except SettingsError (OrderedMap ParameterValue)) :
    (if raw = .null then go values
      else
        match ParameterValue.ofJson type raw with
        | .error cause => .error (.invalidValue name cause)
        | .ok v => go (values.insert name v))
      = match entryFault type? unknown (name, raw) with
        | some fault => .error fault
        | none => go (values.insertAll (entryValue type? (name, raw)).toList) := by
  have hsome : (type? name).isSome = true := Option.isSome_of_eq_some htype
  rw [entryFault, htype, entryValue, if_pos hsome]
  dsimp only
  by_cases hnull : raw = .null
  · subst hnull
    rw [if_pos rfl, if_pos rfl]
    rfl
  · rw [if_neg hnull, if_neg hnull]
    cases hread : ParameterValue.ofJson type raw with
    | error cause => rfl
    | ok v =>
      rw [ParameterValue.ofUntyped?_of_ofJson hread]
      rfl

/-- A loop that takes one entry after the other ends with the first fault, or else has set what the
entries set. -/
private theorem read_eq
    {read : List (String × Json.Value) → OrderedMap ParameterValue →
      Except SettingsError (OrderedMap ParameterValue)}
    (hnil : ∀ values, read [] values = .ok values)
    (hcons : ∀ e rest values, read (e :: rest) values
      = match entryFault type? unknown e with
        | some fault => .error fault
        | none => read rest (values.insertAll (entryValue type? e).toList))
    (l : List (String × Json.Value)) (values : OrderedMap ParameterValue) :
    read l values
      = unlessFault (l.findSome? (entryFault type? unknown))
          (values.insertAll (l.filterMap (entryValue type?))) := by
  induction l generalizing values with
  | nil => exact hnil values
  | cons e rest ih =>
    have hkept : (e :: rest).filterMap (entryValue type?)
        = (entryValue type? e).toList ++ rest.filterMap (entryValue type?) := by
      rw [List.filterMap_cons]
      cases entryValue type? e <;> rfl
    rw [hcons, List.findSome?_cons, hkept, OrderedMap.insertAll_append]
    cases entryFault type? unknown e with
    | some fault => rfl
    | none => exact ih _

private theorem type?_of_get? {l : List (String × Json.Value)} {name : String} {v : ParameterValue}
    (hfault : l.findSome? (entryFault type? unknown) = none)
    (hget : (OrderedMap.ofList (l.filterMap (entryValue type?))).get? name = some v) :
    type? name = some v.type := by
  obtain ⟨e, he, hvalue⟩ := List.mem_filterMap.mp (OrderedMap.mem_of_get?_ofList hget)
  exact type?_of_entryValue (List.findSome?_eq_none_iff.mp hfault e he) hvalue

private theorem map_toUntyped_get?_ofList {m : OrderedMap Json.Value} {name : String}
    (hfault : m.entries.findSome? (entryFault type? unknown) = none)
    (hname : (type? name).isSome = true) :
    ((OrderedMap.ofList (m.entries.filterMap (entryValue type?))).get? name).map
        ParameterValue.toUntyped
      = (m.get? name).filter (· ≠ .null) := by
  -- Names are distinct in a map, so the entry of a name sets its value and no later one changes it.
  have hset : ∀ v, (OrderedMap.ofList (m.entries.filterMap (entryValue type?))).get? name = some v ↔
      ∃ raw, m.get? name = some raw ∧ ParameterValue.ofUntyped? raw = some v := by
    intro v
    rw [OrderedMap.get?_ofList_eq_some_iff (nodup_map_fst_entryValue m), List.mem_filterMap]
    constructor
    · rintro ⟨e, he, hvalue⟩
      obtain ⟨rfl, -, hv⟩ := of_entryValue_eq_some hvalue
      exact ⟨e.2, OrderedMap.get?_eq_some_iff.mpr he, hv⟩
    · rintro ⟨raw, hraw, hv⟩
      refine ⟨(name, raw), OrderedMap.get?_eq_some_iff.mp hraw, ?_⟩
      rw [entryValue, if_pos hname, hv]
      rfl
  cases hraw : m.get? name with
  | none =>
    have hunset :
        (OrderedMap.ofList (m.entries.filterMap (entryValue type?))).get? name = none := by
      refine Option.eq_none_iff_forall_ne_some.mpr fun v hv ↦ ?_
      obtain ⟨raw, hraw', -⟩ := (hset v).mp hv
      cases hraw.symm.trans hraw'
    rw [hunset]
    rfl
  | some raw =>
    by_cases hnull : raw = .null
    · subst hnull
      have hunset : (OrderedMap.ofList (m.entries.filterMap (entryValue type?))).get? name
          = none := by
        refine Option.eq_none_iff_forall_ne_some.mpr fun v hv ↦ ?_
        obtain ⟨raw, hraw', hv'⟩ := (hset v).mp hv
        obtain rfl := Option.some.inj (hraw.symm.trans hraw')
        cases hv'
      rw [hunset, Option.filter_some_neg (by simp)]
      rfl
    · have hentry := List.findSome?_eq_none_iff.mp hfault _ (OrderedMap.get?_eq_some_iff.mp hraw)
      obtain ⟨type, htype⟩ := Option.isSome_iff_exists.mp hname
      obtain ⟨v, -, rfl⟩ := exists_value_of_fits hentry htype hnull
      rw [(hset v).mpr ⟨_, hraw, ParameterValue.ofUntyped?_toUntyped v⟩,
        Option.filter_some_pos (by simpa using hnull)]
      rfl

end Entry

namespace Service

variable (s : Service)

/-- What is wrong with a setting of a client parameter, if anything is. -/
def clientSettingFault : String × Json.Value → Option SettingsError :=
  entryFault s.clientContextType? fun name ↦ some (.unknownClientContext s.name name)

/-- What is wrong with a setting of a built-in identifier, if anything is. An identifier that no
parameter uses is passed over. -/
def builtInSettingFault : String × Json.Value → Option SettingsError :=
  entryFault s.builtInType? fun _ ↦ none

end Service

theorem readClientContext_eq (s : Service) (l : List (String × Json.Value))
    (values : OrderedMap ParameterValue) :
    readClientContext s l values
      = unlessFault (l.findSome? s.clientSettingFault)
          (values.insertAll (l.filterMap (entryValue s.clientContextType?))) := by
  refine read_eq (fun _ ↦ rfl) (fun e rest values ↦ ?_) l values
  rw [readClientContext]
  cases htype : s.clientContextType? e.1 with
  | none =>
    rw [entryFault, htype]
  | some type => exact read_typed htype values (readClientContext s rest)

theorem readBuiltIns_eq (s : Service) (l : List (String × Json.Value))
    (values : OrderedMap ParameterValue) :
    readBuiltIns s l values
      = unlessFault (l.findSome? s.builtInSettingFault)
          (values.insertAll (l.filterMap (entryValue s.builtInType?))) := by
  refine read_eq (fun _ ↦ rfl) (fun e rest values ↦ ?_) l values
  rw [readBuiltIns]
  cases htype : s.builtInType? e.1 with
  | none =>
    have hnothing : entryValue s.builtInType? e = none := by
      rw [entryValue, htype]
      rfl
    rw [entryFault, htype, hnothing]
    rfl
  | some type => exact read_typed htype values (readBuiltIns s rest)

/-! ## Options -/

/-- **Settings as first fault and options.** The client parameters are looked at first. -/
theorem ClientOptions.ofSettings_eq (service : Service) (settings : Settings) :
    ofSettings service settings
      = unlessFault
          ((settings.clientContext.entries.findSome? service.clientSettingFault).or
            (settings.builtIns.entries.findSome? service.builtInSettingFault))
          ⟨.ofList (settings.clientContext.entries.filterMap
              (entryValue service.clientContextType?)),
            .ofList (settings.builtIns.entries.filterMap (entryValue service.builtInType?)),
            none⟩ := by
  rw [ofSettings, readClientContext_eq, readBuiltIns_eq, unlessFault_or]
  cases settings.clientContext.entries.findSome? service.clientSettingFault with
  | some fault => rfl
  | none =>
    cases settings.builtIns.entries.findSome? service.builtInSettingFault with
    | some fault => rfl
    | none => rfl

section Accepted

variable {service : Service} {settings : Settings} {options : ClientOptions}
  (haccepted : ClientOptions.ofSettings service settings = .ok options)

include haccepted

theorem clientContextType?_of_get? {name : String} {v : ParameterValue}
    (hget : options.clientContext.get? name = some v) :
    service.clientContextType? name = some v.type := by
  rw [ClientOptions.ofSettings_eq, unlessFault_eq_ok_iff, Option.or_eq_none_iff] at haccepted
  obtain ⟨⟨hclient, -⟩, rfl⟩ := haccepted
  exact type?_of_get? hclient hget

theorem builtInType?_of_get? {identifier : String} {v : ParameterValue}
    (hget : options.builtIns.get? identifier = some v) :
    service.builtInType? identifier = some v.type := by
  rw [ClientOptions.ofSettings_eq, unlessFault_eq_ok_iff, Option.or_eq_none_iff] at haccepted
  obtain ⟨⟨-, hbuiltIn⟩, rfl⟩ := haccepted
  exact type?_of_get? hbuiltIn hget

theorem map_toUntyped_clientContext (name : String) :
    (options.clientContext.get? name).map ParameterValue.toUntyped
      = settings.clientValue? name := by
  rw [ClientOptions.ofSettings_eq, unlessFault_eq_ok_iff, Option.or_eq_none_iff] at haccepted
  obtain ⟨⟨hclient, -⟩, rfl⟩ := haccepted
  by_cases hname : (service.clientContextType? name).isSome = true
  · exact map_toUntyped_get?_ofList hclient hname
  · -- settings for a name that is no client parameter are refused, so these say nothing for it
    have hnotSet : settings.clientContext.get? name = none := by
      refine Option.eq_none_iff_forall_ne_some.mpr fun raw hraw ↦ ?_
      have hentry := List.findSome?_eq_none_iff.mp hclient _ (OrderedMap.get?_eq_some_iff.mp hraw)
      rw [Service.clientSettingFault, entryFault, Option.not_isSome_iff_eq_none.mp hname] at hentry
      cases hentry
    have hunset : (OrderedMap.ofList (settings.clientContext.entries.filterMap
        (entryValue service.clientContextType?))).get? name = none := by
      refine Option.eq_none_iff_forall_ne_some.mpr fun v hv ↦ hname ?_
      exact Option.isSome_of_eq_some (type?_of_get? hclient hv)
    rw [hunset, Settings.clientValue?, hnotSet]
    rfl

theorem map_toUntyped_builtIns {identifier : String}
    (hused : (service.builtInType? identifier).isSome = true) :
    (options.builtIns.get? identifier).map ParameterValue.toUntyped
      = settings.builtInValue? identifier := by
  rw [ClientOptions.ofSettings_eq, unlessFault_eq_ok_iff, Option.or_eq_none_iff] at haccepted
  obtain ⟨⟨-, hbuiltIn⟩, rfl⟩ := haccepted
  exact map_toUntyped_get?_ofList hbuiltIn hused

end Accepted

end CallRouting
