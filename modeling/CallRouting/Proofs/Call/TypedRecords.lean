import CallRouting.Proofs.Binding.TypedAssignments
import CallRouting.Proofs.Call.Capabilities

/-!
# Typed records

The record that a resolver is asked about is the record of a run of the stage's program. If that
program was compiled, the record is typed: no resolver ever sees a value that is not of the type of
its parameter, whatever the sources supply, the client is configured with and the input holds.
-/

namespace CallRouting.Call

open Binding

theorem EndpointStage.isTyped_of_asked {s : EndpointStage} (hprogram : s.program.WellFormed)
    {call : Call} {record : Record} (hasked : .asked record ∈ (s.run call).log) :
    record.IsTyped s.program.catalog := by
  have hrecord : record ∈ (s.run call).log.filterMap Event.asked? :=
    List.mem_filterMap.mpr ⟨_, hasked, rfl⟩
  obtain ⟨request, r, -, hasks, -⟩ := mem_asked_run_iff.mp hrecord
  exact hprogram.isTyped_of_resolve hasks.record

/-- **Compiled programs bind well.** Take a program of an accepted service, and a run of it that
finds no fault. Every assignment of the run is for a parameter of the catalog: a value is of its
type, and the source is that of the built-in values exactly if the parameter is built-in. The
sources come in the order of precedence. When its turn comes, each assignment finds a place in the
record, so that none is dropped.

A stage with that program asks its resolver about typed records only, whatever its sources, the
client's configuration, the hooks and the call are. -/
theorem compiled_program_binds_well {service : Service} {integrations : List Integration}
    {compiled : Compiled} {name : String} {program : Program}
    (hcompile : compile service integrations = .ok compiled)
    (hprogram : compiled.program? name = some program) :
    ∃ catalog, service.catalog? = some catalog ∧
      (∀ (builtIns : BuiltInValues) (client : OrderedMap ParameterValue) (input : Input)
        (l : List Assignment), program.assignments builtIns client input = .ok l →
        (∀ a ∈ l, ∃ p ∈ catalog.parameters, a.IsFor p) ∧
        l.Pairwise (fun a b ↦ a.source.rank ≤ b.source.rank) ∧
        program.resolve builtIns client input = .ok (Record.materialize catalog l) ∧
        Record.dropped catalog l = [] ∧
        ∀ before a after, l = before ++ a :: after →
          (Record.materialize catalog before).values.contains a.parameter = true) ∧
      ∀ s : EndpointStage, s.program = program → ∀ (call : Call) (record : Record),
        .asked record ∈ (s.run call).log → record.IsTyped catalog := by
  obtain ⟨hcatalog, hwell⟩ := wellFormed_of_program? hcompile hprogram
  refine ⟨program.catalog, hcatalog, fun builtIns client input l hl ↦ ?_, ?_⟩
  · have hfor : ∀ a ∈ l, ∃ p ∈ program.catalog.parameters, a.IsFor p :=
      fun a ha ↦ hwell.isFor_of_mem_assignments hl ha
    refine ⟨hfor, hwell.pairwise_assignments hl, ?_, Record.dropped_eq_nil hfor, ?_⟩
    · rw [Program.resolve, hl]
      rfl
    · rintro before a after rfl
      obtain ⟨p, hp, ha⟩ := hfor a (List.mem_append_right before List.mem_cons_self)
      rw [Record.contains_materialize]
      exact ha.contains hp
  · rintro s rfl call record hasked
    exact EndpointStage.isTyped_of_asked hwell hasked

/-! ### A harbor with a source for every kind of value -/

private def harborCatalog : Catalog :=
  ⟨[⟨"Region", .string, some "SDK::Region", true, none⟩, .plain "Pier" .string,
    .plain "Express" .boolean, .plain "Scope" .string]⟩

private def harborDock : Operation :=
  ⟨"Dock", some ⟨"DockInput", [⟨"Pier", some "Pier"⟩]⟩, .ofList [("Express", .bool true)]⟩

private def harbor : Service :=
  ⟨"Harbor", some ⟨none, harborCatalog, .null⟩, some (.ofList [("Scope", ⟨.string, none⟩)]),
    [harborDock]⟩

private def harborValues : BuiltInValues :=
  [.ofList [("Pier", .boolean true), ("Unknown", .string "x"), ("Region", .string "north")]]

/-- The built-in values for a pier and for an unknown name are passed over, and everything else is
assigned. -/
theorem harbor_dock_binds_well :
    compile harbor [] = .ok (compiledOf harbor harborCatalog []) ∧
    (compiledOf harbor harborCatalog []).program? "Dock"
      = some (programOf harbor harborCatalog harborDock) ∧
    ∃ l : List Assignment,
      (programOf harbor harborCatalog harborDock).assignments harborValues
          (.ofList [("Scope", .string "all")]) ⟨"DockInput", [("Pier", .string "east")]⟩ = .ok l ∧
      l.map (fun a ↦ (a.parameter, a.source))
        = [("Region", .builtIn), ("Scope", .clientContext), ("Pier", .inputContext),
            ("Express", .staticContext)] ∧
      (∀ a ∈ l, ∃ p ∈ harborCatalog.parameters, a.IsFor p) ∧
      Record.dropped harborCatalog l = [] := by
  have hcompile : compile harbor [] = .ok (compiledOf harbor harborCatalog []) :=
    compile_of_serviceFault_eq_none rfl rfl []
  have hprogram : (compiledOf harbor harborCatalog []).program? "Dock"
      = some (programOf harbor harborCatalog harborDock) :=
    program?_compiledOf_of_last rfl
  obtain ⟨l, hl, hsources⟩ : ∃ l : List Assignment,
      (programOf harbor harborCatalog harborDock).assignments harborValues
          (.ofList [("Scope", .string "all")]) ⟨"DockInput", [("Pier", .string "east")]⟩ = .ok l ∧
      l.map (fun a ↦ (a.parameter, a.source))
        = [("Region", .builtIn), ("Scope", .clientContext), ("Pier", .inputContext),
            ("Express", .staticContext)] := by
    rw [Program.assignments, steps_programOf]
    exact ⟨_, rfl, rfl⟩
  obtain ⟨catalog, hcatalog, hrun, -⟩ := compiled_program_binds_well hcompile hprogram
  obtain rfl := Option.some.inj hcatalog
  obtain ⟨hfor, -, -, hdropped, -⟩ := hrun _ _ _ l hl
  exact ⟨hcompile, hprogram, l, hl, hsources, hfor, hdropped⟩

end CallRouting.Call
