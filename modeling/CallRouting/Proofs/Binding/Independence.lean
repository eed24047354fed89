import CallRouting.Proofs.Binding.Acceptance

/-!
# Operations are compiled independently

The loop over the operations of a service carries along the programs and the overlaps that it has so
far, and it may end early. None of that reaches the next operation: whether the declarations of an
operation are sound, and what its program and its overlaps are, is decided by the catalog and the
client parameters, which all operations share. So a service can be taken apart into services with
one operation each, and what it is compiled to is put together from what they are compiled to.

The one place where operations meet is the table of programs, which has one program for each name.
It keeps them apart as long as no two operations have the same name.
-/

namespace CallRouting

/-- The service with other operations. -/
def Service.withOperations (s : Service) (l : List Operation) : Service :=
  { s with operations := l }

namespace Binding

variable {service : Service} {catalog : Catalog}

/-! ## Which operations are accepted -/

theorem sound_withOperations_iff {l : List Operation} :
    Sound (service.withOperations l) catalog ↔
      Sound (service.withOperations []) catalog ∧ ∀ o ∈ l, SoundOperation catalog o := by
  constructor
  · intro hsound
    have hshared : Sound (service.withOperations []) catalog :=
      ⟨hsound.names, hsound.nodup, hsound.clients, fun o ho ↦ absurd ho List.not_mem_nil⟩
    exact ⟨hshared, hsound.operations⟩
  · rintro ⟨hshared, hoperations⟩
    exact ⟨hshared.names, hshared.nodup, hshared.clients, hoperations⟩

/-- Operations are sound together exactly if each of them is sound alone. -/
theorem sound_withOperations_iff_forall {l : List Operation} :
    Sound (service.withOperations l) catalog ↔
      Sound (service.withOperations []) catalog ∧
        ∀ o ∈ l, Sound (service.withOperations [o]) catalog := by
  rw [sound_withOperations_iff]
  refine and_congr_right fun hshared ↦ forall₂_congr fun o _ ↦ ?_
  rw [sound_withOperations_iff, List.forall_mem_singleton]
  exact (and_iff_right hshared).symm

theorem compile_withOperations_eq_ok_iff (hcatalog : service.catalog? = some catalog)
    {integrations : List Call.Integration} {l : List Operation} {compiled : Compiled} :
    compile (service.withOperations l) integrations = .ok compiled ↔
      Sound (service.withOperations l) catalog ∧
        compiled = compiledOf (service.withOperations l) catalog integrations := by
  have hwith : (service.withOperations l).catalog? = some catalog := hcatalog
  exact compile_eq_ok_iff hwith

/-! ## What operations are compiled to -/

theorem programOf_withOperations (l : List Operation) (o : Operation) :
    programOf (service.withOperations l) catalog o = programOf service catalog o := rfl

theorem program?_compiledOf_of_mem {l : List Operation} (hdistinct : (l.map Operation.name).Nodup)
    (integrations : List Call.Integration) {o : Operation} (ho : o ∈ l) :
    (compiledOf (service.withOperations l) catalog integrations).program? o.name
      = some (programOf service catalog o) := by
  have hnodup : ((l.map fun o ↦
      (o.name, programOf (service.withOperations l) catalog o)).map Prod.fst).Nodup := by
    rwa [List.map_map]
  rw [Compiled.program?, compiledOf]
  refine (OrderedMap.get?_ofList_eq_some_iff hnodup).mpr (List.mem_map.mpr ⟨o, ho, ?_⟩)
  rw [programOf_withOperations]

theorem overlaps_compiledOf (l : List Operation) (integrations : List Call.Integration) :
    (compiledOf (service.withOperations l) catalog integrations).overlaps
      = l.flatMap fun o ↦ overlapsOf o.name (stepsOf service catalog o) := rfl

/-- Of lists that are tagged with distinct names, the tag finds its list. -/
private theorem filter_flatMap_of_nodup {α β : Type} {name : α → String} {tag : β → String}
    {f : α → List β} (hf : ∀ a, ∀ b ∈ f a, tag b = name a) {l : List α}
    (hnodup : (l.map name).Nodup) {a : α} (ha : a ∈ l) :
    (l.flatMap f).filter (fun b ↦ tag b = name a) = f a := by
  induction l with
  | nil => cases ha
  | cons x rest ih =>
    obtain ⟨hfresh, hrest⟩ := List.nodup_cons.mp hnodup
    rw [List.flatMap_cons, List.filter_append]
    rcases List.mem_cons.mp ha with rfl | ha
    -- The list of the tag is the first: the lists after it have other tags.
    · have hown : (f a).filter (fun b ↦ tag b = name a) = f a := by
        refine List.filter_eq_self.mpr fun b hb ↦ ?_
        exact decide_eq_true (hf a b hb)
      have hothers : (rest.flatMap f).filter (fun b ↦ tag b = name a) = [] := by
        refine List.filter_eq_nil_iff.mpr fun b hb htag ↦ ?_
        obtain ⟨y, hy, hyb⟩ := List.mem_flatMap.mp hb
        refine hfresh (List.mem_map.mpr ⟨y, hy, ?_⟩)
        rw [← hf y b hyb]
        exact of_decide_eq_true htag
      rw [hown, hothers, List.append_nil]
    -- It is among the rest, so the first list has another tag.
    · have hfirst : (f x).filter (fun b ↦ tag b = name a) = [] := by
        refine List.filter_eq_nil_iff.mpr fun b hb htag ↦ ?_
        refine hfresh (List.mem_map.mpr ⟨a, ha, ?_⟩)
        rw [← hf x b hb]
        exact (of_decide_eq_true htag).symm
      rw [hfirst, ih hrest ha, List.nil_append]

theorem filter_overlaps_compiledOf {l : List Operation} (hdistinct : (l.map Operation.name).Nodup)
    (integrations : List Call.Integration) {o : Operation} (ho : o ∈ l) :
    (compiledOf (service.withOperations l) catalog integrations).overlaps.filter
        (fun overlap ↦ overlap.operation = o.name)
      = overlapsOf o.name (stepsOf service catalog o) := by
  have htag : ∀ o : Operation, ∀ overlap ∈ overlapsOf o.name (stepsOf service catalog o),
      overlap.operation = o.name := by
    intro o overlap hoverlap
    rw [eq_of_mem_overlapsOf hoverlap]
  rw [overlaps_compiledOf]
  exact filter_flatMap_of_nodup htag hdistinct ho

/-- **Operations are compiled independently.** Take a service with endpoint rules whose operations
have distinct names.

It is accepted exactly if it is accepted without operations and with each of them alone. Then each
operation has the program that it has alone, and the overlaps are those that the operations have
alone, in their order.

So to take operations away, or to bring them into another order, is always accepted, and no change
of the list of operations that is accepted and leaves their names distinct touches the program or
the overlaps of an operation that stays. -/
theorem operations_compile_independently (hrules : service.endpointRules.isSome = true)
    (hdistinct : (service.operations.map Operation.name).Nodup)
    (integrations : List Call.Integration) :
    ((∃ compiled, compile service integrations = .ok compiled) ↔
      (∃ compiled, compile (service.withOperations []) integrations = .ok compiled) ∧
        ∀ o ∈ service.operations,
          ∃ compiled, compile (service.withOperations [o]) integrations = .ok compiled) ∧
    ∀ compiled, compile service integrations = .ok compiled →
      (∃ alone : Operation → Compiled,
        (∀ o ∈ service.operations,
          compile (service.withOperations [o]) integrations = .ok (alone o) ∧
          ∃ program, (alone o).program? o.name = some program ∧
            compiled.program? o.name = some program) ∧
        compiled.overlaps = service.operations.flatMap fun o ↦ (alone o).overlaps) ∧
      (∀ l, l ⊆ service.operations →
        ∃ changed, compile (service.withOperations l) integrations = .ok changed) ∧
      ∀ l changed, (l.map Operation.name).Nodup →
        compile (service.withOperations l) integrations = .ok changed →
        ∀ o ∈ service.operations, o ∈ l →
          changed.program? o.name = compiled.program? o.name ∧
          changed.overlaps.filter (fun overlap ↦ overlap.operation = o.name)
            = compiled.overlaps.filter (fun overlap ↦ overlap.operation = o.name) := by
  obtain ⟨rules, hsome⟩ := Option.isSome_iff_exists.mp hrules
  have hcatalog : service.catalog? = some rules.parameters := Service.catalog?_of_rules hsome
  have haccepted : ∀ l,
      (∃ compiled, compile (service.withOperations l) integrations = .ok compiled) ↔
        Sound (service.withOperations l) rules.parameters := by
    intro l
    simp only [compile_withOperations_eq_ok_iff hcatalog, exists_and_left, exists_eq, and_true]
  constructor
  · have hservice := haccepted service.operations
    rw [sound_withOperations_iff_forall] at hservice
    simp only [haccepted]
    exact hservice
  · intro compiled hcompile
    obtain ⟨hsound, rfl⟩ :=
      (compile_withOperations_eq_ok_iff hcatalog (l := service.operations)).mp hcompile
    obtain ⟨hshared, halone⟩ := sound_withOperations_iff_forall.mp hsound
    refine ⟨⟨fun o ↦ compiledOf (service.withOperations [o]) rules.parameters integrations, ?_, ?_⟩,
      ?_, ?_⟩
    · intro o ho
      refine ⟨(compile_withOperations_eq_ok_iff hcatalog).mpr ⟨halone o ho, rfl⟩,
        programOf service rules.parameters o, ?_, ?_⟩
      · have hname : ([o].map Operation.name).Nodup := List.nodup_singleton o.name
        exact program?_compiledOf_of_mem hname integrations (List.mem_singleton_self o)
      · exact program?_compiledOf_of_mem hdistinct integrations ho
    · rw [overlaps_compiledOf]
      refine List.flatMap_congr fun o _ ↦ ?_
      rw [overlaps_compiledOf, List.flatMap_singleton]
    · intro l hl
      refine (haccepted l).mpr (sound_withOperations_iff_forall.mpr ⟨hshared, ?_⟩)
      exact fun o ho ↦ halone o (hl ho)
    · intro l changed hnames hchanged o ho hol
      obtain ⟨-, rfl⟩ := (compile_withOperations_eq_ok_iff hcatalog).mp hchanged
      constructor
      · rw [program?_compiledOf_of_mem hnames integrations hol]
        exact (program?_compiledOf_of_mem hdistinct integrations ho).symm
      · rw [filter_overlaps_compiledOf hnames integrations hol]
        exact (filter_overlaps_compiledOf hdistinct integrations ho).symm

/-! ### A shelf with two operations -/

private def shelfCatalog : Catalog :=
  ⟨[⟨"Region", .string, some "SDK::Region", true, none⟩, .plain "Shelf" .string]⟩

private def shelfGet : Operation :=
  ⟨"Get", some ⟨"GetInput", [⟨"Shelf", some "Shelf"⟩, ⟨"Row", some "Shelf"⟩]⟩, .ofList []⟩

private def shelfList : Operation := ⟨"List", none, .ofList [("Shelf", .string "all")]⟩

private def shelf : Service :=
  ⟨"Shelf", some ⟨none, shelfCatalog, .null⟩, some (.ofList [("Shelf", ⟨.string, none⟩)]),
    [shelfGet, shelfList]⟩

/-- The second operation alone, and the first after the second, are compiled as in the shelf. -/
theorem shelf_operations_compile_independently :
    shelf.endpointRules.isSome = true ∧ (shelf.operations.map Operation.name).Nodup ∧
    compile shelf [] = .ok (compiledOf shelf shelfCatalog []) ∧
    (∃ alone program, compile (shelf.withOperations [shelfList]) [] = .ok alone ∧
      alone.program? "List" = some program ∧
      (compiledOf shelf shelfCatalog []).program? "List" = some program) ∧
    ∃ changed, compile (shelf.withOperations [shelfList, shelfGet]) [] = .ok changed ∧
      changed.overlaps.filter (fun overlap ↦ overlap.operation = "Get")
        = [⟨"Get", "Shelf", [.clientContext, .inputContext, .inputContext]⟩] := by
  have hrules : shelf.endpointRules.isSome = true := rfl
  have hdistinct : (shelf.operations.map Operation.name).Nodup := by decide
  have hcompile : compile shelf [] = .ok (compiledOf shelf shelfCatalog []) :=
    compile_of_serviceFault_eq_none rfl rfl []
  obtain ⟨-, hindependent⟩ := operations_compile_independently hrules hdistinct []
  obtain ⟨⟨alone, halone, -⟩, hsubset, hstays⟩ := hindependent _ hcompile
  refine ⟨hrules, hdistinct, hcompile, ?_, ?_⟩
  · obtain ⟨hcompiled, program, hprogram, hsame⟩ :=
      halone shelfList (List.mem_cons_of_mem _ List.mem_cons_self)
    exact ⟨alone shelfList, program, hcompiled, hprogram, hsame⟩
  · have hmembers : [shelfList, shelfGet] ⊆ shelf.operations := by
      intro o ho
      rcases List.mem_cons.mp ho with rfl | ho
      · exact List.mem_cons_of_mem _ List.mem_cons_self
      · exact List.mem_singleton.mp ho ▸ List.mem_cons_self
    obtain ⟨changed, hchanged⟩ := hsubset _ hmembers
    have hnames : ([shelfList, shelfGet].map Operation.name).Nodup := by decide
    obtain ⟨-, hoverlaps⟩ := hstays _ changed hnames hchanged shelfGet List.mem_cons_self
      (List.mem_cons_of_mem _ (List.mem_singleton_self _))
    refine ⟨changed, hchanged, ?_⟩
    rw [show "Get" = shelfGet.name from rfl, hoverlaps]
    rfl

end Binding

end CallRouting
