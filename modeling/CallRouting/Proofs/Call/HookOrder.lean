import CallRouting.Proofs.Call.Capabilities

/-!
# Hooks run in the order of the integrations

The hooks of a phase are those that the integrations offer for it, in the order of the integrations.
`PhaseRun` says what a run of them is: some of the first hooks run, each on what the one before it
left; the run ends with the last hook or with the first that fails, and whatever was done by then
stays.

The invariant of the induction is a split of the hooks that ran at any one of them: what it finds is
what the hooks in the part before it left, and if there is a part after it, it did not fail
(`of_hookRuns_eq_append`).
-/

namespace CallRouting.Call

/-! ## The hooks of a phase -/

/-- The hook that an integration offers for a phase, if it offers one. -/
def Integration.offer (i : Integration) (options : ClientOptions) (service : Service)
    (operation : Operation) : Phase → Option Hook
  | .pre => i.preHook options service
  | .post => i.postHook options service operation

namespace Hooks

/-- The hooks with those that one more integration offers after them. -/
def addOffers (options : ClientOptions) (service : Service) (operation : Operation) (h : Hooks)
    (i : Integration) : Hooks :=
  ⟨h.pre ++ (i.offer options service operation .pre).toList,
    h.post ++ (i.offer options service operation .post).toList⟩

theorem ofPhase_ofIntegrations (l : List Integration) (options : ClientOptions)
    (service : Service) (operation : Operation) (phase : Phase) :
    (ofIntegrations l options service operation).ofPhase phase
      = l.filterMap fun i ↦ i.offer options service operation phase := by
  cases phase <;> rfl

/-- The hooks of both phases are collected in one pass over the integrations. -/
theorem foldl_addOffers (l : List Integration) (options : ClientOptions) (service : Service)
    (operation : Operation) :
    l.foldl (addOffers options service operation) empty
      = ofIntegrations l options service operation := by
  induction l using List.reverseRecOn with
  | nil => rfl
  | append_singleton l i ih =>
    rw [List.foldl_append, List.foldl_cons, List.foldl_nil, ih, addOffers, ofIntegrations,
      ofIntegrations, List.filterMap_append, List.filterMap_append]
    cases hpre : i.preHook options service <;>
      cases hpost : i.postHook options service operation <;>
      simp [Integration.offer, hpre, hpost]

end Hooks

/-! ## A run of hooks -/

/-- The name of a hook that ran in a phase, in an event. -/
def Event.hook? (phase : Phase) : Event → Option String
  | .hook other name => if other = phase then some name else none
  | _ => none

/-- A run of the hooks of a phase: how it ended, and the hooks that ran, each with what it did. -/
structure PhaseRun (phase : Phase) (hooks : List Hook) (x : Exchange) (step : Step Unit)
    (ran : List (Hook × Reaction)) : Prop where
  /-- The hooks that ran are the first ones. -/
  first : ran.map Prod.fst <+: hooks
  /-- Each of them was called once, in their order, and no other hook was called. -/
  called : step.log.filterMap (Event.hook? phase) = ran.map fun run ↦ run.1.name
  /-- Each of them found the context and the request as the hooks before it had left them. -/
  found : ∀ before run after, ran = before ++ run :: after →
    run.2 = run.1.run (x.afterRuns before).context (x.afterRuns before).request
  /-- None of them failed but the last. -/
  stopped : ∀ before run after, ran = before ++ run :: after → after ≠ [] → run.2.failure = none
  /-- What they did stays. -/
  kept : step.exchange = x.afterRuns ran
  /-- The phase succeeds exactly if all hooks ran and the last of them succeeded. -/
  succeeds : step.result = .ok () ↔
    ran.map Prod.fst = hooks ∧ ∀ last, ran.getLast? = some last → last.2.failure = none
  /-- It fails exactly if the last hook that ran failed, and then with the name of that hook, the
  phase and the cause. -/
  fails : ∀ e, step.result = .error e ↔
    ∃ last cause, ran.getLast? = some last ∧ last.2.failure = some cause ∧
      e = .hook last.1.name phase cause

/-- **Any one of the hooks that ran.** It found what the hooks before it had left, and it did not
fail if there is one after it. -/
theorem of_hookRuns_eq_append {l : List Hook} {x : Exchange} {before after : List (Hook × Reaction)}
    {run : Hook × Reaction} (h : hookRuns l x = before ++ run :: after) :
    run.2 = run.1.run (x.afterRuns before).context (x.afterRuns before).request ∧
      (after ≠ [] → run.2.failure = none) := by
  induction before generalizing l x with
  | nil =>
    cases l with
    | nil => cases h
    | cons hook rest =>
      rw [hookRuns] at h
      cases hfailure : (hook.run x.context x.request).failure with
      | none =>
        simp only [hfailure] at h
        obtain ⟨rfl, -⟩ := List.cons.inj h
        exact ⟨rfl, fun _ ↦ hfailure⟩
      | some cause =>
        simp only [hfailure] at h
        obtain ⟨rfl, rfl⟩ := List.cons.inj h
        exact ⟨rfl, fun hne ↦ absurd rfl hne⟩
  | cons earlier before ih =>
    cases l with
    | nil => cases h
    | cons hook rest =>
      rw [hookRuns] at h
      cases hfailure : (hook.run x.context x.request).failure with
      | none =>
        simp only [hfailure] at h
        obtain ⟨rfl, hrest⟩ := List.cons.inj h
        exact ih hrest
      | some cause =>
        -- the hook that fails is the last, so none comes after it
        simp only [hfailure] at h
        exact absurd (List.cons.inj h).2.symm
          (List.append_ne_nil_of_right_ne_nil before (List.cons_ne_nil run after))

theorem runsFault_eq_none_of_append {phase : Phase} {l : List Hook} {x : Exchange}
    {before after : List (Hook × Reaction)} (h : hookRuns l x = before ++ after)
    (hafter : after ≠ []) : runsFault phase before = none := by
  refine runsFault_eq_none_iff.mpr fun run hrun ↦ ?_
  obtain ⟨earlier, later, rfl⟩ := List.append_of_mem hrun
  rw [List.append_assoc, List.cons_append] at h
  exact (of_hookRuns_eq_append h).2 (List.append_ne_nil_of_right_ne_nil later hafter)

/-- Whether a phase fails, and how, is decided by the last hook that runs. -/
theorem runsFault_hookRuns {phase : Phase} {l : List Hook} {x : Exchange} :
    runsFault phase (hookRuns l x)
      = (hookRuns l x).getLast?.bind fun last ↦ last.2.failure.map (.hook last.1.name phase) := by
  cases h : hookRuns l x using List.reverseRecOn with
  | nil => rfl
  | append_singleton before last =>
    -- A hook with another after it did not fail, so the scan for a fault comes down to the last.
    have hbefore : runsFault phase before = none :=
      runsFault_eq_none_of_append h (List.cons_ne_nil last [])
    rw [runsFault] at hbefore ⊢
    rw [List.findSome?_append, hbefore, Option.none_or, List.getLast?_concat, Option.bind_some,
      List.findSome?_singleton]

private theorem hook?_eq_none (phase : Phase) (e : Event) (h : e.isCall = false) :
    e.hook? phase = none := by
  cases e with
  | hook other name => cases h
  | _ => rfl

theorem filterMap_hookCalls (phase other : Phase) (runs : List (Hook × Reaction)) :
    (hookCalls other runs).filterMap (Event.hook? phase)
      = if other = phase then runs.map fun run ↦ run.1.name else [] := by
  rw [hookCalls, List.filterMap_map]
  by_cases hphase : other = phase
  · rw [if_pos hphase, ← List.filterMap_eq_map]
    exact List.filterMap_congr fun run _ ↦ if_pos hphase
  · rw [if_neg hphase, List.filterMap_eq_nil_iff]
    exact fun run _ ↦ if_neg hphase

/-- **Hooks run in order, up to the first that fails.** -/
theorem phaseRun_runHooks (phase : Phase) (l : List Hook) (x : Exchange) :
    PhaseRun phase l x (runHooks phase l x) (hookRuns l x) where
  first := map_fst_hookRuns_prefix l x
  called := by
    rw [runHooks_eq, ← EndpointStage.filterMap_calls (hook?_eq_none phase), calls_runsLog,
      filterMap_hookCalls, if_pos rfl]
  found _ _ _ h := (of_hookRuns_eq_append h).1
  stopped _ _ _ h := (of_hookRuns_eq_append h).2
  kept := by rw [runHooks_eq]
  succeeds := by
    rw [runHooks_eq, unlessFault_eq_ok_iff, and_iff_left rfl]
    constructor
    · intro hnone
      have hall := runsFault_eq_none_iff.mp hnone
      exact ⟨map_fst_hookRuns_of_forall hall,
        fun last hlast ↦ hall last (List.mem_of_getLast? hlast)⟩
    · rintro ⟨-, hlast⟩
      rw [runsFault_hookRuns, Option.bind_eq_none_iff]
      exact fun last hmem ↦ Option.map_eq_none_iff.mpr (hlast last hmem)
  fails e := by
    rw [runHooks_eq, unlessFault_eq_error_iff, runsFault_hookRuns, Option.bind_eq_some_iff]
    refine exists_congr fun last ↦ ?_
    rw [Option.map_eq_some_iff]
    constructor
    · rintro ⟨hlast, cause, hcause, rfl⟩
      exact ⟨cause, hlast, hcause, rfl⟩
    · rintro ⟨cause, hlast, hcause, rfl⟩
      exact ⟨hlast, cause, hcause, rfl⟩

/-! ## The hooks of a call -/

namespace EndpointStage

/-- What the stage hands to the hooks of a phase in a call, if it comes to run them: what comes in
with a request for HTTP, and what is left once an endpoint is applied. -/
def handed (s : EndpointStage) (call : Call) (phase : Phase) : Option Exchange :=
  match call.transport with
  | .other _ => none
  | .http request =>
    match phase with
    | .pre => some (call.exchange request)
    | .post =>
      match (s.point (call.exchange request)).result with
      | .error _ => none
      | .ok () => some (s.point (call.exchange request)).exchange

variable {s : EndpointStage} {call : Call} {phase : Phase}

private theorem filterMap_pointCalls (x : Exchange) :
    (s.pointCalls x).filterMap (Event.hook? phase)
      = if .pre = phase then (s.preRuns x).map fun run ↦ run.1.name else [] := by
  have hasked : ((s.consulted x).map Event.asked).toList.filterMap (Event.hook? phase) = [] := by
    cases s.consulted x <;> rfl
  rw [pointCalls, List.filterMap_append, List.filterMap_append, hasked,
    filterMap_supplyCalls_eq_nil fun _ ↦ rfl, List.append_nil, List.append_nil, filterMap_hookCalls]

theorem filterMap_hook?_run (s : EndpointStage) (call : Call) (phase : Phase) :
    (s.run call).log.filterMap (Event.hook? phase)
      = (s.handed call phase).elim [] fun x ↦
          (s.hooks.run phase x).log.filterMap (Event.hook? phase) := by
  have hphase : ∀ x, (s.hooks.run phase x).log.filterMap (Event.hook? phase)
      = (hookRuns (s.hooks.ofPhase phase) x).map fun run ↦ run.1.name :=
    fun x ↦ (phaseRun_runHooks phase (s.hooks.ofPhase phase) x).called
  rw [← filterMap_calls (hook?_eq_none phase), handed]
  cases htransport : call.transport with
  | other typeName =>
    rw [calls_run_of_other htransport]
    rfl
  | http request =>
    rw [calls_run htransport, List.filterMap_append, filterMap_pointCalls]
    cases phase with
    | pre =>
      have hpost : (s.postCalls (call.exchange request)).filterMap (Event.hook? .pre) = [] := by
        rw [List.filterMap_eq_nil_iff]
        intro e he
        obtain ⟨name, rfl⟩ := mem_postCalls he
        rfl
      rw [hpost, List.append_nil]
      exact (hphase _).symm
    | post =>
      rw [postCalls]
      dsimp only
      cases (s.point (call.exchange request)).result with
      | error e => rfl
      | ok u => exact (filterMap_hookCalls .post .post _).trans (hphase _).symm

theorem run_of_hooks_error {x : Exchange} {e : EndpointError}
    (hx : s.handed call phase = some x) (hfails : (s.hooks.run phase x).result = .error e) :
    (s.run call).failure = some e ∧ (s.run call).call = (s.hooks.run phase x).exchange.toCall := by
  cases htransport : call.transport with
  | other typeName =>
    rw [handed, htransport] at hx
    cases hx
  | http request =>
    rw [handed, htransport] at hx
    cases phase with
    | pre =>
      obtain rfl := Option.some.inj hx
      have hpoint : s.point (call.exchange request)
          = ⟨(s.hooks.run .pre (call.exchange request)).exchange,
              (s.hooks.run .pre (call.exchange request)).log, .error e⟩ :=
        Pass.andThen_of_error (hfails ▸ rfl)
      rw [run_of_point_error htransport hpoint]
      exact ⟨rfl, rfl⟩
    | post =>
      cases hresult : (s.point (call.exchange request)).result with
      | error e' =>
        simp only [hresult] at hx
        cases hx
      | ok u =>
        simp only [hresult] at hx
        obtain rfl := Option.some.inj hx
        have hrun : s.hooks.run .post (s.point (call.exchange request)).exchange = _ :=
          runHooks_eq .post s.hooks.post _
        rw [hrun, unlessFault_eq_error_iff] at hfails
        rw [run_of_result_ok htransport hresult, hrun]
        exact ⟨hfails, rfl⟩

end EndpointStage

/-! ## The hooks that integrations offer -/

/-- **Hooks run in the order of the integrations.** Take the hooks that integrations offer for a
client, a service and an operation.

The hooks of a phase are those that the integrations offer for it, in the order of the integrations,
collected in one pass for both phases; and a stage that a registrar builds for the operation has
just these. Whatever a phase is given to work on, the hooks that run are the first ones, each called
once, each on what the one before it left. The phase succeeds exactly if all of them ran and the
last one succeeded; it fails exactly if the last one that ran failed, and then with the name of that
hook, the phase and the cause. What the hooks did that ran stays in any case.

In a call, a stage with these hooks calls the hooks of a phase as such a run does, if it comes to
run them, and none otherwise. If that run fails, the call fails with it and ends with what it
left. -/
theorem hooks_run_in_integration_order (l : List Integration) (options : ClientOptions)
    (service : Service) (operation : Operation) :
    let hooks := Hooks.ofIntegrations l options service operation
    (∀ phase, hooks.ofPhase phase = l.filterMap fun i ↦ i.offer options service operation phase) ∧
    l.foldl (Hooks.addOffers options service operation) .empty = hooks ∧
    (∀ r name built, Registrar.new service l = .ok r → r.build name options = .ok (some built) →
      service.operation? name = some operation → built.stage.hooks = hooks) ∧
    (∀ phase x, ∃ ran, PhaseRun phase (hooks.ofPhase phase) x (hooks.run phase x) ran) ∧
    ∀ (s : EndpointStage) (call : Call) (phase : Phase), s.hooks = hooks →
      let called := (s.run call).log.filterMap (Event.hook? phase)
      match s.handed call phase with
      | none => called = []
      | some x =>
        called = (hooks.run phase x).log.filterMap (Event.hook? phase) ∧
          ∀ e, (hooks.run phase x).result = .error e →
            (s.run call).failure = some e ∧
              (s.run call).call = (hooks.run phase x).exchange.toCall := by
  intro hooks
  refine ⟨Hooks.ofPhase_ofIntegrations l options service operation,
    Hooks.foldl_addOffers l options service operation, fun r name built hnew hbuild hfound ↦ ?_,
    fun phase x ↦ ⟨_, phaseRun_runHooks phase (hooks.ofPhase phase) x⟩,
    fun s call phase hhooks ↦ ?_⟩
  · obtain ⟨catalog, first, last, -, -, hfirst, -, hstage⟩ :=
      Registrar.exists_operations_of_build hnew hbuild
    obtain rfl := Option.some.inj (hfound.symm.trans hfirst)
    rw [hstage]
    rfl
  · have hcalled := s.filterMap_hook?_run call phase
    intro called
    cases hx : s.handed call phase with
    | none => rwa [hx] at hcalled
    | some x =>
      rw [hx, hhooks] at hcalled
      refine ⟨hcalled, fun e hfails ↦ ?_⟩
      rw [← hhooks] at hfails ⊢
      exact EndpointStage.run_of_hooks_error hx hfails

/-! ### A gate that closes -/

private def auditHook : Hook :=
  ⟨"audit", fun c request ↦ ⟨c.annotate "audited" .null, request, [], none⟩⟩

/-- A hook that fails if the call was audited before. -/
private def quotaHook : Hook :=
  ⟨"quota", fun c request ↦ ⟨c, request, [],
    if c.metadata.contains "audited" then some (.plain "quota exceeded") else none⟩⟩

private def gateIntegrations : List Integration :=
  [{ Integration.plain "audit" with preHook := fun _ _ ↦ some auditHook },
    Integration.plain "silent",
    { Integration.plain "quota" with preHook := fun _ _ ↦ some quotaHook },
    { Integration.plain "last" with preHook := fun _ _ ↦ some auditHook }]

private def gateOpen : Operation := ⟨"Open", none, .ofList []⟩

private def gateStore : Service := ⟨"Gate", some ⟨none, ⟨[]⟩, .null⟩, none, [gateOpen]⟩

private def gateCall : Call :=
  ⟨.new "Open", .http ⟨"GET", ⟨"https", none, .segments [], none, none⟩, .empty⟩, .empty "Open"⟩

/-- The second hook finds what the first one left, fails, and the third one does not run. -/
theorem gate_closes_at_second_hook :
    ∃ r built, Registrar.new gateStore gateIntegrations = .ok r ∧
      r.build "Open" .empty = .ok (some built) ∧
      built.stage.hooks = .ofIntegrations gateIntegrations .empty gateStore gateOpen ∧
      (built.stage.run gateCall).log.filterMap (Event.hook? .pre) = ["audit", "quota"] ∧
      (built.stage.run gateCall).failure
        = some (.hook "quota" .pre (.plain "quota exceeded")) ∧
      (built.stage.run gateCall).call.context.metadata.contains "audited" = true := by
  have hcatalog : gateStore.catalog? = some ⟨[]⟩ := rfl
  have hopen : gateStore.operation? "Open" = some gateOpen := rfl
  obtain ⟨r, built, hnew, hbuild, -⟩ :=
    Registrar.exists_build hcatalog rfl hopen rfl gateIntegrations .empty
  obtain ⟨-, -, hbuilt, -, hcall⟩ :=
    hooks_run_in_integration_order gateIntegrations .empty gateStore gateOpen
  have hhooks := hbuilt r "Open" built hnew hbuild rfl
  obtain ⟨hcalled, hfailed⟩ := hcall built.stage gateCall .pre hhooks
  obtain ⟨hfailure, hafter⟩ := hfailed (.hook "quota" .pre (.plain "quota exceeded")) rfl
  refine ⟨r, built, hnew, hbuild, hhooks, hcalled.trans rfl, hfailure, ?_⟩
  rw [hafter]
  rfl

end CallRouting.Call
