import CallRouting.Proofs.Call.Passage

/-!
# Transitions of the endpoint stage

The log of a call has much in it that capabilities of the client have to say. What remains if only
the transitions of the endpoint stage are kept is a run of a small machine: the states of `course`
as far as the stage got, then one final state. Which failures can end the stage is a matter of the
last state that it reached (`FailsAfter`), and so is what they have to do with (`kindsAfter`).
-/

namespace CallRouting.Call

/-- Whether an event is a transition of the endpoint stage. -/
def Event.isTransition : Event → Bool
  | .reached _ | .failed _ => true
  | _ => false

/-- The transitions of the endpoint stage in a log. -/
def transitions (log : List Event) : List Event := log.filter Event.isTransition

theorem transitions_append (l l' : List Event) :
    transitions (l ++ l') = transitions l ++ transitions l' := List.filter_append l l'

@[simp] theorem transitions_nil : transitions [] = [] := rfl

@[simp] theorem transitions_reached_cons (state : State) (l : List Event) :
    transitions (.reached state :: l) = .reached state :: transitions l := rfl

@[simp] theorem transitions_map_reached (l : List State) :
    transitions (l.map .reached) = l.map .reached := by
  rw [transitions, List.filter_eq_self]
  intro e he
  obtain ⟨state, -, rfl⟩ := List.mem_map.mp he
  rfl

/-! ## Capabilities make no transitions -/

private theorem transitions_eq_nil {l : List Event} (h : ∀ e ∈ l, e.isTransition = false) :
    transitions l = [] := by
  rw [transitions, List.filter_eq_nil_iff]
  intro e he
  rw [h e he]
  exact Bool.false_ne_true

private theorem isTransition_of_mem_notes {notes : List Json.Value} {e : Event}
    (h : e ∈ notes.map Event.note) : e.isTransition = false := by
  obtain ⟨note, -, rfl⟩ := List.mem_map.mp h
  rfl

@[simp] theorem transitions_runsLog (phase : Phase) (runs : List (Hook × Reaction)) :
    transitions (runsLog phase runs) = [] := by
  refine transitions_eq_nil fun e he ↦ ?_
  obtain ⟨run, -, he⟩ := List.mem_flatMap.mp he
  rcases List.mem_cons.mp he with rfl | he
  · rfl
  · exact isTransition_of_mem_notes he

@[simp] theorem transitions_suppliesLog (l : List Supply) : transitions (suppliesLog l) = [] := by
  refine transitions_eq_nil fun e he ↦ ?_
  obtain ⟨supply, -, he⟩ := List.mem_flatMap.mp he
  rcases List.mem_cons.mp he with rfl | he
  · rfl
  · exact isTransition_of_mem_notes he

@[simp] theorem transitions_said (r : Resolver) (c : Context) (record : Binding.Record) :
    transitions (r.said c record) = [] := by
  refine transitions_eq_nil fun e he ↦ ?_
  rw [Resolver.said] at he
  split at he
  · cases he
  · rcases List.mem_cons.mp he with rfl | he
    · rfl
    · exact isTransition_of_mem_notes he

@[simp] theorem transitions_warnings (l : List Warning) : transitions (l.map .warning) = [] := by
  refine transitions_eq_nil fun e he ↦ ?_
  obtain ⟨p, -, rfl⟩ := List.mem_map.mp he
  rfl

/-! ## The course of the stage -/

namespace EndpointStage

/-- The states that the stage of a program goes through if nothing fails. -/
def course (program : Binding.Program) : List State :=
  [.start, .transportValidated] ++ inputStates program
    ++ [.resolverChecked, .builtinsApplied, .paramsBound, .endpointResolved, .requestMutated]

/-- The failures with which the stage of a program may end after a state. -/
inductive FailsAfter (program : Binding.Program) : State → EndpointError → Prop
  | transportType (observed : String) : FailsAfter program .start (.transportType observed)
  | preHook (name : String) (cause : Cause) :
      FailsAfter program .transportValidated (.hook name .pre cause)
  | inputShape {expected observed : String} (h : program.inputShape = some expected)
      (hne : observed ≠ expected) :
      FailsAfter program .transportValidated (.inputShape expected observed)
  | missingResolver (h : program.inputShape = none) :
      FailsAfter program .transportValidated .missingResolver
  | missingResolverForInput (h : program.inputShape.isSome = true) :
      FailsAfter program .inputValidated .missingResolver
  | binding (failure : Binding.Failure) : FailsAfter program .builtinsApplied (.binding failure)
  | canceled : FailsAfter program .paramsBound .canceled
  | unresolved (cause : Cause) : FailsAfter program .paramsBound (.unresolved cause)
  | postHook (name : String) (cause : Cause) :
      FailsAfter program .requestMutated (.hook name .post cause)

/-- What the failures after a state have to do with. -/
def kindsAfter (program : Binding.Program) : State → List FailureKind
  | .start => [.transport]
  | .transportValidated => [.hook, if program.inputShape.isSome then .transport else .resolver]
  | .inputValidated => [.resolver]
  | .builtinsApplied => [.configuration, .transport]
  | .paramsBound => [.canceled, .resolution]
  | .requestMutated => [.hook]
  | .resolverChecked | .endpointResolved | .done => []

theorem FailsAfter.kind_mem {program : Binding.Program} {state : State} {e : EndpointError}
    (h : FailsAfter program state e) : e.kind ∈ kindsAfter program state := by
  cases h with
  | transportType observed => exact List.mem_singleton.mpr rfl
  | preHook name cause => exact List.mem_cons_self
  | inputShape h hne =>
    rw [kindsAfter, h]
    exact List.mem_cons_of_mem _ (List.mem_singleton.mpr rfl)
  | missingResolver h =>
    rw [kindsAfter, h]
    exact List.mem_cons_of_mem _ (List.mem_singleton.mpr rfl)
  | missingResolverForInput h => exact List.mem_singleton.mpr rfl
  | binding failure =>
    cases failure with
    | mistyped parameter origin expected found => exact List.mem_cons_self
    | invalidMember member parameter cause =>
      exact List.mem_cons_of_mem _ (List.mem_singleton.mpr rfl)
  | canceled => exact List.mem_cons_self
  | unresolved cause => exact List.mem_cons_of_mem _ (List.mem_singleton.mpr rfl)
  | postHook name cause => exact List.mem_singleton.mpr rfl

/-! ## The transitions of a call -/

private theorem getLast?_append_cons {l l' : List State} {state : State} :
    (l ++ state :: l').getLast? = (state :: l').getLast? :=
  List.getLast?_append_of_ne_nil l (List.cons_ne_nil state l')

/-- Before the hooks after the resolution, the stage goes along its course; if it fails, it has not
come to the end of it. -/
private theorem transitions_of_pointing {s : EndpointStage} {x : Exchange} {step : Step Unit}
    (h : Pointing s x step) :
    ∃ reached, reached <+: course s.program ∧
      .reached .start :: .reached .transportValidated :: transitions step.log
        = reached.map .reached ∧
      match step.result with
      | .ok () => reached = course s.program
      | .error e => ∃ state, reached.getLast? = some state ∧ state ≠ .requestMutated ∧
          FailsAfter s.program state e := by
  cases h with
  -- One case for each way the stage can end here: how far it came, and what it failed with.
  | preHook hpre =>
    obtain ⟨name, cause, rfl⟩ := exists_hook_of_runsFault hpre
    refine ⟨[.start, .transportValidated], ⟨_, (List.append_assoc _ _ _).symm⟩, ?_, ?_⟩
    · rw [transitions_runsLog]
      rfl
    · exact ⟨_, rfl, by decide, .preHook name cause⟩
  | inputShape hpre hshape =>
    obtain ⟨shape, hexpected, hne, rfl⟩ := exists_of_shapeFault hshape
    refine ⟨[.start, .transportValidated], ⟨_, (List.append_assoc _ _ _).symm⟩, ?_, ?_⟩
    · rw [transitions_runsLog]
      rfl
    · exact ⟨_, rfl, by decide, .inputShape hexpected hne⟩
  | missingResolver hpre hshape hresolver =>
    refine ⟨[.start, .transportValidated] ++ inputStates s.program, ⟨_, rfl⟩, ?_, ?_⟩
    · simp [checkedLog, transitions_append]
    · cases hexpected : s.program.inputShape with
      | none =>
        rw [inputStates, hexpected]
        exact ⟨.transportValidated, rfl, by decide, .missingResolver hexpected⟩
      | some shape =>
        rw [inputStates, hexpected]
        have hsome : s.program.inputShape.isSome = true := Option.isSome_of_eq_some hexpected
        exact ⟨.inputValidated, rfl, by decide, .missingResolverForInput hsome⟩
  | binding hpre hshape hresolver hrecord =>
    refine ⟨[.start, .transportValidated] ++ inputStates s.program
        ++ [.resolverChecked, .builtinsApplied],
      (List.prefix_append_right_inj _).mpr ⟨_, rfl⟩, ?_, ?_⟩
    · simp [bindingLog, checkedLog, transitions_append]
    · exact ⟨.builtinsApplied, getLast?_append_cons, by decide, .binding _⟩
  | refused hasks hverdict =>
    refine ⟨[.start, .transportValidated] ++ inputStates s.program
        ++ [.resolverChecked, .builtinsApplied, .paramsBound],
      (List.prefix_append_right_inj _).mpr ⟨_, rfl⟩, ?_, ?_⟩
    · simp [askingLog, bindingLog, checkedLog, transitions_append]
    · obtain rfl | ⟨cause, rfl⟩ := Resolver.eq_of_verdict_eq_error hverdict
      · exact ⟨.paramsBound, getLast?_append_cons, by decide, .canceled⟩
      · exact ⟨.paramsBound, getLast?_append_cons, by decide, .unresolved cause⟩
  | pointed hasks hverdict =>
    refine ⟨course s.program, List.prefix_refl _, ?_, rfl⟩
    simp [course, askingLog, bindingLog, checkedLog, transitions_append]

/-- Every hook after the resolution runs, and none of them fails. -/
def PostHooksSucceed (s : EndpointStage) (call : Call) : Prop :=
  ∀ request, call.transport = .http request →
    (hookRuns s.hooks.post (s.point (call.exchange request)).exchange).map Prod.fst = s.hooks.post ∧
    ∀ run ∈ hookRuns s.hooks.post (s.point (call.exchange request)).exchange,
      run.2.failure = none

private theorem postHooksSucceed_iff {s : EndpointStage} {call : Call} {request : Http.Request}
    {y : Exchange} {log : List Event} (h : call.transport = .http request)
    (hpoint : s.point (call.exchange request) = ⟨y, log, .ok ()⟩) :
    s.PostHooksSucceed call ↔ runsFault .post (hookRuns s.hooks.post y) = none := by
  rw [runsFault_eq_none_iff]
  constructor
  · intro hsucceed
    have := (hsucceed request h).2
    rwa [hpoint] at this
  · intro hruns other hother
    obtain rfl := Transport.http.inj (h.symm.trans hother)
    rw [hpoint]
    exact ⟨map_fst_hookRuns_of_forall hruns, hruns⟩

private theorem ne_course {program : Binding.Program} {reached : List State} {state : State}
    (hlast : reached.getLast? = some state) (hstate : state ≠ .requestMutated) :
    reached ≠ course program := by
  rintro rfl
  rw [course, getLast?_append_cons] at hlast
  exact hstate (Option.some.inj hlast).symm

private theorem transitions_around {log : List Event} {final : Event}
    (h : final.isTransition = true) :
    transitions (.reached .start :: .reached .transportValidated :: log ++ [final])
      = .reached .start :: .reached .transportValidated :: transitions log ++ [final] := by
  have hfinal : transitions [final] = [final] := List.filter_cons_of_pos h
  rw [transitions_append, hfinal, transitions_reached_cons, transitions_reached_cons]

/-- **The stage is a machine on its course.** The transitions of a call are the states of the course
as far as the stage gets, and one final state. It is through exactly if it comes to the end of the
course and every hook after the resolution succeeds; otherwise it fails, and with what is decided by
the last state that it reached. -/
theorem transitions_run (s : EndpointStage) (call : Call) :
    ∃ reached, reached ≠ [] ∧ reached <+: course s.program ∧
      match (s.run call).failure with
      | none =>
        reached = course s.program ∧ s.PostHooksSucceed call ∧
        transitions (s.run call).log = reached.map .reached ++ [.reached .done]
      | some e =>
        ¬(reached = course s.program ∧ s.PostHooksSucceed call) ∧
        transitions (s.run call).log = reached.map .reached ++ [.failed e.kind] ∧
        ∃ state, reached.getLast? = some state ∧ FailsAfter s.program state e ∧
          e.kind ∈ kindsAfter s.program state := by
  cases htransport : call.transport with
  | other typeName =>
    have hfails : FailsAfter s.program .start (.transportType typeName) := .transportType typeName
    rw [run_of_other htransport]
    refine ⟨[.start], by simp, ⟨_, rfl⟩, ?_, rfl, .start, rfl, hfails, hfails.kind_mem⟩
    rintro ⟨hcourse, -⟩
    cases hcourse
  | http request =>
    obtain ⟨reached, hprefix, htransitions, hresult⟩ :=
      transitions_of_pointing (s.pointing (call.exchange request))
    have hne : reached ≠ [] := by
      rintro rfl
      cases htransitions
    refine ⟨reached, hne, hprefix, ?_⟩
    rcases hpoint : s.point (call.exchange request) with ⟨y, log, e | u⟩
    · rw [hpoint] at htransitions hresult
      obtain ⟨state, hlast, hstate, hfails⟩ := hresult
      rw [run_of_point_error htransport hpoint]
      refine ⟨?_, ?_, state, hlast, hfails, hfails.kind_mem⟩
      · rintro ⟨hcourse, -⟩
        exact ne_course hlast hstate hcourse
      · rw [← htransitions]
        exact transitions_around rfl
    · rw [hpoint] at htransitions hresult
      obtain rfl : reached = course s.program := hresult
      have hiff := postHooksSucceed_iff htransport hpoint
      -- The hooks after the resolution come after the course and add no state to it.
      have hlog : transitions (log ++ runsLog .post (hookRuns s.hooks.post y))
          = transitions log := by
        rw [transitions_append, transitions_runsLog, List.append_nil]
      rw [run_of_point_ok htransport hpoint]
      cases hfault : runsFault .post (hookRuns s.hooks.post y) with
      | none =>
        refine ⟨rfl, hiff.mpr hfault, ?_⟩
        rw [← htransitions, ← hlog]
        exact transitions_around rfl
      | some e =>
        obtain ⟨name, cause, rfl⟩ := exists_hook_of_runsFault hfault
        have hfails : FailsAfter s.program .requestMutated (.hook name .post cause) :=
          .postHook name cause
        refine ⟨?_, ?_, .requestMutated, getLast?_append_cons, hfails, hfails.kind_mem⟩
        · rintro ⟨-, hsucceed⟩
          rw [hiff.mp hsucceed] at hfault
          cases hfault
        · rw [← htransitions, ← hlog]
          exact transitions_around rfl

end EndpointStage

end CallRouting.Call
