import CallRouting.Proofs.Call.Atomicity
import CallRouting.Proofs.Call.Capabilities

/-!
# Canceled calls

A call can be canceled at any point of its way: before it starts, by a stage, and in the endpoint
stage by a hook, by a source of built-in values or by the resolver. `CanceledEarly` lists the points
that come before the resolver is through, and `CanceledLate` those of the endpoint stage that come
after. The stage looks at the signal in two places only, before the resolver is asked and when it
has answered, and what carries the proof is that the signal is still there then: stages and hooks
keep it (`Middleware.KeepsSignal`, `Hooks.KeepSignal`). So an early cancellation always ends the
stage, unless something else ends it first (`FailsFirst`), and a late one is seen by what sends the
request.
-/

namespace CallRouting.Call

/-! ## Resolvers -/

namespace Resolver

variable {r : Resolver} {c : Context} {record : Binding.Record}

theorem verdict_of_canceled (h : c.canceled = true) : r.verdict c record = .error .canceled :=
  if_pos h

/-- A resolver that is asked and cancels the call is heard only if it fails. -/
theorem verdict_of_cancels (h : r.cancels c record = true) :
    c.canceled = false ∧
      ((∃ cause, (r.resolve c record).answer = .answered true (.error cause) ∧
          r.verdict c record = .error (.unresolved cause)) ∨
        (∀ cause, (r.resolve c record).answer ≠ .answered true (.error cause)) ∧
          r.verdict c record = .error .canceled) := by
  rw [cancels] at h
  by_cases hcanceled : c.canceled = true
  · rw [if_pos hcanceled] at h
    cases h
  · rw [if_neg hcanceled] at h
    refine ⟨Bool.eq_false_iff.mpr hcanceled, ?_⟩
    rw [verdict, if_neg hcanceled]
    rcases hanswer : (r.resolve c record).answer with ⟨now, cause | endpoint⟩ | _
    · rw [hanswer] at h
      obtain rfl : now = true := h
      exact Or.inl ⟨cause, rfl, rfl⟩
    · rw [hanswer] at h
      obtain rfl : now = true := h
      refine Or.inr ⟨fun cause hcause ↦ ?_, rfl⟩
      cases hcause
    · refine Or.inr ⟨fun cause hcause ↦ ?_, rfl⟩
      cases hcause

end Resolver

namespace EndpointStage

/-! ## Cancellation in the endpoint stage -/

/-- The call is canceled before the resolver is through. -/
inductive CanceledEarly (s : EndpointStage) (call : Call) : Prop
  /-- It comes canceled. -/
  | before (h : call.context.canceled = true)
  /-- A hook before the resolution cancels it. -/
  | preHook {request : Http.Request} {run : Hook × Reaction}
      (h : call.transport = .http request) (hrun : run ∈ s.preRuns (call.exchange request))
      (hcancels : run.2.context.canceled = true)
  /-- A source of built-in values cancels it. -/
  | source {request : Http.Request} {supply : Supply} (h : call.transport = .http request)
      (hpasses : s.Passes (call.exchange request))
      (hsupply : supply ∈ s.supplied (call.exchange request)) (hcancels : supply.cancels = true)
  /-- The resolver cancels it, and then answers or does not, or it has not answered when the call is
  canceled. -/
  | resolver {request : Http.Request} {r : Resolver} {record : Binding.Record}
      (h : call.transport = .http request) (hasks : s.Asks (call.exchange request) r record)
      (hcancels : r.cancels (s.ready (call.exchange request)).context record = true)

/-- The call is canceled by a hook after the resolution. -/
def CanceledLate (s : EndpointStage) (call : Call) : Prop :=
  ∃ request, call.transport = .http request ∧
    (s.point (call.exchange request)).result = .ok () ∧
    ∃ run ∈ hookRuns s.hooks.post (s.point (call.exchange request)).exchange,
      run.2.context.canceled = true

/-- A failure that comes before the cancellation of a call is seen: that of a check, or one that the
resolver answers with as it cancels the call. -/
inductive FailsFirst (s : EndpointStage) (call : Call) : EndpointError → Prop
  /-- The request is not for HTTP. -/
  | transport {typeName : String} (h : call.transport = .other typeName) :
      FailsFirst s call (.transportType typeName)
  /-- A check fails. -/
  | check {request : Http.Request} {e : EndpointError} (h : call.transport = .http request)
      (hfault : s.checkFault (call.exchange request) = some e) : FailsFirst s call e
  /-- The resolver fails. -/
  | resolver {request : Http.Request} {r : Resolver} {record : Binding.Record} {cause : Cause}
      (h : call.transport = .http request) (hasks : s.Asks (call.exchange request) r record)
      (hlive : (s.ready (call.exchange request)).context.canceled = false)
      (hanswer : (r.resolve (s.ready (call.exchange request)).context record).answer
        = .answered true (.error cause)) : FailsFirst s call (.unresolved cause)

variable {s : EndpointStage} {call : Call} {request : Http.Request}

private theorem CanceledEarly.ready_or_cancels {r : Resolver} {record : Binding.Record}
    (hkeeps : s.hooks.KeepSignal) (h : s.CanceledEarly call)
    (htransport : call.transport = .http request)
    (hasks : s.Asks (call.exchange request) r record) :
    (s.ready (call.exchange request)).context.canceled = true ∨
      r.cancels (s.ready (call.exchange request)).context record = true := by
  cases h with
  | before h =>
    left
    rw [canceled_ready, canceled_entered hkeeps (Or.inl h), Bool.true_or]
  | preHook h hrun hcancels =>
    left
    obtain rfl := Transport.http.inj (htransport.symm.trans h)
    rw [canceled_ready, canceled_entered hkeeps (Or.inr ⟨_, hrun, hcancels⟩), Bool.true_or]
  | source h hpasses hsupply hcancels =>
    left
    obtain rfl := Transport.http.inj (htransport.symm.trans h)
    have hany : (s.supplied (call.exchange request)).any Supply.cancels = true :=
      List.any_eq_true.mpr ⟨_, hsupply, hcancels⟩
    rw [canceled_ready, hany, Bool.or_true]
  | resolver h hother hcancels =>
    right
    obtain rfl := Transport.http.inj (htransport.symm.trans h)
    obtain ⟨rfl, rfl⟩ := hasks.unique hother
    exact hcancels

/-- Once the resolver would be asked, nothing else can fail first. -/
private theorem FailsFirst.of_asks {r : Resolver} {record : Binding.Record} {e : EndpointError}
    (h : s.FailsFirst call e) (htransport : call.transport = .http request)
    (hasks : s.Asks (call.exchange request) r record) :
    (s.ready (call.exchange request)).context.canceled = false ∧
      ∃ cause, (r.resolve (s.ready (call.exchange request)).context record).answer
        = .answered true (.error cause) := by
  cases h with
  | transport h => cases htransport.symm.trans h
  | check h hfault =>
    obtain rfl := Transport.http.inj (htransport.symm.trans h)
    cases hfault.symm.trans (checkFault_eq_none_iff.mpr ⟨r, record, hasks⟩)
  | resolver h hother hlive hanswer =>
    obtain rfl := Transport.http.inj (htransport.symm.trans h)
    obtain ⟨rfl, rfl⟩ := hasks.unique hother
    exact ⟨hlive, _, hanswer⟩

private theorem result_point_of_canceledEarly (hkeeps : s.hooks.KeepSignal)
    (h : s.CanceledEarly call) (htransport : call.transport = .http request) :
    ∃ e, (s.point (call.exchange request)).result = .error e ∧
      (s.FailsFirst call e ∨ e = .canceled ∧ ∀ e', ¬s.FailsFirst call e') := by
  obtain ⟨e, hfault, hresult⟩ | ⟨r, record, hasks, hresult⟩ :=
    s.result_point (call.exchange request)
  · exact ⟨e, hresult, Or.inl (.check htransport hfault)⟩
  -- The checks have passed: the call is canceled before the resolver is asked, or by the resolver.
  · obtain hready | hcancels := h.ready_or_cancels hkeeps htransport hasks
    · rw [Resolver.verdict_of_canceled hready] at hresult
      refine ⟨.canceled, hresult, Or.inr ⟨rfl, fun e' hfirst ↦ ?_⟩⟩
      rw [(hfirst.of_asks htransport hasks).1] at hready
      cases hready
    · obtain ⟨hlive, ⟨cause, hanswer, hverdict⟩ | ⟨hanswer, hverdict⟩⟩ :=
        Resolver.verdict_of_cancels hcancels
      · rw [hverdict] at hresult
        exact ⟨_, hresult, Or.inl (.resolver htransport hasks hlive hanswer)⟩
      · rw [hverdict] at hresult
        refine ⟨.canceled, hresult, Or.inr ⟨rfl, fun e' hfirst ↦ ?_⟩⟩
        obtain ⟨-, cause, hcause⟩ := hfirst.of_asks htransport hasks
        exact hanswer cause hcause

/-- **An early cancellation ends the stage.** The call fails before an endpoint is applied and
before any hook after the resolution, for the reason that it is canceled unless something else fails
first. -/
theorem run_of_canceledEarly (hkeeps : s.hooks.KeepSignal) (h : s.CanceledEarly call) :
    ∃ e, (s.run call).failure = some e ∧
      (s.FailsFirst call e ∨ e = .canceled ∧ ∀ e', ¬s.FailsFirst call e') ∧
      (∀ request, call.transport = .http request →
        (s.run call).call.transport = .http (s.entered (call.exchange request)).request) ∧
      ∀ name, .hook .post name ∉ (s.run call).log := by
  cases htransport : call.transport with
  | other typeName =>
    have hfailure : (s.run call).failure = some (.transportType typeName) := by
      rw [run_of_other htransport]
    refine ⟨_, hfailure, Or.inl (.transport htransport), nofun, fun name hname ↦ ?_⟩
    have hcalls : .hook .post name ∈ calls (s.run call).log := mem_calls_iff.mpr ⟨hname, rfl⟩
    rw [calls_run_of_other htransport] at hcalls
    cases hcalls
  | http request =>
    obtain ⟨e, hresult, hreason⟩ := result_point_of_canceledEarly hkeeps h htransport
    have hrequest := request_of_pointing (s.pointing (call.exchange request))
    rw [hresult] at hrequest
    refine ⟨e, failure_run_of_point_error htransport hresult, hreason, fun other hother ↦ ?_,
      fun name hname ↦ ?_⟩
    · obtain rfl := Transport.http.inj hother
      rw [run_of_result_error htransport hresult]
      exact congrArg Transport.http hrequest.1
    · have hcalls : .hook .post name ∈ calls (s.run call).log := mem_calls_iff.mpr ⟨hname, rfl⟩
      rw [calls_run htransport, postCalls, hresult, List.append_nil] at hcalls
      obtain ⟨_, h⟩ | ⟨_, h⟩ | ⟨_, h⟩ := mem_pointCalls hcalls <;> cases h

theorem canceled_run_of_canceledLate (hkeeps : s.hooks.KeepSignal) (h : s.CanceledLate call) :
    (s.run call).call.context.canceled = true := by
  obtain ⟨request, htransport, hresult, run, hrun, hcancels⟩ := h
  rw [call_run_of_result_ok htransport hresult]
  exact Exchange.canceled_afterRuns hkeeps.post (Or.inr ⟨run, hrun, hcancels⟩)

theorem sendsNothing_ofEndpointStage (s : EndpointStage) :
    (Middleware.ofEndpointStage s).SendsNothing := by
  refine ⟨fun call request hsent ↦ ?_, fun _ _ _ hsent ↦ List.not_mem_nil hsent⟩
  obtain ⟨_, _, h⟩ | ⟨_, h⟩ | ⟨_, h⟩ := mem_calls_run (mem_calls_iff.mpr ⟨hsent, rfl⟩) <;> cases h

end EndpointStage

/-! ## Cancellation on the way through a stack -/

theorem transmit_of_canceled (client : HttpClient) {call : Call}
    (h : call.context.canceled = true) :
    transmit client call
      = ⟨call, [], .error (.endpoint (match call.transport with
          | .other typeName => .transportType typeName
          | .http _ => .canceled))⟩ := by
  rw [transmit]
  cases call.transport with
  | other typeName => rfl
  | http request => exact if_pos h

section Stack

variable {stages : List Middleware} {call : Call}

private theorem runStages_transmit_congr
    (h : ∀ reached, arrival stages call = some reached → reached.context.canceled = true)
    (client other : HttpClient) :
    runStages (transmit other) stages call = runStages (transmit client) stages call := by
  rw [runStages_eq_foldr, runStages_eq_foldr (transmit client)]
  refine foldr_handle_congr fun reached hreached ↦ ?_
  rw [runStages, runStages, transmit_of_canceled other (h reached hreached),
    transmit_of_canceled client (h reached hreached)]

private theorem not_sent_of_canceled
    (h : ∀ reached, arrival stages call = some reached → reached.context.canceled = true)
    (hstages : ∀ m ∈ stages, m.SendsNothing) (client : HttpClient) (request : Http.Request) :
    .sent request ∉ (runStages (transmit client) stages call).log := by
  intro hsent
  rw [runStages_eq_foldr] at hsent
  obtain ⟨reached, hreached, hsent⟩ := exists_arrival_of_sent hstages hsent
  rw [runStages, transmit_of_canceled client (h reached hreached)] at hsent
  cases List.mem_singleton.mp hsent

variable {earlier later : List Middleware} {s : EndpointStage}

private theorem canceled_of_arrival_stage {entered reached : Call}
    (hhooks : s.hooks.KeepSignal) (hlater : ∀ m ∈ later, m.KeepsSignal)
    (hentered : arrival earlier call = some entered)
    (h : s.CanceledEarly entered ∨ s.CanceledLate entered)
    (hreached : arrival (earlier ++ .ofEndpointStage s :: later) call = some reached) :
    reached.context.canceled = true := by
  rw [arrival_append, hentered, Option.bind_some, arrival] at hreached
  obtain ⟨after, hafter, hreached⟩ := Option.bind_eq_some_iff.mp hreached
  cases hfailure : (s.run entered).failure with
  | some e =>
    rw [Middleware.passOn_ofEndpointStage_of_failure hfailure] at hafter
    cases hafter
  | none =>
    rw [Middleware.passOn_ofEndpointStage_of_success hfailure] at hafter
    obtain rfl := Option.some.inj hafter
    -- The stage has handed the call on, so the cancellation was a late one.
    obtain hearly | hlate := h
    · obtain ⟨e, he, -⟩ := EndpointStage.run_of_canceledEarly hhooks hearly
      rw [hfailure] at he
      cases he
    · have hafter := EndpointStage.canceled_run_of_canceledLate hhooks hlate
      exact canceled_of_arrival hlater (.before hafter) hreached

end Stack

/-- **Canceled calls are safe.** Take a stack with the endpoint stage anywhere in it, and any call.
The other stages and the hooks may cancel the call, and do not take a cancellation back.

If the call comes to the endpoint stage and is canceled before the resolver is through, be it before
or in an earlier stage, or in the endpoint stage itself, then that stage fails. The reason is that
the call is canceled, unless a check or the resolver itself fails first. The request stays as the
hooks before the resolution left it, no hook after the resolution runs, and the run of the stack is
what the earlier stages make of that failure: no later stage and no handler is entered.

If the call is canceled at any point before its request would be sent, be it in a later stage or in
a hook after the resolution, the client for HTTP has no part in the outcome; so if no other stage
sends requests, none is sent. -/
theorem canceled_call_ends_before_it_is_sent (client : HttpClient) (operation : String)
    (earlier later : List Middleware) (s : EndpointStage) (call : Call)
    (hstages : ∀ m ∈ earlier ++ later, m.KeepsSignal) (hhooks : s.hooks.KeepSignal) :
    let stack : Stack := ⟨operation, earlier ++ .ofEndpointStage s :: later⟩
    (∀ entered, arrival earlier call = some entered →
      CanceledWithin earlier call ∨ s.CanceledEarly entered →
      ∃ e, (s.run entered).failure = some e ∧
        (s.FailsFirst entered e ∨ e = .canceled ∧ ∀ e', ¬s.FailsFirst entered e') ∧
        (∀ request, entered.transport = .http request →
          (s.run entered).call.transport = .http (s.entered (entered.exchange request)).request) ∧
        (∀ name, .hook .post name ∉ (s.run entered).log) ∧
        stack.run (transmit client) call
          = earlier.foldr Middleware.handle
              (fun _ ↦ ⟨(s.run entered).call,
                .entered EndpointStage.stageId :: (s.run entered).log, .error (.endpoint e)⟩)
              call) ∧
    (CanceledWithin stack.stages call ∨
        (∃ entered, arrival earlier call = some entered ∧
          (s.CanceledEarly entered ∨ s.CanceledLate entered)) →
      (∀ other, stack.run (transmit other) call = stack.run (transmit client) call) ∧
      ((∀ m ∈ earlier ++ later, m.SendsNothing) →
        ∀ request, .sent request ∉ (stack.run (transmit client) call).log)) := by
  have hearlier : ∀ m ∈ earlier, m.KeepsSignal := fun m hm ↦
    hstages m (List.mem_append_left later hm)
  have hlater : ∀ m ∈ later, m.KeepsSignal := fun m hm ↦
    hstages m (List.mem_append_right earlier hm)
  refine ⟨fun entered hentered hcanceled ↦ ?_, fun hcanceled ↦ ?_⟩
  · have hearly : s.CanceledEarly entered := by
      obtain hwithin | hearly := hcanceled
      · exact .before (canceled_of_arrival hearlier hwithin hentered)
      · exact hearly
    obtain ⟨e, hfailure, hreason, hrequest, hpost⟩ :=
      EndpointStage.run_of_canceledEarly hhooks hearly
    refine ⟨e, hfailure, hreason, hrequest, hpost, ?_⟩
    rw [Stack.run, runStages_append]
    refine foldr_handle_congr fun reached hreached ↦ ?_
    obtain rfl := Option.some.inj (hentered.symm.trans hreached)
    exact Middleware.handle_ofEndpointStage_of_failure hfailure _
  · have harrival : ∀ reached,
        arrival (earlier ++ .ofEndpointStage s :: later) call = some reached →
        reached.context.canceled = true := by
      intro reached hreached
      obtain hwithin | ⟨entered, hentered, hstage⟩ := hcanceled
      · refine canceled_of_arrival ?_ hwithin hreached
        exact List.forall_mem_append.mpr
          ⟨hearlier, List.forall_mem_cons.mpr ⟨EndpointStage.keepsSignal hhooks, hlater⟩⟩
      · exact canceled_of_arrival_stage hhooks hlater hentered hstage hreached
    refine ⟨fun other ↦ runStages_transmit_congr harrival client other, fun hothers ↦ ?_⟩
    refine not_sent_of_canceled harrival (fun m hm ↦ ?_) client
    obtain hm | hm := List.mem_append.mp hm
    · exact hothers m (List.mem_append_left later hm)
    · obtain rfl | hm := List.mem_cons.mp hm
      · exact EndpointStage.sendsNothing_ofEndpointStage s
      · exact hothers m (List.mem_append_right earlier hm)

/-! ### A call that a hook cancels -/

private def rootUrl : Url := ⟨"https", none, .segments [], none, none⟩

private def hookedStage (hook : Hook) : EndpointStage :=
  ⟨⟨"Get", ⟨[]⟩, none, []⟩, some (.fixed ⟨rootUrl, .empty⟩), .empty, [], ⟨[hook], []⟩⟩

private def haltedStage : EndpointStage :=
  hookedStage ⟨"halt", fun c request ↦ ⟨c.cancelIf true, request, [], none⟩⟩

private def openingStage : Middleware :=
  ⟨"open", fun call ↦ ⟨call, [], .proceed⟩, fun call result ↦ ⟨call, [], result⟩⟩

private def haltedCall : Call :=
  ⟨.new "Get", .http ⟨"GET", rootUrl, .empty⟩, .empty "GetInput"⟩

/-- The hook succeeds and cancels the call: the stage fails, and no request is sent. -/
theorem halted_call_ends_before_it_is_sent :
    (haltedStage.run haltedCall).failure = some .canceled ∧
    ∀ request, .sent request ∉
      (Stack.run ⟨"Get", [openingStage, .ofEndpointStage haltedStage]⟩
        (transmit fun _ ↦ .ok 200) haltedCall).log := by
  have hstages : ∀ m ∈ [openingStage] ++ [], m.KeepsSignal ∧ m.SendsNothing := by
    intro m hm
    obtain rfl := List.mem_singleton.mp hm
    exact ⟨fun _ h ↦ h, fun _ _ ↦ List.not_mem_nil, fun _ _ _ ↦ List.not_mem_nil⟩
  have hhooks : haltedStage.hooks.KeepSignal := by
    refine ⟨fun hook hhook c request _ ↦ ?_, nofun⟩
    obtain rfl := List.mem_singleton.mp hhook
    exact Bool.or_true c.canceled
  have hcanceled : haltedStage.CanceledEarly haltedCall :=
    .preHook rfl (List.mem_singleton.mpr rfl) rfl
  obtain ⟨hstage, hclient⟩ :=
    canceled_call_ends_before_it_is_sent (fun _ ↦ .ok 200) "Get" [openingStage] [] haltedStage
      haltedCall (fun m hm ↦ (hstages m hm).1) hhooks
  obtain ⟨e, hfailure, -⟩ := hstage haltedCall rfl (Or.inr hcanceled)
  obtain ⟨-, hnothing⟩ := hclient (Or.inr ⟨haltedCall, rfl, Or.inl hcanceled⟩)
  obtain rfl : e = .canceled := Option.some.inj (hfailure.symm.trans rfl)
  exact ⟨hfailure, hnothing fun m hm ↦ (hstages m hm).2⟩

-- Hooks have to keep the signal: one that took it back would let a canceled call through.
example : ((hookedStage ⟨"forgive", fun c request ↦
    ⟨{ c with canceled := false }, request, [], none⟩⟩).run
      { haltedCall with context := haltedCall.context.cancelIf true }).failure = none := rfl

end CallRouting.Call
