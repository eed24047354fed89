import CallRouting.Proofs.Call.Passage
import CallRouting.Proofs.Http.Endpoint

/-!
# Endpoints are applied as a whole or not at all

The only part of the endpoint stage that touches the request, besides the hooks, is the one that
applies the endpoint, and nothing between that and the hooks after the resolution can fail. So a
call that fails before those hooks leaves the request as the hooks before the resolution left it,
and every other call has an endpoint applied to that request as a whole.
-/

namespace CallRouting.Call.EndpointStage

/-- The resolver of the client, asked about the record of a call, answers with an endpoint, and does
not cancel the call. -/
def Finds (s : EndpointStage) (x : Exchange) (endpoint : Http.Endpoint) : Prop :=
  ∃ r record, s.Asks x r record ∧
    (r.resolve (s.ready x).context record).answer = .answered false (.ok endpoint)

/-- Before the hooks after the resolution, a failure leaves the request alone, and otherwise one
endpoint is applied to it. -/
theorem request_of_pointing {s : EndpointStage} {x : Exchange} {step : Step Unit}
    (h : Pointing s x step) :
    match step.result with
    | .error e =>
      step.exchange.request = (s.entered x).request ∧ ∀ name cause, e ≠ .hook name .post cause
    | .ok () =>
      ∃ endpoint, s.Finds x endpoint ∧
        step.exchange.request = endpoint.apply (s.entered x).request := by
  cases h with
  | preHook hpre =>
    obtain ⟨name, cause, rfl⟩ := exists_hook_of_runsFault hpre
    exact ⟨rfl, fun _ _ h ↦ nomatch h⟩
  | inputShape hpre hshape =>
    obtain ⟨shape, -, -, rfl⟩ := exists_of_shapeFault hshape
    exact ⟨rfl, fun _ _ h ↦ nomatch h⟩
  | missingResolver hpre hshape hresolver => exact ⟨rfl, fun _ _ h ↦ nomatch h⟩
  | binding hpre hshape hresolver hrecord => exact ⟨rfl, fun _ _ h ↦ nomatch h⟩
  | refused hasks hverdict =>
    obtain rfl | ⟨cause, rfl⟩ := Resolver.eq_of_verdict_eq_error hverdict
    · exact ⟨rfl, fun _ _ h ↦ nomatch h⟩
    · exact ⟨rfl, fun _ _ h ↦ nomatch h⟩
  | pointed hasks hverdict =>
    exact ⟨_, ⟨_, _, hasks, (Resolver.verdict_eq_ok_iff.mp hverdict).2⟩, rfl⟩

/-- **Atomic application.** A request that is not for HTTP is never changed. For any other, take the
request as the hooks before the resolution leave it, edits of a hook that then failed included. A
call that fails, and not in a hook after the resolution, ends with just that request. A call that
succeeds, or fails in such a hook, ends with what the hooks after the resolution make of that
request with one endpoint applied to it as a whole. -/
theorem run_applies_whole_endpoint (s : EndpointStage) (call : Call) :
    match call.transport with
    | .other typeName => (s.run call).call.transport = .other typeName
    | .http request =>
      let x := call.exchange request
      let before := (s.entered x).request
      let y := (s.point x).exchange
      (∀ e, (s.run call).failure = some e → (∀ name cause, e ≠ .hook name .post cause) →
        (s.run call).call.transport = .http before) ∧
      ((s.run call).failure = none ∨
          (∃ name cause, (s.run call).failure = some (.hook name .post cause)) →
        ∃ endpoint, s.Finds x endpoint ∧ y.request = endpoint.apply before ∧
          Http.Request.At endpoint before y.request ∧
          (s.run call).call.transport
            = .http (y.afterRuns (hookRuns s.hooks.post y)).request) := by
  cases htransport : call.transport with
  | other typeName =>
    rw [run_of_other htransport]
    exact htransport
  | http request =>
    have hrequest := request_of_pointing (s.pointing (call.exchange request))
    rcases hpoint : s.point (call.exchange request) with ⟨y, log, e | u⟩
    · rw [hpoint] at hrequest
      obtain ⟨hkept, hnotPost⟩ := hrequest
      rw [run_of_point_error htransport hpoint]
      refine ⟨fun _ _ _ ↦ congrArg Transport.http hkept, ?_⟩
      rintro (hnone | ⟨name, cause, hpost⟩)
      · cases hnone
      · exact absurd (Option.some.inj hpost) (hnotPost name cause)
    · rw [hpoint] at hrequest
      obtain ⟨endpoint, hfinds, hpointed⟩ := hrequest
      rw [run_of_point_ok htransport hpoint]
      refine ⟨fun e hfailure hnotPost ↦ ?_, fun _ ↦ ?_⟩
      · obtain ⟨name, cause, rfl⟩ := exists_hook_of_runsFault hfailure
        exact absurd rfl (hnotPost name cause)
      · have hat : Http.Request.At endpoint (s.entered (call.exchange request)).request y.request :=
          hpointed ▸ endpoint.at_apply _
        dsimp only
        rw [hpoint]
        exact ⟨endpoint, hfinds, hpointed, hat, rfl⟩

end CallRouting.Call.EndpointStage
