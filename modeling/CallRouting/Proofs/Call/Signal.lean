import CallRouting.Proofs.Call.Chain
import CallRouting.Proofs.Call.Passage

/-!
# The signal in the endpoint stage

Sources and the resolver can give the signal that cancels a call, and cannot take it back; of the
hooks that is asked (`Hooks.KeepSignal`). If they keep to it, a call that comes canceled leaves the
stage canceled, whichever way it goes (`canceled_run`), which makes the endpoint stage a stage that
keeps the signal.

Apart from that the endpoint stage is a simple stage of a stack: it ends the call with its failure,
or hands it on as it left it, once, and does nothing on the way back.
-/

namespace CallRouting.Call

namespace EndpointStage

theorem canceled_ready (s : EndpointStage) (x : Exchange) :
    (s.ready x).context.canceled
      = ((s.entered x).context.canceled || (s.supplied x).any Supply.cancels) := rfl

section KeepSignal

variable {s : EndpointStage} (hkeeps : s.hooks.KeepSignal)

include hkeeps

theorem canceled_entered {x : Exchange}
    (h : x.context.canceled = true ∨ ∃ run ∈ s.preRuns x, run.2.context.canceled = true) :
    (s.entered x).context.canceled = true :=
  Exchange.canceled_afterRuns hkeeps.pre h

private theorem canceled_of_pointing {x : Exchange} {step : Step Unit} (h : Pointing s x step)
    (hcanceled : x.context.canceled = true) : step.exchange.context.canceled = true := by
  have hentered : (s.entered x).context.canceled = true :=
    canceled_entered hkeeps (Or.inl hcanceled)
  have hready : (s.ready x).context.canceled = true := by
    rw [canceled_ready, hentered, Bool.true_or]
  -- The checks before the sources are asked leave the context as the hooks left it; after them it
  -- is that of the sources, and the resolver can only cancel more.
  cases h with
  | preHook hpre => exact hentered
  | inputShape hpre hshape => exact hentered
  | missingResolver hpre hshape hresolver => exact hentered
  | binding hpre hshape hresolver hrecord => exact hready
  | refused hasks hverdict =>
    dsimp only
    rw [Context.canceled_cancelIf, hready, Bool.true_or]
  | pointed hasks hverdict => exact hready

/-- **A call that comes canceled leaves the stage canceled.** -/
theorem canceled_run {call : Call} (hcanceled : call.context.canceled = true) :
    (s.run call).call.context.canceled = true := by
  cases htransport : call.transport with
  | other typeName =>
    rw [run_of_other htransport]
    exact hcanceled
  | http request =>
    have hpointing := s.pointing (call.exchange request)
    rcases hpoint : s.point (call.exchange request) with ⟨y, log, e | u⟩
    · rw [hpoint] at hpointing
      rw [run_of_point_error htransport hpoint]
      exact canceled_of_pointing hkeeps hpointing hcanceled
    · rw [hpoint] at hpointing
      have hy : y.context.canceled = true := canceled_of_pointing hkeeps hpointing hcanceled
      rw [run_of_point_ok htransport hpoint]
      exact Exchange.canceled_afterRuns hkeeps.post (Or.inl hy)

theorem keepsSignal : (Middleware.ofEndpointStage s).KeepsSignal :=
  fun _ hcanceled ↦ canceled_run hkeeps hcanceled

end KeepSignal

end EndpointStage

/-! ## The endpoint stage in a stack -/

namespace Middleware

variable {s : EndpointStage} {call : Call}

private theorem act_ofEndpointStage (s : EndpointStage) (call : Call) :
    (ofEndpointStage s).act call
      = ⟨(s.run call).call, (s.run call).log,
          match (s.run call).failure with
          | none => .proceed
          | some e => .finish (.error (.endpoint e))⟩ := rfl

theorem handle_ofEndpointStage_of_failure {e : EndpointError}
    (h : (s.run call).failure = some e) (next : Handler) :
    (ofEndpointStage s).handle next call
      = ⟨(s.run call).call, .entered EndpointStage.stageId :: (s.run call).log,
          .error (.endpoint e)⟩ := by
  rw [handle, act_ofEndpointStage, h]
  rfl

theorem passOn_ofEndpointStage_of_failure {e : EndpointError}
    (h : (s.run call).failure = some e) : (ofEndpointStage s).passOn call = none := by
  rw [passOn, act_ofEndpointStage, h]

theorem passOn_ofEndpointStage_of_success (h : (s.run call).failure = none) :
    (ofEndpointStage s).passOn call = some (s.run call).call := by
  rw [passOn, act_ofEndpointStage, h]

theorem handle_ofEndpointStage_of_success (h : (s.run call).failure = none) (next : Handler) :
    (ofEndpointStage s).handle next call
      = ⟨(next (s.run call).call).call,
          .entered EndpointStage.stageId :: (s.run call).log ++ (next (s.run call).call).log,
          (next (s.run call).call).result⟩ := by
  have hunwind : ∀ inner result, (ofEndpointStage s).unwind inner result = ⟨inner, [], result⟩ :=
    fun _ _ ↦ rfl
  rw [handle_of_passOn_eq_some (passOn_ofEndpointStage_of_success h), hunwind, List.append_nil]
  rfl

end Middleware

end CallRouting.Call
