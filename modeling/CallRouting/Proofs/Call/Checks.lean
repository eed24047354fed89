import CallRouting.Proofs.Call.Passage

/-!
# The checks before a resolver is asked

Whether a resolver is asked is decided by four checks: the hooks before the resolution, the shape of
the input, the presence of a resolver and the binding of the parameters. `checkFault` is the first
of them that fails, and it is all that the result of a call depends on until the resolver is asked.
Cancellation is no check of this kind: it is looked at when the resolver would be asked, and it is
the answer then.
-/

namespace CallRouting.Call.EndpointStage

variable {s : EndpointStage} {x : Exchange}

/-- What keeps the stage from asking a resolver, if anything does: the first check that fails. -/
def checkFault (s : EndpointStage) (x : Exchange) : Option EndpointError :=
  (runsFault .pre (s.preRuns x)).or <| (shapeFault s.program x.input).or <|
    match s.resolver with
    | none => some .missingResolver
    | some _ =>
      match s.boundRecord x with
      | .error failure => some (.binding failure)
      | .ok _ => none

/-- The checks that come before the sources of built-in values are asked. -/
structure Passes (s : EndpointStage) (x : Exchange) : Prop where
  /-- No hook before the resolution fails. -/
  pre : runsFault .pre (s.preRuns x) = none
  /-- The input has the shape that the program reads. -/
  shape : shapeFault s.program x.input = none
  /-- The client has a resolver. -/
  resolver : s.resolver.isSome = true

instance : Decidable (s.Passes x) :=
  decidable_of_iff (runsFault .pre (s.preRuns x) = none ∧ shapeFault s.program x.input = none ∧
      s.resolver.isSome = true)
    ⟨fun ⟨hpre, hshape, hresolver⟩ ↦ ⟨hpre, hshape, hresolver⟩,
      fun h ↦ ⟨h.pre, h.shape, h.resolver⟩⟩

theorem Asks.passes {r : Resolver} {record : Binding.Record} (h : s.Asks x r record) :
    s.Passes x :=
  ⟨h.pre, h.shape, Option.isSome_of_eq_some h.resolver⟩

theorem Asks.unique {r r' : Resolver} {record record' : Binding.Record} (h : s.Asks x r record)
    (h' : s.Asks x r' record') : r = r' ∧ record = record' :=
  ⟨Option.some.inj (h.resolver.symm.trans h'.resolver),
    Except.ok.inj (h.record.symm.trans h'.record)⟩

/-- No check fails exactly if the stage gets so far as to ask a resolver. -/
theorem checkFault_eq_none_iff :
    s.checkFault x = none ↔ ∃ r record, s.Asks x r record := by
  rw [checkFault, Option.or_eq_none_iff, Option.or_eq_none_iff]
  constructor
  · rintro ⟨hpre, hshape, hrest⟩
    cases hresolver : s.resolver with
    | none =>
      rw [hresolver] at hrest
      cases hrest
    | some r =>
      cases hrecord : s.boundRecord x with
      | error failure =>
        rw [hresolver, hrecord] at hrest
        cases hrest
      | ok record => exact ⟨r, record, hpre, hshape, hresolver, hrecord⟩
  · rintro ⟨r, record, hpre, hshape, hresolver, hrecord⟩
    rw [hresolver, hrecord]
    exact ⟨hpre, hshape, rfl⟩

theorem checkFault_of_binding {failure : Binding.Failure} (hpasses : s.Passes x)
    (hrecord : s.boundRecord x = .error failure) : s.checkFault x = some (.binding failure) := by
  obtain ⟨r, hr⟩ := Option.isSome_iff_exists.mp hpasses.resolver
  rw [checkFault, hpasses.pre, hpasses.shape, hr, hrecord, Option.none_or, Option.none_or]

private theorem result_of_pointing {step : Step Unit} (h : Pointing s x step) :
    (∃ e, s.checkFault x = some e ∧ step.result = .error e) ∨
      ∃ r record, s.Asks x r record ∧
        step.result = (r.verdict (s.ready x).context record).map fun _ ↦ () := by
  cases h with
  | preHook hpre =>
    refine Or.inl ⟨_, ?_, rfl⟩
    rw [checkFault, hpre, Option.some_or]
  | inputShape hpre hshape =>
    refine Or.inl ⟨_, ?_, rfl⟩
    rw [checkFault, hpre, hshape, Option.none_or, Option.some_or]
  | missingResolver hpre hshape hresolver =>
    refine Or.inl ⟨_, ?_, rfl⟩
    rw [checkFault, hpre, hshape, hresolver, Option.none_or, Option.none_or]
  | binding hpre hshape hresolver hrecord =>
    exact Or.inl ⟨_, checkFault_of_binding ⟨hpre, hshape, hresolver⟩ hrecord, rfl⟩
  | refused hasks hverdict =>
    refine Or.inr ⟨_, _, hasks, ?_⟩
    rw [hverdict]
    rfl
  | pointed hasks hverdict =>
    refine Or.inr ⟨_, _, hasks, ?_⟩
    rw [hverdict]
    rfl

/-- **The checks decide first.** A check that fails ends the stage with its failure; otherwise the
resolver is asked, and its verdict decides. -/
theorem result_point (s : EndpointStage) (x : Exchange) :
    (∃ e, s.checkFault x = some e ∧ (s.point x).result = .error e) ∨
      ∃ r record, s.Asks x r record ∧
        (s.point x).result = (r.verdict (s.ready x).context record).map fun _ ↦ () :=
  result_of_pointing (s.pointing x)

/-! ## The failure of a call -/

section Run

variable {call : Call} {request : Http.Request}

theorem failure_run_of_point_error {e : EndpointError} (h : call.transport = .http request)
    (hresult : (s.point (call.exchange request)).result = .error e) :
    (s.run call).failure = some e := by
  rw [run_of_result_error h hresult]

theorem failure_run_of_checkFault {e : EndpointError} (h : call.transport = .http request)
    (hfault : s.checkFault (call.exchange request) = some e) : (s.run call).failure = some e := by
  rcases s.result_point (call.exchange request) with ⟨e', hfault', hresult⟩ | ⟨r, record, hasks, -⟩
  · obtain rfl := Option.some.inj (hfault.symm.trans hfault')
    exact failure_run_of_point_error h hresult
  · have hnone := checkFault_eq_none_iff.mpr ⟨r, record, hasks⟩
    rw [hnone] at hfault
    cases hfault

theorem boundRecord_of_failure_run {failure : Binding.Failure}
    (hfailure : (s.run call).failure = some (.binding failure)) :
    ∃ request, call.transport = .http request ∧
      s.boundRecord (call.exchange request) = .error failure := by
  cases htransport : call.transport with
  | other typeName =>
    rw [run_of_other htransport] at hfailure
    cases hfailure
  | http request =>
    refine ⟨request, rfl, ?_⟩
    -- of the ways through the stage only one ends with this failure
    have hway := s.pointing (call.exchange request)
    rcases hpoint : s.point (call.exchange request) with ⟨y, log, e | u⟩
    · rw [run_of_point_error htransport hpoint] at hfailure
      obtain rfl := Option.some.inj hfailure
      rw [hpoint] at hway
      cases hway with
      | preHook hpre =>
        obtain ⟨name, cause, hhook⟩ := exists_hook_of_runsFault hpre
        cases hhook
      | inputShape hpre hshape =>
        obtain ⟨shape, -, -, hinput⟩ := exists_of_shapeFault hshape
        cases hinput
      | binding hpre hshape hresolver hrecord => exact hrecord
      | refused hasks hverdict =>
        obtain hcanceled | ⟨cause, hcause⟩ := Resolver.eq_of_verdict_eq_error hverdict
        · cases hcanceled
        · cases hcause
    · rw [run_of_point_ok htransport hpoint] at hfailure
      obtain ⟨name, cause, hhook⟩ := exists_hook_of_runsFault hfailure
      cases hhook

end Run

end CallRouting.Call.EndpointStage
