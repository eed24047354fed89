import CallRouting.Proofs.Call.Hooks
import CallRouting.Proofs.Call.Parts

/-!
# The way through the endpoint stage

The endpoint stage points the request at an endpoint and then runs the hooks after the resolution.
`point` is what it does before those hooks, and `Pointing` lists the six ways in which that ends,
each with what it takes to end that way, what is left, and all that is logged. Whatever is to be
said about the stage follows from `pointing` by going through the six ways.
-/

namespace CallRouting.Call

/-- What the stage works on, for a call whose request is for HTTP. -/
def exchange (call : Call) (request : Http.Request) : Exchange :=
  ⟨call.context, request, call.input⟩

/-- The call after a part of the stage. -/
def Exchange.toCall (x : Exchange) : Call := ⟨x.context, .http x.request, x.input⟩

namespace EndpointStage

/-! ## What each part finds -/

section Parts

variable (s : EndpointStage) (x : Exchange)

/-- The hooks that run before the resolution. -/
def preRuns : List (Hook × Reaction) := hookRuns s.hooks.pre x

/-- The exchange as the hooks before the resolution leave it. -/
def entered : Exchange := x.afterRuns (s.preRuns x)

/-- What is wrong with an input, if anything is. -/
def shapeFault (program : Binding.Program) (input : Input) : Option EndpointError :=
  match program.inputShape with
  | none => none
  | some shape => if input.shape = shape then none else some (.inputShape shape input.shape)

/-- The state that the check of the input reaches, if the program reads the input. -/
def inputStates (program : Binding.Program) : List State :=
  if program.inputShape.isSome then [.inputValidated] else []

/-- What the sources of built-in values supply, which are asked only if the program takes any. -/
def supplied : List Supply :=
  if s.program.takesBuiltIns then supplies s.builtIns (s.entered x).context else []

/-- The exchange as the sources leave it. -/
def ready : Exchange := (s.entered x).afterSupplies (s.supplied x)

/-- The record that the parameters are bound to. -/
def boundRecord : Except Binding.Failure Binding.Record :=
  s.program.resolve ((s.supplied x).map Supply.values) s.clientContext x.input

/-- What is logged up to the check of the input. -/
def checkedLog : List Event :=
  runsLog .pre (s.preRuns x) ++ (inputStates s.program).map .reached

/-- What is logged up to the binding of the parameters, whether that fails or not. -/
def bindingLog : List Event :=
  s.checkedLog x ++ .reached .resolverChecked :: suppliesLog (s.supplied x)
    ++ .reached .builtinsApplied
      :: (s.program.warnings ((s.supplied x).map Supply.values) s.clientContext x.input).map
          .warning

/-- What is logged up to the answer of a resolver. -/
def askingLog (r : Resolver) (record : Binding.Record) : List Event :=
  s.bindingLog x ++ .reached .paramsBound :: r.said (s.ready x).context record

/-- The stage gets so far as to ask a resolver about a record; if the call is not canceled then, it
does. -/
structure Asks (r : Resolver) (record : Binding.Record) : Prop where
  /-- No hook before the resolution fails. -/
  pre : runsFault .pre (s.preRuns x) = none
  /-- The input has the shape that the program reads. -/
  shape : shapeFault s.program x.input = none
  /-- The resolver is that of the client. -/
  resolver : s.resolver = some r
  /-- The record is what the parameters are bound to. -/
  record : s.boundRecord x = .ok record

end Parts

/-! ## Up to the hooks after the resolution -/

/-- Asks a resolver about a record, and points the request at the endpoint with which it answers. -/
def ask (r : Resolver) (record : Binding.Record) : Pass Unit := do
  let endpoint ← r.pass record
  Pass.log (.reached .endpointResolved)
  applyEndpoint endpoint
  Pass.log (.reached .requestMutated)

/-- Everything that the stage does before the hooks after the resolution. -/
def point (s : EndpointStage) : Pass Unit := do
  s.hooks.run .pre
  checkInput s.program
  let resolver ← requireResolver s.resolver
  Pass.log (.reached .resolverChecked)
  let builtIns ← s.takeBuiltIns
  Pass.log (.reached .builtinsApplied)
  let record ← s.bindParameters builtIns
  Pass.log (.reached .paramsBound)
  ask resolver record

private theorem bind_eq_andThen {α β : Type} (p : Pass α) (f : α → Pass β) :
    p >>= f = p.andThen f := rfl

theorem pass_eq (s : EndpointStage) : s.pass = s.point.andThen fun _ ↦ s.hooks.run .post := by
  simp only [pass, point, ask, bind_eq_andThen, Pass.andThen_assoc]

/-- The ways in which `point` ends, with what is left and what is logged. -/
inductive Pointing (s : EndpointStage) (x : Exchange) : Step Unit → Prop
  /-- A hook fails. -/
  | preHook {e : EndpointError} (hpre : runsFault .pre (s.preRuns x) = some e) :
      Pointing s x ⟨s.entered x, runsLog .pre (s.preRuns x), .error e⟩
  /-- The input is not of the shape that the program reads. -/
  | inputShape {e : EndpointError} (hpre : runsFault .pre (s.preRuns x) = none)
      (hshape : shapeFault s.program x.input = some e) :
      Pointing s x ⟨s.entered x, runsLog .pre (s.preRuns x), .error e⟩
  /-- The client has no resolver. -/
  | missingResolver (hpre : runsFault .pre (s.preRuns x) = none)
      (hshape : shapeFault s.program x.input = none) (hresolver : s.resolver = none) :
      Pointing s x ⟨s.entered x, s.checkedLog x, .error .missingResolver⟩
  /-- The parameters cannot be bound. -/
  | binding {failure : Binding.Failure} (hpre : runsFault .pre (s.preRuns x) = none)
      (hshape : shapeFault s.program x.input = none) (hresolver : s.resolver.isSome)
      (hrecord : s.boundRecord x = .error failure) :
      Pointing s x ⟨s.ready x, s.bindingLog x, .error (.binding failure)⟩
  /-- No endpoint comes of asking the resolver. -/
  | refused {r : Resolver} {record : Binding.Record} {e : EndpointError} (hasks : s.Asks x r record)
      (hverdict : r.verdict (s.ready x).context record = .error e) :
      Pointing s x
        ⟨{ s.ready x with
            context := (s.ready x).context.cancelIf (r.cancels (s.ready x).context record) },
          s.askingLog x r record, .error e⟩
  /-- The request is pointed at the endpoint with which the resolver answers. -/
  | pointed {r : Resolver} {record : Binding.Record} {endpoint : Http.Endpoint}
      (hasks : s.Asks x r record)
      (hverdict : r.verdict (s.ready x).context record = .ok endpoint) :
      Pointing s x
        ⟨{ s.ready x with request := endpoint.apply (s.entered x).request },
          s.askingLog x r record ++ [.reached .endpointResolved, .reached .requestMutated], .ok ()⟩

theorem exists_of_shapeFault {program : Binding.Program} {input : Input} {e : EndpointError}
    (h : shapeFault program input = some e) :
    ∃ shape, program.inputShape = some shape ∧ input.shape ≠ shape ∧
      e = .inputShape shape input.shape := by
  rw [shapeFault] at h
  cases hshape : program.inputShape with
  | none =>
    rw [hshape] at h
    cases h
  | some shape =>
    simp only [hshape] at h
    by_cases heq : input.shape = shape
    · rw [if_pos heq] at h
      cases h
    · rw [if_neg heq] at h
      exact ⟨shape, rfl, heq, (Option.some.inj h).symm⟩

private theorem checkInput_of_fault {program : Binding.Program} {x : Exchange} {e : EndpointError}
    (h : shapeFault program x.input = some e) : checkInput program x = ⟨x, [], .error e⟩ := by
  obtain ⟨shape, hshape, hne, rfl⟩ := exists_of_shapeFault h
  rw [checkInput, hshape]
  exact if_neg hne

private theorem checkInput_of_fits {program : Binding.Program} {x : Exchange}
    (h : shapeFault program x.input = none) :
    checkInput program x = ⟨x, (inputStates program).map .reached, .ok ()⟩ := by
  rw [shapeFault] at h
  rw [checkInput, inputStates]
  cases hshape : program.inputShape with
  | none => rfl
  | some shape =>
    simp only [hshape] at h ⊢
    by_cases heq : x.input.shape = shape
    · rw [if_pos heq]
      rfl
    · rw [if_neg heq] at h
      cases h

private theorem takeBuiltIns_entered (s : EndpointStage) (x : Exchange) :
    s.takeBuiltIns (s.entered x)
      = ⟨s.ready x, suppliesLog (s.supplied x), .ok ((s.supplied x).map Supply.values)⟩ := by
  rw [takeBuiltIns, ready, supplied]
  by_cases h : s.program.takesBuiltIns = true
  · rw [if_pos h, if_pos h, takeSupplies_eq]
  · rw [if_neg h, if_neg h, Exchange.afterSupplies, List.any_nil, Context.cancelIf_false]
    rfl

private theorem bindParameters_ready (s : EndpointStage) (x : Exchange) :
    s.bindParameters ((s.supplied x).map Supply.values) (s.ready x)
      = ⟨s.ready x,
          (s.program.warnings ((s.supplied x).map Supply.values) s.clientContext x.input).map
            .warning,
          match s.boundRecord x with
          | .error failure => .error (.binding failure)
          | .ok record => .ok record⟩ := by
  have hinput : (s.ready x).input = x.input := x.input_afterRuns (s.preRuns x)
  cases hrecord : s.boundRecord x with
  | error failure =>
    rw [boundRecord] at hrecord
    simp only [bindParameters, hinput, hrecord]
  | ok record =>
    rw [boundRecord] at hrecord
    simp only [bindParameters, hinput, hrecord]

private theorem ask_of_refused {r : Resolver} {record : Binding.Record} {x : Exchange}
    {e : EndpointError} (h : r.verdict x.context record = .error e) :
    ask r record x
      = ⟨{ x with context := x.context.cancelIf (r.cancels x.context record) },
          r.said x.context record, .error e⟩ := by
  have hpass := r.pass_eq record x
  rw [h] at hpass
  rw [ask, bind_eq_andThen, Pass.andThen_of_error hpass]

private theorem ask_of_endpoint {r : Resolver} {record : Binding.Record} {x : Exchange}
    {endpoint : Http.Endpoint} (h : r.verdict x.context record = .ok endpoint) :
    ask r record x
      = ⟨{ x with request := endpoint.apply x.request },
          r.said x.context record ++ [.reached .endpointResolved, .reached .requestMutated],
          .ok ()⟩ := by
  have hpass := r.pass_eq record x
  rw [h, Resolver.cancels_of_verdict_eq_ok h, Context.cancelIf_false] at hpass
  rw [ask, bind_eq_andThen, Pass.andThen_of_ok hpass]
  rfl

private theorem pointing_of_asks {s : EndpointStage} {x : Exchange} {r : Resolver}
    {record : Binding.Record} (hasks : s.Asks x r record) :
    Pointing s x
      ⟨(ask r record (s.ready x)).exchange,
        s.bindingLog x ++ .reached .paramsBound :: (ask r record (s.ready x)).log,
        (ask r record (s.ready x)).result⟩ := by
  cases hverdict : r.verdict (s.ready x).context record with
  | error e =>
    rw [ask_of_refused hverdict]
    exact .refused hasks hverdict
  | ok endpoint =>
    have hpointed := Pointing.pointed hasks hverdict
    rw [askingLog, List.append_assoc, List.cons_append] at hpointed
    rw [ask_of_endpoint hverdict]
    exact hpointed

/-- **Every way through the stage.** -/
theorem pointing (s : EndpointStage) (x : Exchange) : Pointing s x (s.point x) := by
  have hhooks : s.hooks.run .pre x
      = ⟨s.entered x, runsLog .pre (s.preRuns x), unlessFault (runsFault .pre (s.preRuns x)) ()⟩ :=
    runHooks_eq .pre s.hooks.pre x
  have hinput : (s.entered x).input = x.input := x.input_afterRuns (s.preRuns x)
  have hlog : ∀ (e : Event) (y : Exchange), Pass.log e y = ⟨y, [e], .ok ()⟩ := fun _ _ ↦ rfl
  simp only [point, bind_eq_andThen]
  -- the parts in their order: one that fails ends the stage, one that answers is gone on from
  cases hpre : runsFault .pre (s.preRuns x) with
  | some e =>
    rw [hpre] at hhooks
    rw [Pass.andThen_of_error hhooks]
    exact .preHook hpre
  | none =>
    rw [hpre] at hhooks
    rw [Pass.andThen_of_ok hhooks]
    cases hshape : shapeFault s.program x.input with
    | some e =>
      have hcheck := checkInput_of_fault (hinput.symm ▸ hshape)
      rw [Pass.andThen_of_error hcheck, List.append_nil]
      exact .inputShape hpre hshape
    | none =>
      have hcheck := checkInput_of_fits (hinput.symm ▸ hshape)
      rw [Pass.andThen_of_ok hcheck]
      cases hresolver : s.resolver with
      | none =>
        have hmissing : requireResolver none (s.entered x)
            = ⟨s.entered x, [], .error .missingResolver⟩ := rfl
        rw [Pass.andThen_of_error hmissing, List.append_nil]
        exact .missingResolver hpre hshape hresolver
      | some r =>
        have hthere : requireResolver (some r) (s.entered x) = ⟨s.entered x, [], .ok r⟩ := rfl
        rw [Pass.andThen_of_ok hthere, Pass.andThen_of_ok (hlog _ _),
          Pass.andThen_of_ok (takeBuiltIns_entered s x), Pass.andThen_of_ok (hlog _ _)]
        have hbind := bindParameters_ready s x
        cases hrecord : s.boundRecord x with
        | error failure =>
          rw [hrecord] at hbind
          rw [Pass.andThen_of_error hbind]
          have hpointing :=
            Pointing.binding hpre hshape (Option.isSome_of_eq_some hresolver) hrecord
          simpa [bindingLog, checkedLog] using hpointing
        | ok record =>
          rw [hrecord] at hbind
          rw [Pass.andThen_of_ok hbind, Pass.andThen_of_ok (hlog _ _)]
          have hasks : s.Asks x r record := ⟨hpre, hshape, hresolver, hrecord⟩
          have hpointing := pointing_of_asks hasks
          simpa [bindingLog, checkedLog] using hpointing

/-! ## The hooks after the resolution, and the end -/

section Run

variable {s : EndpointStage} {call : Call} {request : Http.Request}

theorem run_of_other {typeName : String} (h : call.transport = .other typeName) :
    s.run call
      = ⟨call, [.reached .start, .failed .transport], some (.transportType typeName)⟩ := by
  rw [run, h]

theorem run_of_point_error {y : Exchange} {log : List Event} {e : EndpointError}
    (h : call.transport = .http request)
    (hpoint : s.point (call.exchange request) = ⟨y, log, .error e⟩) :
    s.run call
      = ⟨y.toCall, .reached .start :: .reached .transportValidated :: log ++ [.failed e.kind],
          some e⟩ := by
  have hpass : s.pass (call.exchange request) = ⟨y, log, .error e⟩ := by
    rw [pass_eq, Pass.andThen_of_error hpoint]
  rw [run, h]
  rw [Call.exchange] at hpass
  simp only [hpass]
  rfl

theorem run_of_point_ok {y : Exchange} {log : List Event} (h : call.transport = .http request)
    (hpoint : s.point (call.exchange request) = ⟨y, log, .ok ()⟩) :
    s.run call
      = ⟨(y.afterRuns (hookRuns s.hooks.post y)).toCall,
          .reached .start :: .reached .transportValidated
            :: (log ++ runsLog .post (hookRuns s.hooks.post y))
            ++ [match runsFault .post (hookRuns s.hooks.post y) with
                | none => .reached .done
                | some e => .failed e.kind],
          runsFault .post (hookRuns s.hooks.post y)⟩ := by
  have hhooks : s.hooks.run .post y
      = ⟨y.afterRuns (hookRuns s.hooks.post y), runsLog .post (hookRuns s.hooks.post y),
          unlessFault (runsFault .post (hookRuns s.hooks.post y)) ()⟩ :=
    runHooks_eq .post s.hooks.post y
  have hpass := s.pass_eq ▸ Pass.andThen_of_ok (f := fun _ ↦ s.hooks.run .post) hpoint
  rw [hhooks] at hpass
  rw [run, h]
  rw [Call.exchange] at hpass
  simp only [hpass]
  cases runsFault .post (hookRuns s.hooks.post y) <;> rfl

/-- `run_of_point_error`, for a result that is known without the step. -/
theorem run_of_result_error {e : EndpointError} (h : call.transport = .http request)
    (hresult : (s.point (call.exchange request)).result = .error e) :
    s.run call
      = ⟨(s.point (call.exchange request)).exchange.toCall,
          .reached .start :: .reached .transportValidated :: (s.point (call.exchange request)).log
            ++ [.failed e.kind],
          some e⟩ :=
  run_of_point_error h (hresult ▸ rfl)

theorem run_of_result_ok (h : call.transport = .http request)
    (hresult : (s.point (call.exchange request)).result = .ok ()) :
    let y := (s.point (call.exchange request)).exchange
    s.run call
      = ⟨(y.afterRuns (hookRuns s.hooks.post y)).toCall,
          .reached .start :: .reached .transportValidated
            :: ((s.point (call.exchange request)).log ++ runsLog .post (hookRuns s.hooks.post y))
            ++ [match runsFault .post (hookRuns s.hooks.post y) with
                | none => .reached .done
                | some e => .failed e.kind],
          runsFault .post (hookRuns s.hooks.post y)⟩ :=
  run_of_point_ok h (hresult ▸ rfl)

theorem call_run_of_result_ok (h : call.transport = .http request)
    (hresult : (s.point (call.exchange request)).result = .ok ()) :
    (s.run call).call
      = ((s.point (call.exchange request)).exchange.afterRuns
          (hookRuns s.hooks.post (s.point (call.exchange request)).exchange)).toCall := by
  rw [run_of_result_ok h hresult]

end Run

end EndpointStage

end CallRouting.Call
