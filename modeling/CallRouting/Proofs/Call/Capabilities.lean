import CallRouting.Proofs.Binding.Assignments
import CallRouting.Proofs.Call.Checks
import CallRouting.Proofs.Call.Registrar
import CallRouting.Proofs.Call.Signal

/-!
# What a call asks of the capabilities of a client

Hooks, sources of built-in values and the resolver are the capabilities of a client, and the log has
one event for each time that one of them is called. `calls` keeps these events and leaves out how
far the stage got and what was said on the way. For the endpoint stage they are one list: the hooks
before the resolution that run, the sources if the checks up to the resolver pass, the record that
the resolver is asked about if it is asked, and the hooks after the resolution (`calls_run`). How
often each capability is called, and on what, is read off that list.
-/

namespace CallRouting.Call

/-- Whether an event is something being called: a stage, a capability of the client or the handler.
-/
def Event.isCall : Event → Bool
  | .reached _ | .failed _ | .warning _ | .note _ => false
  | .entered _ | .hook _ _ | .supplied _ | .asked _ | .handled | .sent _ => true

/-- What is called in a log, in order. -/
def calls (log : List Event) : List Event := log.filter Event.isCall

/-- The record that a resolver is asked about in an event. -/
def Event.asked? : Event → Option Binding.Record
  | .asked record => some record
  | _ => none

/-- What a source of built-in values supplies in an event. -/
def Event.supplied? : Event → Option (OrderedMap ParameterValue)
  | .supplied values => some values
  | _ => none

/-! ## What the parts of a log call -/

theorem mem_calls_iff {e : Event} {log : List Event} :
    e ∈ calls log ↔ e ∈ log ∧ e.isCall = true := List.mem_filter

theorem calls_append (l l' : List Event) : calls (l ++ l') = calls l ++ calls l' :=
  List.filter_append l l'

@[simp] theorem calls_reached_cons (state : State) (l : List Event) :
    calls (.reached state :: l) = calls l := rfl

@[simp] theorem calls_failed (kind : FailureKind) : calls [.failed kind] = [] := rfl

@[simp] theorem calls_nil : calls [] = [] := rfl

private theorem calls_map_eq_nil {α : Type} {f : α → Event} (hf : ∀ a, (f a).isCall = false)
    (l : List α) : calls (l.map f) = [] := by
  rw [calls, List.filter_eq_nil_iff]
  intro e he
  obtain ⟨a, -, rfl⟩ := List.mem_map.mp he
  rw [hf a]
  exact Bool.false_ne_true

@[simp] theorem calls_map_reached (l : List State) : calls (l.map .reached) = [] :=
  calls_map_eq_nil (fun _ ↦ rfl) l

@[simp] theorem calls_warnings (l : List Warning) : calls (l.map .warning) = [] :=
  calls_map_eq_nil (fun _ ↦ rfl) l

private theorem calls_cons_notes {e : Event} (he : e.isCall = true) (notes : List Json.Value) :
    calls (e :: notes.map .note) = [e] := by
  rw [calls, List.filter_cons_of_pos he]
  exact congrArg (e :: ·) (calls_map_eq_nil (fun _ ↦ rfl) notes)

private theorem calls_flatMap {α : Type} (called : α → Event) (notes : α → List Json.Value)
    (hcalled : ∀ a, (called a).isCall = true) (l : List α) :
    calls (l.flatMap fun a ↦ called a :: (notes a).map .note) = l.map called := by
  induction l with
  | nil => rfl
  | cons a rest ih =>
    rw [List.flatMap_cons, calls_append, calls_cons_notes (hcalled a), ih, List.map_cons,
      List.singleton_append]

/-- The hooks that run, as they are called. -/
def hookCalls (phase : Phase) (runs : List (Hook × Reaction)) : List Event :=
  runs.map fun run ↦ .hook phase run.1.name

/-- The sources that are asked, as they are called. -/
def supplyCalls (l : List Supply) : List Event := l.map fun s ↦ .supplied s.values

@[simp] theorem calls_runsLog (phase : Phase) (runs : List (Hook × Reaction)) :
    calls (runsLog phase runs) = hookCalls phase runs :=
  calls_flatMap (fun run : Hook × Reaction ↦ .hook phase run.1.name) (fun run ↦ run.2.notes)
    (fun _ ↦ rfl) runs

@[simp] theorem calls_suppliesLog (l : List Supply) : calls (suppliesLog l) = supplyCalls l :=
  calls_flatMap (fun s : Supply ↦ .supplied s.values) Supply.notes (fun _ ↦ rfl) l

@[simp] theorem calls_said (r : Resolver) (c : Context) (record : Binding.Record) :
    calls (r.said c record) = if c.canceled then [] else [.asked record] := by
  rw [Resolver.said]
  by_cases hcanceled : c.canceled = true
  · rw [if_pos hcanceled, if_pos hcanceled, calls_nil]
  · rw [if_neg hcanceled, if_neg hcanceled, calls_cons_notes rfl]

/-- Each source is asked once, in order, for the context that the first of them is given; what a
source can change of it is that the call is canceled. -/
theorem getElem?_supplies (l : List BuiltInSource) (c : Context) (i : ℕ) :
    (supplies l c)[i]? = l[i]?.map fun source ↦
      source.supply (c.cancelIf (((supplies l c).take i).any Supply.cancels)) := by
  induction l generalizing c i with
  | nil => rfl
  | cons source rest ih =>
    cases i with
    | zero =>
      rw [List.take_zero, List.any_nil, Context.cancelIf_false]
      rfl
    | succ i =>
      rw [supplies, List.getElem?_cons_succ, List.getElem?_cons_succ, ih, List.take_succ_cons,
        List.any_cons, Context.cancelIf_cancelIf]

namespace EndpointStage

variable {s : EndpointStage} {x : Exchange}

/-- The record that a resolver is asked about, if it is asked: no check fails, and the call is not
canceled. -/
def consulted (s : EndpointStage) (x : Exchange) : Option Binding.Record :=
  if s.checkFault x = none ∧ (s.ready x).context.canceled = false then (s.boundRecord x).toOption
  else none

theorem consulted_eq_some_iff {record : Binding.Record} :
    s.consulted x = some record ↔
      (∃ r, s.Asks x r record) ∧ (s.ready x).context.canceled = false := by
  rw [consulted]
  constructor
  · intro h
    split_ifs at h with hasked
    obtain ⟨r, other, hasks⟩ := checkFault_eq_none_iff.mp hasked.1
    rw [hasks.record] at h
    obtain rfl := Option.some.inj h
    exact ⟨⟨r, hasks⟩, hasked.2⟩
  · rintro ⟨⟨r, hasks⟩, hlive⟩
    rw [if_pos ⟨checkFault_eq_none_iff.mpr ⟨r, record, hasks⟩, hlive⟩, hasks.record]
    rfl

private theorem consulted_eq_none
    (h : ∀ r record, s.Asks x r record → (s.ready x).context.canceled = true) :
    s.consulted x = none := by
  refine Option.eq_none_iff_forall_ne_some.mpr fun record hrecord ↦ ?_
  obtain ⟨⟨r, hasks⟩, hlive⟩ := consulted_eq_some_iff.mp hrecord
  rw [h r record hasks] at hlive
  cases hlive

/-- What the stage calls before the hooks after the resolution. -/
def pointCalls (s : EndpointStage) (x : Exchange) : List Event :=
  hookCalls .pre (s.preRuns x) ++ (if s.Passes x then supplyCalls (s.supplied x) else [])
    ++ ((s.consulted x).map Event.asked).toList

private theorem pointCalls_of_not_passes (h : ¬s.Passes x) :
    s.pointCalls x = hookCalls .pre (s.preRuns x) := by
  have hconsulted : s.consulted x = none :=
    consulted_eq_none fun r record hasks ↦ absurd hasks.passes h
  rw [pointCalls, if_neg h, hconsulted, Option.map_none, Option.toList_none, List.append_nil,
    List.append_nil]

private theorem calls_bindingLog (s : EndpointStage) (x : Exchange) :
    calls (s.bindingLog x) = hookCalls .pre (s.preRuns x) ++ supplyCalls (s.supplied x) := by
  simp [bindingLog, checkedLog, calls_append]

private theorem calls_askingLog {r : Resolver} {record : Binding.Record} (h : s.Asks x r record) :
    calls (s.askingLog x r record) = s.pointCalls x := by
  rw [askingLog, calls_append, calls_bindingLog, calls_reached_cons, calls_said, pointCalls,
    if_pos h.passes]
  congr 1
  by_cases hcanceled : (s.ready x).context.canceled = true
  · rw [if_pos hcanceled, consulted_eq_none fun _ _ _ ↦ hcanceled]
    rfl
  · have hconsulted : s.consulted x = some record :=
      consulted_eq_some_iff.mpr ⟨⟨r, h⟩, Bool.eq_false_iff.mpr hcanceled⟩
    rw [if_neg hcanceled, hconsulted]
    rfl

private theorem calls_of_pointing {step : Step Unit} (h : Pointing s x step) :
    calls step.log = s.pointCalls x := by
  cases h with
  -- As long as a check up to the resolver fails, only hooks are called. The sources are asked
  -- in the last three cases, and the resolver in the last two if the call is not canceled.
  | preHook hpre =>
    have hnot : ¬s.Passes x := fun h ↦ Option.some_ne_none _ (hpre.symm.trans h.pre)
    rw [pointCalls_of_not_passes hnot, calls_runsLog]
  | inputShape hpre hshape =>
    have hnot : ¬s.Passes x := fun h ↦ Option.some_ne_none _ (hshape.symm.trans h.shape)
    rw [pointCalls_of_not_passes hnot, calls_runsLog]
  | missingResolver hpre hshape hresolver =>
    have hnot : ¬s.Passes x := by
      intro h
      have hsome := h.resolver
      rw [hresolver] at hsome
      cases hsome
    rw [pointCalls_of_not_passes hnot, checkedLog, calls_append, calls_runsLog, calls_map_reached,
      List.append_nil]
  | binding hpre hshape hresolver hrecord =>
    have hconsulted : s.consulted x = none := by
      refine consulted_eq_none fun r record hasks ↦ ?_
      cases hrecord.symm.trans hasks.record
    rw [calls_bindingLog, pointCalls, if_pos ⟨hpre, hshape, hresolver⟩, hconsulted, Option.map_none,
      Option.toList_none, List.append_nil]
  | refused hasks hverdict => exact calls_askingLog hasks
  | pointed hasks hverdict =>
    rw [calls_append, calls_askingLog hasks]
    exact List.append_nil _

theorem calls_point (s : EndpointStage) (x : Exchange) :
    calls (s.point x).log = s.pointCalls x := calls_of_pointing (s.pointing x)

/-- What the stage calls after an endpoint is applied, if one is. -/
def postCalls (s : EndpointStage) (x : Exchange) : List Event :=
  match (s.point x).result with
  | .error _ => []
  | .ok () => hookCalls .post (hookRuns s.hooks.post (s.point x).exchange)

/-- **All that the stage calls, in order.** -/
theorem calls_run {call : Call} {request : Http.Request} (h : call.transport = .http request) :
    calls (s.run call).log
      = s.pointCalls (call.exchange request) ++ s.postCalls (call.exchange request) := by
  have hcalls := s.calls_point (call.exchange request)
  rw [postCalls]
  rcases hpoint : s.point (call.exchange request) with ⟨y, log, e | u⟩
  · rw [hpoint] at hcalls
    rw [run_of_point_error h hpoint]
    simp [calls_append, ← hcalls]
  · rw [hpoint] at hcalls
    rw [run_of_point_ok h hpoint]
    cases runsFault .post (hookRuns s.hooks.post y) <;>
      simp [calls_append, ← hcalls]

theorem mem_pointCalls {e : Event} (h : e ∈ s.pointCalls x) :
    (∃ name, e = .hook .pre name) ∨ (∃ values, e = .supplied values) ∨
      ∃ record, e = .asked record := by
  obtain h | h := List.mem_append.mp h
  · obtain h | h := List.mem_append.mp h
    · obtain ⟨run, -, rfl⟩ := List.mem_map.mp h
      exact Or.inl ⟨run.1.name, rfl⟩
    · split_ifs at h
      · obtain ⟨supply, -, rfl⟩ := List.mem_map.mp h
        exact Or.inr (Or.inl ⟨supply.values, rfl⟩)
      · cases h
  · obtain ⟨record, -, rfl⟩ := Option.map_eq_some_iff.mp (Option.mem_toList.mp h)
    exact Or.inr (Or.inr ⟨record, rfl⟩)

theorem mem_postCalls {e : Event} (h : e ∈ s.postCalls x) : ∃ name, e = .hook .post name := by
  rw [postCalls] at h
  split at h
  · cases h
  · obtain ⟨run, -, rfl⟩ := List.mem_map.mp h
    exact ⟨run.1.name, rfl⟩

theorem calls_run_of_other {call : Call} {typeName : String}
    (h : call.transport = .other typeName) : calls (s.run call).log = [] := by
  rw [run_of_other h]
  rfl

theorem mem_calls_run {call : Call} {e : Event} (h : e ∈ calls (s.run call).log) :
    (∃ phase name, e = .hook phase name) ∨ (∃ values, e = .supplied values) ∨
      ∃ record, e = .asked record := by
  cases htransport : call.transport with
  | other typeName =>
    rw [calls_run_of_other htransport] at h
    cases h
  | http request =>
    rw [calls_run htransport] at h
    obtain h | h := List.mem_append.mp h
    · obtain ⟨name, rfl⟩ | hother := mem_pointCalls h
      · exact Or.inl ⟨.pre, name, rfl⟩
      · exact Or.inr hother
    · obtain ⟨name, rfl⟩ := mem_postCalls h
      exact Or.inl ⟨.post, name, rfl⟩

/-! ### How often, and on what -/

theorem filterMap_calls {β : Type} {f : Event → Option β}
    (hf : ∀ e : Event, e.isCall = false → f e = none) (log : List Event) :
    (calls log).filterMap f = log.filterMap f := by
  rw [calls, List.filterMap_filter]
  refine List.filterMap_congr fun e _ ↦ ?_
  cases hcall : e.isCall with
  | false => exact (hf e hcall).symm
  | true => rfl

private theorem asked?_eq_none (e : Event) (h : e.isCall = false) : e.asked? = none := by
  cases e with
  | asked record => cases h
  | _ => rfl

private theorem supplied?_eq_none (e : Event) (h : e.isCall = false) : e.supplied? = none := by
  cases e with
  | supplied values => cases h
  | _ => rfl

/-- What is found in the log of the stage is found in what it calls; where only the sources and the
resolver matter, hooks are left out. -/
private theorem filterMap_log_run {β : Type} {f : Event → Option β}
    (hf : ∀ e : Event, e.isCall = false → f e = none)
    (hhook : ∀ phase name, f (.hook phase name) = none) {call : Call} {request : Http.Request}
    (h : call.transport = .http request) :
    (s.run call).log.filterMap f
      = (if s.Passes (call.exchange request) then supplyCalls (s.supplied (call.exchange request))
          else []).filterMap f
        ++ ((s.consulted (call.exchange request)).map Event.asked).toList.filterMap f := by
  have hhooks : ∀ phase runs, (hookCalls phase runs).filterMap f = [] := by
    intro phase runs
    rw [hookCalls, List.filterMap_map, List.filterMap_eq_nil_iff]
    intro run _
    exact hhook phase run.1.name
  have hpost : (s.postCalls (call.exchange request)).filterMap f = [] := by
    rw [postCalls]
    cases (s.point (call.exchange request)).result with
    | error e => rfl
    | ok u => exact hhooks .post _
  rw [← filterMap_calls hf, calls_run h, pointCalls, List.filterMap_append, List.filterMap_append,
    List.filterMap_append, hhooks, hpost, List.nil_append, List.append_nil]

theorem filterMap_supplyCalls_eq_nil {β : Type} {f : Event → Option β}
    (hf : ∀ values, f (.supplied values) = none) :
    (if s.Passes x then supplyCalls (s.supplied x) else []).filterMap f = [] := by
  rw [List.filterMap_eq_nil_iff]
  intro e he
  split_ifs at he
  · obtain ⟨supply, -, rfl⟩ := List.mem_map.mp he
    exact hf supply.values
  · cases he

section Counts

variable {call : Call} {request : Http.Request}

theorem asked_run (h : call.transport = .http request) :
    (s.run call).log.filterMap Event.asked? = (s.consulted (call.exchange request)).toList := by
  rw [filterMap_log_run asked?_eq_none (fun _ _ ↦ rfl) h,
    filterMap_supplyCalls_eq_nil fun _ ↦ rfl, List.nil_append]
  cases s.consulted (call.exchange request) <;> rfl

/-- Each source is asked once if the checks up to the resolver pass, and none otherwise. -/
theorem supplied_run (h : call.transport = .http request) :
    (s.run call).log.filterMap Event.supplied?
      = if s.Passes (call.exchange request) then
          (s.supplied (call.exchange request)).map Supply.values
        else [] := by
  have hasked : ((s.consulted (call.exchange request)).map Event.asked).toList.filterMap
      Event.supplied? = [] := by
    cases s.consulted (call.exchange request) <;> rfl
  rw [filterMap_log_run supplied?_eq_none (fun _ _ ↦ rfl) h, hasked, List.append_nil]
  split_ifs
  · rw [supplyCalls, List.filterMap_map]
    exact congrFun List.filterMap_eq_map _
  · rfl

end Counts

private theorem filterMap_log_run_of_other {β : Type} {f : Event → Option β}
    (hf : ∀ e : Event, e.isCall = false → f e = none) {call : Call} {typeName : String}
    (h : call.transport = .other typeName) : (s.run call).log.filterMap f = [] := by
  rw [← filterMap_calls hf, calls_run_of_other h, List.filterMap_nil]

theorem length_asked_run_le_one (s : EndpointStage) (call : Call) :
    ((s.run call).log.filterMap Event.asked?).length ≤ 1 := by
  cases htransport : call.transport with
  | other typeName =>
    rw [filterMap_log_run_of_other asked?_eq_none htransport]
    exact Nat.zero_le 1
  | http request =>
    rw [asked_run htransport]
    cases s.consulted (call.exchange request) with
    | none => exact Nat.zero_le 1
    | some record => exact Nat.le_refl 1

/-- **When a resolver is asked, and about what.** -/
theorem mem_asked_run_iff {call : Call} {record : Binding.Record} :
    record ∈ (s.run call).log.filterMap Event.asked? ↔
      ∃ request r, call.transport = .http request ∧ s.Asks (call.exchange request) r record ∧
        (s.ready (call.exchange request)).context.canceled = false := by
  constructor
  · intro hrecord
    cases htransport : call.transport with
    | other typeName =>
      rw [filterMap_log_run_of_other asked?_eq_none htransport] at hrecord
      cases hrecord
    | http request =>
      rw [asked_run htransport, Option.mem_toList, consulted_eq_some_iff]
        at hrecord
      obtain ⟨⟨r, hasks⟩, hlive⟩ := hrecord
      exact ⟨request, r, rfl, hasks, hlive⟩
  · rintro ⟨request, r, htransport, hasks, hlive⟩
    rw [asked_run htransport, Option.mem_toList, consulted_eq_some_iff]
    exact ⟨⟨r, hasks⟩, hlive⟩

theorem supplied_run_eq_nil {call : Call}
    (h : ∀ request, call.transport = .http request → s.Passes (call.exchange request) →
      s.program.takesBuiltIns = false) :
    (s.run call).log.filterMap Event.supplied? = [] := by
  cases htransport : call.transport with
  | other typeName => exact filterMap_log_run_of_other supplied?_eq_none htransport
  | http request =>
    rw [supplied_run htransport]
    by_cases hpasses : s.Passes (call.exchange request)
    · have htakes := h request htransport hpasses
      rw [if_pos hpasses, supplied, htakes]
      rfl
    · exact if_neg hpasses

end EndpointStage

/-! ## Stages that a registrar builds -/

namespace Registrar

/-- **What a call asks of the capabilities of a client.** Take a stage that a registrar built, and
any call that comes to it.

The resolver is asked at most once. It is asked exactly if the request is for HTTP, no hook before
the resolution fails, the input has the shape that the program reads, the client has a resolver, the
parameters can be bound, and the call is not canceled then; and what it is asked about is the record
that the parameters are bound to.

If the program takes built-in values and the checks up to that for a resolver pass, the source of
each handler is asked once, in the order of the integrations, for the context as the last hook
before the resolution left it; all that can have changed is that an earlier source canceled the
call. Otherwise no source is asked.

What comes after the stage is entered once, with the call as the stage left it, if the stage
succeeds, and not at all if it fails. -/
theorem built_stage_asks_capabilities_once {service : Service} {integrations : List Integration}
    {r : Registrar} {operation : String} {options : ClientOptions} {built : Built}
    (hnew : new service integrations = .ok r)
    (hbuild : r.build operation options = .ok (some built)) (call : Call) :
    let s := built.stage
    let did := s.run call
    (s.resolver = options.resolver ∧ s.clientContext = options.clientContext ∧
      s.builtIns = sourcesFor integrations s.program options ∧
      s.hooks.pre = integrations.filterMap fun i ↦ i.preHook options service) ∧
    (did.log.filterMap Event.asked?).length ≤ 1 ∧
    (∀ record, record ∈ did.log.filterMap Event.asked? ↔
      ∃ request resolver, call.transport = .http request ∧
        s.Asks (call.exchange request) resolver record ∧
        (s.ready (call.exchange request)).context.canceled = false) ∧
    (∀ request, call.transport = .http request → s.Passes (call.exchange request) →
      s.program.takesBuiltIns = true →
      let supplied := s.supplied (call.exchange request)
      did.log.filterMap Event.supplied? = supplied.map Supply.values ∧
        ∀ i, supplied[i]? = s.builtIns[i]?.map fun source : BuiltInSource ↦
          source.supply ((s.entered (call.exchange request)).context.cancelIf
            ((supplied.take i).any Supply.cancels))) ∧
    ((∀ request, call.transport = .http request → s.Passes (call.exchange request) →
      s.program.takesBuiltIns = false) → did.log.filterMap Event.supplied? = []) ∧
    (∀ e next, did.failure = some e →
      (Middleware.ofEndpointStage s).handle next call
        = ⟨did.call, .entered EndpointStage.stageId :: did.log, .error (.endpoint e)⟩) ∧
    (∀ next, did.failure = none →
      (Middleware.ofEndpointStage s).handle next call
        = ⟨(next did.call).call,
            .entered EndpointStage.stageId :: did.log ++ (next did.call).log,
            (next did.call).result⟩) := by
  intro s did
  refine ⟨?_, s.length_asked_run_le_one call, fun record ↦ EndpointStage.mem_asked_run_iff,
    fun request hrequest hpasses htakes ↦ ⟨?_, fun i ↦ ?_⟩, EndpointStage.supplied_run_eq_nil,
    fun e next hfailure ↦ Middleware.handle_ofEndpointStage_of_failure hfailure next,
    fun next hsuccess ↦ Middleware.handle_ofEndpointStage_of_success hsuccess next⟩
  · obtain ⟨catalog, first, last, -, -, -, -, hstage⟩ := exists_operations_of_build hnew hbuild
    rw [show s = _ from hstage]
    exact ⟨rfl, rfl, rfl, rfl⟩
  · rw [EndpointStage.supplied_run hrequest, if_pos hpasses]
  · have hsupplied : s.supplied (call.exchange request)
        = supplies s.builtIns (s.entered (call.exchange request)).context := if_pos htakes
    rw [hsupplied, getElem?_supplies]

/-! ### A store whose resolver does not answer -/

private def northCatalog : Catalog := ⟨[⟨"Region", .string, some "SDK::Region", true, none⟩]⟩

private def northGet : Operation := ⟨"Get", none, .ofList []⟩

private def northStore : Service := ⟨"Store", some ⟨none, northCatalog, .null⟩, none, [northGet]⟩

private def silentResolver : Resolver := ⟨fun _ _ ↦ ⟨[], .abandoned⟩⟩

private def northOptions : ClientOptions :=
  ⟨.empty, .ofList [("SDK::Region", .string "north")], some silentResolver⟩

private def northProgram : Binding.Program := Binding.programOf northStore northCatalog northGet

private def northStage : EndpointStage :=
  .ofOptions northProgram northOptions
    (sourcesFor Integration.default northProgram northOptions) .empty

private def northRequest : Http.Request :=
  ⟨"GET", ⟨"https", none, .segments [], none, none⟩, .empty⟩

private def northCall : Call := ⟨.new "Get", .http northRequest, .empty "GetInput"⟩

private def northValues : OrderedMap ParameterValue := .ofList [("Region", .string "north")]

private theorem build_northStore :
    ∃ r built, new northStore Integration.default = .ok r ∧
      r.build "Get" northOptions = .ok (some built) ∧ built.stage = northStage := by
  have hcatalog : northStore.catalog? = some northCatalog := rfl
  exact exists_build hcatalog rfl rfl rfl Integration.default northOptions

/-- The source and the resolver are asked once each, and the resolver is told what the source
supplied. -/
theorem north_store_asks_capabilities_once :
    ∃ r built record,
      new northStore Integration.default = .ok r ∧
      r.build "Get" northOptions = .ok (some built) ∧
      (built.stage.run northCall).log.filterMap Event.supplied? = [northValues] ∧
      (built.stage.run northCall).log.filterMap Event.asked? = [record] ∧
      record.get? "Region" = some (.string "north") := by
  obtain ⟨r, built, hnew, hbuild, hstage⟩ := build_northStore
  obtain ⟨-, hlength, hasked, hsupplied, -⟩ :=
    built_stage_asks_capabilities_once hnew hbuild northCall
  rw [hstage] at hlength hasked hsupplied
  have hsteps : northProgram.steps = [.builtIns] := Binding.steps_programOf _ _ _
  have htakes : northProgram.takesBuiltIns = true := by
    rw [Binding.Program.takesBuiltIns, hsteps]
    rfl
  have hpasses : northStage.Passes (northCall.exchange northRequest) := ⟨rfl, rfl, rfl⟩
  have hsupply : northStage.supplied (northCall.exchange northRequest)
      = [⟨northValues, false, []⟩] := by
    rw [northStage, supplied_default, if_pos htakes]
    rfl
  have hlive : (northStage.ready (northCall.exchange northRequest)).context.canceled = false := by
    rw [EndpointStage.canceled_ready, hsupply]
    rfl
  obtain ⟨record, hrecord, hregion⟩ : ∃ record,
      northStage.boundRecord (northCall.exchange northRequest) = .ok record ∧
        record.get? "Region" = some (.string "north") := by
    rw [EndpointStage.boundRecord, hsupply, Binding.Program.resolve_eq,
      show northStage.program = northProgram from rfl, hsteps]
    exact ⟨_, rfl, rfl⟩
  have hmem := (hasked record).mpr
    ⟨northRequest, silentResolver, rfl, ⟨hpasses.pre, hpasses.shape, rfl, hrecord⟩, hlive⟩
  obtain ⟨other, hother⟩ := List.length_eq_one_iff.mp
    (le_antisymm hlength (List.length_pos_of_mem hmem))
  rw [hother, List.mem_singleton] at hmem
  refine ⟨r, built, record, hnew, hbuild, ?_, ?_, hregion⟩
  · rw [hstage, (hsupplied northRequest rfl hpasses htakes).1, hsupply]
    rfl
  · rw [hstage, hother, hmem]

end Registrar

end CallRouting.Call
