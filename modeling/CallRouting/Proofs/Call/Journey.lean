import CallRouting.Proofs.Call.Capabilities
import CallRouting.Proofs.Call.Chain
import Mathlib.Data.List.Chain
import Mathlib.Data.List.Infix

/-!
# The way of a call through a stack

A call goes into a stack stage by stage, turns round at the handler or at a stage that ends it, and
what it ended with comes back through the stages that handed it on. `Entry` is a stage on the way in
with the call as it comes to it, and `Return` is a stage on the way back with what comes back to it.
The three parts of the way fit together end to end:

* `WayIn`: the entries are the first stages of the stack, and each finds the call as the one before
  it left it;
* `Turning`: the call turns round at the handler if every stage hands it on, and otherwise at the
  one stage that does not;
* `WayBack`: each return is given what the one before it made of the outcome.

Every run is made of the three (`exists_way`): a stage that hands the call on comes in front of the
way in and at the end of the way back, and a stage that ends it is a way of its own.
`run_goes_through_stack_in_order` adds what can be read off the trace and the result of a run.

On the way back a stage does not see the call as it first came to the stage. That is no loss, since
everything here is about a single call: a stage that remembers something of the call does on the way
back what a stage does that is made for that call.
-/

namespace CallRouting.Call

/-- A stage on the way in. -/
structure Entry where
  /-- The stage. -/
  stage : Middleware
  /-- The call as it comes to the stage. -/
  call : Call

namespace Entry

/-- What the stage does with the call. -/
def turn (e : Entry) : Turn := e.stage.act e.call

/-- The call as the stage leaves it. -/
def left (e : Entry) : Call := e.turn.call

/-- Whether the stage hands the call on. -/
def proceeds (e : Entry) : Bool :=
  match e.turn.decision with
  | .proceed => true
  | .finish _ => false

/-- What is logged of the stage on the way in. -/
def log (e : Entry) : List Event := .entered e.stage.id :: e.turn.log

end Entry

/-- A stage on the way back. -/
structure Return where
  /-- The stage. -/
  stage : Middleware
  /-- The call as it comes back to the stage. -/
  call : Call
  /-- The result that comes back to the stage. -/
  result : Except PipelineError Output

/-- The stage on the way back from an outcome of what comes after it. -/
def Entry.back (e : Entry) (inner : Outcome) : Return := ⟨e.stage, inner.call, inner.result⟩

/-- What the stage makes of what comes back to it. -/
def Return.outcome (r : Return) : Outcome := r.stage.unwind r.call r.result

/-- The way in: which stages a call comes to, and how it comes to each. -/
structure WayIn (stages : List Middleware) (call : Call) (entries : List Entry) : Prop where
  /-- The call comes to the first stages, in their order. -/
  order : entries.map Entry.stage <+: stages
  /-- It comes to the first of them as it is. -/
  start : ∀ e ∈ entries.head?, e.call = call
  /-- It comes to the next one if a stage hands it on, as that stage left it. -/
  next : entries.IsChain fun e f ↦ e.proceeds = true ∧ f.call = e.left

/-- The handler as the end of a stack. -/
def atHandler (handler : Handler) (call : Call) : Outcome :=
  ⟨(handler call).call, .handled :: (handler call).log, (handler call).result⟩

/-- Where a call turns round, and the outcome there. -/
inductive Turning (handler : Handler) (stages : List Middleware) (call : Call) :
    List Entry → Outcome → Prop
  /-- Every stage hands the call on, and the handler is entered. -/
  | handled {entries : List Entry} (hall : entries.map Entry.stage = stages)
      (hproceed : ∀ e ∈ entries, e.proceeds = true) :
      Turning handler stages call entries
        (atHandler handler ((entries.getLast?.map Entry.left).getD call))
  /-- A stage ends the call. -/
  | ended {earlier : List Entry} {last : Entry} {result : Except PipelineError Output}
      (hproceed : ∀ e ∈ earlier, e.proceeds = true) (hlast : last.turn.decision = .finish result) :
      Turning handler stages call (earlier ++ [last]) ⟨last.left, [], result⟩

/-- The way back: what comes back to each stage, and what is left in the end. -/
structure WayBack (turn : Outcome) (returns : List Return) (outcome : Outcome) : Prop where
  /-- What the call ended with comes back to the first of them. -/
  start : ∀ r ∈ returns.head?, r.call = turn.call ∧ r.result = turn.result
  /-- What a stage makes of it comes back to the next one. -/
  next : returns.IsChain fun r s ↦ s.call = r.outcome.call ∧ s.result = r.outcome.result
  /-- What the last one makes of it is the outcome. -/
  finish : outcome.call = ((returns.getLast?.map Return.outcome).getD turn).call ∧
    outcome.result = ((returns.getLast?.map Return.outcome).getD turn).result

/-! ## One stage -/

namespace Entry

variable {e : Entry}

theorem proceeds_iff : e.proceeds = true ↔ e.turn.decision = .proceed := by
  rw [proceeds]
  cases e.turn.decision with
  | proceed => exact iff_of_true rfl rfl
  | finish result => exact iff_of_false Bool.false_ne_true nofun

theorem proceeds_eq_false {result : Except PipelineError Output}
    (h : e.turn.decision = .finish result) : e.proceeds = false := by
  rw [proceeds, h]

theorem handle_of_finish {result : Except PipelineError Output}
    (h : e.turn.decision = .finish result) (next : Handler) :
    e.stage.handle next e.call = ⟨e.left, e.log, result⟩ := by
  rw [turn] at h
  rw [Middleware.handle, h]
  rfl

theorem handle_of_proceeds (h : e.proceeds = true) (next : Handler) :
    e.stage.handle next e.call
      = ⟨(e.back (next e.left)).outcome.call,
          e.log ++ (next e.left).log ++ (e.back (next e.left)).outcome.log,
          (e.back (next e.left)).outcome.result⟩ := by
  have hpassOn : e.stage.passOn e.call = some e.left :=
    Middleware.passOn_eq_some_iff.mpr ⟨proceeds_iff.mp h, rfl⟩
  rw [Middleware.handle_of_passOn_eq_some hpassOn]
  rfl

end Entry

/-! ## One more stage in front -/

section Cons

variable {handler : Handler} {stages : List Middleware} {e : Entry} {entries : List Entry}

theorem WayIn.cons (hproceeds : e.proceeds = true) (h : WayIn stages e.left entries) :
    WayIn (e.stage :: stages) e.call (e :: entries) where
  order := by
    rw [List.map_cons]
    exact (List.prefix_cons_inj e.stage).mpr h.order
  start := by
    intro f hf
    rw [← Option.some.inj hf]
  next := List.isChain_cons.mpr ⟨fun f hf ↦ ⟨hproceeds, h.start f hf⟩, h.next⟩

theorem Turning.cons {turn : Outcome} (hproceeds : e.proceeds = true)
    (h : Turning handler stages e.left entries turn) :
    Turning handler (e.stage :: stages) e.call (e :: entries) turn := by
  cases h with
  | handled hall hproceed =>
    -- If no stage comes after this one, the handler is given the call as this one left it.
    have hlast : ((e :: entries).getLast?.map Entry.left).getD e.call
        = (entries.getLast?.map Entry.left).getD e.left := by
      rw [List.getLast?_cons]
      cases entries.getLast? <;> rfl
    rw [← hlast]
    refine .handled ?_ (List.forall_mem_cons.mpr ⟨hproceeds, hproceed⟩)
    rw [List.map_cons, hall]
  | ended hproceed hlast =>
    rw [← List.cons_append]
    exact .ended (List.forall_mem_cons.mpr ⟨hproceeds, hproceed⟩) hlast

theorem WayBack.concat {turn inner outcome : Outcome} {returns : List Return}
    (h : WayBack turn returns inner) (hcall : outcome.call = (e.back inner).outcome.call)
    (hresult : outcome.result = (e.back inner).outcome.result) :
    WayBack turn (returns ++ [e.back inner]) outcome where
  start := by
    intro r hr
    rw [List.head?_append] at hr
    cases returns with
    | nil =>
      rw [← Option.some.inj hr]
      exact h.finish
    | cons first rest => exact h.start r hr
  next := by
    refine List.isChain_append.mpr ⟨h.next, List.isChain_singleton _, fun r hr s hs ↦ ?_⟩
    have hfinish := h.finish
    rw [Option.mem_def.mp hr, Option.map_some, Option.getD_some] at hfinish
    rw [← Option.some.inj hs]
    exact hfinish
  finish := by
    rw [List.getLast?_concat, Option.map_some, Option.getD_some]
    exact ⟨hcall, hresult⟩

end Cons

/-! ## The whole way -/

/-- A run, and the three parts of the way that a call takes in it. -/
structure Way (handler : Handler) (stages : List Middleware) (call : Call) (entries : List Entry)
    (turn : Outcome) (returns : List Return) (outcome : Outcome) : Prop where
  /-- The way in. -/
  into : WayIn stages call entries
  /-- Where the call turns round. -/
  turning : Turning handler stages call entries turn
  /-- The stages that handed the call on are those on the way back, in the reverse order. -/
  order : returns.map Return.stage = ((entries.filter Entry.proceeds).map Entry.stage).reverse
  /-- The way back. -/
  back : WayBack turn returns outcome
  /-- What is logged on the way, front to back. -/
  log : outcome.log
    = entries.flatMap Entry.log ++ turn.log ++ returns.flatMap fun r ↦ r.outcome.log

section Steps

variable {handler : Handler} {stages : List Middleware} {e : Entry}

theorem way_nil (handler : Handler) (call : Call) :
    Way handler [] call [] (atHandler handler call) [] (runStages handler [] call) where
  into := by
    refine ⟨List.prefix_refl [], fun e he ↦ ?_, List.isChain_nil⟩
    cases he
  turning := .handled List.map_nil (List.forall_mem_nil _)
  order := rfl
  back := by
    refine ⟨fun r hr ↦ ?_, List.isChain_nil, rfl, rfl⟩
    cases hr
  log := by
    rw [List.flatMap_nil, List.flatMap_nil, List.nil_append, List.append_nil]
    rfl

theorem way_of_finish {result : Except PipelineError Output}
    (h : e.turn.decision = .finish result) :
    Way handler (e.stage :: stages) e.call [e] ⟨e.left, [], result⟩ []
      (runStages handler (e.stage :: stages) e.call) where
  into := by
    refine ⟨⟨stages, rfl⟩, fun f hf ↦ ?_, List.isChain_singleton _⟩
    rw [← Option.some.inj hf]
  turning := by
    have hturn : Turning handler (e.stage :: stages) e.call ([] ++ [e]) ⟨e.left, [], result⟩ :=
      .ended (List.forall_mem_nil _) h
    exact hturn
  order := by
    rw [List.filter_cons_of_neg (Bool.eq_false_iff.mp (Entry.proceeds_eq_false h))]
    rfl
  back := by
    rw [runStages, Entry.handle_of_finish h]
    refine ⟨fun r hr ↦ ?_, List.isChain_nil, rfl, rfl⟩
    cases hr
  log := by
    rw [runStages, Entry.handle_of_finish h, List.flatMap_singleton, List.flatMap_nil,
      List.append_nil, List.append_nil]

/-- A stage that hands the call on is the first on the way in and the last on the way back. -/
theorem way_of_proceeds (h : e.proceeds = true) {entries : List Entry} {turn : Outcome}
    {returns : List Return}
    (hrest : Way handler stages e.left entries turn returns (runStages handler stages e.left)) :
    Way handler (e.stage :: stages) e.call (e :: entries) turn
      (returns ++ [e.back (runStages handler stages e.left)])
      (runStages handler (e.stage :: stages) e.call) where
  into := hrest.into.cons h
  turning := hrest.turning.cons h
  order := by
    calc (returns ++ [e.back (runStages handler stages e.left)]).map Return.stage
        = returns.map Return.stage ++ [e.stage] := List.map_append
      _ = ((entries.filter Entry.proceeds).map Entry.stage).reverse ++ [e.stage] := by
        rw [hrest.order]
      _ = ((e :: entries.filter Entry.proceeds).map Entry.stage).reverse := List.reverse_cons.symm
      _ = (((e :: entries).filter Entry.proceeds).map Entry.stage).reverse := by
        rw [List.filter_cons_of_pos h]
  back := by
    rw [runStages, Entry.handle_of_proceeds h]
    exact hrest.back.concat rfl rfl
  log := by
    rw [runStages, Entry.handle_of_proceeds h, hrest.log, List.flatMap_cons, List.flatMap_append,
      List.flatMap_singleton]
    simp only [List.append_assoc]

end Steps

/-- **Every run is a way in, a turn and a way back.** -/
theorem exists_way (handler : Handler) (stages : List Middleware) (call : Call) :
    ∃ entries turn returns,
      Way handler stages call entries turn returns (runStages handler stages call) := by
  induction stages generalizing call with
  | nil => exact ⟨[], _, [], way_nil handler call⟩
  | cons m rest ih =>
    -- the rest of the stack is given the call as this stage leaves it
    let e : Entry := ⟨m, call⟩
    cases hdecision : e.turn.decision with
    | finish result => exact ⟨[e], _, [], way_of_finish hdecision⟩
    | proceed =>
      obtain ⟨entries, turn, returns, hrest⟩ := ih e.left
      exact ⟨e :: entries, turn, _, way_of_proceeds (Entry.proceeds_iff.mpr hdecision) hrest⟩

/-! ## The trace of the way -/

/-- The events that say where a call is in its stack. -/
def Event.isEntry : Event → Bool
  | .entered _ | .handled => true
  | _ => false

namespace Middleware

/-- A stage that does not enter a stack of its own. -/
structure EntersNothing (m : Middleware) : Prop where
  /-- Nothing is entered on the way in. -/
  act : ∀ call, ∀ event ∈ (m.act call).log, event.isEntry = false
  /-- Nothing is entered on the way back. -/
  unwind : ∀ call result, ∀ event ∈ (m.unwind call result).log, event.isEntry = false

/-- A stage that returns what comes back to it unchanged. -/
def ReturnsInner (m : Middleware) : Prop := ∀ call result, (m.unwind call result).result = result

/-- The endpoint stage enters nothing: it calls hooks, sources and the resolver. -/
theorem entersNothing_ofEndpointStage (s : EndpointStage) : (ofEndpointStage s).EntersNothing := by
  refine ⟨fun call event hevent ↦ ?_, fun _ _ ↦ List.forall_mem_nil _⟩
  rw [← Bool.not_eq_true]
  intro hentry
  have hcall : event.isCall = true := by
    cases event with
    | entered _ | handled => rfl
    | _ => cases hentry
  obtain ⟨_, _, rfl⟩ | ⟨_, rfl⟩ | ⟨_, rfl⟩ :=
    EndpointStage.mem_calls_run (mem_calls_iff.mpr ⟨hevent, hcall⟩) <;> cases hentry

end Middleware

theorem isEntry_eq_false_of_transmit (client : HttpClient) (call : Call) :
    ∀ event ∈ (transmit client call).log, event.isEntry = false := by
  intro event hevent
  rw [transmit] at hevent
  split at hevent
  · cases hevent
  · split_ifs at hevent
    · cases hevent
    · rw [List.mem_singleton.mp hevent]
      rfl

theorem filter_isEntry_eq_nil {log : List Event} (h : ∀ event ∈ log, event.isEntry = false) :
    log.filter Event.isEntry = [] :=
  List.filter_eq_nil_iff.mpr fun event hevent ↦ Bool.eq_false_iff.mp (h event hevent)

theorem filter_isEntry_entryLogs {entries : List Entry}
    (h : ∀ e ∈ entries, e.stage.EntersNothing) :
    (entries.flatMap Entry.log).filter Event.isEntry
      = entries.map fun e ↦ .entered e.stage.id := by
  induction entries with
  | nil => rfl
  | cons e rest ih =>
    obtain ⟨he, hrest⟩ := List.forall_mem_cons.mp h
    have hlog : e.log.filter Event.isEntry = [.entered e.stage.id] := by
      rw [Entry.log, List.filter_cons_of_pos rfl, Entry.turn, filter_isEntry_eq_nil (he.act e.call)]
    rw [List.flatMap_cons, List.filter_append, hlog, ih hrest]
    rfl

theorem filter_isEntry_returnLogs {returns : List Return}
    (h : ∀ r ∈ returns, r.stage.EntersNothing) :
    (returns.flatMap fun r ↦ r.outcome.log).filter Event.isEntry = [] := by
  refine filter_isEntry_eq_nil fun event hevent ↦ ?_
  obtain ⟨r, hr, hlog⟩ := List.mem_flatMap.mp hevent
  exact (h r hr).unwind r.call r.result event hlog

theorem Turning.filter_isEntry {handler : Handler} {stages : List Middleware} {call : Call}
    {entries : List Entry} {turn : Outcome} (h : Turning handler stages call entries turn)
    (hhandler : ∀ call, ∀ event ∈ (handler call).log, event.isEntry = false) :
    turn.log.filter Event.isEntry
      = if entries.all Entry.proceeds = true then [.handled] else [] := by
  cases h with
  | handled hall hproceed =>
    rw [if_pos (List.all_eq_true.mpr hproceed), atHandler, List.filter_cons_of_pos rfl,
      filter_isEntry_eq_nil (hhandler _)]
  | @ended earlier last result hproceed hlast =>
    have hstop : ¬ (earlier ++ [last]).all Entry.proceeds = true := by
      intro hall
      have hproceeds := List.all_eq_true.mp hall last List.mem_concat_self
      rw [Entry.proceeds_eq_false hlast] at hproceeds
      cases hproceeds
    rw [if_neg hstop, List.filter_nil]

section Whole

variable {handler : Handler} {stages : List Middleware} {call : Call} {entries : List Entry}
  {turn outcome : Outcome} {returns : List Return}

theorem Way.stage_mem_of_entry (h : Way handler stages call entries turn returns outcome)
    {e : Entry} (he : e ∈ entries) : e.stage ∈ stages :=
  h.into.order.subset (List.mem_map_of_mem he)

theorem Way.stage_mem_of_return (h : Way handler stages call entries turn returns outcome)
    {r : Return} (hr : r ∈ returns) : r.stage ∈ stages := by
  have hmem : r.stage ∈ returns.map Return.stage := List.mem_map_of_mem hr
  rw [h.order, List.mem_reverse] at hmem
  obtain ⟨e, he, hstage⟩ := List.mem_map.mp hmem
  rw [← hstage]
  exact h.stage_mem_of_entry (List.mem_of_mem_filter he)

/-- Where nothing else enters a stack, the trace says which stages the call came to. -/
theorem Way.filter_isEntry (h : Way handler stages call entries turn returns outcome)
    (hstages : ∀ m ∈ stages, m.EntersNothing)
    (hhandler : ∀ call, ∀ event ∈ (handler call).log, event.isEntry = false) :
    outcome.log.filter Event.isEntry
      = entries.map (fun e ↦ .entered e.stage.id)
        ++ if entries.all Entry.proceeds = true then [.handled] else [] := by
  rw [h.log, List.filter_append, List.filter_append,
    filter_isEntry_entryLogs fun e he ↦ hstages _ (h.stage_mem_of_entry he),
    h.turning.filter_isEntry hhandler,
    filter_isEntry_returnLogs fun r hr ↦ hstages _ (h.stage_mem_of_return hr), List.append_nil]

theorem WayBack.tail {r : Return} (h : WayBack turn (r :: returns) outcome) :
    WayBack r.outcome returns outcome where
  start := (List.isChain_cons.mp h.next).1
  next := (List.isChain_cons.mp h.next).2
  finish := by
    have hlast : (((r :: returns).getLast?.map Return.outcome).getD turn)
        = (returns.getLast?.map Return.outcome).getD r.outcome := by
      rw [List.getLast?_cons]
      cases returns.getLast? <;> rfl
    rw [← hlast]
    exact h.finish

theorem WayBack.result_eq (h : WayBack turn returns outcome)
    (hreturns : ∀ r ∈ returns, r.stage.ReturnsInner) : outcome.result = turn.result := by
  induction returns generalizing turn with
  | nil => exact h.finish.2
  | cons r rest ih =>
    obtain ⟨hr, hrest⟩ := List.forall_mem_cons.mp hreturns
    calc outcome.result = r.outcome.result := ih h.tail hrest
      _ = r.result := hr r.call r.result
      _ = turn.result := (h.start r rfl).2

end Whole

/-- **A call goes through its stack in order.** It comes to the first stages of the stack, to each
as the one before it left the call, and turns round at the handler exactly if none of them ends it;
what it ended with goes back through the stages that handed it on, in the reverse order. Where the
stages and the handler enter no stack of their own, the trace says the same: it holds the names of
those stages and after them the handler, once, if all of them handed the call on. And where the
stages return what comes back to them, the call ends with what it had at the turn. -/
theorem run_goes_through_stack_in_order (stack : Stack) (handler : Handler) (call : Call) :
    ∃ entries turn returns,
      Way handler stack.stages call entries turn returns (stack.run handler call) ∧
      entries.map (fun e ↦ e.stage.id) <+: stack.ids ∧
      ((∀ m ∈ stack.stages, m.EntersNothing) →
        (∀ call, ∀ event ∈ (handler call).log, event.isEntry = false) →
        (stack.run handler call).log.filter Event.isEntry
          = entries.map (fun e ↦ .entered e.stage.id)
            ++ if entries.all Entry.proceeds = true then [.handled] else []) ∧
      ((∀ m ∈ stack.stages, m.ReturnsInner) →
        (stack.run handler call).result = turn.result) := by
  obtain ⟨entries, turn, returns, hway⟩ := exists_way handler stack.stages call
  refine ⟨entries, turn, returns, hway, ?_, hway.filter_isEntry, fun hstages ↦ ?_⟩
  · have hids := hway.into.order.map Middleware.id
    rwa [List.map_map] at hids
  · exact hway.back.result_eq fun r hr ↦ hstages _ (hway.stage_mem_of_return hr)

/-! ### A stack that a call is stopped in -/

private def label (id : String) : Middleware :=
  ⟨id, fun call ↦ ⟨call, [], .proceed⟩, fun call result ↦ ⟨call, [], result⟩⟩

private def letterStage : EndpointStage :=
  ⟨⟨"Get", ⟨[]⟩, none, []⟩, none, .empty, [], ⟨[], []⟩⟩

private def postOffice : Stack :=
  ⟨"Get", [label "Stamp", .ofEndpointStage letterStage, label "Bag"]⟩

private def letterCall : Call := ⟨.new "Get", .other "Letter", .empty "GetInput"⟩

private theorem quiet_postOffice :
    ∀ m ∈ postOffice.stages, m.EntersNothing ∧ m.ReturnsInner := by
  have hlabel : ∀ id, (label id).EntersNothing ∧ (label id).ReturnsInner :=
    fun id ↦ ⟨⟨fun _ ↦ List.forall_mem_nil _, fun _ _ ↦ List.forall_mem_nil _⟩, fun _ _ ↦ rfl⟩
  refine List.forall_mem_cons.mpr ⟨hlabel _, List.forall_mem_cons.mpr ⟨⟨?_, fun _ _ ↦ rfl⟩,
    List.forall_mem_singleton.mpr (hlabel _)⟩⟩
  exact Middleware.entersNothing_ofEndpointStage letterStage

/-- The endpoint stage refuses a letter: the stage after it and what sends requests are never
entered. -/
theorem letter_goes_no_further_than_endpoint_stage :
    (∀ m ∈ postOffice.stages, m.EntersNothing ∧ m.ReturnsInner) ∧
    ∃ (entries : List Entry) (turn : Outcome),
      entries.map (fun e ↦ e.stage.id) <+: ["Stamp", "ResolveEndpointV2", "Bag"] ∧
      (entries.map (fun e ↦ .entered e.stage.id)
          ++ if entries.all Entry.proceeds = true then [.handled] else [])
        = [Event.entered "Stamp", Event.entered "ResolveEndpointV2"] ∧
      turn.result = .error (.endpoint (.transportType "Letter")) := by
  obtain ⟨entries, turn, returns, -, hprefix, htrace, hresult⟩ :=
    run_goes_through_stack_in_order postOffice (transmit fun _ ↦ .ok 200) letterCall
  refine ⟨quiet_postOffice, entries, turn, hprefix, ?_, ?_⟩
  · rw [← htrace (fun m hm ↦ (quiet_postOffice m hm).1) (isEntry_eq_false_of_transmit _)]
    rfl
  · rw [← hresult fun m hm ↦ (quiet_postOffice m hm).2]
    rfl

end CallRouting.Call
