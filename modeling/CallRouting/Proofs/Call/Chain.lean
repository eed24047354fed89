import CallRouting.Call.Transmitter

/-!
# Calls on their way through stages

A stage hands a call on at most once, so on the way in a list of stages is a partial function on
calls: `arrival` is the call that comes out at the other end, unless a stage ends it. What a list of
stages makes of a call depends on what comes after them only at that arrival
(`foldr_handle_congr`).

Stages do with a call what they like. If they keep its signal (`Middleware.KeepsSignal`), a call
that is canceled in any of them arrives canceled (`canceled_of_arrival`).
-/

namespace CallRouting.Call

namespace Middleware

/-- A stage that does not take the signal of a call back. What it does on the way out is left
open. -/
def KeepsSignal (m : Middleware) : Prop :=
  ∀ call, call.context.canceled = true → (m.act call).call.context.canceled = true

/-- The call that a stage hands on, unless it ends the call. -/
def passOn (m : Middleware) (call : Call) : Option Call :=
  match (m.act call).decision with
  | .proceed => some (m.act call).call
  | .finish _ => none

theorem passOn_eq_some_iff {m : Middleware} {call entered : Call} :
    m.passOn call = some entered ↔
      (m.act call).decision = .proceed ∧ (m.act call).call = entered := by
  rw [passOn]
  cases (m.act call).decision with
  | proceed => exact ⟨fun h ↦ ⟨rfl, Option.some.inj h⟩, fun h ↦ congrArg some h.2⟩
  | finish result => exact ⟨nofun, fun h ↦ nomatch h.1⟩

theorem handle_of_passOn_eq_none {m : Middleware} {call : Call} (h : m.passOn call = none) :
    ∃ outcome : Outcome, outcome.log = .entered m.id :: (m.act call).log ∧
      ∀ next, m.handle next call = outcome := by
  cases hdecision : (m.act call).decision with
  | proceed =>
    rw [passOn_eq_some_iff.mpr ⟨hdecision, rfl⟩] at h
    cases h
  | finish result =>
    refine ⟨⟨(m.act call).call, _, result⟩, rfl, fun next ↦ ?_⟩
    rw [handle, hdecision]

theorem handle_of_passOn_eq_some {m : Middleware} {call entered : Call}
    (h : m.passOn call = some entered) (next : Handler) :
    m.handle next call
      = ⟨(m.unwind (next entered).call (next entered).result).call,
          .entered m.id :: (m.act call).log ++ (next entered).log
            ++ (m.unwind (next entered).call (next entered).result).log,
          (m.unwind (next entered).call (next entered).result).result⟩ := by
  obtain ⟨hdecision, rfl⟩ := passOn_eq_some_iff.mp h
  rw [handle, hdecision]

/-- What a stage does itself never sends a request. -/
structure SendsNothing (m : Middleware) : Prop where
  /-- Nothing is sent on the way in. -/
  act : ∀ call request, .sent request ∉ (m.act call).log
  /-- Nothing is sent on the way out. -/
  unwind : ∀ call result request, .sent request ∉ (m.unwind call result).log

end Middleware

/-- The call as it comes out of stages, unless one of them ends it. -/
def arrival : List Middleware → Call → Option Call
  | [], call => some call
  | m :: rest, call => (m.passOn call).bind (arrival rest)

/-- A call is canceled when it comes to stages, or by one of those that it comes to. -/
inductive CanceledWithin : List Middleware → Call → Prop
  /-- It comes canceled. -/
  | before {stages : List Middleware} {call : Call} (h : call.context.canceled = true) :
      CanceledWithin stages call
  /-- The first stage cancels it. -/
  | first {m : Middleware} {rest : List Middleware} {call : Call}
      (h : (m.act call).call.context.canceled = true) : CanceledWithin (m :: rest) call
  /-- The first stage hands it on, and it is canceled in the rest of the stages. -/
  | rest {m : Middleware} {rest : List Middleware} {call entered : Call}
      (hentered : m.passOn call = some entered) (h : CanceledWithin rest entered) :
      CanceledWithin (m :: rest) call

theorem arrival_append (l l' : List Middleware) (call : Call) :
    arrival (l ++ l') call = (arrival l call).bind (arrival l') := by
  induction l generalizing call with
  | nil => rfl
  | cons m rest ih =>
    rw [List.cons_append, arrival, arrival, Option.bind_assoc]
    exact congrArg _ (funext ih)

/-- **The signal stays.** A call that is canceled on its way through stages that keep the signal
comes out canceled. -/
theorem canceled_of_arrival {l : List Middleware} {call reached : Call}
    (hkeeps : ∀ m ∈ l, m.KeepsSignal) (hcanceled : CanceledWithin l call)
    (harrival : arrival l call = some reached) : reached.context.canceled = true := by
  induction l generalizing call with
  | nil =>
    obtain rfl := Option.some.inj harrival
    cases hcanceled with
    | before h => exact h
  | cons m rest ih =>
    obtain ⟨hm, hrest⟩ := List.forall_mem_cons.mp hkeeps
    obtain ⟨entered, hpassOn, harrival⟩ := Option.bind_eq_some_iff.mp harrival
    have hentered := (Middleware.passOn_eq_some_iff.mp hpassOn).2
    refine ih hrest ?_ harrival
    cases hcanceled with
    | before h => exact .before (hentered ▸ hm call h)
    | first h => exact .before (hentered ▸ h)
    | rest hother h =>
      obtain rfl := Option.some.inj (hpassOn.symm.trans hother)
      exact h

/-! ## What stages make of a call -/

theorem runStages_append (handler : Handler) (l l' : List Middleware) :
    runStages handler (l ++ l') = l.foldr Middleware.handle (runStages handler l') := by
  induction l with
  | nil => rfl
  | cons m rest ih =>
    funext call
    rw [List.cons_append, runStages, ih, List.foldr_cons]

theorem runStages_eq_foldr (handler : Handler) (l : List Middleware) :
    runStages handler l = l.foldr Middleware.handle (runStages handler []) := by
  have happend := runStages_append handler l []
  rwa [List.append_nil] at happend

/-- **What comes after stages matters only at the arrival.** -/
theorem foldr_handle_congr {next next' : Handler} {l : List Middleware} {call : Call}
    (h : ∀ reached, arrival l call = some reached → next reached = next' reached) :
    l.foldr Middleware.handle next call = l.foldr Middleware.handle next' call := by
  induction l generalizing call with
  | nil => exact h call rfl
  | cons m rest ih =>
    rw [List.foldr_cons, List.foldr_cons]
    cases hpassOn : m.passOn call with
    | none =>
      obtain ⟨outcome, -, hall⟩ := Middleware.handle_of_passOn_eq_none hpassOn
      rw [hall, hall]
    | some entered =>
      -- A stage that hands the call on is given the outcome of the rest, and nothing else of it.
      have hrest : rest.foldr Middleware.handle next entered
          = rest.foldr Middleware.handle next' entered :=
        ih fun reached hreached ↦
          h reached (Option.bind_eq_some_iff.mpr ⟨entered, hpassOn, hreached⟩)
      rw [Middleware.handle_of_passOn_eq_some hpassOn, Middleware.handle_of_passOn_eq_some hpassOn,
        hrest]

/-- If the stages send nothing, what is sent is sent by what comes after them. -/
theorem exists_arrival_of_sent {next : Handler} {l : List Middleware} {call : Call}
    {request : Http.Request} (hl : ∀ m ∈ l, m.SendsNothing)
    (hsent : .sent request ∈ (l.foldr Middleware.handle next call).log) :
    ∃ reached, arrival l call = some reached ∧ .sent request ∈ (next reached).log := by
  induction l generalizing call with
  | nil => exact ⟨call, rfl, hsent⟩
  | cons m rest ih =>
    have hm := hl m List.mem_cons_self
    rw [List.foldr_cons] at hsent
    cases hpassOn : m.passOn call with
    | none =>
      obtain ⟨outcome, hlog, hall⟩ := Middleware.handle_of_passOn_eq_none hpassOn
      rw [hall, hlog] at hsent
      obtain hentered | hact := List.mem_cons.mp hsent
      · cases hentered
      · exact absurd hact (hm.act call request)
    | some entered =>
      rw [Middleware.handle_of_passOn_eq_some hpassOn] at hsent
      obtain hin | hout := List.mem_append.mp hsent
      · obtain hact | hrest := List.mem_append.mp hin
        · obtain hentered | hact := List.mem_cons.mp hact
          · cases hentered
          · exact absurd hact (hm.act call request)
        · obtain ⟨reached, hreached, hnext⟩ :=
            ih (fun m' hm' ↦ hl m' (List.mem_cons_of_mem m hm')) hrest
          exact ⟨reached, Option.bind_eq_some_iff.mpr ⟨entered, hpassOn, hreached⟩, hnext⟩
      · exact absurd hout (hm.unwind _ _ request)

end CallRouting.Call
