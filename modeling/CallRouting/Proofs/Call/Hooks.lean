import CallRouting.Call.Hook
import CallRouting.Proofs.FirstFault
import Mathlib.Data.List.Infix

/-!
# Runs of hooks

What the hooks of a phase do is said by the list of those that run, each with its reaction:
`hookRuns` goes through the hooks as long as they succeed, and each of them finds what the one
before it left. What is left of the exchange, what is logged and how the phase ends are functions of
that list (`runHooks_eq`), so nothing else about the hooks is needed later.

A hook that fails has run: its reaction is the last of the list, and what it did stays. Hooks that
keep the signal of a call (`Hook.KeepsSignal`) leave a call canceled that comes so or that one of
them cancels.
-/

namespace CallRouting.Call

/-- The hooks that run, each with what it did: the first that fails is the last. -/
def hookRuns : List Hook → Exchange → List (Hook × Reaction)
  | [], _ => []
  | h :: rest, x =>
    let r := h.run x.context x.request
    match r.failure with
    | none => (h, r) :: hookRuns rest (x.after r)
    | some _ => [(h, r)]

/-- What is left after hooks that ran. -/
def Exchange.afterRuns (x : Exchange) (runs : List (Hook × Reaction)) : Exchange :=
  runs.foldl (fun y run ↦ y.after run.2) x

/-- What is logged of hooks that ran. -/
def runsLog (phase : Phase) (runs : List (Hook × Reaction)) : List Event :=
  runs.flatMap fun run ↦ .hook phase run.1.name :: run.2.notes.map .note

/-- Why hooks that ran end the call, if they do. -/
def runsFault (phase : Phase) (runs : List (Hook × Reaction)) : Option EndpointError :=
  runs.findSome? fun run ↦ run.2.failure.map (.hook run.1.name phase)

/-- **A phase is the list of its runs.** -/
theorem runHooks_eq (phase : Phase) (l : List Hook) (x : Exchange) :
    runHooks phase l x
      = ⟨x.afterRuns (hookRuns l x), runsLog phase (hookRuns l x),
          unlessFault (runsFault phase (hookRuns l x)) ()⟩ := by
  induction l generalizing x with
  | nil => rfl
  | cons h rest ih =>
    have hbind : runHooks phase (h :: rest) x
        = (h.pass phase).andThen (fun _ ↦ runHooks phase rest) x := rfl
    rw [hbind, Pass.andThen, Hook.pass, hookRuns]
    cases hfailure : (h.run x.context x.request).failure with
    | none =>
      dsimp only
      rw [ih, Exchange.afterRuns, Exchange.afterRuns, List.foldl_cons, runsLog, runsLog,
        List.flatMap_cons, runsFault, runsFault, List.findSome?_cons, hfailure, Option.map_none]
    | some cause =>
      dsimp only
      rw [Exchange.afterRuns, List.foldl_cons, List.foldl_nil, runsLog, List.flatMap_singleton,
        runsFault, List.findSome?_cons, hfailure, Option.map_some, unlessFault_some]

/-! ## Which hooks run -/

theorem map_fst_hookRuns_prefix (l : List Hook) (x : Exchange) :
    (hookRuns l x).map Prod.fst <+: l := by
  induction l generalizing x with
  | nil => exact List.prefix_refl []
  | cons h rest ih =>
    rw [hookRuns]
    cases (h.run x.context x.request).failure with
    | none => exact (List.prefix_cons_inj h).mpr (ih _)
    | some cause => exact ⟨rest, rfl⟩

theorem map_fst_hookRuns_of_forall {l : List Hook} {x : Exchange}
    (h : ∀ run ∈ hookRuns l x, run.2.failure = none) : (hookRuns l x).map Prod.fst = l := by
  induction l generalizing x with
  | nil => rfl
  | cons hook rest ih =>
    rw [hookRuns] at h ⊢
    cases hfailure : (hook.run x.context x.request).failure with
    | none =>
      simp only [hfailure] at h
      rw [List.map_cons, ih fun run hrun ↦ h run (List.mem_cons_of_mem _ hrun)]
    | some cause =>
      simp only [hfailure] at h
      have := h _ List.mem_cons_self
      rw [hfailure] at this
      cases this

/-! ## How a phase ends -/

theorem runsFault_eq_none_iff {phase : Phase} {runs : List (Hook × Reaction)} :
    runsFault phase runs = none ↔ ∀ run ∈ runs, run.2.failure = none := by
  rw [runsFault, List.findSome?_eq_none_iff]
  refine forall₂_congr fun run _ ↦ ?_
  rw [Option.map_eq_none_iff]

theorem exists_hook_of_runsFault {phase : Phase} {runs : List (Hook × Reaction)}
    {e : EndpointError} (h : runsFault phase runs = some e) :
    ∃ name cause, e = .hook name phase cause := by
  obtain ⟨run, -, hrun⟩ := List.exists_of_findSome?_eq_some h
  obtain ⟨cause, -, rfl⟩ := Option.map_eq_some_iff.mp hrun
  exact ⟨run.1.name, cause, rfl⟩

/-! ## The signal -/

/-- A hook that does not take the signal of a call back. -/
def Hook.KeepsSignal (h : Hook) : Prop :=
  ∀ c request, c.canceled = true → (h.run c request).context.canceled = true

/-- Hooks that do not take the signal of a call back, in either phase. -/
structure Hooks.KeepSignal (hooks : Hooks) : Prop where
  /-- The hooks before the resolution keep it. -/
  pre : ∀ h ∈ hooks.pre, h.KeepsSignal
  /-- The hooks after the resolution keep it. -/
  post : ∀ h ∈ hooks.post, h.KeepsSignal

theorem Exchange.canceled_afterRuns {l : List Hook} {x : Exchange}
    (hkeeps : ∀ h ∈ l, h.KeepsSignal)
    (hcanceled : x.context.canceled = true ∨
      ∃ run ∈ hookRuns l x, run.2.context.canceled = true) :
    (x.afterRuns (hookRuns l x)).context.canceled = true := by
  induction l generalizing x with
  | nil =>
    obtain hx | ⟨run, hrun, -⟩ := hcanceled
    · exact hx
    · cases hrun
  | cons h rest ih =>
    obtain ⟨hh, hrest⟩ := List.forall_mem_cons.mp hkeeps
    have hafter : x.context.canceled = true →
        (x.after (h.run x.context x.request)).context.canceled = true := hh _ _
    rw [hookRuns] at hcanceled ⊢
    cases hfailure : (h.run x.context x.request).failure with
    -- A hook that fails is the last to run: what it leaves is what is left of the exchange.
    | some cause =>
      simp only [hfailure] at hcanceled ⊢
      obtain hx | ⟨run, hrun, hreaction⟩ := hcanceled
      · exact hafter hx
      · rw [List.mem_singleton.mp hrun] at hreaction
        exact hreaction
    | none =>
      simp only [hfailure] at hcanceled ⊢
      refine ih hrest ?_
      obtain hx | ⟨run, hrun, hreaction⟩ := hcanceled
      · exact Or.inl (hafter hx)
      · obtain rfl | hrun := List.mem_cons.mp hrun
        · exact Or.inl hreaction
        · exact Or.inr ⟨run, hrun, hreaction⟩

@[simp] theorem Exchange.input_afterRuns (x : Exchange) (runs : List (Hook × Reaction)) :
    (x.afterRuns runs).input = x.input := by
  induction runs generalizing x with
  | nil => rfl
  | cons run rest ih => exact ih (x.after run.2)

end CallRouting.Call
