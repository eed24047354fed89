import CallRouting.Call.Stack
import Mathlib.Data.List.Nodup

/-!
# Changes of a stack

A stack is built by changes: a stage is put at an end or beside another one, or the stage of a name
is taken out. `Stack.edit` makes one of them and says what came of it; `Stack.editAll` makes many.

All three look for the first stage of a name, and what they find is the only one, since no change
puts a name in twice: that is the invariant of `nodup_ids_editAll`, and it is all that a run needs
to be known about. What a single change does is said for any stack, in terms of the stages before
and after the place where it happens.
-/

namespace CallRouting.Call

/-- A change of a stack. -/
inductive Edit where
  /-- A stage is put at an end. -/
  | add (m : Middleware) (position : Position)
  /-- A stage is put right beside another one. -/
  | insert (m : Middleware) (anchor : String) (side : Side)
  /-- The stage of a name is taken out. -/
  | remove (id : String)

namespace Edit

/-- The stage that a change puts in, if it puts one in. -/
def stage? : Edit → Option Middleware
  | add m _ | insert m _ _ => some m
  | remove _ => none

/-- The name of the stage that a change puts in or takes out. -/
def subject : Edit → String
  | add m _ | insert m _ _ => m.id
  | remove id => id

theorem subject_of_stage? {e : Edit} {m : Middleware} (h : e.stage? = some m) :
    e.subject = m.id := by
  cases e with
  | remove id => cases h
  | _ => exact congrArg Middleware.id (Option.some.inj h)

end Edit

/-- What comes of a change. -/
inductive EditAnswer where
  /-- The stage was put in. -/
  | done
  /-- The change was refused. -/
  | refused (e : StackError)
  /-- The stage was taken out. -/
  | removed (m : Middleware)
  /-- There is no stage to take out. -/
  | absent

/-- What comes of putting a stage in. -/
def EditAnswer.ofPut : Except StackError Unit → EditAnswer
  | .ok () => .done
  | .error e => .refused e

/-- What comes of taking a stage out. -/
def EditAnswer.ofTaken : Option Middleware → EditAnswer
  | some m => .removed m
  | none => .absent

/-- Stages with one more at an end. -/
def Position.place (m : Middleware) (l : List Middleware) : Position → List Middleware
  | .first => m :: l
  | .last => l ++ [m]

/-- A stage and its anchor, side by side. -/
def Side.pair (m anchor : Middleware) : Side → List Middleware
  | .before => [m, anchor]
  | .after => [anchor, m]

namespace Stack

/-- Makes a change. -/
def edit (s : Stack) : Edit → Stack × EditAnswer
  | .add m position => (s.add m position).map id .ofPut
  | .insert m anchor side => (s.insert m anchor side).map id .ofPut
  | .remove name => (s.remove name).map id .ofTaken

/-- Makes changes, one after the other. -/
def editAll (s : Stack) (edits : List Edit) : Stack := edits.foldl (fun s e ↦ (s.edit e).1) s

/-! ## The first stage of a name -/

theorem contains_iff {s : Stack} {id : String} : s.contains id = true ↔ id ∈ s.ids :=
  List.contains_iff_mem

theorem exists_split_of_mem_ids {l : List Middleware} {id : String}
    (h : id ∈ l.map Middleware.id) :
    ∃ l₁ a l₂, l = l₁ ++ a :: l₂ ∧ a.id = id ∧ id ∉ l₁.map Middleware.id := by
  obtain ⟨ids₁, ids₂, hids, hfirst⟩ := List.eq_append_cons_of_mem h
  obtain ⟨l₁, rest, rfl, rfl, hrest⟩ := List.map_eq_append_iff.mp hids
  obtain ⟨a, l₂, rfl, ha, -⟩ := List.map_eq_cons_iff.mp hrest
  exact ⟨l₁, a, l₂, rfl, ha, hfirst⟩

private theorem insertBeside_cons (m : Middleware) (anchor : String) (side : Side) (a : Middleware)
    (rest : List Middleware) :
    insertBeside m anchor side (a :: rest)
      = if a.id = anchor then some (side.pair m a ++ rest)
        else (insertBeside m anchor side rest).map (a :: ·) := by
  cases side <;> rfl

theorem insertBeside_append (m a : Middleware) (side : Side) {l₁ : List Middleware}
    (l₂ : List Middleware) (h : a.id ∉ l₁.map Middleware.id) :
    insertBeside m a.id side (l₁ ++ a :: l₂) = some (l₁ ++ side.pair m a ++ l₂) := by
  induction l₁ with
  | nil => rw [List.nil_append, insertBeside_cons, if_pos rfl, List.nil_append]
  | cons b rest ih =>
    rw [List.map_cons, List.mem_cons, not_or] at h
    rw [List.cons_append, insertBeside_cons, if_neg (Ne.symm h.1), ih h.2]
    rfl

theorem insertBeside_eq_none (m : Middleware) {anchor : String} (side : Side)
    {l : List Middleware} (h : anchor ∉ l.map Middleware.id) :
    insertBeside m anchor side l = none := by
  induction l with
  | nil => rfl
  | cons b rest ih =>
    rw [List.map_cons, List.mem_cons, not_or] at h
    rw [insertBeside_cons, if_neg (Ne.symm h.1), ih h.2]
    rfl

theorem takeOut_append (a : Middleware) {l₁ : List Middleware} (l₂ : List Middleware)
    (h : a.id ∉ l₁.map Middleware.id) : takeOut a.id (l₁ ++ a :: l₂) = some (a, l₁ ++ l₂) := by
  induction l₁ with
  | nil => rw [List.nil_append, takeOut, if_pos rfl, List.nil_append]
  | cons b rest ih =>
    rw [List.map_cons, List.mem_cons, not_or] at h
    rw [List.cons_append, takeOut, if_neg (Ne.symm h.1), ih h.2]
    rfl

theorem takeOut_eq_none {id : String} {l : List Middleware} (h : id ∉ l.map Middleware.id) :
    takeOut id l = none := by
  induction l with
  | nil => rfl
  | cons b rest ih =>
    rw [List.map_cons, List.mem_cons, not_or] at h
    rw [takeOut, if_neg (Ne.symm h.1), ih h.2]
    rfl

/-! ## What one change does -/

section Step

variable {s : Stack} {m : Middleware}

private theorem add_eq (s : Stack) (m : Middleware) (position : Position) :
    s.add m position
      = if s.contains m.id then (s, .error (.duplicateStage m.id))
        else ({ s with stages := position.place m s.stages }, .ok ()) := by
  cases position <;> rfl

theorem edit_add (position : Position) (h : m.id ∉ s.ids) :
    s.edit (.add m position) = ({ s with stages := position.place m s.stages }, .done) := by
  rw [edit, add_eq, if_neg (contains_iff.not.mpr h)]
  rfl

theorem edit_add_of_mem (position : Position) (h : m.id ∈ s.ids) :
    s.edit (.add m position) = (s, .refused (.duplicateStage m.id)) := by
  rw [edit, add_eq, if_pos (contains_iff.mpr h)]
  rfl

theorem edit_insert {l₁ l₂ : List Middleware} {a : Middleware} (side : Side) (h : m.id ∉ s.ids)
    (hsplit : s.stages = l₁ ++ a :: l₂) (hfirst : a.id ∉ l₁.map Middleware.id) :
    s.edit (.insert m a.id side) = ({ s with stages := l₁ ++ side.pair m a ++ l₂ }, .done) := by
  rw [edit, insert, if_neg (contains_iff.not.mpr h), hsplit, insertBeside_append m a side l₂ hfirst]
  rfl

theorem edit_insert_of_mem (anchor : String) (side : Side) (h : m.id ∈ s.ids) :
    s.edit (.insert m anchor side) = (s, .refused (.duplicateStage m.id)) := by
  rw [edit, insert, if_pos (contains_iff.mpr h)]
  rfl

theorem edit_insert_of_anchor_not_mem {anchor : String} (side : Side) (h : m.id ∉ s.ids)
    (hanchor : anchor ∉ s.ids) :
    s.edit (.insert m anchor side) = (s, .refused (.anchorNotFound anchor)) := by
  rw [edit, insert, if_neg (contains_iff.not.mpr h), insertBeside_eq_none m side hanchor]
  rfl

theorem edit_remove {l₁ l₂ : List Middleware} (hsplit : s.stages = l₁ ++ m :: l₂)
    (hfirst : m.id ∉ l₁.map Middleware.id) :
    s.edit (.remove m.id) = ({ s with stages := l₁ ++ l₂ }, .removed m) := by
  rw [edit, remove, hsplit, takeOut_append m l₂ hfirst]
  rfl

theorem edit_remove_of_not_mem {id : String} (h : id ∉ s.ids) :
    s.edit (.remove id) = (s, .absent) := by
  rw [edit, remove, takeOut_eq_none h]
  rfl

end Step

/-- **What a change can do.** A stage whose name is new comes in somewhere, or a stage goes out, or
nothing changes. -/
inductive Effect (s : Stack) : Edit → Stack → EditAnswer → Prop where
  /-- The stage came in between two parts of the stack. -/
  | put {e : Edit} {m : Middleware} {l₁ l₂ : List Middleware} (stage : e.stage? = some m)
      (fresh : m.id ∉ s.ids) (split : s.stages = l₁ ++ l₂) :
      Effect s e { s with stages := l₁ ++ m :: l₂ } .done
  /-- The stage went out. -/
  | took {m : Middleware} {l₁ l₂ : List Middleware} (split : s.stages = l₁ ++ m :: l₂) :
      Effect s (.remove m.id) { s with stages := l₁ ++ l₂ } (.removed m)
  /-- Nothing changed. -/
  | kept {e : Edit} {answer : EditAnswer} (notDone : answer ≠ .done) : Effect s e s answer

theorem effect_edit (s : Stack) (e : Edit) : s.Effect e (s.edit e).1 (s.edit e).2 := by
  cases e with
  | add m position =>
    by_cases hfresh : m.id ∈ s.ids
    · rw [edit_add_of_mem position hfresh]
      exact .kept nofun
    · rw [edit_add position hfresh]
      cases position with
      | first => exact .put rfl hfresh (show s.stages = [] ++ s.stages from rfl)
      | last => exact .put rfl hfresh (List.append_nil _).symm
  | insert m anchor side =>
    by_cases hfresh : m.id ∈ s.ids
    · rw [edit_insert_of_mem anchor side hfresh]
      exact .kept nofun
    · by_cases hanchor : anchor ∈ s.ids
      · obtain ⟨l₁, a, l₂, hsplit, rfl, hfirst⟩ := exists_split_of_mem_ids hanchor
        rw [edit_insert side hfresh hsplit hfirst]
        cases side with
        | before =>
          rw [Side.pair, List.append_assoc]
          exact .put rfl hfresh hsplit
        | after =>
          have hafter : l₁ ++ [a, m] ++ l₂ = (l₁ ++ [a]) ++ m :: l₂ := by
            rw [List.append_cons l₁ a [m], List.append_assoc, List.singleton_append]
          rw [Side.pair, hafter]
          exact .put rfl hfresh (hsplit.trans (List.append_cons l₁ a l₂))
      · rw [edit_insert_of_anchor_not_mem side hfresh hanchor]
        exact .kept nofun
  | remove id =>
    by_cases hid : id ∈ s.ids
    · obtain ⟨l₁, m, l₂, hsplit, rfl, hfirst⟩ := exists_split_of_mem_ids hid
      rw [edit_remove hsplit hfirst]
      exact .took hsplit
    · rw [edit_remove_of_not_mem hid]
      exact .kept nofun

/-! ## What every change keeps -/

section Effect

variable {s t : Stack} {e : Edit} {answer : EditAnswer}

theorem Effect.eq_of_not_done {m : Middleware} (hstage : e.stage? = some m)
    (h : s.Effect e t answer) (hanswer : answer ≠ .done) : t = s := by
  cases h with
  | put => exact absurd rfl hanswer
  | took => cases hstage
  | kept => rfl

theorem Effect.nodup_ids (h : s.Effect e t answer) (hnodup : s.ids.Nodup) : t.ids.Nodup := by
  cases h with
  | put stage fresh split =>
    rw [ids, split] at fresh hnodup
    rw [ids, List.map_append, List.map_cons, List.nodup_middle, ← List.map_append]
    exact List.nodup_cons.mpr ⟨fresh, hnodup⟩
  | took split =>
    rw [ids, split, List.map_append, List.map_cons, List.nodup_middle] at hnodup
    rw [ids, List.map_append]
    exact (List.nodup_cons.mp hnodup).2
  | kept => exact hnodup

theorem Effect.filter_ne_subject (h : s.Effect e t answer) :
    (t.stages.filter fun a ↦ a.id ≠ e.subject) = s.stages.filter fun a ↦ a.id ≠ e.subject := by
  cases h with
  | put stage fresh split =>
    rw [split, List.filter_append, List.filter_append, List.filter_cons_of_neg]
    simp [Edit.subject_of_stage? stage]
  | took split =>
    rw [split, List.filter_append, List.filter_append, List.filter_cons_of_neg]
    simp [Edit.subject]
  | kept => rfl

/-- Taking out what was just put in gives the stack before it. -/
theorem Effect.edit_remove_of_done (h : s.Effect e t .done) :
    ∃ m, e.stage? = some m ∧ t.edit (.remove m.id) = (s, .removed m) := by
  cases h with
  | @put _ m l₁ l₂ stage fresh split =>
    refine ⟨m, stage, ?_⟩
    -- The name was new, so the first stage of that name is the one that was put in.
    have hfirst : m.id ∉ l₁.map Middleware.id := by
      intro hmem
      rw [ids, split, List.map_append] at fresh
      exact fresh (List.mem_append_left _ hmem)
    rw [edit_remove rfl hfirst, ← split]
  | kept notDone => exact absurd rfl notDone

end Effect

theorem nodup_ids_editAll {s : Stack} (h : s.ids.Nodup) (edits : List Edit) :
    (s.editAll edits).ids.Nodup := by
  induction edits generalizing s with
  | nil => exact h
  | cons e rest ih => exact ih ((s.effect_edit e).nodup_ids h)

theorem not_mem_ids_of_nodup {s : Stack} (h : s.ids.Nodup) {l₁ l₂ : List Middleware}
    {a : Middleware} (hsplit : s.stages = l₁ ++ a :: l₂) :
    a.id ∉ (l₁ ++ l₂).map Middleware.id := by
  rw [ids, hsplit, List.map_append, List.map_cons, List.nodup_middle, ← List.map_append] at h
  exact (List.nodup_cons.mp h).1

/-- **Every history of a stack.** After any changes of a stack that was empty, no name occurs twice.

Then a stage can be put in exactly if its name is new, and comes to the end that was asked for, or
right beside the one stage with the name of its anchor, which must be there. A stage whose name is
taken is refused as such, whether or not its anchor is there; without an anchor it is refused for
that. The one stage of a name is taken out, or nothing happens if there is none. What is refused
leaves the stack as it was.

No change touches the order of the other stages, and to take out what was just put in gives the
stack before it. -/
theorem edits_keep_ids_distinct (operation : String) (edits : List Edit) :
    let s := (new operation).editAll edits
    s.ids.Nodup ∧
    (∀ m position,
      (m.id ∉ s.ids →
        s.edit (.add m position) = ({ s with stages := position.place m s.stages }, .done)) ∧
      (m.id ∈ s.ids → s.edit (.add m position) = (s, .refused (.duplicateStage m.id)))) ∧
    (∀ m anchor side,
      (m.id ∉ s.ids → anchor ∈ s.ids →
        ∃ l₁ a l₂, s.stages = l₁ ++ a :: l₂ ∧ a.id = anchor ∧
          anchor ∉ (l₁ ++ l₂).map Middleware.id ∧
          s.edit (.insert m anchor side)
            = ({ s with stages := l₁ ++ side.pair m a ++ l₂ }, .done)) ∧
      (m.id ∈ s.ids → s.edit (.insert m anchor side) = (s, .refused (.duplicateStage m.id))) ∧
      (m.id ∉ s.ids → anchor ∉ s.ids →
        s.edit (.insert m anchor side) = (s, .refused (.anchorNotFound anchor)))) ∧
    (∀ id,
      (id ∈ s.ids →
        ∃ l₁ m l₂, s.stages = l₁ ++ m :: l₂ ∧ m.id = id ∧ id ∉ (l₁ ++ l₂).map Middleware.id ∧
          s.edit (.remove id) = ({ s with stages := l₁ ++ l₂ }, .removed m)) ∧
      (id ∉ s.ids → s.edit (.remove id) = (s, .absent))) ∧
    (∀ e, ((s.edit e).1.stages.filter fun a ↦ a.id ≠ e.subject)
      = s.stages.filter fun a ↦ a.id ≠ e.subject) ∧
    (∀ e, (s.edit e).2 = .done →
      ∃ m, e.stage? = some m ∧ (s.edit e).1.edit (.remove m.id) = (s, .removed m)) := by
  intro s
  have hnodup : s.ids.Nodup := nodup_ids_editAll (s := new operation) List.nodup_nil edits
  refine ⟨hnodup, fun m position ↦ ⟨edit_add position, edit_add_of_mem position⟩,
    fun m anchor side ↦ ⟨fun hfresh hanchor ↦ ?_, edit_insert_of_mem anchor side,
      edit_insert_of_anchor_not_mem side⟩,
    fun id ↦ ⟨fun hid ↦ ?_, edit_remove_of_not_mem⟩,
    fun e ↦ (s.effect_edit e).filter_ne_subject, fun e hdone ↦ ?_⟩
  · obtain ⟨l₁, a, l₂, hsplit, rfl, hfirst⟩ := exists_split_of_mem_ids hanchor
    exact ⟨l₁, a, l₂, hsplit, rfl, not_mem_ids_of_nodup hnodup hsplit,
      edit_insert side hfresh hsplit hfirst⟩
  · obtain ⟨l₁, m, l₂, hsplit, rfl, hfirst⟩ := exists_split_of_mem_ids hid
    exact ⟨l₁, m, l₂, hsplit, rfl, not_mem_ids_of_nodup hnodup hsplit, edit_remove hsplit hfirst⟩
  · have heffect := s.effect_edit e
    rw [hdone] at heffect
    exact heffect.edit_remove_of_done

end Stack

end CallRouting.Call
