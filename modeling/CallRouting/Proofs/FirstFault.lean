/-!
# Checks that end at the first fault

A check goes through declarations or values one after the other. It ends at the first fault, and if
there is none it answers with what it gathered. So it is described by two things that do not depend
on each other: the first fault, and the answer that it would give without one.
-/

namespace CallRouting

variable {ε α β : Type}

/-- What a check ends with that would answer `a`: the fault, if there is one. -/
def unlessFault (fault : Option ε) (a : α) : Except ε α :=
  match fault with
  | some e => .error e
  | none => .ok a

@[simp] theorem unlessFault_none (a : α) : unlessFault (none : Option ε) a = .ok a := rfl

@[simp] theorem unlessFault_some (e : ε) (a : α) : unlessFault (some e) a = .error e := rfl

theorem unlessFault_eq_ok_iff {fault : Option ε} {a b : α} :
    unlessFault fault a = .ok b ↔ fault = none ∧ b = a := by
  cases fault with
  | none => simp [eq_comm]
  | some e => simp

theorem unlessFault_eq_error_iff {fault : Option ε} {a : α} {e : ε} :
    unlessFault fault a = .error e ↔ fault = some e := by
  cases fault with
  | none => simp
  | some e' => simp

@[simp] theorem map_unlessFault (f : α → β) (fault : Option ε) (a : α) :
    (unlessFault fault a).map f = unlessFault fault (f a) := by
  cases fault <;> rfl

theorem unlessFault_or (first second : Option ε) (a : α) :
    unlessFault (first.or second) a
      = match first with
        | some e => .error e
        | none => unlessFault second a := by
  cases first <;> rfl

/-! ## The first fault of a list -/

/-- A fault that an element of a list has and that no element before it has any fault. -/
def FirstFault (HasFault : α → ε → Prop) (l : List α) (e : ε) : Prop :=
  ∃ before a after, l = before ++ a :: after ∧ HasFault a e ∧ ∀ b ∈ before, ∀ e', ¬HasFault b e'

section Scan

variable {HasFault : α → ε → Prop}

/-- A scan finds the first fault if what it finds in one element is the fault of the element. -/
theorem findSome?_eq_some_iff_firstFault {fault : α → Option ε}
    (h : ∀ a e, fault a = some e ↔ HasFault a e) {l : List α} {e : ε} :
    l.findSome? fault = some e ↔ FirstFault HasFault l e := by
  simp only [List.findSome?_eq_some_iff, FirstFault, h, Option.eq_none_iff_forall_ne_some, ne_eq]

theorem exists_firstFault_iff {l : List α} :
    (∃ e, FirstFault HasFault l e) ↔ ∃ a ∈ l, ∃ e, HasFault a e := by
  constructor
  · rintro ⟨e, before, a, after, rfl, ha, -⟩
    exact ⟨a, List.mem_append_right before List.mem_cons_self, e, ha⟩
  · rintro ⟨a, ha, e, he⟩
    induction l with
    | nil => cases ha
    | cons b rest ih =>
      by_cases hb : ∃ e', HasFault b e'
      · obtain ⟨e', he'⟩ := hb
        exact ⟨e', [], b, rest, rfl, he', fun c hc ↦ absurd hc List.not_mem_nil⟩
      · rcases List.mem_cons.mp ha with rfl | hrest
        · exact absurd ⟨e, he⟩ hb
        · obtain ⟨e', before, c, after, rfl, hc, hbefore⟩ := ih hrest
          refine ⟨e', b :: before, c, after, rfl, hc, List.forall_mem_cons.mpr ⟨?_, hbefore⟩⟩
          exact not_exists.mp hb

end Scan

/-! ## Scans -/

theorem findSome?_congr {f g : α → Option β} {l : List α}
    (h : ∀ a ∈ l, f a = g a) : l.findSome? f = l.findSome? g := by
  induction l with
  | nil => rfl
  | cons a rest ih =>
    rw [List.findSome?_cons, List.findSome?_cons, h a List.mem_cons_self,
      ih fun b hb ↦ h b (List.mem_cons_of_mem a hb)]

theorem findSome?_filterMap {γ : Type} (f : β → Option γ) (g : α → Option β) (l : List α) :
    (l.filterMap g).findSome? f = l.findSome? fun a ↦ (g a).bind f := by
  induction l with
  | nil => rfl
  | cons a rest ih =>
    rw [List.filterMap_cons, List.findSome?_cons]
    cases g a with
    | none => exact ih
    | some b => rw [List.findSome?_cons, ih, Option.bind_some]

theorem findSome?_flatMap {γ : Type} (f : β → Option γ) (g : α → List β) (l : List α) :
    (l.flatMap g).findSome? f = l.findSome? fun a ↦ (g a).findSome? f := by
  induction l with
  | nil => rfl
  | cons a rest ih =>
    rw [List.flatMap_cons, List.findSome?_append, List.findSome?_cons, ih]
    cases (g a).findSome? f <;> rfl

theorem findSome?_filter (f : α → Option β) (sort : α → Bool) (l : List α) :
    (l.filter sort).findSome? f = l.findSome? fun a ↦ if sort a then f a else none := by
  rw [← List.filterMap_eq_filter, findSome?_filterMap]
  refine findSome?_congr fun a _ ↦ ?_
  cases h : sort a <;> simp [Option.guard, h]

end CallRouting
