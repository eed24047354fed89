import CallRouting.Json.Value
import CallRouting.Proofs.Json.Number
import Mathlib.Data.List.Induction
import Mathlib.Data.String.Basic

/-!
# Values that a text can hold

How deep a value nests, and whether its numbers are such that a text gives them back. A value of
which every object has its members in the order of their names is what sorting leaves as it is.
-/

namespace CallRouting.Json

namespace Value

/-! ## Depth -/

mutual

/-- How many levels of arrays and objects a value nests. -/
def depth : Value → ℕ
  | .array items => itemsDepth items + 1
  | .object members => membersDepth members + 1
  | _ => 0

/-- The greatest depth of an item. -/
def itemsDepth : List Value → ℕ
  | [] => 0
  | v :: rest => max v.depth (itemsDepth rest)

/-- The greatest depth of the value of a member. -/
def membersDepth : List (String × Value) → ℕ
  | [] => 0
  | (_, v) :: rest => max v.depth (membersDepth rest)

end

theorem itemsDepth_le_iff {items : List Value} {n : ℕ} :
    itemsDepth items ≤ n ↔ ∀ v ∈ items, v.depth ≤ n := by
  induction items with
  | nil => simp [itemsDepth]
  | cons v rest ih => rw [itemsDepth, max_le_iff, ih, List.forall_mem_cons]

theorem membersDepth_le_iff {members : List (String × Value)} {n : ℕ} :
    membersDepth members ≤ n ↔ ∀ m ∈ members, m.2.depth ≤ n := by
  induction members with
  | nil => simp [membersDepth]
  | cons m rest ih => rw [membersDepth, max_le_iff, ih, List.forall_mem_cons]

/-! ## Numbers -/

mutual

/-- Whether every number in a value is whole and a word of 64 bits holds it. -/
def InWords : Value → Prop
  | .number n => n.InWord
  | .array items => itemsInWords items
  | .object members => membersInWords members
  | _ => True

/-- Whether that is so of every item. -/
def itemsInWords : List Value → Prop
  | [] => True
  | v :: rest => v.InWords ∧ itemsInWords rest

/-- Whether that is so of the value of every member. -/
def membersInWords : List (String × Value) → Prop
  | [] => True
  | (_, v) :: rest => v.InWords ∧ membersInWords rest

end

theorem itemsInWords_iff {items : List Value} : itemsInWords items ↔ ∀ v ∈ items, v.InWords := by
  induction items with
  | nil => simp [itemsInWords]
  | cons v rest ih => rw [itemsInWords, ih, List.forall_mem_cons]

theorem membersInWords_iff {members : List (String × Value)} :
    membersInWords members ↔ ∀ m ∈ members, m.2.InWords := by
  induction members with
  | nil => simp [membersInWords]
  | cons m rest ih => rw [membersInWords, ih, List.forall_mem_cons]

/-! ## Order -/

theorem allInOrder_iff {items : List Value} : allInOrder items ↔ ∀ v ∈ items, v.InOrder := by
  induction items with
  | nil => simp [allInOrder]
  | cons v rest ih => rw [allInOrder, ih, List.forall_mem_cons]

theorem membersInOrder_iff {members : List (String × Value)} :
    membersInOrder members ↔ ∀ m ∈ members, m.2.InOrder := by
  induction members with
  | nil => simp [membersInOrder]
  | cons m rest ih => rw [membersInOrder, ih, List.forall_mem_cons]

private theorem putMember_of_forall_lt {α : Type} {name : String} (value : α)
    {l : List (String × α)} (h : ∀ m ∈ l, m.1 < name) :
    putMember name value l = l ++ [(name, value)] := by
  induction l with
  | nil => rfl
  | cons m rest ih =>
    obtain ⟨hm, hrest⟩ := List.forall_mem_cons.mp h
    rw [putMember, if_neg hm.ne', if_neg hm.asymm, ih hrest, List.cons_append]

/-- Members in the order of their names are left as they are. -/
theorem sortMembers_of_ascending {α : Type} {l : List (String × α)}
    (h : Ascending (l.map Prod.fst)) : sortMembers l = l := by
  induction l using List.reverseRecOn with
  | nil => rfl
  | append_singleton l m ih =>
    rw [Ascending, List.map_append, List.pairwise_append] at h
    obtain ⟨hl, -, hlast⟩ := h
    have hsorted : sortMembers l = l := ih hl
    rw [sortMembers] at hsorted ⊢
    rw [List.foldl_append, hsorted, List.foldl_cons, List.foldl_nil, putMember_of_forall_lt]
    intro other hother
    exact hlast _ (List.mem_map_of_mem hother) _ (List.mem_singleton.mpr rfl)

end Value

end CallRouting.Json
