import CallRouting.Proofs.Document.Holding
import CallRouting.Proofs.Json.Value
import CallRouting.Yaml.Place

/-!
# Reading back from YAML

A node is an untyped value if nothing in it is named, tagged or a reference; its members are in the
order of the text. A place that holds such a node answers as the untyped value would have it, so
what a value reads back as is read from every text that is the value (`read_of_readsBack`). Infinity
and what is not a number are read as null where anything may stand, but they are not left out where
something may be, so they are no untyped value here.
-/

namespace CallRouting.Yaml

/-! ## Nodes as untyped values -/

/-- Whether a scalar says that nothing is there. -/
def SaysNull (text : List Char) (style : Style) : Prop :=
  style = .plain ∧ (text.isEmpty || isNullWord text) = true

instance (text : List Char) (style : Style) : Decidable (SaysNull text style) :=
  inferInstanceAs (Decidable (_ ∧ _))

/-- The untyped value that a scalar without a tag is. -/
def untypedScalar? (text : List Char) (style : Style) : Option Json.Value :=
  if SaysNull text style then some .null
  else (scalarValue? none text style).filter (· ≠ .null)

mutual

/-- The untyped value that a node is, with its members in the order of the text. -/
def Node.untyped? {ρ : Type} : Node ρ → Option Json.Value
  | .scalar none none text style => untypedScalar? text style
  | .sequence none none items => (untypedItems? items).map .array
  | .mapping none none entries => (untypedEntries? entries).map .object
  | _ => none

/-- The untyped values that the items of a sequence are. -/
def untypedItems? {ρ : Type} : List (Node ρ) → Option (List Json.Value)
  | [] => some []
  | n :: rest =>
    match n.untyped?, untypedItems? rest with
    | some v, some vs => some (v :: vs)
    | _, _ => none

/-- The names and untyped values that the entries of a mapping are. -/
def untypedEntries? {ρ : Type} : List (Node ρ × Node ρ) → Option (List (String × Json.Value))
  | [] => some []
  | (k, n) :: rest =>
    match k, n.untyped?, untypedEntries? rest with
    | .scalar none none text _, some v, some ms => some ((String.ofList text, v) :: ms)
    | _, _, _ => none

end

/-- The untyped value that a text is: it has one document, and that is one. -/
def untyped? (s : String) : Option Json.Value :=
  match open? s with
  | .error _ => none
  | .ok p => p.node.bind Node.untyped?

/-! ## Scalars -/

section Scalars

variable {text : List Char} {style : Style} {v : Json.Value}

/-- The forms of a scalar that is an untyped value. -/
inductive ScalarForm (text : List Char) (style : Style) : Json.Value → Prop where
  /-- It says that nothing is there. -/
  | null (h : SaysNull text style) : ScalarForm text style .null
  /-- It is the word for a truth value. -/
  | bool {b : Bool} (h : ¬SaysNull text style) (hstyle : style = .plain)
      (htruth : truth? text = some b) : ScalarForm text style (.bool b)
  /-- It is a number. -/
  | number {n : Json.Number} (h : ¬SaysNull text style) : ScalarForm text style (.number n)
  /-- It is a text. -/
  | string (h : ¬SaysNull text style) : ScalarForm text style (.string (String.ofList text))

theorem wholeNumeral_eq_value (h : wholeNumeral text = .value v) : ∃ n, v = .number n := by
  rw [wholeNumeral] at h
  split at h
  · split_ifs at h
    cases h
    exact ⟨_, rfl⟩
  · cases h

theorem binary?_eq_some (h : binary? text = some v) : v = .null ∨ ∃ n, v = .number n := by
  have hsigned : ∀ {negative : Bool} {o : Option Decimal.Magnitude},
      (o.map fun x ↦ Json.Value.number (.binary ⟨negative, x⟩)) = some v → ∃ n, v = .number n := by
    intro negative o ho
    obtain ⟨x, -, rfl⟩ := Option.map_eq_some_iff.mp ho
    exact ⟨_, rfl⟩
  rw [binary?.eq_def] at h
  split_ifs at h
  · cases h
    exact .inl rfl
  · refine .inr ?_
    split at h
    · split_ifs at h
      exact hsigned h
    · exact hsigned h
    · exact hsigned h

/-- A plain scalar that is some value other than null has one of the other forms. -/
theorem scalarForm_of_plainValue? (hnull : ¬SaysNull text .plain) (hv : v ≠ .null)
    (h : plainValue? text = some v) : ScalarForm text .plain v := by
  have hword : (text.isEmpty || isNullWord text) ≠ true := fun hword ↦ hnull ⟨rfl, hword⟩
  rw [plainValue?, if_neg hword] at h
  split at h
  · rename_i b htruth
    cases h
    exact .bool hnull rfl htruth
  · split at h
    · rename_i hnumeral
      cases h
      obtain ⟨n, rfl⟩ := wholeNumeral_eq_value hnumeral
      exact .number hnull
    · cases h
    · split_ifs at h
      · cases h
        exact .string hnull
      · cases hbinary : binary? text with
        | none =>
          rw [hbinary] at h
          cases h
          exact .string hnull
        | some x =>
          rw [hbinary] at h
          cases h
          -- null here is infinity or what is not a number
          obtain rfl | ⟨n, rfl⟩ := binary?_eq_some hbinary
          · exact absurd rfl hv
          · exact .number hnull

theorem scalarForm_of_untypedScalar? (h : untypedScalar? text style = some v) :
    ScalarForm text style v := by
  rw [untypedScalar?] at h
  split_ifs at h with hnull
  · cases h
    exact .null hnull
  · obtain ⟨hvalue, hv⟩ := Option.filter_eq_some_iff.mp h
    rw [decide_eq_true_eq] at hv
    -- without a tag, the style alone decides
    change (if style = .plain then plainValue? text else some (.string (String.ofList text)))
      = some v at hvalue
    split_ifs at hvalue with hstyle
    · subst hstyle
      exact scalarForm_of_plainValue? hnull hv hvalue
    · cases hvalue
      exact .string hnull

theorem scalarValue?_of_untypedScalar? (h : untypedScalar? text style = some v) :
    scalarValue? none text style = some v := by
  rw [untypedScalar?] at h
  split_ifs at h with hnull
  · obtain ⟨rfl, hword⟩ := hnull
    change plainValue? text = some v
    rw [plainValue?, if_pos hword, h]
  · exact (Option.filter_eq_some_iff.mp h).1

end Scalars

/-! ## Nodes -/

section Nodes

variable {ρ : Type} {n : Node ρ}

theorem forall₂_of_untypedItems? {nodes : List (Node ρ)} {items : List Json.Value}
    (h : untypedItems? nodes = some items) :
    List.Forall₂ (fun n v ↦ n.untyped? = some v) nodes items := by
  induction nodes generalizing items with
  | nil =>
    cases h
    exact .nil
  | cons n rest ih =>
    rw [untypedItems?] at h
    split at h
    · rename_i v vs hv hvs
      cases h
      exact .cons hv (ih hvs)
    · cases h

/-- An entry of a mapping is a member: its key is a scalar with the name. -/
structure EntryIs (e : Node ρ × Node ρ) (m : String × Json.Value) : Prop where
  /-- The key is an untagged scalar with the name. -/
  key : ∃ text style, e.1 = .scalar none none text style ∧ String.ofList text = m.1
  /-- The value of the entry is that of the member. -/
  value : e.2.untyped? = some m.2

theorem forall₂_of_untypedEntries? {entries : List (Node ρ × Node ρ)}
    {ms : List (String × Json.Value)} (h : untypedEntries? entries = some ms) :
    List.Forall₂ EntryIs entries ms := by
  induction entries generalizing ms with
  | nil =>
    cases h
    exact .nil
  | cons e rest ih =>
    obtain ⟨k, n⟩ := e
    rw [untypedEntries?.eq_def] at h
    dsimp only at h
    split at h
    · rename_i text style v ms hv hms
      cases h
      exact .cons ⟨⟨text, style, rfl, rfl⟩, hv⟩ (ih hms)
    · cases h

/-- The forms of a node that is an untyped value. -/
inductive NodeForm : Node ρ → Json.Value → Prop where
  /-- A scalar. -/
  | scalar {text : List Char} {style : Style} {v : Json.Value}
      (h : untypedScalar? text style = some v) : NodeForm (.scalar none none text style) v
  /-- A sequence. -/
  | sequence {nodes : List (Node ρ)} {items : List Json.Value}
      (h : List.Forall₂ (fun n v ↦ n.untyped? = some v) nodes items) :
      NodeForm (.sequence none none nodes) (.array items)
  /-- A mapping. -/
  | mapping {entries : List (Node ρ × Node ρ)} {ms : List (String × Json.Value)}
      (h : List.Forall₂ EntryIs entries ms) : NodeForm (.mapping none none entries) (.object ms)

theorem nodeForm_of_untyped? {v : Json.Value} (h : n.untyped? = some v) : NodeForm n v := by
  rw [Node.untyped?.eq_def] at h
  split at h
  · exact .scalar h
  · obtain ⟨items, hitems, rfl⟩ := Option.map_eq_some_iff.mp h
    exact .sequence (forall₂_of_untypedItems? hitems)
  · obtain ⟨ms, hms, rfl⟩ := Option.map_eq_some_iff.mp h
    exact .mapping (forall₂_of_untypedEntries? hms)
  · cases h

end Nodes

/-! ## Values -/

section Values

variable {targets : List (Nat × LinkedNode)} {room : ℕ} {n : LinkedNode} {v : Json.Value}

theorem follow_of_untyped? (targets : List (Nat × LinkedNode)) (h : n.untyped? = some v) :
    follow targets n = n := by
  cases nodeForm_of_untyped? h <;> rfl

theorem value?_scalar (text : List Char) (style : Style) :
    value? targets room (.scalar none none text style) = scalarValue? none text style := by
  cases room <;> rfl

theorem value?_sequence (items : List LinkedNode) :
    value? targets (room + 1) (.sequence none none items)
      = (items.mapM (value? targets room)).map .array := rfl

/-- The value of an entry. -/
def entryValue? (targets : List (Nat × LinkedNode)) (room : ℕ) (e : LinkedNode × LinkedNode) :
    Option (String × Json.Value) :=
  match (follow targets e.1).text?, value? targets room e.2 with
  | some k, some v => some (k, v)
  | _, _ => none

theorem value?_mapping (entries : List (LinkedNode × LinkedNode)) :
    value? targets (room + 1) (.mapping none none entries)
      = (entries.mapM (entryValue? targets room)).map .ofMembers := rfl

theorem mapM_of_forall₂ {α β : Type} {f : α → Option β} {as : List α} {bs : List β}
    (h : List.Forall₂ (fun a b ↦ f a = some b) as bs) : as.mapM f = some bs := by
  induction h with
  | nil => rfl
  | cons hab _ ih =>
    rw [List.mapM_cons, hab, ih]
    rfl

theorem forall₂_imp_of_mem {α β : Type} {R S : α → β → Prop} {as : List α} {bs : List β}
    (h : List.Forall₂ R as bs) (himp : ∀ {a b}, b ∈ bs → R a b → S a b) :
    List.Forall₂ S as bs := by
  induction h with
  | nil => exact .nil
  | cons hab _ ih =>
    exact .cons (himp List.mem_cons_self hab) (ih fun hb ↦ himp (List.mem_cons_of_mem _ hb))

theorem entryValue?_of_entryIs {e : LinkedNode × LinkedNode} {m : String × Json.Value}
    (h : EntryIs e m) (hv : value? targets room e.2 = some m.2) :
    entryValue? targets room e = some m := by
  obtain ⟨text, style, hkey, hname⟩ := h.key
  obtain ⟨name, v⟩ := m
  obtain rfl := hname
  rw [entryValue?, hkey, hv]
  rfl

/-- The value of a node is the untyped value that it is, if every object in that is in order. -/
theorem value?_of_untyped? (targets : List (Nat × LinkedNode)) (h : n.untyped? = some v)
    (horder : v.InOrder) (hdepth : v.depth ≤ room) : value? targets room n = some v := by
  -- the room is what the value is computed by; each collection takes a level of it
  induction room generalizing n v with
  | zero =>
    cases nodeForm_of_untyped? h with
    | scalar hscalar => exact (value?_scalar _ _).trans (scalarValue?_of_untypedScalar? hscalar)
    | sequence _ => exact absurd hdepth (Nat.not_succ_le_zero _)
    | mapping _ => exact absurd hdepth (Nat.not_succ_le_zero _)
  | succ room ih =>
    cases nodeForm_of_untyped? h with
    | scalar hscalar => exact (value?_scalar _ _).trans (scalarValue?_of_untypedScalar? hscalar)
    | @sequence nodes items hitems =>
      have horders := Json.Value.allInOrder_iff.mp horder
      have hdepths := Json.Value.itemsDepth_le_iff.mp (Nat.le_of_succ_le_succ hdepth)
      have hvalues : nodes.mapM (value? targets room) = some items :=
        mapM_of_forall₂ <|
          forall₂_imp_of_mem hitems fun hv hn ↦ ih hn (horders _ hv) (hdepths _ hv)
      rw [value?_sequence, hvalues, Option.map_some]
    | @mapping entries ms hms =>
      have horders := Json.Value.membersInOrder_iff.mp horder.2
      have hdepths := Json.Value.membersDepth_le_iff.mp (Nat.le_of_succ_le_succ hdepth)
      have hvalues : entries.mapM (entryValue? targets room) = some ms :=
        mapM_of_forall₂ <| forall₂_imp_of_mem hms fun hm he ↦
          entryValue?_of_entryIs he (ih he.value (horders _ hm) (hdepths _ hm))
      rw [value?_mapping, hvalues, Option.map_some, Json.Value.ofMembers,
        Json.Value.sortMembers_of_ascending horder.1]

end Values

/-! ## Places -/

/-- A place of YAML holds a value. -/
structure Place.Holds (p : Place) (v : Json.Value) : Prop where
  /-- A node that is the value is there. -/
  node : p.node.bind Node.untyped? = some v
  /-- There is room for the levels of the value. -/
  depth : v.depth ≤ p.room

namespace Place

variable {p : Place}

theorem Holds.content {v : Json.Value} (h : p.Holds v) :
    ∃ n, p.node = some n ∧ p.content = some n ∧ n.untyped? = some v := by
  obtain ⟨n, hnode, hv⟩ := Option.bind_eq_some_iff.mp h.node
  refine ⟨n, hnode, ?_, hv⟩
  rw [Place.content, hnode, Option.map_some, follow_of_untyped? p.targets hv]

/-- What is read where a value other than a collection is held is a scalar of some form. -/
theorem Holds.scalar {v : Json.Value} (h : p.Holds v) (harray : ∀ items, v ≠ .array items)
    (hobject : ∀ ms, v ≠ .object ms) :
    ∃ text style, p.content = some (.scalar none none text style) ∧ ScalarForm text style v := by
  obtain ⟨n, -, hcontent, hv⟩ := h.content
  cases nodeForm_of_untyped? hv with
  | scalar hscalar => exact ⟨_, _, hcontent, scalarForm_of_untypedScalar? hscalar⟩
  | sequence _ => exact absurd rfl (harray _)
  | mapping _ => exact absurd rfl (hobject _)

theorem Holds.string {s : String} (h : p.Holds (.string s)) : p.string = .ok s := by
  obtain ⟨text, style, hcontent, hform⟩ := h.scalar nofun nofun
  rw [Place.string, hcontent]
  cases hform
  rfl

theorem Holds.bool {b : Bool} (h : p.Holds (.bool b)) : p.bool = .ok b := by
  obtain ⟨text, style, hcontent, hform⟩ := h.scalar nofun nofun
  cases hform with
  | bool _ hstyle htruth =>
    rw [Place.bool, hcontent]
    dsimp only
    rw [if_pos (.inl hstyle), htruth]

theorem Holds.choice {α : Type} {s : String} {named : String → Option α} {a : α}
    (h : p.Holds (.string s)) (ha : named s = some a) : p.choice named = .ok a := by
  obtain ⟨text, style, hcontent, hform⟩ := h.scalar nofun nofun
  cases hform
  simp only [Place.choice, hcontent, tagName?, ha]

theorem isNull_of_not_saysNull {text : List Char} {style : Style}
    (hcontent : p.content = some (.scalar none none text style)) (h : ¬SaysNull text style) :
    p.isNull = .ok false := by
  rw [Place.isNull, hcontent]
  cases style with
  | plain =>
    have hword : (text.isEmpty || isNullWord text) = false :=
      Bool.eq_false_of_not_eq_true fun hword ↦ h ⟨rfl, hword⟩
    exact congrArg Except.ok hword
  | quoted => rfl
  | literal => rfl

theorem Holds.isNull {v : Json.Value} (h : p.Holds v) : p.isNull = .ok (decide (v = .null)) := by
  obtain ⟨n, -, hcontent, hv⟩ := h.content
  cases nodeForm_of_untyped? hv with
  | scalar hscalar =>
    cases scalarForm_of_untypedScalar? hscalar with
    | null hnull =>
      obtain ⟨rfl, hword⟩ := hnull
      rw [Place.isNull, hcontent]
      exact congrArg Except.ok hword
    | bool hnull _ _ => exact isNull_of_not_saysNull hcontent hnull
    | number hnull => exact isNull_of_not_saysNull hcontent hnull
    | string hnull => exact isNull_of_not_saysNull hcontent hnull
  | sequence _ =>
    rw [Place.isNull, hcontent]
    rfl
  | mapping _ =>
    rw [Place.isNull, hcontent]
    rfl

theorem Holds.value {v : Json.Value} (h : p.Holds v) (hv : v.InOrder) : p.value = .ok v := by
  obtain ⟨n, hnode, -, hn⟩ := h.content
  rw [Place.value, hnode]
  dsimp only
  rw [value?_of_untyped? p.targets hn hv h.depth]

theorem Holds.list {items : List Json.Value} (h : p.Holds (.array items)) :
    ∃ places, p.list = .ok ⟨places, none⟩ ∧ List.Forall₂ Holds places items := by
  have hroom : 0 < p.room := Nat.lt_of_lt_of_le (Nat.succ_pos _) h.depth
  have hdepths := Json.Value.itemsDepth_le_iff.mp (Nat.le_sub_one_of_lt h.depth)
  obtain ⟨n, -, hcontent, hn⟩ := h.content
  cases nodeForm_of_untyped? hn with
  | scalar hscalar => cases scalarForm_of_untypedScalar? hscalar
  | @sequence nodes items hitems =>
    refine ⟨nodes.map p.enter, ?_, ?_⟩
    · rw [Place.list, isVoid, hcontent]
      exact if_neg hroom.ne'
    · rw [List.forall₂_map_left_iff]
      exact forall₂_imp_of_mem hitems fun hv hn ↦ ⟨hn, hdepths _ hv⟩

theorem Holds.members {ms : List (String × Json.Value)} (h : p.Holds (.object ms)) :
    ∃ places, p.map = .ok ⟨places, none⟩ ∧ p.record = .ok (.named ⟨places, none⟩) ∧
      List.Forall₂ (fun e m ↦ e.1 = .ok m.1 ∧ Holds e.2 m.2) places ms := by
  have hroom : 0 < p.room := Nat.lt_of_lt_of_le (Nat.succ_pos _) h.depth
  have hdepths := Json.Value.membersDepth_le_iff.mp (Nat.le_sub_one_of_lt h.depth)
  obtain ⟨n, -, hcontent, hn⟩ := h.content
  cases nodeForm_of_untyped? hn with
  | scalar hscalar => cases scalarForm_of_untypedScalar? hscalar
  | @mapping entries ms hms =>
    have hmap : p.map = .ok ⟨entries.map p.member, none⟩ := by
      rw [Place.map, isVoid, hcontent]
      exact if_neg hroom.ne'
    refine ⟨entries.map p.member, hmap, ?_, ?_⟩
    · rw [Place.record, hmap]
      rfl
    · rw [List.forall₂_map_left_iff]
      refine forall₂_imp_of_mem hms fun hm he ↦ ⟨?_, he.value, hdepths _ hm⟩
      obtain ⟨text, style, hkey, hname⟩ := he.key
      rw [member, Place.string, Place.content, enter, Option.map_some, hkey, ← hname]
      rfl

instance : Holding Place Fault where
  Holds := Holds
  string := Holds.string
  bool := Holds.bool
  isNull := Holds.isNull
  choice := Holds.choice
  list := Holds.list
  members := Holds.members
  value := Holds.value

end Place

/-! ## Texts -/

theorem room_of_open? {s : String} {p : Place} (h : open? s = .ok p) : p.room = greatestDepth := by
  rw [open?] at h
  split at h
  · cases h
  · cases h
    rfl
  · split at h
    · cases h
    · dsimp only at h
      split_ifs at h
      cases h
      rfl
  · cases h

/-- **Reading back.** What an untyped value reads back as is read from every text that is the
untyped value, if it nests no deeper than a text may. -/
theorem read_of_readsBack {α : Type} [Decode α] {v : Json.Value} {a : α} (h : ReadsBack v a)
    {s : String} (hs : untyped? s = some v) (hdepth : v.depth ≤ greatestDepth) :
    read α s = .ok a := by
  rw [untyped?] at hs
  rw [read]
  cases hopen : open? s with
  | error e =>
    rw [hopen] at hs
    cases hs
  | ok p =>
    rw [hopen] at hs
    rw [← room_of_open? hopen] at hdepth
    have hholds : p.Holds v := ⟨hs, hdepth⟩
    exact h.decode_eq p hholds

end CallRouting.Yaml
