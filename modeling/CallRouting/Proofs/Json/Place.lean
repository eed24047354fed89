import CallRouting.Json.Place
import CallRouting.Proofs.Document.Holding
import CallRouting.Proofs.Json.Document

/-!
# Reading back from JSON

A place holds a value if the document of the value is there, the numbers of the value are whole and
of 64 bits, and there is room for the levels that it nests. Such places answer as the value would
have it, so what a value reads back as is read from its text in any layout (`read_of_readsBack`).
-/

namespace CallRouting.Json

/-! ## Documents of values -/

theorem itemDocs_eq_map (items : List Value) : itemDocs items = items.map Value.doc := by
  induction items with
  | nil => rfl
  | cons v rest ih => rw [itemDocs, List.map_cons, ih]

theorem memberDocs_eq_map (members : List (String × Value)) :
    memberDocs members = members.map fun m ↦ (.string (some m.1), m.2.doc) := by
  induction members with
  | nil => rfl
  | cons m rest ih => rw [memberDocs, List.map_cons, ih]

mutual

/-- The value of a document is the value that it is of. -/
theorem value?_doc : ∀ (v : Value) (room : ℕ), v.InWords → v.InOrder → v.depth ≤ room →
    v.doc.value? room = some v
  | .null, _, _, _, _ => rfl
  | .bool _, _, _, _, _ => rfl
  | .number (.whole n), _, hwords, _, _ =>
    congrArg (Option.map Value.number) (Literal.value_ofInt hwords)
  | .string _, _, _, _, _ => rfl
  | .array items, 0, _, _, hdepth => absurd hdepth (Nat.not_succ_le_zero _)
  | .array items, room + 1, hwords, horder, hdepth => by
    have hitems := values?_itemDocs items room hwords horder (Nat.le_of_succ_le_succ hdepth)
    rw [Value.doc, Doc.value?, if_neg (by simp), Nat.add_sub_cancel, hitems, Option.map_some]
  | .object members, 0, _, _, hdepth => absurd hdepth (Nat.not_succ_le_zero _)
  | .object members, room + 1, hwords, horder, hdepth => by
    have hmembers :=
      memberValues?_memberDocs members room hwords horder.2 (Nat.le_of_succ_le_succ hdepth)
    rw [Value.doc, Doc.value?, if_neg (by simp), Nat.add_sub_cancel, hmembers, Option.map_some,
      Value.ofMembers, Value.sortMembers_of_ascending horder.1]

theorem values?_itemDocs : ∀ (items : List Value) (room : ℕ), Value.itemsInWords items →
    Value.allInOrder items → Value.itemsDepth items ≤ room →
    Doc.values? room (itemDocs items) = some items
  | [], _, _, _, _ => rfl
  | v :: rest, room, hwords, horder, hdepth => by
    obtain ⟨hv, hrest⟩ := max_le_iff.mp hdepth
    rw [itemDocs, Doc.values?, value?_doc v room hwords.1 horder.1 hv,
      values?_itemDocs rest room hwords.2 horder.2 hrest]

theorem memberValues?_memberDocs : ∀ (members : List (String × Value)) (room : ℕ),
    Value.membersInWords members → Value.membersInOrder members →
    Value.membersDepth members ≤ room →
    Doc.memberValues? room (memberDocs members) = some members
  | [], _, _, _, _ => rfl
  | (n, v) :: rest, room, hwords, horder, hdepth => by
    obtain ⟨hv, hrest⟩ := max_le_iff.mp hdepth
    rw [memberDocs, Doc.memberValues?, value?_doc v room hwords.1 horder.1 hv,
      memberValues?_memberDocs rest room hwords.2 horder.2 hrest]
    rfl

end

/-! ## Places -/

/-- A place of JSON holds a value. -/
structure Place.Holds (p : Place) (v : Value) : Prop where
  /-- The document of the value is there. -/
  doc : p.doc = v.doc
  /-- The numbers of the value are whole and of 64 bits. -/
  inWords : v.InWords
  /-- There is room for its levels. -/
  depth : v.depth ≤ p.room

namespace Place

variable {p : Place}

theorem Holds.string {s : String} (h : p.Holds (.string s)) : p.string = .ok s := by
  rw [Place.string, h.doc]
  rfl

theorem Holds.bool {b : Bool} (h : p.Holds (.bool b)) : p.bool = .ok b := by
  rw [Place.bool, h.doc]
  rfl

theorem Holds.isNull {v : Value} (h : p.Holds v) : p.isNull = .ok (decide (v = .null)) := by
  rw [Place.isNull, h.doc]
  cases v with
  | number n => cases n <;> rfl
  | _ => rfl

theorem Holds.choice {α : Type} {s : String} {named : String → Option α} {a : α}
    (h : p.Holds (.string s)) (ha : named s = some a) : p.choice named = .ok a := by
  simp only [Place.choice, h.doc, Value.doc, ha]

theorem Holds.value {v : Value} (h : p.Holds v) (hv : v.InOrder) : p.value = .ok v := by
  rw [Place.value, h.doc, value?_doc v p.room h.inWords hv h.depth]

theorem Holds.list {items : List Value} (h : p.Holds (.array items)) :
    ∃ places, p.list = .ok ⟨places, none⟩ ∧ List.Forall₂ Holds places items := by
  have hroom : 0 < p.room := Nat.lt_of_lt_of_le (Nat.succ_pos _) h.depth
  refine ⟨(itemDocs items).map p.enter, ?_, ?_⟩
  · rw [Place.list, h.doc, Value.doc]
    exact if_neg hroom.ne'
  · rw [itemDocs_eq_map, List.map_map, List.forall₂_map_left_iff, List.forall₂_same]
    intro v hv
    have hdepth : Value.itemsDepth items ≤ p.room - 1 := Nat.le_sub_one_of_lt h.depth
    exact ⟨rfl, Value.itemsInWords_iff.mp h.inWords v hv, Value.itemsDepth_le_iff.mp hdepth v hv⟩

theorem Holds.members {ms : List (String × Value)} (h : p.Holds (.object ms)) :
    ∃ places, p.map = .ok ⟨places, none⟩ ∧ p.record = .ok (.named ⟨places, none⟩) ∧
      List.Forall₂ (fun e m ↦ e.1 = .ok m.1 ∧ Holds e.2 m.2) places ms := by
  have hroom : 0 < p.room := Nat.lt_of_lt_of_le (Nat.succ_pos _) h.depth
  have hmap : p.map = .ok ⟨(memberDocs ms).map p.member, none⟩ := by
    rw [Place.map, h.doc, Value.doc]
    exact if_neg hroom.ne'
  refine ⟨(memberDocs ms).map p.member, hmap, ?_, ?_⟩
  · rw [Place.record, h.doc, Value.doc]
    dsimp only
    rw [hmap]
    rfl
  · rw [memberDocs_eq_map, List.map_map, List.forall₂_map_left_iff, List.forall₂_same]
    intro m hm
    have hdepth : Value.membersDepth ms ≤ p.room - 1 := Nat.le_sub_one_of_lt h.depth
    exact ⟨rfl, rfl, Value.membersInWords_iff.mp h.inWords m hm,
      Value.membersDepth_le_iff.mp hdepth m hm⟩

instance : Holding Place Fault where
  Holds := Holds
  string := Holds.string
  bool := Holds.bool
  isNull := Holds.isNull
  choice := Holds.choice
  list := Holds.list
  members := Holds.members
  value := Holds.value

end Place

/-- **Reading back.** What an untyped value reads back as is read from a text that the untyped value
was written in, if a text can hold it: its numbers are whole and of 64 bits, and it nests no deeper
than a text may. -/
theorem read_of_readsBack {α : Type} [Decode α] {v : Value} {a : α} (h : ReadsBack v a)
    (hwords : v.InWords) (hdepth : v.depth ≤ greatestDepth) {L : Layout} {s : String}
    (hs : s.toList = v.charsIn L 0) : read α s = .ok a := by
  have hholds : Place.Holds ⟨v.doc, greatestDepth⟩ v := ⟨rfl, hwords, hdepth⟩
  have hdecode : decode (Place.mk v.doc greatestDepth) = .ok a := h.decode_eq _ hholds
  rw [read, Doc.read_of_charsIn hs hwords]
  dsimp only
  rw [hdecode]
  rfl

end CallRouting.Json
