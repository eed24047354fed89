import CallRouting.Proofs.Json.Layout
import CallRouting.Proofs.Json.Reader

/-!
# The document of a value

What the text of a value holds. `leaves_charsIn` says that a reader finds just that, in whatever
layout the value was written. The reader follows the text and the writer follows the value, so the
proof goes through the value, with any blanks before it and anything behind it that does not go on a
number.
-/

namespace CallRouting.Json

mutual

/-- The document of a value. A binary number has none here: only whole numbers are followed through
a text. -/
def Value.doc : Value → Doc
  | .null => .null
  | .bool b => .bool b
  | .number (.whole n) => .number (.ofInt n)
  | .number (.binary _) => .broken
  | .string s => .string (some s)
  | .array items => .array (itemDocs items) true
  | .object members => .object (memberDocs members) true

/-- The documents of items. -/
def itemDocs : List Value → List Doc
  | [] => []
  | v :: rest => v.doc :: itemDocs rest

/-- The documents of members. -/
def memberDocs : List (String × Value) → List (Doc × Doc)
  | [] => []
  | (n, v) :: rest => (.string (some n), v.doc) :: memberDocs rest

end

/-! ## The front of a text -/

theorem exists_cons_of_ofInt (n : ℤ) :
    ∃ c cs, Decimal.ofInt n = c :: cs ∧ (c = '-' ∨ Decimal.isDigit c = true) := by
  cases n with
  | ofNat n =>
    obtain ⟨c, cs, hdigits⟩ := List.exists_cons_of_ne_nil (Decimal.digits_ne_nil n)
    have hc : c ∈ Decimal.digits n := hdigits ▸ List.mem_cons_self
    exact ⟨c, cs, hdigits, Or.inr (Decimal.isDigit_of_mem_digits hc)⟩
  | negSucc n => exact ⟨'-', _, rfl, Or.inl rfl⟩

private theorem not_isSpace_of_number {c : Char} (hc : c = '-' ∨ Decimal.isDigit c = true) :
    isSpace c = false ∧ c ≠ ']' := by
  constructor
  · rw [Bool.eq_false_iff]
    intro hspace
    simp only [isSpace, Bool.or_eq_true, beq_iff_eq] at hspace
    obtain ((rfl | rfl) | rfl) | rfl := hspace <;> simp [Decimal.isDigit] at hc
  · rintro rfl
    simp [Decimal.isDigit] at hc

theorem exists_cons_of_charsIn (L : Layout) (depth : ℕ) {v : Value} (hv : v.InWords) :
    ∃ c cs, v.charsIn L depth = c :: cs ∧ isSpace c = false ∧ c ≠ ']' := by
  cases v with
  | null => exact ⟨'n', _, rfl, rfl, by decide⟩
  | bool b =>
    cases b with
    | true => exact ⟨'t', _, rfl, rfl, by decide⟩
    | false => exact ⟨'f', _, rfl, rfl, by decide⟩
  | number n =>
    cases n with
    | whole n =>
      obtain ⟨c, cs, hchars, hc⟩ := exists_cons_of_ofInt n
      exact ⟨c, cs, hchars, not_isSpace_of_number hc⟩
    | binary x => cases hv
  | string s => exact ⟨'"', _, rfl, rfl, by decide⟩
  | array items =>
    cases items with
    | nil => exact ⟨'[', _, rfl, rfl, by decide⟩
    | cons v rest => exact ⟨'[', _, rfl, rfl, by decide⟩
  | object members =>
    cases members with
    | nil => exact ⟨'{', _, rfl, rfl, by decide⟩
    | cons m rest => exact ⟨'{', _, rfl, rfl, by decide⟩

theorem skipSpaces_itemsIn (L : Layout) (depth : ℕ) {v : Value} (hv : v.InWords)
    (items : List Value) (r : List Char) :
    ∃ c cs, skipSpaces (itemsIn L depth (v :: items) ++ r) = c :: cs ∧ c ≠ ']' := by
  obtain ⟨c, cs, hchars, hspace, hc⟩ := exists_cons_of_charsIn L depth hv
  cases items with
  | nil =>
    rw [itemsIn_singleton_append, hchars, List.cons_append,
      skipSpaces_append (L.line_blank depth) hspace]
    exact ⟨c, _, rfl, hc⟩
  | cons w rest =>
    rw [itemsIn_cons_append, hchars, List.cons_append,
      skipSpaces_append (L.line_blank depth) hspace]
    exact ⟨c, _, rfl, hc⟩

theorem skipSpaces_membersIn (L : Layout) (depth : ℕ) (m : String × Value)
    (members : List (String × Value)) (r : List Char) :
    ∃ cs, skipSpaces (membersIn L depth (m :: members) ++ r) = '"' :: cs := by
  obtain ⟨n, v⟩ := m
  cases members with
  | nil =>
    rw [membersIn_singleton_append]
    exact ⟨_, skipSpaces_append (L.line_blank depth) rfl _⟩
  | cons w rest =>
    rw [membersIn_cons_append]
    exact ⟨_, skipSpaces_append (L.line_blank depth) rfl _⟩

/-! ## Reading -/

private theorem leaves_ofInt {blanks r : List Char} (hblanks : ∀ c ∈ blanks, isSpace c = true)
    (n : ℤ) (hr : EndsNumber r) :
    Leaves (readValue (blanks ++ (Decimal.ofInt n ++ r))) (.number (.ofInt n)) r := by
  have hread := readNumber_ofInt hr n
  obtain ⟨c, cs, hchars, hc⟩ := exists_cons_of_ofInt n
  rw [hchars, List.cons_append] at hread ⊢
  exact leaves_number (skipSpaces_append hblanks (not_isSpace_of_number hc).1 _) hc hread

mutual

/-- **What was written is read.** -/
theorem leaves_charsIn (L : Layout) (depth : ℕ) :
    ∀ (v : Value) (blanks r : List Char), (∀ c ∈ blanks, isSpace c = true) → v.InWords →
      EndsNumber r → Leaves (readValue (blanks ++ (v.charsIn L depth ++ r))) v.doc r
  | .null, blanks, r, hblanks, _, _ => leaves_null (skipSpaces_append hblanks rfl _)
  | .bool true, blanks, r, hblanks, _, _ => leaves_true (skipSpaces_append hblanks rfl _)
  | .bool false, blanks, r, hblanks, _, _ => leaves_false (skipSpaces_append hblanks rfl _)
  | .number (.whole n), blanks, r, hblanks, _, hr => leaves_ofInt hblanks n hr
  | .string s, blanks, r, hblanks, _, _ => by
    rw [Value.charsIn, quote_append, Value.doc]
    have hread := leaves_string (skipSpaces_append hblanks rfl _) (readText_flatMap s.toList r)
    rwa [Option.map_some, String.ofList_toList] at hread
  | .array [], blanks, r, hblanks, _, _ =>
    leaves_array_nil (skipSpaces_append hblanks rfl _) rfl
  | .array (v :: items), blanks, r, hblanks, hv, _ => by
    -- an array that is not empty is told from an empty one by the character after the bracket
    obtain ⟨c, cs, hfront, hc⟩ :=
      skipSpaces_itemsIn L (depth + 1) hv.1 items (L.line depth ++ ']' :: r)
    rw [charsIn_array_append]
    exact leaves_array (skipSpaces_append hblanks rfl _) hfront hc
      (leaves_itemsIn L (depth + 1) depth (v :: items) r (List.cons_ne_nil _ _) hv)
  | .object [], blanks, r, hblanks, _, _ =>
    leaves_object_nil (skipSpaces_append hblanks rfl _) rfl
  | .object (m :: members), blanks, r, hblanks, hv, _ => by
    obtain ⟨cs, hfront⟩ :=
      skipSpaces_membersIn L (depth + 1) m members (L.line depth ++ '}' :: r)
    rw [charsIn_object_append]
    exact leaves_object (skipSpaces_append hblanks rfl _) hfront (by decide)
      (leaves_membersIn L (depth + 1) depth (m :: members) r (List.cons_ne_nil _ _) hv)

theorem leaves_itemsIn (L : Layout) (depth outer : ℕ) :
    ∀ (items : List Value) (r : List Char), items ≠ [] → Value.itemsInWords items →
      Leaves (readItems (itemsIn L depth items ++ (L.line outer ++ ']' :: r))) (itemDocs items) r
  | [v], r, _, hv => by
    -- a number at the end of the items is ended by the closing bracket or the blanks before it
    rw [itemsIn_singleton_append]
    have hends := endsNumber_append (L.line_blank outer) (Or.inr (Or.inl rfl)) r
    exact leaves_item (leaves_charsIn L depth v _ _ (L.line_blank depth) hv.1 hends)
      (skipSpaces_append (L.line_blank outer) rfl r)
  | v :: w :: rest, r, _, hv => by
    rw [itemsIn_cons_append]
    exact leaves_item_cons
      (leaves_charsIn L depth v _ _ (L.line_blank depth) hv.1 (endsNumber_comma _)) rfl
      (leaves_itemsIn L depth outer (w :: rest) r (List.cons_ne_nil _ _) hv.2)

theorem leaves_membersIn (L : Layout) (depth outer : ℕ) :
    ∀ (members : List (String × Value)) (r : List Char),
      members ≠ [] → Value.membersInWords members →
      Leaves (readMembers (membersIn L depth members ++ (L.line outer ++ '}' :: r)))
        (memberDocs members) r
  | [(n, v)], r, _, hv => by
    rw [membersIn_singleton_append]
    have hends := endsNumber_append (L.line_blank outer) (Or.inr (Or.inr rfl)) r
    have hread := leaves_member (skipSpaces_append (L.line_blank depth) rfl _)
      (readText_flatMap n.toList _) (skipSpaces_colon _)
      (leaves_charsIn L depth v _ _ L.gap_blank hv.1 hends)
      (skipSpaces_append (L.line_blank outer) rfl r)
    rwa [Option.map_some, String.ofList_toList] at hread
  | (n, v) :: m :: rest, r, _, hv => by
    rw [membersIn_cons_append]
    have hread := leaves_member_cons (skipSpaces_append (L.line_blank depth) rfl _)
      (readText_flatMap n.toList _) (skipSpaces_colon _)
      (leaves_charsIn L depth v _ _ L.gap_blank hv.1 (endsNumber_comma _)) rfl
      (leaves_membersIn L depth outer (m :: rest) r (List.cons_ne_nil _ _) hv.2)
    rwa [Option.map_some, String.ofList_toList] at hread

end

/-- A text that a value was written in holds the document of the value and nothing more. -/
theorem Doc.read_of_charsIn {L : Layout} {v : Value} {s : String}
    (hs : s.toList = v.charsIn L 0) (hv : v.InWords) : Doc.read s = (v.doc, true) := by
  have hleaves := leaves_charsIn L 0 v [] [] (by simp) hv (by simp [EndsNumber])
  rw [List.nil_append, List.append_nil, ← hs] at hleaves
  obtain ⟨hlt, hread⟩ := hleaves
  rw [Doc.read, hread]
  rfl

end CallRouting.Json
