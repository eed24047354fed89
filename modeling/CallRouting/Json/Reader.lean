import CallRouting.Json.Document

/-!
# Reading JSON text into a document

Every function takes the characters that are left and answers what it read together with the
characters that remain, which are fewer. Where the text has a fault nothing remains: the document
ends there.

`Doc.read` reads a whole text: one value, and whether only blanks follow it.
-/

namespace CallRouting.Json

/-- The characters that separate tokens. -/
def isSpace (c : Char) : Bool := c == ' ' || c == '\n' || c == '\t' || c == '\r'

/-- The characters after the blanks at the front. -/
def skipSpaces (s : List Char) : List Char := s.dropWhile isSpace

/-- What remains of `s` after something was read. -/
abbrev Rest (s : List Char) : Type := { r : List Char // r.length < s.length }

theorem length_skipSpaces_le (s : List Char) : (skipSpaces s).length ≤ s.length :=
  (List.dropWhile_sublist _).length_le

theorem lt_of_skipSpaces {s t r : List Char} (h : skipSpaces s = t) (hr : r.length < t.length) :
    r.length < s.length := by
  have := length_skipSpaces_le s
  rw [h] at this
  omega

/-! ## Texts -/

/-- The value of a hexadecimal digit. -/
def hexValue? (c : Char) : Option Nat :=
  if '0' ≤ c ∧ c ≤ '9' then some (c.toNat - '0'.toNat)
  else if 'a' ≤ c ∧ c ≤ 'f' then some (c.toNat - 'a'.toNat + 10)
  else if 'A' ≤ c ∧ c ≤ 'F' then some (c.toNat - 'A'.toNat + 10)
  else none

/-- The value of four hexadecimal digits. -/
def hexUnit? (a b c d : Char) : Option Nat := do
  let a ← hexValue? a
  let b ← hexValue? b
  let c ← hexValue? c
  let d ← hexValue? d
  return ((a * 16 + b) * 16 + c) * 16 + d

/-- Whether a unit is the first half of a surrogate pair. -/
def isHighUnit (n : Nat) : Bool := 0xD800 ≤ n && n ≤ 0xDBFF

/-- Whether a unit is the second half of a surrogate pair. -/
def isLowUnit (n : Nat) : Bool := 0xDC00 ≤ n && n ≤ 0xDFFF

/-- The character of a surrogate pair. -/
def pairChar (high low : Nat) : Char :=
  Char.ofNat (0x10000 + (high - 0xD800) * 0x400 + (low - 0xDC00))

/-- The character that a one-letter escape stands for. -/
def shortEscape? (c : Char) : Option Char :=
  if c = '"' ∨ c = '\\' ∨ c = '/' then some c
  else if c = 'b' then some '\x08'
  else if c = 'f' then some '\x0c'
  else if c = 'n' then some '\n'
  else if c = 'r' then some '\r'
  else if c = 't' then some '\t'
  else none

/-- What was read of a text: its characters, unless an escape denotes none, and what remains. -/
abbrev TextRead : Type := Option (Option (List Char) × List Char)

/-- Puts a character in front of the text that was read. -/
def TextRead.push (c : Char) (t : TextRead) : TextRead := t.map fun x ↦ (x.1.map (c :: ·), x.2)

/-- Marks the text that was read as having no characters. -/
def TextRead.spoil (t : TextRead) : TextRead := t.map fun x ↦ (none, x.2)

/-- The second half of a surrogate pair, if an escape of one stands at the front. -/
def lowUnit? : List Char → Option Nat
  | '\\' :: 'u' :: a :: b :: c :: d :: _ => (hexUnit? a b c d).filter isLowUnit
  | _ => none

/-- Reads a text up to its closing quote. It fails on a control character, an unknown escape, a bad
hexadecimal digit and the end of the input. -/
def readText : List Char → TextRead
  | [] => none
  | '"' :: r => some (some [], r)
  | '\\' :: 'u' :: a :: b :: c :: d :: r =>
    match hexUnit? a b c d with
    | none => none
    | some n =>
      if isHighUnit n then
        match lowUnit? r with
        | some m => (readText (r.drop 6)).push (pairChar n m)
        | none => (readText r).spoil
      else if isLowUnit n then (readText r).spoil
      else (readText r).push (Char.ofNat n)
  | '\\' :: c :: r =>
    match shortEscape? c with
    | some x => (readText r).push x
    | none => none
  | c :: r => if c = '\\' ∨ c.toNat < 0x20 then none else (readText r).push c
termination_by s => s.length

theorem TextRead.length_of_push {c : Char} {t : TextRead} {x : Option (List Char)} {r : List Char}
    (h : t.push c = some (x, r)) : ∃ y, t = some (y, r) := by
  cases t with
  | none => simp [push] at h
  | some y =>
    simp only [push, Option.map_some, Option.some.injEq, Prod.mk.injEq] at h
    exact ⟨y.1, by rw [← h.2]⟩

theorem TextRead.length_of_spoil {t : TextRead} {x : Option (List Char)} {r : List Char}
    (h : t.spoil = some (x, r)) : ∃ y, t = some (y, r) := by
  cases t with
  | none => simp [spoil] at h
  | some y =>
    simp only [spoil, Option.map_some, Option.some.injEq, Prod.mk.injEq] at h
    exact ⟨y.1, by rw [← h.2]⟩

/-- Less remains after a text than before it. -/
theorem length_lt_of_readText {s : List Char} {x : Option (List Char)} {r : List Char}
    (h : readText s = some (x, r)) : r.length < s.length := by
  fun_induction readText s generalizing x with
  | case1 => simp at h
  | case2 => cases h; simp
  | case3 => simp at h
  | case4 _ _ _ _ _ _ _ _ _ _ ih =>
    obtain ⟨y, hy⟩ := TextRead.length_of_push h
    have := ih hy
    simp only [List.length_cons, List.length_drop] at *
    omega
  | case5 _ _ _ _ _ _ _ _ _ ih =>
    obtain ⟨y, hy⟩ := TextRead.length_of_spoil h
    have := ih hy
    simp only [List.length_cons] at *
    omega
  | case6 _ _ _ _ _ _ _ _ _ ih =>
    obtain ⟨y, hy⟩ := TextRead.length_of_spoil h
    have := ih hy
    simp only [List.length_cons] at *
    omega
  | case7 _ _ _ _ _ _ _ _ _ ih =>
    obtain ⟨y, hy⟩ := TextRead.length_of_push h
    have := ih hy
    simp only [List.length_cons] at *
    omega
  | case8 _ _ _ _ _ ih =>
    obtain ⟨y, hy⟩ := TextRead.length_of_push h
    have := ih hy
    simp only [List.length_cons] at *
    omega
  | case9 => simp at h
  | case10 => simp at h
  | case11 _ _ _ _ _ _ ih =>
    obtain ⟨y, hy⟩ := TextRead.length_of_push h
    have := ih hy
    simp only [List.length_cons] at *
    omega

/-! ## Numbers -/

/-- The digits at the front. -/
def leadingDigits (s : List Char) : List Char := s.takeWhile Decimal.isDigit

/-- What follows the digits at the front. -/
def afterDigits (s : List Char) : List Char := s.dropWhile Decimal.isDigit

/-- Reads the digits after a point, if there is a point; at least one digit follows it. -/
def readFraction : List Char → Option (List Char × List Char)
  | '.' :: r => if leadingDigits r = [] then none else some (leadingDigits r, afterDigits r)
  | s => some ([], s)

/-- Reads the digits of an exponent; there is at least one. -/
def readPower (negative : Bool) (s : List Char) : Option (Option (Bool × List Char) × List Char) :=
  if leadingDigits s = [] then none else some (some (negative, leadingDigits s), afterDigits s)

/-- Reads an exponent, if there is one. -/
def readExponent : List Char → Option (Option (Bool × List Char) × List Char)
  | c :: r =>
    if c = 'e' ∨ c = 'E' then
      match r with
      | '+' :: r' => readPower false r'
      | '-' :: r' => readPower true r'
      | r => readPower false r
    else some (none, c :: r)
  | [] => some (none, [])

/-- Reads a number without its sign: no zero stands before another digit. -/
def readUnsigned (negative : Bool) (s : List Char) : Option (Literal × List Char) :=
  let whole := leadingDigits s
  if whole = [] ∨ (whole.head? = some '0' ∧ 1 < whole.length) then none
  else
    match readFraction (afterDigits s) with
    | none => none
    | some (fraction, r) =>
      match readExponent r with
      | none => none
      | some (exponent, r') => some (⟨negative, whole, fraction, exponent⟩, r')

/-- Reads a number. -/
def readNumber : List Char → Option (Literal × List Char)
  | '-' :: r => readUnsigned true r
  | s => readUnsigned false s

theorem length_afterDigits_le (s : List Char) : (afterDigits s).length ≤ s.length :=
  (List.dropWhile_sublist _).length_le

theorem length_afterDigits_lt {s : List Char} (h : leadingDigits s ≠ []) :
    (afterDigits s).length < s.length := by
  have e : leadingDigits s ++ afterDigits s = s := List.takeWhile_append_dropWhile
  have := congrArg List.length e
  have := List.length_pos_iff.2 h
  simp only [List.length_append] at *
  omega

theorem length_le_of_readFraction {s : List Char} {x : List Char × List Char}
    (h : readFraction s = some x) : x.2.length ≤ s.length := by
  unfold readFraction at h
  split at h
  · split at h
    · simp at h
    · cases h
      have := length_afterDigits_le ‹_›
      simp only [List.length_cons]
      omega
  · cases h; simp

theorem length_le_of_readPower {n : Bool} {s : List Char}
    {x : Option (Bool × List Char) × List Char} (h : readPower n s = some x) :
    x.2.length ≤ s.length := by
  unfold readPower at h
  split at h
  · simp at h
  · cases h; exact length_afterDigits_le s

theorem length_le_of_readExponent {s : List Char} {x : Option (Bool × List Char) × List Char}
    (h : readExponent s = some x) : x.2.length ≤ s.length := by
  unfold readExponent at h
  split at h
  · split at h
    · split at h
      all_goals
        have := length_le_of_readPower h
        simp only [List.length_cons] at *
        omega
    · cases h; simp
  · cases h; simp

theorem length_lt_of_readUnsigned {n : Bool} {s : List Char} {x : Literal × List Char}
    (h : readUnsigned n s = some x) : x.2.length < s.length := by
  unfold readUnsigned at h
  simp only at h
  split at h
  · simp at h
  · rename_i hw
    have hd : leadingDigits s ≠ [] := fun e ↦ hw (.inl e)
    have h₁ := length_afterDigits_lt hd
    split at h
    · simp at h
    · rename_i hf
      have h₂ := length_le_of_readFraction hf
      split at h
      · simp at h
      · rename_i he
        have h₃ := length_le_of_readExponent he
        cases h
        simp only at *
        omega

/-- Less remains after a number than before it. -/
theorem length_lt_of_readNumber {s : List Char} {l : Literal} {r : List Char}
    (h : readNumber s = some (l, r)) : r.length < s.length := by
  unfold readNumber at h
  split at h
  · have := length_lt_of_readUnsigned h
    simp only [List.length_cons] at *
    omega
  · exact length_lt_of_readUnsigned h

/-! ## Values -/

/-- What remains of a longer text. -/
def Rest.weaken {s t : List Char} (h : s.length ≤ t.length) (r : Rest s) : Rest t :=
  ⟨r.1, Nat.lt_of_lt_of_le r.2 h⟩

mutual

/-- Reads one value, with the blanks before it. -/
def readValue (s : List Char) : Doc × Option (Rest s) :=
  match hs : skipSpaces s with
  | 'n' :: 'u' :: 'l' :: 'l' :: r =>
    (.null, some ⟨r, lt_of_skipSpaces hs (by simp only [List.length_cons]; omega)⟩)
  | 't' :: 'r' :: 'u' :: 'e' :: r =>
    (.bool true, some ⟨r, lt_of_skipSpaces hs (by simp only [List.length_cons]; omega)⟩)
  | 'f' :: 'a' :: 'l' :: 's' :: 'e' :: r =>
    (.bool false, some ⟨r, lt_of_skipSpaces hs (by simp only [List.length_cons]; omega)⟩)
  | '"' :: r =>
    have hr : r.length < s.length := lt_of_skipSpaces hs (by simp)
    match ht : readText r with
    | some (t, r') =>
      (.string (t.map String.ofList), some ⟨r', Nat.lt_trans (length_lt_of_readText ht) hr⟩)
    | none => (.broken, none)
  | '[' :: r =>
    have hr : r.length < s.length := lt_of_skipSpaces hs (by simp)
    match hc : skipSpaces r with
    | ']' :: r' => (.array [] true, some ⟨r', Nat.lt_trans (lt_of_skipSpaces hc (by simp)) hr⟩)
    | _ =>
      let (items, rest) := readItems r
      (.array items rest.isSome, rest.map (Rest.weaken (Nat.le_of_lt hr)))
  | '{' :: r =>
    have hr : r.length < s.length := lt_of_skipSpaces hs (by simp)
    match hc : skipSpaces r with
    | '}' :: r' => (.object [] true, some ⟨r', Nat.lt_trans (lt_of_skipSpaces hc (by simp)) hr⟩)
    | _ =>
      let (members, rest) := readMembers r
      (.object members rest.isSome, rest.map (Rest.weaken (Nat.le_of_lt hr)))
  | c :: r =>
    if c = '-' ∨ Decimal.isDigit c then
      match hn : readNumber (c :: r) with
      | some (l, r') => (.number l, some ⟨r', lt_of_skipSpaces hs (length_lt_of_readNumber hn)⟩)
      | none => (.broken, none)
    else (.broken, none)
  | [] => (.broken, none)
termination_by (s.length, 0)

/-- Reads the items of an array, of which there is at least one, and its closing bracket. -/
def readItems (s : List Char) : List Doc × Option (Rest s) :=
  match readValue s with
  | (d, none) => ([d], none)
  | (d, some ⟨r, hr⟩) =>
    match hc : skipSpaces r with
    | ',' :: r' =>
      have hr' : r'.length < s.length := Nat.lt_trans (lt_of_skipSpaces hc (by simp)) hr
      let (ds, rest) := readItems r'
      (d :: ds, rest.map (Rest.weaken (Nat.le_of_lt hr')))
    | ']' :: r' => ([d], some ⟨r', Nat.lt_trans (lt_of_skipSpaces hc (by simp)) hr⟩)
    | _ => ([d], none)
termination_by (s.length, 1)

/-- Reads the members of an object, of which there is at least one, and its closing brace. A member
without a colon has a name and nothing that could be read as its value. -/
def readMembers (s : List Char) : List (Doc × Doc) × Option (Rest s) :=
  match hs : skipSpaces s with
  | '"' :: r =>
    match ht : readText r with
    | none => ([(.broken, .broken)], none)
    | some (t, r₁) =>
      have h₁ : r₁.length < s.length :=
        Nat.lt_trans (length_lt_of_readText ht) (lt_of_skipSpaces hs (by simp))
      match hc : skipSpaces r₁ with
      | ':' :: r₂ =>
        have h₂ : r₂.length < s.length := Nat.lt_trans (lt_of_skipSpaces hc (by simp)) h₁
        match readValue r₂ with
        | (d, none) => ([(.string (t.map String.ofList), d)], none)
        | (d, some ⟨r₃, h₃⟩) =>
          match hr : skipSpaces r₃ with
          | ',' :: r₄ =>
            have h₄ : r₄.length < s.length :=
              Nat.lt_trans (Nat.lt_trans (lt_of_skipSpaces hr (by simp)) h₃) h₂
            let (ms, rest) := readMembers r₄
            ((.string (t.map String.ofList), d) :: ms, rest.map (Rest.weaken (Nat.le_of_lt h₄)))
          | '}' :: r₄ =>
            ([(.string (t.map String.ofList), d)],
              some ⟨r₄, Nat.lt_trans (Nat.lt_trans (lt_of_skipSpaces hr (by simp)) h₃) h₂⟩)
          | _ => ([(.string (t.map String.ofList), d)], none)
      | _ => ([(.string (t.map String.ofList), .broken)], none)
  | _ => ([((readValue s).1, .broken)], none)
termination_by (s.length, 1)

end

/-- The document of a text, and whether nothing but blanks follows it. -/
def Doc.read (s : String) : Doc × Bool :=
  match readValue s.toList with
  | (d, none) => (d, false)
  | (d, some r) => (d, (skipSpaces r.1).isEmpty)

end CallRouting.Json
