import CallRouting.Yaml.Scalar

/-!
# Names, tags and directives in a text

A node may be given a name, by which it can be referred to later, and a tag. A tag is a handle and
what follows it, or a whole URI between angle brackets; characters of a URI may be written as
percent signs and hexadecimal digits. A directive before a document says which version of the
language it is in, or gives a handle its meaning.
-/

namespace CallRouting.Yaml

/-- Reads a name, after its sign. It ends at a gap or at a sign that no name has. -/
def readName (cur : Cursor) : Option (List Char × Cursor) :=
  let (name, next) := cur.span isWordChar
  let ended :=
    match next.rest with
    | [] => true
    | c :: _ =>
      isGap c || c == '?' || c == ':' || c == ',' || c == ']' || c == '\x7d' || c == '%' || c == '@'
        || c == '\x60'
  if name.isEmpty || !ended then none else some (name, next)

/-- Whether a character may stand in a URI; in a whole one, also the signs of collections. -/
def isUriChar (whole : Bool) (c : Char) : Bool :=
  isWordChar c || c == ';' || c == '/' || c == '?' || c == ':' || c == '@' || c == '&' || c == '='
    || c == '+' || c == '$' || c == '.' || c == '%' || c == '!' || c == '~' || c == '*'
    || c == '\'' || c == '(' || c == ')' || (whole && (c == ',' || c == '[' || c == ']'))

/-- The byte of a percent sign and two hexadecimal digits at the front. -/
def uriByte? : List Char → Option Nat
  | '%' :: a :: b :: _ =>
    match hexDigit? a, hexDigit? b with
    | some x, some y => some (16 * x + y)
    | _, _ => none
  | _ => none

/-- How many bytes follow the first one of a character. -/
def trailingBytes? (b : Nat) : Option Nat :=
  if b < 0x80 then some 0
  else if 0xC0 ≤ b ∧ b < 0xE0 then some 1
  else if 0xE0 ≤ b ∧ b < 0xF0 then some 2
  else if 0xF0 ≤ b ∧ b < 0xF8 then some 3
  else none

/-- Reads so many trailing bytes. -/
def readTrailing : Nat → Nat → List Char → Option Nat
  | 0, value, _ => some value
  | n + 1, value, cs =>
    match uriByte? cs with
    | none => none
    | some b => if 0x80 ≤ b ∧ b < 0xC0 then readTrailing n (64 * value + (b - 0x80)) (cs.drop 3)
      else none

/-- The character that starts with a percent sign, and the length of its form. -/
def uriEscape? (cs : List Char) : Option (Char × Nat) :=
  match uriByte? cs with
  | none => none
  | some b =>
    match trailingBytes? b with
    | none => none
    | some n =>
      let front := if n = 0 then b else b % Nat.pow 2 (6 - n)
      (readTrailing n front (cs.drop 3)).map fun value ↦ (Char.ofNat value, 3 * (n + 1))

/-- Reads the characters of a URI, of which there are at most `fuel`. -/
def readUriChars (whole : Bool) : Nat → Cursor → Option (List Char × Cursor)
  | 0, cur => some ([], cur)
  | fuel + 1, cur =>
    match cur.rest with
    | [] => some ([], cur)
    | c :: _ =>
      if !isUriChar whole c then some ([], cur)
      else if c == '%' then
        match uriEscape? cur.rest with
        | none => none
        | some (x, n) => (readUriChars whole fuel (cur.skip n)).map fun r ↦ (x :: r.1, r.2)
      else (readUriChars whole fuel (cur.skip 1)).map fun r ↦ (c :: r.1, r.2)

/-- Reads a URI after its start, which was read before; together they are not empty. -/
def readUri (whole : Bool) (start : List Char) (cur : Cursor) : Option (List Char × Cursor) :=
  match readUriChars whole cur.rest.length cur with
  | none => none
  | some (cs, next) =>
    if start.isEmpty && cs.isEmpty then none else some (start.drop 1 ++ cs, next)

/-- Reads the handle of a tag, with its exclamation marks. -/
def readHandle (cur : Cursor) : List Char × Cursor :=
  let (word, next) := (cur.skip 1).span isWordChar
  if next.rest.head? == some '!' then ('!' :: word ++ ['!'], next.skip 1) else ('!' :: word, next)

/-- Whether a handle ends with an exclamation mark of its own. -/
def isClosedHandle (handle : List Char) : Bool := 1 < handle.length && handle.getLast? == some '!'

/-- Reads a tag, at its exclamation mark: its handle and what follows it. -/
def readTag (flow : Bool) (cur : Cursor) : Option (List Char × List Char × Cursor) :=
  let read : Option (List Char × List Char × Cursor) :=
    match cur.rest with
    | _ :: '<' :: _ =>
      match readUri true [] (cur.skip 2) with
      | some (uri, next) =>
        if next.rest.head? == some '>' then some ([], uri, next.skip 1) else none
      | none => none
    | _ =>
      let (handle, next) := readHandle cur
      if isClosedHandle handle then
        (readUri false [] next).map fun r ↦ (handle, r.1, r.2)
      else
        (readUri false handle next).map fun r ↦
          if r.1.isEmpty then ([], ['!'], r.2) else (['!'], r.1, r.2)
  match read with
  | none => none
  | some (handle, suffix, next) =>
    if atGap next.rest || (flow && next.rest.head? == some ',') then some (handle, suffix, next)
    else none

/-- Reads a number of at most nine digits. -/
def readVersionNumber (cur : Cursor) : Option (Nat × Cursor) :=
  let (digits, next) := cur.span fun c ↦ '0' ≤ c && c ≤ '9'
  if digits.isEmpty || 9 < digits.length then none
  else some (digits.foldl (fun n c ↦ 10 * n + (c.toNat - '0'.toNat)) 0, next)

/-- Reads a version of the language. -/
def readVersion (cur : Cursor) : Option (Token × Cursor) :=
  match readVersionNumber (cur.dropWhile isBlankChar) with
  | none => none
  | some (major, next) =>
    if next.rest.head? == some '.' then
      (readVersionNumber (next.skip 1)).map fun r ↦ (.version major r.1, r.2)
    else none

/-- Reads the meaning of a handle. -/
def readHandleMeaning (cur : Cursor) : Option (Token × Cursor) :=
  let cur := cur.dropWhile isBlankChar
  if cur.rest.head? != some '!' then none
  else
    let (handle, next) := readHandle cur
    if !(handle == ['!'] || isClosedHandle handle) || !(next.rest.head?.any isBlankChar) then none
    else
      match readUri true [] (next.dropWhile isBlankChar) with
      | none => none
      | some (uri, next) => if atGap next.rest then some (.handle handle uri, next) else none

/-- Reads a directive, at its percent sign, to the end of its line. -/
def readDirective (cur : Cursor) : Option (Token × Cursor) :=
  let (name, next) := (cur.skip 1).span isWordChar
  let read : Option (Token × Cursor) :=
    if !atGap next.rest then none
    else if name == ['Y', 'A', 'M', 'L'] then readVersion next
    else if name == ['T', 'A', 'G'] then readHandleMeaning next
    else none
  match read with
  | none => none
  | some (token, next) =>
    let next := next.dropWhile isBlankChar
    let next := if next.rest.head? == some '#' then next.dropWhile (!isBreak ·) else next
    match next.rest with
    | [] => some (token, next)
    | c :: _ => if isBreak c then some (token, next.skip 1) else none

end CallRouting.Yaml
