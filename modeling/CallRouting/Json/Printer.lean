import CallRouting.Json.Value

/-!
# Writing JSON

Two layouts of one value. The compact layout has no blanks at all. The indented layout puts every
item and every member on a line of its own, two spaces deeper than what holds it, with a space after
the colon of a member; an empty array or object stays on one line. Neither ends with a line break.

In a text, the quote, the backslash and the control characters below the space are escaped, with the
short escapes where there are any.
-/

namespace CallRouting.Json

/-- A digit below sixteen, in lower case. -/
def hexDigit (d : Nat) : Char :=
  if d < 10 then Char.ofNat ('0'.toNat + d) else Char.ofNat ('a'.toNat + (d - 10))

/-- How one character is written inside a text. -/
def escapeChar (c : Char) : List Char :=
  if c = '"' then ['\\', '"']
  else if c = '\\' then ['\\', '\\']
  else if c = '\x08' then ['\\', 'b']
  else if c = '\x0c' then ['\\', 'f']
  else if c = '\n' then ['\\', 'n']
  else if c = '\r' then ['\\', 'r']
  else if c = '\t' then ['\\', 't']
  else if c.toNat < 0x20 then
    ['\\', 'u', '0', '0', hexDigit (c.toNat / 16), hexDigit (c.toNat % 16)]
  else [c]

/-- A text between quotes. -/
def quote (s : String) : List Char := '"' :: s.toList.flatMap escapeChar ++ ['"']

mutual

/-- The compact layout of a value. -/
def Value.compactChars : Value → List Char
  | .null => "null".toList
  | .bool b => if b then "true".toList else "false".toList
  | .number n => n.render
  | .string s => quote s
  | .array items => '[' :: compactItems items ++ [']']
  | .object members => '{' :: compactMembers members ++ ['}']

/-- The items of an array, with a comma between them. -/
def compactItems : List Value → List Char
  | [] => []
  | [v] => v.compactChars
  | v :: rest => v.compactChars ++ ',' :: compactItems rest

/-- The members of an object, with a comma between them. -/
def compactMembers : List (String × Value) → List Char
  | [] => []
  | [(n, v)] => quote n ++ ':' :: v.compactChars
  | (n, v) :: rest => quote n ++ ':' :: v.compactChars ++ ',' :: compactMembers rest

end

/-- A line break and the indentation of the next line. -/
def newLine (depth : Nat) : List Char := '\n' :: List.replicate (2 * depth) ' '

mutual

/-- The indented layout of a value that stands at a depth. -/
def Value.indentedChars (depth : Nat) : Value → List Char
  | .null => "null".toList
  | .bool b => if b then "true".toList else "false".toList
  | .number n => n.render
  | .string s => quote s
  | .array [] => ['[', ']']
  | .array items => '[' :: indentedItems (depth + 1) items ++ newLine depth ++ [']']
  | .object [] => ['{', '}']
  | .object members => '{' :: indentedMembers (depth + 1) members ++ newLine depth ++ ['}']

/-- The items of an array, each on its line. -/
def indentedItems (depth : Nat) : List Value → List Char
  | [] => []
  | [v] => newLine depth ++ v.indentedChars depth
  | v :: rest => newLine depth ++ v.indentedChars depth ++ ',' :: indentedItems depth rest

/-- The members of an object, each on its line. -/
def indentedMembers (depth : Nat) : List (String × Value) → List Char
  | [] => []
  | [(n, v)] => newLine depth ++ quote n ++ ':' :: ' ' :: v.indentedChars depth
  | (n, v) :: rest =>
    newLine depth ++ quote n ++ ':' :: ' ' :: v.indentedChars depth
      ++ ',' :: indentedMembers depth rest

end

/-- A value in the compact layout. -/
def Value.compact (v : Value) : String := String.ofList v.compactChars

/-- A value in the indented layout. -/
def Value.indented (v : Value) : String := String.ofList (v.indentedChars 0)

end CallRouting.Json
