import CallRouting.Text.Visible

/-!
# Quoted text

A text as a human reader is shown it: between double quotes, with a backslash before a quote and a
backslash, short escapes for the end of line, tab, carriage return and NUL, and the code point in
hexadecimal for every other character that is not shown as itself.
-/

namespace CallRouting.Text

/-- The digits of a number in lower-case hexadecimal, without leading zeros. -/
def hexDigits (n : Nat) : List Char := Nat.toDigits 16 n

/-- How one character is written between the quotes. -/
def quoteChar (c : Char) : List Char :=
  if c = '"' then ['\\', '"']
  else if c = '\\' then ['\\', '\\']
  else if c = '\n' then ['\\', 'n']
  else if c = '\r' then ['\\', 'r']
  else if c = '\t' then ['\\', 't']
  else if c = '\x00' then ['\\', '0']
  else if isVisible c then [c]
  else ['\\', 'u', '{'] ++ hexDigits c.toNat ++ ['}']

/-- The text between double quotes. -/
def quoted (s : String) : String :=
  String.ofList ('"' :: s.toList.flatMap quoteChar ++ ['"'])

/-- The items of a list between square brackets, separated by a comma and a space. -/
def bracketed (items : List String) : String := "[" ++ ", ".intercalate items ++ "]"

/-- The items of a list between braces, separated by a comma and a space. -/
def braced (items : List String) : String := "\x7b" ++ ", ".intercalate items ++ "\x7d"

/-- A record as a human reader is shown it: its name and its fields in order. -/
def record (name : String) (fields : List (String × String)) : String :=
  match fields with
  | [] => name
  | _ =>
    name ++ " \x7b " ++ ", ".intercalate (fields.map fun f ↦ f.1 ++ ": " ++ f.2) ++ " \x7d"

end CallRouting.Text
