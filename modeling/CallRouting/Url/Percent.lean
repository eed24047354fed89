/-!
# Percent encoding

Parts of a URL hold some characters as themselves and all others as the bytes of their UTF-8 form,
each written as a percent sign and two hexadecimal digits in upper case. Which characters are
written like that depends on the part; characters outside ASCII always are.
-/

namespace CallRouting.Url

/-- A digit below sixteen, in upper case. -/
def upperHexDigit (d : Nat) : Char :=
  if d < 10 then Char.ofNat ('0'.toNat + d) else Char.ofNat ('A'.toNat + (d - 10))

/-- The value of a hexadecimal digit. -/
def hexDigitValue? (c : Char) : Option Nat :=
  if '0' ≤ c ∧ c ≤ '9' then some (c.toNat - '0'.toNat)
  else if 'a' ≤ c ∧ c ≤ 'f' then some (c.toNat - 'a'.toNat + 10)
  else if 'A' ≤ c ∧ c ≤ 'F' then some (c.toNat - 'A'.toNat + 10)
  else none

/-- A set of ASCII characters that a part of a URL does not hold as themselves. -/
abbrev EncodeSet : Type := Char → Bool

/-- Control characters. -/
def controls : EncodeSet := fun c ↦ c.toNat < 0x20 || c.toNat == 0x7F

/-- What a fragment does not hold. -/
def fragmentSet : EncodeSet := fun c ↦
  controls c || c == ' ' || c == '"' || c == '<' || c == '>' || c == '\x60'

/-- What a segment of a path does not hold. -/
def pathSet : EncodeSet := fun c ↦
  fragmentSet c || c == '#' || c == '?' || c == '\x7b' || c == '\x7d'

/-- What user names and passwords do not hold. -/
def userinfoSet : EncodeSet := fun c ↦
  pathSet c || c == '/' || c == ':' || c == ';' || c == '=' || c == '@' || c == '[' || c == '\\'
    || c == ']' || c == '^' || c == '|'

/-- What a query does not hold. -/
def querySet : EncodeSet := fun c ↦
  controls c || c == ' ' || c == '"' || c == '#' || c == '<' || c == '>'

/-- What a query of a URL with a special scheme does not hold. -/
def specialQuerySet : EncodeSet := fun c ↦ querySet c || c == '\''

/-- A byte as a percent sign and two digits. -/
def encodeByte (b : UInt8) : List Char :=
  ['%', upperHexDigit (b.toNat / 16), upperHexDigit (b.toNat % 16)]

/-- How a part of a URL holds a character. -/
def encodeChar (set : EncodeSet) (c : Char) : List Char :=
  if c.toNat < 0x80 && !set c then [c] else (String.utf8EncodeChar c).flatMap encodeByte

/-- How a part of a URL holds a text. -/
def encode (set : EncodeSet) (cs : List Char) : List Char := cs.flatMap (encodeChar set)

/-- The bytes of a text, with every percent sign and its two digits replaced by the byte that they
stand for. A percent sign without two digits stands for itself. -/
def decodeBytes : List Char → List UInt8
  | '%' :: a :: b :: rest =>
    match hexDigitValue? a, hexDigitValue? b with
    | some x, some y => UInt8.ofNat (16 * x + y) :: decodeBytes rest
    | _, _ => String.utf8EncodeChar '%' ++ decodeBytes (a :: b :: rest)
  | c :: rest => String.utf8EncodeChar c ++ decodeBytes rest
  | [] => []

end CallRouting.Url
