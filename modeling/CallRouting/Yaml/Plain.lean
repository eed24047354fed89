import CallRouting.Decimal.Shortest
import CallRouting.Json.Value
import CallRouting.Yaml.Token

/-!
# What plain scalars mean

A scalar that is written without quotes may be the null value, a truth value or a number; if it is
none of these it is a text. Whole numbers are decimal, or hexadecimal, octal or binary after a sign
for that. Digits after a leading zero are a text. A whole number that 64 bits do not hold is refused
as long as 128 bits hold it, and beyond that it is a binary number. A binary number that is too
large is a text, and infinity and what is not a number are null.
-/

namespace CallRouting.Yaml

/-- Whether a plain scalar is the null value. -/
def isNullWord (cs : List Char) : Bool :=
  cs == "null".toList || cs == "Null".toList || cs == "NULL".toList || cs == ['~']

/-- The truth value that a plain scalar is. -/
def truth? (cs : List Char) : Option Bool :=
  if cs == "true".toList || cs == "True".toList || cs == "TRUE".toList then some true
  else if cs == "false".toList || cs == "False".toList || cs == "FALSE".toList then some false
  else none

/-- The value of a digit to a base. -/
def digitOf? (base : Nat) (c : Char) : Option Nat :=
  let value : Option Nat :=
    if '0' ≤ c ∧ c ≤ '9' then some (c.toNat - '0'.toNat)
    else if 'a' ≤ c ∧ c ≤ 'f' then some (c.toNat - 'a'.toNat + 10)
    else if 'A' ≤ c ∧ c ≤ 'F' then some (c.toNat - 'A'.toNat + 10)
    else none
  value.filter (· < base)

/-- The number that digits to a base are; there is at least one digit. -/
def digitsOf? (base : Nat) (cs : List Char) : Option Nat :=
  if cs.isEmpty then none
  else cs.foldl (fun n c ↦ n.bind fun n ↦ (digitOf? base c).map (base * n + ·)) (some 0)

/-- The text after a sign at the front, if it is there. -/
def afterSign (sign : Char) : List Char → List Char
  | c :: rest => if c = sign then rest else c :: rest
  | [] => []

/-- Whether a sign is at the front. -/
def startsWithSign : List Char → Bool
  | c :: _ => c == '+' || c == '-'
  | [] => false

/-- Whether a scalar is digits with a zero that does not count at the front. -/
def hasIdleZero (cs : List Char) : Bool :=
  let cs := if startsWithSign cs then cs.drop 1 else cs
  match cs with
  | '0' :: d :: rest => (d :: rest).all fun c ↦ '0' ≤ c && c ≤ '9'
  | _ => false

/-- The number that digits are, to the base that the signs before them say. -/
def basedDigits? : List Char → Option Nat
  | '0' :: 'x' :: rest => digitsOf? 16 rest
  | '0' :: 'o' :: rest => digitsOf? 8 rest
  | '0' :: 'b' :: rest => digitsOf? 2 rest
  | cs => digitsOf? 10 cs

/-- The whole number that a scalar is. -/
def whole? (cs : List Char) : Option Int :=
  if hasIdleZero cs then none
  else
    match cs with
    | '-' :: rest => (basedDigits? rest).map fun n ↦ -(n : Int)
    | cs => (basedDigits? (afterSign '+' cs)).map fun n ↦ (n : Int)

/-! ## Binary numbers -/

/-- The binary number nearest to a decimal; nothing if it is too large. -/
def nearest? (significand : Nat) (exponent : Int) : Option Decimal.Magnitude :=
  let order := (Decimal.digits significand).length + exponent
  if significand = 0 ∨ order < -400 then some Decimal.Magnitude.zero
  else if 400 < order then none
  else Decimal.Magnitude.ofDecimal significand exponent

/-- The exponent after its letter: a sign, and at least one digit. -/
def exponent? (cs : List Char) : Option Int :=
  let digits := if startsWithSign cs then cs.drop 1 else cs
  (digitsOf? 10 digits).map fun n ↦ if cs.head? == some '-' then -(n : Int) else n

/-- The magnitude that a decimal without its sign is: digits with a point among them, and perhaps an
exponent. -/
def decimal? (cs : List Char) : Option Decimal.Magnitude :=
  let whole := cs.takeWhile Decimal.isDigit
  let rest := cs.dropWhile Decimal.isDigit
  let (fraction, rest) :=
    match rest with
    | '.' :: r => (r.takeWhile Decimal.isDigit, r.dropWhile Decimal.isDigit)
    | r => ([], r)
  let exponent :=
    match rest with
    | [] => some 0
    | c :: r => if c = 'e' ∨ c = 'E' then exponent? r else none
  if whole.isEmpty && fraction.isEmpty then none
  else
    exponent.bind fun e ↦ nearest? (Decimal.ofDigits (whole ++ fraction)) (e - fraction.length)

/-- Whether a scalar is infinity. -/
def isInfinity (cs : List Char) : Bool :=
  let magnitude (cs : List Char) : Bool :=
    cs == ".inf".toList || cs == ".Inf".toList || cs == ".INF".toList
  match cs with
  | '-' :: rest => magnitude rest
  | cs => magnitude (afterSign '+' cs)

/-- Whether a scalar says that it is no number. -/
def isNotANumber (cs : List Char) : Bool :=
  cs == ".nan".toList || cs == ".NaN".toList || cs == ".NAN".toList

/-- The binary number that a scalar is; null for infinity and what is not a number. -/
def binary? (cs : List Char) : Option Json.Value :=
  if isInfinity cs || isNotANumber cs then some .null
  else
    match cs with
    | '+' :: rest =>
      if startsWithSign rest then none
      else (decimal? rest).map fun x ↦ .number (.binary ⟨false, x⟩)
    | '-' :: rest => (decimal? rest).map fun x ↦ .number (.binary ⟨true, x⟩)
    | cs => (decimal? cs).map fun x ↦ .number (.binary ⟨false, x⟩)

/-! ## Values -/

/-- What a scalar is as a number: a value, a whole number that is refused, or no number. -/
inductive Numeral where
  /-- A number, or null in the place of one. -/
  | value (v : Json.Value)
  /-- A whole number that 64 bits do not hold. -/
  | refused
  /-- No number. -/
  | none

/-- The number that a scalar is as a whole number. -/
def wholeNumeral (cs : List Char) : Numeral :=
  match whole? cs with
  | some n =>
    if -Int.pow 2 63 ≤ n ∧ n < Int.pow 2 64 then .value (.number (.whole n))
    else if -Int.pow 2 127 ≤ n ∧ n < Int.pow 2 128 then .refused
    else .none
  | none => .none

/-- The value of a plain scalar without a tag; nothing if it is refused. -/
def plainValue? (cs : List Char) : Option Json.Value :=
  if cs.isEmpty || isNullWord cs then some .null
  else
    match truth? cs with
    | some b => some (.bool b)
    | none =>
      match wholeNumeral cs with
      | .value v => some v
      | .refused => none
      | .none =>
        if hasIdleZero cs then some (.string (String.ofList cs))
        else some ((binary? cs).getD (.string (String.ofList cs)))

/-- The front of the tags of the language itself. -/
def coreTag (name : String) : List Char := ("tag:yaml.org,2002:" ++ name).toList

/-- Whether a tag is one of an application, which no untyped value has. -/
def isLocalTag (tag : Option (List Char)) : Bool := (tag.bind List.head?) == some '!'

/-- The value of a scalar with its tag and its style; nothing if it is refused. -/
def scalarValue? (tag : Option (List Char)) (text : List Char) (style : Style) :
    Option Json.Value :=
  if isLocalTag tag then none
  else
    match tag with
    | none => if style = .plain then plainValue? text else some (.string (String.ofList text))
    | some t =>
      if t = coreTag "bool" then (truth? text).map .bool
      else if t = coreTag "int" then
        match wholeNumeral text with
        | .value v => some v
        | _ => none
      else if t = coreTag "float" then binary? text
      else if t = coreTag "null" then if isNullWord text then some .null else none
      else some (.string (String.ofList text))

end CallRouting.Yaml
