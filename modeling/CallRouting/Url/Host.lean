import CallRouting.Url.Percent
import CallRouting.Url.Punycode

/-!
# Hosts

The host of a URL is a domain name, an address of version 4 or 6, or, when the scheme is not one of
the special ones, any text without the characters that end a host.

A domain name is brought into one form: percent-encoded bytes are decoded, letters are lower-cased,
wide forms become narrow, and a label with characters outside ASCII becomes letters, digits and
hyphens. A name whose last label is a number is an address of version 4.
-/

namespace CallRouting.Url

/-- Why a text is not a URL. -/
inductive Error where
  /-- There is no scheme. -/
  | relative
  /-- There is no host where one is needed. -/
  | emptyHost
  /-- The host is not a domain name. -/
  | badDomain
  /-- The port is not a number below 65536. -/
  | badPort
  /-- The host ends in a number but is no address of version 4. -/
  | badAddress4
  /-- The host is in brackets but is no address of version 6. -/
  | badAddress6
  /-- The host has a character that no host has. -/
  | badHostCharacter
  deriving DecidableEq, Repr

/-- The text of an error. -/
def Error.message : Error → String
  | relative => "relative URL without a base"
  | emptyHost => "empty host"
  | badDomain => "invalid international domain name"
  | badPort => "invalid port number"
  | badAddress4 => "invalid IPv4 address"
  | badAddress6 => "invalid IPv6 address"
  | badHostCharacter => "invalid domain character"

/-- A host. -/
inductive Host where
  /-- A domain name, or any text where the scheme is not special. -/
  | name (s : List Char)
  /-- An address of version 4, as a number of 32 bits. -/
  | address4 (n : Nat)
  /-- An address of version 6, as eight numbers of 16 bits. -/
  | address6 (pieces : List Nat)
  deriving DecidableEq, Repr

/-! ## Domain names -/

/-- The lower-case form of a letter of the Latin, Greek, Cyrillic and Armenian alphabets; any other
character is its own. -/
def lowerCase (c : Char) : Char :=
  let n := c.toNat
  if ('A' ≤ c && c ≤ 'Z') || (0xC0 ≤ n && n ≤ 0xDE && n ≠ 0xD7) || (0x391 ≤ n && n ≤ 0x3AB)
      || (0x410 ≤ n && n ≤ 0x42F) then Char.ofNat (n + 32)
  else if 0x400 ≤ n && n ≤ 0x40F then Char.ofNat (n + 80)
  else if 0x531 ≤ n && n ≤ 0x556 then Char.ofNat (n + 48)
  else if (0x100 ≤ n && n ≤ 0x12F) || (0x132 ≤ n && n ≤ 0x137) || (0x14A ≤ n && n ≤ 0x177)
      || (0x1E00 ≤ n && n ≤ 0x1E95) || (0x460 ≤ n && n ≤ 0x481) || (0x4D0 ≤ n && n ≤ 0x52F) then
    if n % 2 == 0 then Char.ofNat (n + 1) else c
  else if (0x139 ≤ n && n ≤ 0x148) || (0x179 ≤ n && n ≤ 0x17E) then
    if n % 2 == 1 then Char.ofNat (n + 1) else c
  else if n == 0x178 then Char.ofNat 0xFF
  else c

/-- Whether a character vanishes from a domain name. -/
def vanishes (c : Char) : Bool :=
  let n := c.toNat
  n == 0xAD || n == 0x34F || (0x180B ≤ n && n ≤ 0x180F) || n == 0x200B || n == 0x2060
    || n == 0x2064 || (0xFE00 ≤ n && n ≤ 0xFE0F) || n == 0xFEFF

/-- Whether a character cannot stand in a domain name in any form. -/
def isBarred (c : Char) : Bool :=
  let n := c.toNat
  controls c || c == ' ' || c == '#' || c == '%' || c == '/' || c == ':' || c == '<' || c == '>'
    || c == '?' || c == '@' || c == '[' || c == '\\' || c == ']' || c == '^' || c == '|'
    || (0x80 ≤ n && n ≤ 0x9F) || n == 0x1680 || (0x2000 ≤ n && n ≤ 0x200F)
    || (0x2028 ≤ n && n ≤ 0x202E) || (0x2061 ≤ n && n ≤ 0x206F) || (0xE000 ≤ n && n ≤ 0xF8FF)
    || (0xFDD0 ≤ n && n ≤ 0xFDEF) || (0xFFF0 ≤ n && n ≤ 0xFFFF) || n % 0x10000 ≥ 0xFFFE
    || 0xE0000 ≤ n

/-- The form of a character in a domain name, before labels are told apart. -/
def domainChar (c : Char) : List Char :=
  let n := c.toNat
  if vanishes c then []
  else if n == 0x3002 || n == 0xFF0E || n == 0xFF61 then ['.']
  else if n == 0xA0 || n == 0x3000 then [' ']
  else if 0xFF01 ≤ n && n ≤ 0xFF5E then [lowerCase (Char.ofNat (n - 0xFEE0))]
  else [lowerCase c]

/-- Whether a character is in ASCII. -/
def isAscii (c : Char) : Bool := c.toNat < 0x80

/-- A label in the form of ASCII; nothing if it has none. -/
def asciiLabel (label : List Char) : Option (List Char) :=
  if label.any isBarred then none
  else if label.take 4 == ['x', 'n', '-', '-'] then
    if label.all isAscii then
      match Punycode.read (label.drop 4) with
      | none => none
      | some decoded =>
        if decoded.all isAscii || decoded.any isBarred
            || decoded.flatMap domainChar ≠ decoded || decoded.contains '.' then none
        else some label
    else none
  else if label.all isAscii then some label
  else some (['x', 'n', '-', '-'] ++ Punycode.write label)

/-- The list in pieces between the elements that satisfy `p`. -/
def splitList (p : Char → Bool) : List Char → List (List Char)
  | [] => [[]]
  | c :: rest =>
    if p c then [] :: splitList p rest
    else
      match splitList p rest with
      | [] => [[c]]
      | first :: others => (c :: first) :: others

/-- A domain name in the form of ASCII. -/
def asciiDomain (host : List Char) : Except Error (List Char) :=
  match String.fromUTF8? (ByteArray.mk (decodeBytes host).toArray) with
  | none => .error .badDomain
  | some s =>
    match (splitList (· == '.') (s.toList.flatMap domainChar)).mapM asciiLabel with
    | none => .error .badDomain
    | some labels => .ok (['.'].intercalate labels)

/-! ## Addresses of version 4 -/

/-- The value of digits to a base. -/
def ofBase (base : Nat) (cs : List Char) : Nat :=
  cs.foldl (fun n c ↦ base * n + (hexDigitValue? c).getD 0) 0

/-- Whether a character is a digit to a base of at most sixteen. -/
def isDigitOf (base : Nat) (c : Char) : Bool :=
  match hexDigitValue? c with
  | none => false
  | some d => d < base

/-- The number that a part of an address is: hexadecimal after `0x`, octal after a zero. -/
def addressPart? (cs : List Char) : Option Nat :=
  let (base, digits) : Nat × List Char :=
    match cs with
    | '0' :: 'x' :: r => (16, r)
    | '0' :: 'X' :: r => (16, r)
    | '0' :: d :: r => (8, d :: r)
    | r => (10, r)
  if cs.isEmpty then none
  else if digits.all (isDigitOf base) then some (ofBase base digits)
  else none

/-- The parts of a name between its points, without the empty part after a last point. -/
def nameParts (name : List Char) : List (List Char) :=
  let parts := splitList (· == '.') name
  if parts.getLast? == some [] then parts.dropLast else parts

/-- Whether the last part of a name is a number. -/
def endsInNumber (name : List Char) : Bool :=
  match (nameParts name).getLast? with
  | none => false
  | some part => (!part.isEmpty && part.all (isDigitOf 10)) || (addressPart? part).isSome

/-- The address of version 4 that a name is. All parts but the last are one byte each, and the last
part is as many bytes as are left. -/
def readAddress4 (name : List Char) : Except Error Host :=
  let parts := nameParts name
  match parts.mapM addressPart? with
  | none => .error .badAddress4
  | some numbers =>
    let front := numbers.dropLast
    let last := numbers.getLast?.getD 0
    if 4 < parts.length || front.any (255 < ·) || Nat.pow 256 (4 - front.length) ≤ last then
      .error .badAddress4
    else .ok (.address4 (front.zipIdx.foldl (fun n p ↦ n + p.1 * Nat.pow 256 (3 - p.2)) last))

/-- An address of version 4 as text. -/
def renderAddress4 (n : Nat) : String :=
  ".".intercalate <| [3, 2, 1, 0].map fun i ↦ toString (n / Nat.pow 256 i % 256)

/-! ## Addresses of version 6 -/

/-- The four bytes of an address of version 4 that ends one of version 6. -/
def readTail4? (cs : List Char) : Option (List Nat) :=
  let parts := splitList (· == '.') cs
  let byte (p : List Char) : Option Nat :=
    if p.isEmpty || 3 < p.length || !p.all (isDigitOf 10) || (1 < p.length && p.head? == some '0')
    then none
    else if ofBase 10 p ≤ 255 then some (ofBase 10 p) else none
  match parts.mapM byte with
  | some [a, b, c, d] => some [256 * a + b, 256 * c + d]
  | _ => none

/-- A piece of an address of version 6. -/
def piece? (cs : List Char) : Option Nat :=
  if cs.isEmpty || 4 < cs.length || !cs.all (isDigitOf 16) then none else some (ofBase 16 cs)

/-- The pieces of a run of pieces between colons, of which the last may be an address of
version 4. -/
def pieces? (final : Bool) : List (List Char) → Option (List Nat)
  | [] => some []
  | [p] => if final && p.contains '.' then readTail4? p else (piece? p).map ([·])
  | p :: rest =>
    match piece? p, pieces? final rest with
    | some n, some ns => some (n :: ns)
    | _, _ => none

/-- The parts of a text around the first double colon. -/
def splitDoubleColon : List Char → Option (List Char × List Char)
  | ':' :: ':' :: rest => some ([], rest)
  | c :: rest => (splitDoubleColon rest).map fun x ↦ (c :: x.1, x.2)
  | [] => none

/-- The pieces of a side of a double colon; none of an empty side. -/
def side? (final : Bool) (cs : List Char) : Option (List Nat) :=
  if cs.isEmpty then some [] else pieces? final (splitList (· == ':') cs)

/-- The address of version 6 that a text is: eight pieces, or fewer around a double colon that
stands for at least one piece of zero. -/
def readAddress6 (cs : List Char) : Except Error Host :=
  match splitDoubleColon cs with
  | none =>
    match side? true cs with
    | some ns => if ns.length = 8 then .ok (.address6 ns) else .error .badAddress6
    | none => .error .badAddress6
  | some (before, after) =>
    match side? false before, side? true after with
    | some ns, some ms =>
      if ns.length + ms.length < 8 then
        .ok (.address6 (ns ++ List.replicate (8 - ns.length - ms.length) 0 ++ ms))
      else .error .badAddress6
    | _, _ => .error .badAddress6

/-- The place and length of the first longest run of zeros. -/
def longestZeros (ns : List Nat) : Nat × Nat :=
  (List.range ns.length).foldl
    (fun best i ↦
      let n := ((ns.drop i).takeWhile (· == 0)).length
      if best.2 < n then (i, n) else best)
    (0, 0)

/-- A number in hexadecimal, in lower case. -/
def lowerHex (n : Nat) : String := String.ofList (Nat.toDigits 16 n)

/-- An address of version 6 as text: the first longest run of at least two zeros is a double
colon. -/
def renderAddress6 (ns : List Nat) : String :=
  let join (ns : List Nat) : String := ":".intercalate (ns.map lowerHex)
  let (start, length) := longestZeros ns
  if length < 2 then join ns else join (ns.take start) ++ "::" ++ join (ns.drop (start + length))

/-! ## Reading hosts -/

/-- Whether a character cannot stand in the host of a URL whose scheme is not special. -/
def endsHost (c : Char) : Bool :=
  c == '\x00' || c == '\t' || c == '\n' || c == '\r' || c == ' ' || c == '#' || c == '/'
    || c == ':' || c == '<' || c == '>' || c == '?' || c == '@' || c == '[' || c == '\\'
    || c == ']' || c == '^' || c == '|'

/-- Reads an address in brackets, whose opening bracket is already gone. -/
def readBracketed (cs : List Char) : Except Error Host :=
  if cs.getLast? == some ']' then readAddress6 cs.dropLast else .error .badAddress6

/-- Reads the host of a URL with a special scheme. -/
def Host.readSpecial (cs : List Char) : Except Error Host :=
  match cs with
  | '[' :: rest => readBracketed rest
  | _ =>
    match asciiDomain cs with
    | .error e => .error e
    | .ok domain =>
      if domain.isEmpty then .error .emptyHost
      else if endsInNumber domain then readAddress4 domain
      else .ok (.name domain)

/-- Reads the host of a URL with another scheme. -/
def Host.readOpaque (cs : List Char) : Except Error Host :=
  match cs with
  | '[' :: rest => readBracketed rest
  | _ => if cs.any endsHost then .error .badHostCharacter else .ok (.name (encode controls cs))

/-- A host as text. -/
def Host.render : Host → String
  | .name s => String.ofList s
  | .address4 n => renderAddress4 n
  | .address6 ns => "[" ++ renderAddress6 ns ++ "]"

end CallRouting.Url
