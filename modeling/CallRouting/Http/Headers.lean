/-!
# Header fields

A header field has a name, which is compared without regard to case and kept in lower case, and a
value. A list of fields may have several fields of one name; their order among each other counts,
and the order of fields of different names does not.
-/

namespace CallRouting.Http

/-- Why a header field is refused. -/
inductive HeaderError where
  /-- The name is empty or has a character that no name has. -/
  | badName
  /-- The value has a character that no value has. -/
  | badValue
  deriving DecidableEq, Repr

/-- The text of a refusal. -/
def HeaderError.message : HeaderError → String
  | badName => "invalid HTTP header name"
  | badValue => "failed to parse header value"

/-- Whether a character may stand in the name of a header field. -/
def isTokenChar (c : Char) : Bool :=
  ('a' ≤ c && c ≤ 'z') || ('A' ≤ c && c ≤ 'Z') || ('0' ≤ c && c ≤ '9') || c == '!' || c == '#'
    || c == '$' || c == '%' || c == '&' || c == '\'' || c == '*' || c == '+' || c == '-' || c == '.'
    || c == '^' || c == '_' || c == '\x60' || c == '|' || c == '~'

/-- A letter of the alphabet in lower case; every other character as it is. -/
def lowerLetter (c : Char) : Char :=
  if 'A' ≤ c ∧ c ≤ 'Z' then Char.ofNat (c.toNat + 32) else c

/-- Whether a character may stand in the value of a header field. -/
def isValueChar (c : Char) : Bool := (0x20 ≤ c.toNat && c.toNat ≠ 0x7F) || c == '\t'

/-- The most characters that a name has. -/
def longestName : Nat := Nat.pow 2 16 - 1

/-- The name of a header field. -/
def headerName? (s : String) : Except HeaderError String :=
  let cs := s.toList
  if cs.isEmpty || longestName < cs.length || !cs.all isTokenChar then .error .badName
  else .ok (String.ofList (cs.map lowerLetter))

/-- The value of a header field. -/
def headerValue? (s : String) : Except HeaderError String :=
  if s.toList.all isValueChar then .ok s else .error .badValue

/-- Header fields: names in lower case, with their values. -/
structure Headers where
  /-- The fields, oldest first. -/
  fields : List (String × String)
  deriving DecidableEq, Repr

namespace Headers

/-- No fields. -/
def empty : Headers := ⟨[]⟩

/-- The values of a name, oldest first. -/
def values (h : Headers) (name : String) : List String :=
  (h.fields.filter fun f ↦ f.1 = name).map Prod.snd

/-- Whether there is a field of a name. -/
def contains (h : Headers) (name : String) : Bool := h.fields.any fun f ↦ f.1 = name

/-- The fields with another one after them. -/
def append (h : Headers) (name value : String) : Headers := ⟨h.fields ++ [(name, value)]⟩

/-- The fields without those of a name. -/
def erase (h : Headers) (name : String) : Headers := ⟨h.fields.filter fun f ↦ f.1 ≠ name⟩

/-- The fields with one value for a name. -/
def replace (h : Headers) (name value : String) : Headers := (h.erase name).append name value

/-- The fields with those of the names that another list has replaced by the fields of that list. -/
def override (h other : Headers) : Headers :=
  ⟨(h.fields.filter fun f ↦ !other.contains f.1) ++ other.fields⟩

/-- The names, each once, in the order of their first fields. -/
def names (h : Headers) : List String := (h.fields.map Prod.fst).eraseDups

end Headers

end CallRouting.Http
