/-!
# Blank characters and trimming

A character is blank if the Unicode character database gives it the property `White_Space`.
`trim` removes the blank characters at both ends of a text and no others.
-/

namespace CallRouting.Text

/-- The characters with the property `White_Space`. -/
def isBlank (c : Char) : Bool :=
  let n := c.toNat
  (0x09 ≤ n && n ≤ 0x0D) || n == 0x20 || n == 0x85 || n == 0xA0 || n == 0x1680 ||
    (0x2000 ≤ n && n ≤ 0x200A) || n == 0x2028 || n == 0x2029 || n == 0x202F || n == 0x205F ||
    n == 0x3000

/-- The list without the elements at its two ends that satisfy `p`. -/
def trimList {α : Type} (p : α → Bool) (l : List α) : List α :=
  ((l.dropWhile p).reverse.dropWhile p).reverse

/-- The text without the blank characters at its two ends. -/
def trim (s : String) : String := String.ofList (trimList isBlank s.toList)

end CallRouting.Text
