/-!
Blank characters, and text without the blanks at its ends.
-/

namespace HomePortal.Text

/-- The space, the line and page controls, the four information separators and the white space of
the other scripts. -/
def isBlank (c : Char) : Bool :=
  (9 ≤ c.val && c.val ≤ 13) || (28 ≤ c.val && c.val ≤ 32) || c.val == 0x85 || c.val == 0xA0 ||
    c.val == 0x1680 || (0x2000 ≤ c.val && c.val ≤ 0x200A) || c.val == 0x2028 || c.val == 0x2029 ||
    c.val == 0x202F || c.val == 0x205F || c.val == 0x3000

/-- A blank that may stand around a number: any but the information separators. -/
def isNumberBlank (c : Char) : Bool :=
  isBlank c && !(28 ≤ c.val && c.val ≤ 31)

def stripChars (p : Char → Bool) (cs : List Char) : List Char :=
  ((cs.dropWhile p).reverse.dropWhile p).reverse

def trimChars (cs : List Char) : List Char :=
  stripChars isBlank cs

def trim (text : String) : String :=
  String.ofList (trimChars text.toList)

end HomePortal.Text
