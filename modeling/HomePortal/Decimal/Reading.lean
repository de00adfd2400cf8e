import HomePortal.Decimal.Double
import HomePortal.Text.Blank
import HomePortal.Text.Digit
import HomePortal.Text.Hex
/-!
Numbers read from text: decimal and exponent forms, infinities and not-a-number, integers in other
bases.
-/

namespace HomePortal

def natOfDigits (digits : List Char) : Nat :=
  digits.foldl (fun n c => 10 * n + (c.toNat - '0'.toNat)) 0

namespace Double

/-- The number nearest to `digits * 10 ^ exponent`. Far out of range the answer is known without
the power. -/
def ofDecimal (negative : Bool) (digits : Nat) (exponent : Int) : Double :=
  let size : Int := exponent + (Nat.toDigits 10 digits).length
  if digits = 0 ∨ size < -330 then zero negative
  else if 310 < size then infinity negative
  else if 0 ≤ exponent then ofRatio negative (digits * Nat.pow 10 exponent.toNat) 1
  else ofRatio negative digits (Nat.pow 10 (-exponent).toNat)

def takeSign : List Char → Bool × List Char
  | '-' :: rest => (true, rest)
  | '+' :: rest => (false, rest)
  | cs => (false, cs)

def exponent? : List Char → Option Int
  | [] => some 0
  | mark :: rest =>
    let (negative, digits) := takeSign rest
    if (mark == 'e' || mark == 'E') && !digits.isEmpty && digits.all Char.isDigit then
      some (if negative then -(natOfDigits digits : Int) else natOfDigits digits)
    else none

def ofPlain? (negative : Bool) (cs : List Char) : Option Double :=
  let whole := cs.takeWhile Char.isDigit
  let afterWhole := cs.dropWhile Char.isDigit
  let (places, rest) := match afterWhole with
    | '.' :: tail => (tail.takeWhile Char.isDigit, tail.dropWhile Char.isDigit)
    | tail => ([], tail)
  if whole.isEmpty && places.isEmpty then none
  else (exponent? rest).map fun e =>
    ofDecimal negative (natOfDigits (whole ++ places)) (e - places.length)

def plainDigit (c : Char) : Char :=
  match Text.digitValue? c with
  | some n => Char.ofNat ('0'.toNat + n)
  | none => c

def numberText (cs : List Char) : List Char :=
  (Text.stripChars Text.isNumberBlank cs).map plainDigit

def dropUnderscores? (before : Option Char) : List Char → Option (List Char)
  | [] => some []
  | '_' :: rest =>
    if before.any Char.isDigit && rest.head?.any Char.isDigit then dropUnderscores? (some '_') rest
    else none
  | c :: rest => (dropUnderscores? (some c) rest).map (c :: ·)

/-- The number a text writes. Blanks around it, digits of every script and underscores between
digits are accepted, and the names of the values that are not finite in any case. -/
def ofText? (text : String) : Option Double :=
  let (negative, body) := takeSign (numberText text.toList)
  let name := String.ofList (body.map Char.toLower)
  if name == "inf" || name == "infinity" then some (infinity negative)
  else if name == "nan" then some nan
  else (dropUnderscores? none body).bind (ofPlain? negative)

end Double

def maxDigits : Nat :=
  4300

/-- The integer a text writes in decimal digits of any script, with an optional sign, blanks
around it and underscores between digits. -/
def intOfText? (text : String) : Option Int :=
  let (negative, body) := Double.takeSign (Double.numberText text.toList)
  match Double.dropUnderscores? none body with
  | some digits =>
    if digits.isEmpty || maxDigits < digits.length || !digits.all Char.isDigit then none
    else some (if negative then -(natOfDigits digits : Int) else natOfDigits digits)
  | none => none

def baseLetter? : Nat → Option Char
  | 2 => some 'b'
  | 8 => some 'o'
  | 16 => some 'x'
  | _ => none

def dropBaseMark (base : Nat) : List Char → List Char
  | '0' :: c :: rest => if baseLetter? base == some c.toLower then rest else '0' :: c :: rest
  | cs => cs

def digitsIn? (base : Nat) (cs : List Char) : Option Nat :=
  if cs.isEmpty then none
  else cs.foldlM (fun n c =>
    match Text.hexValue? c with
    | some d => if d < base then some (base * n + d) else none
    | none => none) 0

/-- The integer that a text writes in a base up to sixteen, with an optional sign and blanks around
it. -/
def intInBase? (base : Nat) (cs : List Char) : Option Int :=
  let (negative, body) := Double.takeSign (Double.numberText cs)
  (digitsIn? base (dropBaseMark base body)).map fun n => if negative then -(n : Int) else n

end HomePortal
