import HomePortal.Decimal.Reading
import HomePortal.Text.Hex
import HomePortal.Value.Basic
/-!
Foreign data read from JSON text. Integers have any size, the names of the numbers that are not
finite are accepted, and of two entries with one key the later value stands in the earlier place.
-/

namespace HomePortal.Json

def isSpace (c : Char) : Bool :=
  c == ' ' || c == '\t' || c == '\n' || c == '\r'

def skipSpace (cs : List Char) : List Char :=
  cs.dropWhile isSpace

def unit? (cs : List Char) : Option (Nat × List Char) :=
  let digits := cs.take 4
  if digits.length = 4 then (Text.hexNumber? digits).map fun n => (n, cs.drop 4) else none

/-- The character of a code unit, joined with the second half of a pair if one follows. Half a
pair alone is no character here and reads as the replacement character. Where texts are made of code
points it is kept instead, so texts that differ in such halves only become one here. -/
def unitChar (unit : Nat) (rest : List Char) : Char × List Char :=
  if 0xD800 ≤ unit ∧ unit < 0xE000 then
    match rest with
    | '\\' :: 'u' :: tail =>
      match unit? tail with
      | some (low, afterLow) =>
        match Text.joinHalves? unit low with
        | some c => (c, afterLow)
        | none => ('\uFFFD', rest)
      | none => ('\uFFFD', rest)
    | _ => ('\uFFFD', rest)
  else (Char.ofNat unit, rest)

def escape? : Char → Option Char
  | '"' => some '"'
  | '\\' => some '\\'
  | '/' => some '/'
  | 'b' => some '\x08'
  | 'f' => some '\x0C'
  | 'n' => some '\n'
  | 'r' => some '\r'
  | 't' => some '\t'
  | _ => none

def readText (fuel : Nat) (done : List Char) (cs : List Char) : Option (String × List Char) :=
  match fuel, cs with
  | 0, _ | _, [] => none
  | _ + 1, '"' :: rest => some (String.ofList done.reverse, rest)
  | fuel + 1, '\\' :: 'u' :: rest =>
    (unit? rest).bind fun (unit, tail) =>
      let (c, tail) := unitChar unit tail
      readText fuel (c :: done) tail
  | fuel + 1, '\\' :: c :: rest => (escape? c).bind fun c => readText fuel (c :: done) rest
  | fuel + 1, c :: rest => if c.val < 32 then none else readText fuel (c :: done) rest

def readNumber? (cs : List Char) : Option (Value × List Char) :=
  let (negative, body) := match cs with
    | '-' :: rest => (true, rest)
    | _ => (false, cs)
  let whole := match body with
    | '0' :: _ => ['0']
    | _ => body.takeWhile Char.isDigit
  let afterWhole := body.drop whole.length
  let (places, afterPlaces) := match afterWhole with
    | '.' :: tail =>
      let places := tail.takeWhile Char.isDigit
      if places.isEmpty then ([], afterWhole) else (places, tail.drop places.length)
    | _ => ([], afterWhole)
  let (power, rest) := match afterPlaces with
    | mark :: tail =>
      let (minus, signed) := Double.takeSign tail
      let digits := signed.takeWhile Char.isDigit
      if (mark == 'e' || mark == 'E') && !digits.isEmpty then
        (some (if minus then -(natOfDigits digits : Int) else natOfDigits digits),
          signed.drop digits.length)
      else (none, afterPlaces)
    | [] => (none, afterPlaces)
  if whole.isEmpty then none
  else if places.isEmpty && power.isNone then
    if maxDigits < whole.length then none
    else some (.int (if negative then -(natOfDigits whole : Int) else natOfDigits whole), rest)
  else
    let digits := natOfDigits (whole ++ places)
    some (.float (Double.ofDecimal negative digits (power.getD 0 - places.length)), rest)

def words : List (String × Value) :=
  [("null", .null), ("true", .bool true), ("false", .bool false), ("NaN", .float Double.namedNan),
   ("Infinity", .float (Double.infinity false)), ("-Infinity", .float (Double.infinity true))]

def readWord? (cs : List Char) : Option (Value × List Char) :=
  (words.find? fun word => word.1.toList.isPrefixOf cs).map fun word =>
    (word.2, cs.drop word.1.length)

inductive Flaw where
  | malformed
  | tooDeep
  deriving DecidableEq

def maxDepth : Nat :=
  960

def orMalformed {α : Type} : Option α → Except Flaw α
  | some a => .ok a
  | none => .error .malformed

mutual

def readValue (fuel room : Nat) (cs : List Char) : Except Flaw (Value × List Char) :=
  match fuel, room, cs with
  | 0, _, _ => .error .malformed
  | _ + 1, _, '"' :: rest => do
    let (s, rest) ← orMalformed (readText (rest.length + 1) [] rest)
    pure (.text s, rest)
  | _ + 1, 0, '[' :: _ | _ + 1, 0, '\x7b' :: _ => .error .tooDeep
  | fuel + 1, room + 1, '[' :: rest =>
    match skipSpace rest with
    | ']' :: rest => .ok (.list [], rest)
    | rest => readItems fuel room [] rest
  | fuel + 1, room + 1, '\x7b' :: rest =>
    match skipSpace rest with
    | '\x7d' :: rest => .ok (.mapping [], rest)
    | rest => readEntries fuel room [] rest
  | _ + 1, _, cs => orMalformed ((readWord? cs).orElse fun _ => readNumber? cs)

def readItems (fuel room : Nat) (done : List Value) (cs : List Char) :
    Except Flaw (Value × List Char) :=
  match fuel with
  | 0 => .error .malformed
  | fuel + 1 => do
    let (item, rest) ← readValue fuel room (skipSpace cs)
    match skipSpace rest with
    | ',' :: rest => readItems fuel room (item :: done) (skipSpace rest)
    | ']' :: rest => pure (.list (item :: done).reverse, rest)
    | _ => .error .malformed

def readEntries (fuel room : Nat) (done : Entries) (cs : List Char) :
    Except Flaw (Value × List Char) :=
  match fuel, cs with
  | fuel + 1, '"' :: rest => do
    let (key, rest) ← orMalformed (readText (rest.length + 1) [] rest)
    match skipSpace rest with
    | ':' :: rest =>
      let (value, rest) ← readValue fuel room (skipSpace rest)
      let done := done.set key value
      match skipSpace rest with
      | ',' :: rest => readEntries fuel room done (skipSpace rest)
      | '\x7d' :: rest => pure (.mapping done, rest)
      | _ => .error .malformed
    | _ => .error .malformed
  | _, _ => .error .malformed

end

def read (text : String) : Except Flaw Value := do
  let cs := text.toList
  let (value, rest) ← readValue (2 * cs.length + 2) maxDepth (skipSpace cs)
  if (skipSpace rest).isEmpty then pure value else .error .malformed

end HomePortal.Json
