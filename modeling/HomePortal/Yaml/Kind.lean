/-!
The kinds of scalars that plain text is taken for, each told by its form.
-/

namespace HomePortal.Yaml

inductive Kind where
  | null
  | bool
  | int
  | float
  | timestamp
  | binary
  | merge
  | value
  | text
  deriving DecidableEq

namespace Kind

def name : Kind → String
  | null => "null"
  | bool => "bool"
  | int => "int"
  | float => "float"
  | timestamp => "timestamp"
  | binary => "binary"
  | merge => "merge"
  | value => "value"
  | text => "str"

def all : List Kind :=
  [null, bool, int, float, timestamp, binary, merge, value, text]

def nullWords : List String :=
  ["~", "null", "Null", "NULL", ""]

def boolWords : List (String × Bool) :=
  ["yes", "Yes", "YES", "true", "True", "TRUE", "on", "On", "ON"].map (·, true) ++
    ["no", "No", "NO", "false", "False", "FALSE", "off", "Off", "OFF"].map (·, false)

def dropSign : List Char → List Char
  | '-' :: rest => rest
  | '+' :: rest => rest
  | cs => cs

def isDigitOrLine (c : Char) : Bool :=
  c.isDigit || c == '_'

def isDigits : List Char → Bool
  | [] => false
  | c :: rest => c.isDigit && rest.all isDigitOrLine

def isSixtieth : List Char → Bool
  | [a] => a.isDigit
  | [a, b] => '0' ≤ a && a ≤ '5' && b.isDigit
  | _ => false

def isSexagesimal (cs : List Char) : Bool :=
  match cs.splitOn ':' with
  | first :: second :: rest => isDigits first && (second :: rest).all isSixtieth
  | _ => false

def isPlainInt : List Char → Bool
  | '0' :: 'b' :: rest => !rest.isEmpty && rest.all fun c => c == '0' || c == '1' || c == '_'
  | '0' :: 'x' :: rest => !rest.isEmpty && rest.all fun c =>
      isDigitOrLine c || ('a' ≤ c && c ≤ 'f') || ('A' ≤ c && c ≤ 'F')
  | '0' :: rest => rest.all fun c => ('0' ≤ c && c ≤ '7') || c == '_'
  | cs => isDigits cs || isSexagesimal cs

def isExponent : List Char → Bool
  | [] => true
  | mark :: sign :: rest =>
    (mark == 'e' || mark == 'E') && (sign == '-' || sign == '+') && !rest.isEmpty &&
      rest.all Char.isDigit
  | _ => false

/-- Whether a text has the form of a number with a point. Before a point alone there is no
sign. -/
def isFloat (cs : List Char) : Bool :=
  let unsigned := dropSign cs
  let whole := unsigned.takeWhile fun c => c != '.'
  match unsigned.dropWhile fun c => c != '.' with
  | '.' :: places =>
    let exponent := places.dropWhile isDigitOrLine
    (isDigits whole && isExponent exponent) || (isSexagesimal whole && exponent.isEmpty) ||
      (whole.isEmpty && ["inf", "Inf", "INF"].contains (String.ofList places)) ||
      (whole.isEmpty && unsigned == cs &&
        ((places.head?.any Char.isDigit && isExponent exponent) ||
          ["nan", "NaN", "NAN"].contains (String.ofList places)))
  | _ => false

end Kind

structure StampTime where
  hour : Nat
  minute : Nat
  second : Nat
  fraction : List Char
  offset : Option Int
  deriving DecidableEq

structure Stamp where
  year : Nat
  month : Nat
  day : Nat
  time : Option StampTime
  deriving DecidableEq

namespace Stamp

def number? (least most : Nat) (cs : List Char) : Option (Nat × List Char) :=
  let digits := (cs.take most).takeWhile Char.isDigit
  if digits.length < least then none
  else some (digits.foldl (fun n c => 10 * n + (c.toNat - '0'.toNat)) 0, cs.drop digits.length)

def after? (sign : Char) (least most : Nat) : List Char → Option (Nat × List Char)
  | c :: rest => if c == sign then number? least most rest else none
  | [] => none

def isBlank (c : Char) : Bool :=
  c == ' ' || c == '\t'

def offset? (cs : List Char) : Option (Option Int) :=
  if cs.isEmpty then some none
  else match cs.dropWhile isBlank with
    | ['Z'] => some (some 0)
    | sign :: rest => do
      if !(sign == '+' || sign == '-') then none
      let (hours, rest) ← number? 1 2 rest
      let minutes ←
        match rest with
        | [] => some 0
        | rest =>
          match after? ':' 2 2 rest with
          | some (n, []) => some n
          | _ => none
      let total : Int := hours * 60 + minutes
      some (some (if sign == '-' then -total else total))
    | [] => none

def time? (cs : List Char) : Option StampTime := do
  let (hour, cs) ← number? 1 2 cs
  let (minute, cs) ← after? ':' 2 2 cs
  let (second, cs) ← after? ':' 2 2 cs
  let (fraction, cs) := match cs with
    | '.' :: rest => (rest.takeWhile Char.isDigit, rest.dropWhile Char.isDigit)
    | cs => ([], cs)
  let offset ← offset? cs
  some { hour, minute, second, fraction, offset }

def ofLine? (cs : List Char) : Option Stamp := do
  let (year, cs) ← number? 4 4 cs
  let (month, cs) ← after? '-' 1 2 cs
  let (day, cs) ← after? '-' 1 2 cs
  match cs with
  | [] => some { year, month, day, time := none }
  | c :: rest =>
    if c == 'T' || c == 't' then
      some { year, month, day, time := some (← time? rest) }
    else if isBlank c then
      some { year, month, day, time := some (← time? (rest.dropWhile isBlank)) }
    else none

end Stamp

/-- Characters without one line feed at their end, which a form does not count. -/
def dropLineFeed (cs : List Char) : List Char :=
  if cs.getLast? == some '\n' then cs.dropLast else cs

def Stamp.ofText? (cs : List Char) : Option Stamp :=
  ofLine? (dropLineFeed cs)

namespace Kind

/-- A day alone is a timestamp only with two digits for its month and its day. -/
def isTimestamp (cs : List Char) : Bool :=
  match Stamp.ofLine? cs with
  | some s => s.time.isSome || cs.length == 10
  | none => false

/-- The characters that anything but text starts with. -/
def openingSigns : List Char :=
  "~=<+-.0123456789nNtTfFyYoO".toList

def ofPlain (cs : List Char) : Kind :=
  let s := String.ofList cs
  if !cs.head?.all openingSigns.contains then text
  else if nullWords.contains s then null
  else if (boolWords.lookup s).isSome then bool
  else if isFloat cs then float
  else if isPlainInt (dropSign cs) then int
  else if isTimestamp cs then timestamp
  else if s == "<<" then merge
  else if s == "=" then value
  else text

/-- What text in any style is taken for: as plain text without one line feed at its end. A line
feed alone is text. -/
def ofText (cs : List Char) : Kind :=
  if cs == ['\n'] then text else ofPlain (dropLineFeed cs)

end Kind

end HomePortal.Yaml
