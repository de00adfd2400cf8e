import HomePortal.Decimal.Reading
import HomePortal.Decimal.Shortest
import HomePortal.Text.Printable
import HomePortal.Value.Basic
/-!
Foreign data as text. A text is itself at the top and stands in quotes inside other data. Integers of
too many digits are not written out, and neither is what holds one.
-/

namespace HomePortal

def paddedDigits (base width n : Nat) : String :=
  let digits := Nat.toDigits base n
  String.ofList (List.replicate (width - digits.length) '0' ++ digits)

def quotedChar (quote c : Char) : String :=
  if c == quote || c == '\\' then String.ofList ['\\', c]
  else if c == '\n' then "\\n"
  else if c == '\r' then "\\r"
  else if c == '\t' then "\\t"
  else if Text.isPrintable c then c.toString
  else if c.val ≤ 0xFF then "\\x" ++ paddedDigits 16 2 c.toNat
  else if c.val ≤ 0xFFFF then "\\u" ++ paddedDigits 16 4 c.toNat
  else "\\U" ++ paddedDigits 16 8 c.toNat

def quoteFor (cs : List Char) : Char :=
  if cs.contains '\'' && !cs.contains '"' then '"' else '\''

def quoted (s : String) : String :=
  let quote := quoteFor s.toList
  quote.toString ++ String.join (s.toList.map (quotedChar quote)) ++ quote.toString

def quotedByte (quote : Char) (b : UInt8) : String :=
  if b < 128 then quotedChar quote (Char.ofNat b.toNat)
  else "\\x" ++ paddedDigits 16 2 b.toNat

def quotedBytes (data : List UInt8) : String :=
  let quote := quoteFor (data.map fun b => Char.ofNat b.toNat)
  "b" ++ quote.toString ++ String.join (data.map (quotedByte quote)) ++ quote.toString

namespace Clock

def time (c : Clock) : String :=
  paddedDigits 10 2 c.hour ++ ":" ++ paddedDigits 10 2 c.minute ++ ":" ++
    paddedDigits 10 2 c.second ++ (if c.micro = 0 then "" else "." ++ paddedDigits 10 6 c.micro)

def zone (c : Clock) : String :=
  match c.offset with
  | none => ""
  | some seconds =>
    (if seconds < 0 then "-" else "+") ++ paddedDigits 10 2 (seconds.natAbs / 3600) ++ ":" ++
      paddedDigits 10 2 (seconds.natAbs / 60 % 60)

end Clock

namespace Moment

def date (m : Moment) : String :=
  paddedDigits 10 4 m.year ++ "-" ++ paddedDigits 10 2 m.month ++ "-" ++ paddedDigits 10 2 m.day

def format (separator : String) (m : Moment) : String :=
  match m.clock with
  | none => m.date
  | some c => m.date ++ separator ++ c.time ++ c.zone

def innerZone : Int → String
  | 0 => "datetime.timezone.utc"
  | offset => "datetime.timezone(datetime.timedelta(" ++ (if offset < 0 then "days=-1, " else "") ++
      "seconds=" ++ toString (offset % 86400) ++ "))"

def inner (m : Moment) : String :=
  let listed (parts : List Nat) : String := String.intercalate ", " (parts.map toString)
  match m.clock with
  | none => "datetime.date(" ++ listed [m.year, m.month, m.day] ++ ")"
  | some c =>
    let seconds :=
      if c.micro ≠ 0 then [c.second, c.micro] else if c.second ≠ 0 then [c.second] else []
    "datetime.datetime(" ++ listed ([m.year, m.month, m.day, c.hour, c.minute] ++ seconds) ++
      ((c.offset.map fun offset => ", tzinfo=" ++ innerZone offset).getD "") ++ ")"

end Moment

namespace Scalar

def inner : Scalar → String
  | null => "None"
  | bool b => if b then "True" else "False"
  | int n => toString n
  | float x => x.text
  | text s => quoted s
  | moment m => m.inner
  | bytes data => quotedBytes data

def display : Scalar → String
  | text s => s
  | moment m => m.format " "
  | s => s.inner

def hasText : Scalar → Bool
  | int n => n.natAbs < Nat.pow 10 maxDigits
  | _ => true

end Scalar

mutual

def Value.inner : Value → String
  | .scalar s => s.inner
  | .list items => "[" ++ String.intercalate ", " (innerItems items) ++ "]"
  | .pair a b => "(" ++ a.inner ++ ", " ++ b.inner ++ ")"
  | .set [] => "set()"
  | .set members => "\x7b" ++ String.intercalate ", " (members.map Scalar.inner) ++ "\x7d"
  | .mapping entries => "\x7b" ++ String.intercalate ", " (innerEntries entries) ++ "\x7d"

def Value.innerItems : List Value → List String
  | [] => []
  | item :: rest => item.inner :: innerItems rest

def Value.innerEntries : List (Scalar × Value) → List String
  | [] => []
  | (key, value) :: rest => (key.inner ++ ": " ++ value.inner) :: innerEntries rest

end

def Value.display : Value → String
  | .scalar s => s.display
  | value => value.inner

mutual

/-- Whether data is written out at all, on its own and inside other data. -/
def Value.hasText : Value → Bool
  | .scalar s => s.hasText
  | .list items => itemsHaveText items
  | .pair a b => a.hasText && b.hasText
  | .set members => members.all Scalar.hasText
  | .mapping entries => entriesHaveText entries

def Value.itemsHaveText : List Value → Bool
  | [] => true
  | item :: rest => item.hasText && itemsHaveText rest

def Value.entriesHaveText : List (Scalar × Value) → Bool
  | [] => true
  | (key, value) :: rest => key.hasText && (value.hasText && entriesHaveText rest)

end

/-- Data in a message. Of what is not written out, the kind is told. -/
def Value.shown (v : Value) : String :=
  if v.hasText then v.display else "<unprintable " ++ kind ++ " object>"
where
  kind : String := match v with
    | .scalar _ => "int"
    | .list _ => "list"
    | .pair .. => "tuple"
    | .set _ => "set"
    | .mapping _ => "dict"

end HomePortal
