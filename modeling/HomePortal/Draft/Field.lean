import HomePortal.Decimal.Reading
import HomePortal.Draft.Basic
import HomePortal.Field
import HomePortal.Text.Lower
import HomePortal.Text.Word
/-!
The fields of a draft, each read from one value: numbers, settings, entity ids, attribute names,
times of day, weekdays and command ids.
-/

namespace HomePortal.Field

/-- Integers from here on, of either sign, have no nearest floating-point number. -/
def integerLimit : Nat :=
  Nat.pow 2 1024 - Nat.pow 2 970

def number : Value → Checked Number
  | .int n => if integerLimit ≤ n.natAbs then .overflow else .valid (.int n)
  | .float x => if x.isFinite then .valid (.real x) else .refuse .notFinite
  | _ => .refuse .notNumber

def setting : Value → Checked Setting
  | .text s => .valid (.text s)
  | value => .number <$> number value

def duration (value : Value) : Checked Number :=
  (number value).andThen fun n => if n.toRat ≤ 0 then .refuse .notPositive else .valid n

/-- A whole number; floating-point numbers only as far as 64 bits reach. -/
def whole (value : Value) : Checked Int :=
  (number value).andThen fun
    | .int n => .valid n
    | .real x =>
      let q := x.toRat
      if q.den ≠ 1 then .refuse .notWhole
      else if -wordBound < q.num ∧ q.num < wordBound then .valid q.num
      else .refuse .longInteger

def dayOfMonth (value : Value) : Checked Int :=
  (whole value).andThen fun n =>
    if n < 1 then .refuse (.below 1)
    else if 31 < n then .refuse (.above 31)
    else .valid n

def title (value : Value) : Checked String :=
  (text value).andThen fun s =>
    let trimmed := Text.trim s
    if trimmed == "" then .refuse .emptyAlias else .valid trimmed

def isIdChar (c : Char) : Bool :=
  Text.isAsciiWord c || c == '-'

def isEntityId (cs : List Char) : Bool :=
  let domain := cs.takeWhile Text.isAsciiWord
  match cs.dropWhile Text.isAsciiWord with
  | '.' :: name => !domain.isEmpty && !name.isEmpty && name.all isIdChar
  | _ => false

/-- An entity id in any case, kept in lower case as the hub keeps it. -/
def entityId (value : Value) : Checked String :=
  (text value).andThen fun s =>
    let cs := Text.trimChars s.toList
    if isEntityId cs then .valid (String.ofList (cs.map Char.toLower))
    else .refuse .notEntityId

def isNameStart (c : Char) : Bool :=
  ('a' ≤ c && c ≤ 'z') || c == '_'

def isNameChar (c : Char) : Bool :=
  isNameStart c || c.isDigit

/-- Whether characters name an attribute. One line break may follow the name. -/
def isAttributeName : List Char → Bool
  | [] => false
  | first :: rest =>
    isNameStart first && (rest.dropWhile isNameChar == [] || rest.dropWhile isNameChar == ['\n'])

def attributeName (value : Value) : Checked String :=
  (text value).andThen fun s =>
    if isAttributeName s.toList then .valid s else .refuse .notAttribute

def digitsValue (digits : List Char) : Nat :=
  digits.foldl (fun n c => 10 * n + (Text.digitValue? c).getD 0) 0

def colonParts (cs : List Char) : List (List Char) :=
  cs.splitOn ':'

def timeDigits? (cs : List Char) : Option TimeOfDay :=
  match colonParts cs with
  | [hour, minute] => if fit hour minute ['0', '0'] then some ⟨hour, minute, none⟩ else none
  | [hour, minute, second] =>
    if fit hour minute second then some ⟨hour, minute, some second⟩ else none
  | _ => none
where
  fit (hour minute second : List Char) : Bool :=
    (hour.length == 1 || hour.length == 2) && minute.length == 2 && second.length == 2 &&
      (hour ++ minute ++ second).all Text.isDigit

def onClock (t : TimeOfDay) : Bool :=
  digitsValue t.hour ≤ 23 && digitsValue t.minute ≤ 59 && digitsValue (t.second.getD []) ≤ 59

def timeOfDay (value : Value) : Checked TimeOfDay :=
  (text value).andThen fun s =>
    match timeDigits? (Text.trimChars s.toList) with
    | none => .refuse .notTimeForm
    | some t => if onClock t then .valid t else .refuse .noSuchTime

def dayNames : List Value → Option (List String)
  | [] => some []
  | .text s :: rest => (dayNames rest).map (Text.lower (Text.trim s) :: ·)
  | _ :: _ => none

def sequence? : Value → Option (List Value)
  | .list items => some items
  | .pair a b => some [a, b]
  | _ => none

/-- The weekdays that a list names, in the order of the week. Other names are passed over. -/
def weekdays (value : Value) : Checked (List Weekday) :=
  match sequence? value with
  | some items =>
    match dayNames items with
    | some names => .valid (Weekday.week.filter fun day => names.contains day.name)
    | none => .refuse .notWeekdayName
  | none => .refuse .notWeekdayList

inductive CommandId where
  | plain (c : PlainCommand)
  | level (c : LevelCommand)
  deriving DecidableEq

def CommandId.name : CommandId → String
  | plain c => c.name
  | level c => c.name

def commands : List CommandId :=
  [.plain .lightToggle, .level .brightness, .level .position, .plain .playPause, .plain .next,
   .plain .previous, .level .volume, .plain .volumeUp, .plain .volumeDown, .plain .tvPower,
   .plain .speakerPower, .level .temperature]

def commandId : Value → Checked CommandId
  | .text s =>
    match commands.find? fun c => c.name == s with
    | some c => .valid c
    | none => .refuse (.unknownCommand s)
  | _ => .refuse .notCommand

def commandValue (command : Checked CommandId) (value : Value) : Checked (Option Setting) :=
  (orNull setting value).andThen fun found =>
    match command, found with
    | .valid (.level _), some (.text s) =>
      match Double.ofText? s with
      | none => .refuse .notNumericValue
      | some x => (fun n => some (.number n)) <$> number (.float x)
    | _, _ => .valid found

end HomePortal.Field
