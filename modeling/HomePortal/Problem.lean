/-!
What can be wrong with data that is read into a type, and the text that names it.
-/

namespace HomePortal

inductive Shape where
  | text
  | boolean
  | list
  | dictionary
  | set
  deriving DecidableEq

namespace Shape

def name : Shape → String
  | text => "string"
  | boolean => "boolean"
  | list => "list"
  | dictionary => "dictionary"
  | set => "frozenset"

end Shape

inductive Cause where
  | missing
  | notRecord (type : String)
  | notShape (shape : Shape)
  | unreadableBoolean
  | notOneOf (known : List String)
  | notTagged
  | untagged
  | unknownTag (tag : String) (known : List String)
  | endlessLabel
  | emptyAlias
  | notNumber
  | notFinite
  | notPositive
  | notWhole
  | longInteger
  | below (bound : Int)
  | above (bound : Int)
  | notEntityId
  | notAttribute
  | notTimeForm
  | noSuchTime
  | notWeekdayList
  | notWeekdayName
  | equalsWithoutState
  | deltaWithoutAttribute
  | positionWithoutAttribute
  | positionWithoutNumber
  | weeklyWithoutWeekday
  | monthlyWithoutDay
  | notCommand
  | unknownCommand (name : String)
  | notNumericValue
  | commandWithoutValue (name : String)
  | notOffered
  deriving DecidableEq

def choices : List String → String
  | [] => ""
  | [only] => "'" ++ only ++ "'"
  | [first, last] => "'" ++ first ++ "' or '" ++ last ++ "'"
  | first :: rest => "'" ++ first ++ "', " ++ choices rest

namespace Cause

def rule? : Cause → Option String
  | endlessLabel => some <| "Exceeds the limit (4300 digits) for integer string conversion; " ++
      "use sys.set_int_max_str_digits() to increase the limit"
  | emptyAlias => some "must not be empty"
  | notNumber => some "must be a number"
  | notFinite => some "must be a finite number"
  | notPositive => some "must be greater than 0"
  | notEntityId => some "must be an entity id like 'light.kitchen'"
  | notAttribute => some "must be a lowercase attribute name"
  | notTimeForm => some "must be HH:MM or HH:MM:SS"
  | noSuchTime => some "must be a valid time of day"
  | notWeekdayList => some "must be a list of weekday names"
  | notWeekdayName => some "weekday names must be strings"
  | equalsWithoutState => some "state_equals requires 'to'"
  | deltaWithoutAttribute => some "attribute_delta requires 'attribute' and 'direction'"
  | positionWithoutAttribute => some "position_equals requires 'attribute'"
  | positionWithoutNumber => some "position_equals requires a numeric 'to'"
  | weeklyWithoutWeekday => some "weekly schedule requires at least one weekday"
  | monthlyWithoutDay => some "monthly schedule requires 'day'"
  | notCommand => some "must be a command id"
  | unknownCommand name => some ("unsupported command '" ++ name ++ "'")
  | notNumericValue => some "must be numeric for this command"
  | commandWithoutValue name => some ("command '" ++ name ++ "' requires 'value'")
  | _ => none

def shapeMessage : Cause → String
  | missing => "Field required"
  | notRecord type => "Input should be a valid dictionary or instance of " ++ type
  | notShape shape => "Input should be a valid " ++ shape.name
  | unreadableBoolean => "Input should be a valid boolean, unable to interpret input"
  | notOneOf known => "Input should be " ++ choices known
  | notTagged => "Input should be a valid dictionary or object to extract fields from"
  | untagged => "Unable to extract tag using discriminator 'type'"
  | unknownTag tag known =>
    "Input tag '" ++ tag ++ "' found using 'type' does not match any of the expected tags: " ++
      String.intercalate ", " (known.map fun name => "'" ++ name ++ "'")
  | notWhole => "Input should be a valid integer, got a number with a fractional part"
  | longInteger => "Unable to parse input string as an integer, exceeded maximum size"
  | below bound => "Input should be greater than or equal to " ++ toString bound
  | above bound => "Input should be less than or equal to " ++ toString bound
  | notOffered => "not offered by the selected device"
  | _ => ""

def message (c : Cause) : String :=
  match c.rule? with
  | some text => "Value error, " ++ text
  | none => c.shapeMessage

end Cause

/-- A cause and the place it was met at, from the outermost field inwards. -/
structure Problem where
  path : List String
  cause : Cause
  deriving DecidableEq

def Problem.text (p : Problem) : String :=
  if p.path.isEmpty then p.cause.message
  else String.intercalate "." p.path ++ ": " ++ p.cause.message

end HomePortal
