import HomePortal.Checked
/-!
Fields of a record read from a mapping, and the plain shapes that a field may ask for.
-/

namespace HomePortal

namespace Entries

def first? (entries : Entries) (names : List String) : Option (String × Value) :=
  names.findSome? fun name => (entries.get? name).map fun value => (name, value)

variable {α : Type}

def required (entries : Entries) (name : String) (others : List String)
    (read : Value → Checked α) : Checked α :=
  match entries.first? (name :: others) with
  | some (used, value) => (read value).under used
  | none => (Checked.refuse .missing).under name

def optional (entries : Entries) (names : List String) (default : α)
    (read : Value → Checked α) : Checked α :=
  match entries.first? names with
  | some (used, value) => (read value).under used
  | none => .valid default

end Entries

namespace Field

variable {α : Type}

def text : Value → Checked String
  | .text s => .valid s
  | _ => .refuse (.notShape .text)

def orNull (read : Value → Checked α) : Value → Checked (Option α)
  | .null => .valid none
  | value => some <$> read value

def dictionary : Value → Checked Entries
  | .mapping entries => .valid entries
  | _ => .refuse (.notShape .dictionary)

def record (type : String) : Value → Checked Entries
  | .mapping entries => .valid entries
  | _ => .refuse (.notRecord type)

def texts : Value → Checked (List String)
  | .list items => Checked.items text 0 items
  | _ => .refuse (.notShape .list)

def textSet : Value → Checked (List String)
  | .list items => Checked.items text 0 items
  | _ => .refuse (.notShape .set)

def choice (known : List (String × α)) (value : Value) : Checked α :=
  match value with
  | .text s =>
    match known.lookup s with
    | some a => .valid a
    | none => .refuse (.notOneOf (known.map (·.1)))
  | _ => .refuse (.notOneOf (known.map (·.1)))

def booleanWords : List (String × Bool) :=
  ["1", "on", "t", "true", "y", "yes"].map (·, true) ++
    ["0", "off", "f", "false", "n", "no"].map (·, false)

/-- Integers below this bound, and not below its negative, fit in 64 bits. -/
def wordBound : Int :=
  0x8000000000000000

/-- Whole numbers other than zero and one are read as numbers and then refused. -/
def booleanOfInt (n : Int) : Checked Bool :=
  if n = 0 then .valid false
  else if n = 1 then .valid true
  else if -wordBound ≤ n ∧ n < wordBound then .refuse .unreadableBoolean
  else .refuse (.notShape .boolean)

def flag : Value → Checked Bool
  | .bool b => .valid b
  | .int n => booleanOfInt n
  | .float x =>
    if x.isFinite && x.toRat.den == 1 then booleanOfInt x.toRat.num
    else .refuse (.notShape .boolean)
  | .text s =>
    match booleanWords.lookup (String.ofList (s.toList.map Char.toLower)) with
    | some b => .valid b
    | none => .refuse .unreadableBoolean
  | _ => .refuse (.notShape .boolean)

def boolean : Value → Checked Bool
  | .bool b => .valid b
  | _ => .refuse (.notShape .boolean)

end Field

end HomePortal
