import HomePortal.Decimal.Double
/-!
Foreign data: what a request body, a stored automation or a hub's reply may hold. Mappings keep
the order of their entries; their keys and the members of sets are scalars.
-/

namespace HomePortal

structure Clock where
  hour : Nat
  minute : Nat
  second : Nat
  micro : Nat
  offset : Option Int
  deriving DecidableEq

structure Moment where
  year : Nat
  month : Nat
  day : Nat
  clock : Option Clock
  deriving DecidableEq

inductive Scalar where
  | null
  | bool (b : Bool)
  | int (n : Int)
  | float (x : Double)
  | text (s : String)
  | moment (m : Moment)
  | bytes (data : List UInt8)
  deriving DecidableEq

inductive Value where
  | scalar (s : Scalar)
  | list (items : List Value)
  | pair (first second : Value)
  | set (members : List Scalar)
  | mapping (entries : List (Scalar × Value))

abbrev Entries := List (Scalar × Value)

namespace Value

@[match_pattern] abbrev null : Value := scalar .null
@[match_pattern] abbrev bool (b : Bool) : Value := scalar (.bool b)
@[match_pattern] abbrev int (n : Int) : Value := scalar (.int n)
@[match_pattern] abbrev float (x : Double) : Value := scalar (.float x)
@[match_pattern] abbrev text (s : String) : Value := scalar (.text s)

instance : Inhabited Value := ⟨null⟩

def record (fields : List (String × Value)) : Value :=
  mapping (fields.map fun field => (.text field.1, field.2))

/-- Nothing stands for no item, and anything but a list for one item. -/
def asList : Value → List Value
  | null => []
  | list items => items
  | value => [value]

end Value

/-- Null, false, zero, the empty text and no bytes count as false. -/
def Scalar.isTruthy : Scalar → Bool
  | null => false
  | bool b => b
  | int n => n != 0
  | float x => x.significand != 0 || !x.isFinite
  | text s => s != ""
  | moment _ => true
  | bytes data => !data.isEmpty

def Value.isTruthy : Value → Bool
  | scalar s => s.isTruthy
  | list items => !items.isEmpty
  | pair .. => true
  | set members => !members.isEmpty
  | mapping entries => !entries.isEmpty

namespace Entries

def get? (entries : Entries) (name : String) : Option Value :=
  (entries.find? fun entry => entry.1 == .text name).map (·.2)

def has (entries : Entries) (name : String) : Bool :=
  entries.any fun entry => entry.1 == .text name

def set (entries : Entries) (name : String) (value : Value) : Entries :=
  if entries.has name then
    entries.map fun entry => if entry.1 == .text name then (entry.1, value) else entry
  else entries ++ [(.text name, value)]

end Entries

end HomePortal
