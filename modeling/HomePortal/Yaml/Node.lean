import HomePortal.Value.Equality
/-!
The data of a file. Moments, lists, sets and mappings may stand in several places at once; those
with the same mark are one and the same, and a change of one shows in all its places.
-/

namespace HomePortal.Yaml

structure Leaf where
  mark : Option Nat
  scalar : Scalar

namespace Leaf

def ofScalar (s : Scalar) : Leaf :=
  ⟨none, s⟩

def isText (name : String) (l : Leaf) : Bool :=
  l.scalar == .text name

end Leaf

/-- Data in its places. A list or mapping that stands again inside itself is told by its mark. -/
inductive Node where
  | leaf (l : Leaf)
  | list (mark : Option Nat) (items : List Node)
  | pair (first second : Node)
  | set (mark : Option Nat) (members : List Leaf)
  | mapping (mark : Option Nat) (entries : List (Leaf × Node))
  | again (mark : Nat) (isList : Bool)

namespace Node

def scalar (s : Scalar) : Node :=
  leaf (.ofScalar s)

instance : Inhabited Node := ⟨scalar .null⟩

mutual

/-- The data without its marks. What stands inside itself is empty there. -/
def value : Node → Value
  | leaf l => .scalar l.scalar
  | list _ items => .list (values items)
  | pair a b => .pair a.value b.value
  | set _ members => .set (members.map Leaf.scalar)
  | mapping _ entries => .mapping (valueEntries entries)
  | again _ isList => if isList then .list [] else .mapping []

def values : List Node → List Value
  | [] => []
  | item :: rest => item.value :: values rest

def valueEntries : List (Leaf × Node) → Entries
  | [] => []
  | (key, item) :: rest => (key.scalar, item.value) :: valueEntries rest

end

mutual

def ofValue : Value → Node
  | .scalar s => scalar s
  | .list items => list none (ofValues items)
  | .pair a b => pair (ofValue a) (ofValue b)
  | .set members => set none (members.map Leaf.ofScalar)
  | .mapping entries => mapping none (ofEntries entries)

def ofValues : List Value → List Node
  | [] => []
  | item :: rest => ofValue item :: ofValues rest

def ofEntries : List (Scalar × Value) → List (Leaf × Node)
  | [] => []
  | (key, item) :: rest => (.ofScalar key, ofValue item) :: ofEntries rest

end

def setEntry (entries : List (Leaf × Node)) (name : String) (item : Node) : List (Leaf × Node) :=
  if entries.any fun entry => entry.1.isText name then
    entries.map fun entry => if entry.1.isText name then (entry.1, item) else entry
  else entries ++ [(.ofScalar (.text name), item)]

def field? (entries : List (Leaf × Node)) (name : String) : Option Node :=
  (entries.find? fun entry => entry.1.isText name).map (·.2)

mutual

/-- Puts a value under a text key of the mapping with a mark, wherever it stands. -/
def setMarked (mark : Nat) (name : String) (item : Node) : Node → Node
  | list m items => list m (setMarkedItems mark name item items)
  | pair a b => pair (setMarked mark name item a) (setMarked mark name item b)
  | mapping m entries =>
    let entries := setMarkedEntries mark name item entries
    mapping m (if m == some mark then setEntry entries name item else entries)
  | node => node

def setMarkedItems (mark : Nat) (name : String) (item : Node) : List Node → List Node
  | [] => []
  | x :: rest => setMarked mark name item x :: setMarkedItems mark name item rest

def setMarkedEntries (mark : Nat) (name : String) (item : Node) :
    List (Leaf × Node) → List (Leaf × Node)
  | [] => []
  | (key, x) :: rest => (key, setMarked mark name item x) :: setMarkedEntries mark name item rest

end

end Node

end HomePortal.Yaml
