import HomePortal.Hub.Basic
import HomePortal.Hub.Folder
import HomePortal.Yaml.Document
/-!
A hub that keeps its automations in one file, as a list of mappings. Whether an automation runs is
kept with it as its state at the start. Every change reads the whole file and writes it again.
-/

namespace HomePortal

structure Format where
  read : ByteArray → Except Failure Yaml.Node
  write : List Yaml.Node → Except Fault ByteArray

def Format.yaml : Format where
  read := Yaml.readBytes
  write nodes := (Yaml.writeList nodes).map String.toUTF8

structure StoredItem where
  mark : Option Nat
  entries : List (Yaml.Leaf × Yaml.Node)

namespace StoredItem

open Yaml (Node)

def ofNode? : Node → Option StoredItem
  | .mapping mark entries => some ⟨mark, entries⟩
  | _ => none

def node (i : StoredItem) : Node :=
  .mapping i.mark i.entries

def fields (i : StoredItem) : Entries :=
  Node.valueEntries i.entries

/-- The id as text; an item without one has the empty text. -/
def idText (i : StoredItem) : String :=
  ((i.fields.get? "id").map Value.display).getD ""

def hasIdText (i : StoredItem) : Bool :=
  (i.fields.get? "id").all Value.hasText

def stateKey : String :=
  "initial_state"

def isEnabled (i : StoredItem) : Bool :=
  match i.fields.get? stateKey with
  | some (.bool false) => false
  | _ => true

def read (i : StoredItem) : Except Failure Automation := do
  let c ← (Config.read (.mapping i.fields)).orFail .data
  pure ⟨none, i.isEnabled, c⟩

/-- Whether an item is listed: it has an id that counts as true. -/
def isListed (i : StoredItem) : Bool :=
  (i.fields.get? "id").any Value.isTruthy

def ofConfig (id : String) (c : Config) : StoredItem :=
  let stored : Config := { c with id }
  ⟨none, Node.ofEntries (stored.payload.map fun field => (.text field.1, field.2))⟩

def replacing (old : StoredItem) (id : String) (c : Config) : StoredItem :=
  let new := ofConfig id c
  match Node.field? old.entries stateKey with
  | some state => { new with entries := Node.setEntry new.entries stateKey state }
  | none => new

def setIn (items : List StoredItem) (i : StoredItem) (position : Nat) (name : String)
    (value : Node) : List StoredItem :=
  match i.mark with
  | some mark => (Node.setMarkedItems mark name value (items.map node)).filterMap ofNode?
  | none => items.set position { i with entries := Node.setEntry i.entries name value }

end StoredItem

structure FileHub where
  format : Format
  path : List String

namespace FileHub

variable (h : FileHub)

def name : String :=
  h.path.getLastD ""

/-- The mappings of the file's list. A missing file and an empty one have none. -/
def items : HubM Folder (List StoredItem) := do
  let f : Folder ← get
  match f.at? h.path with
  | none => pure []
  | some .directory => throw (.hub .inaccessible)
  | some (.file bytes) =>
    match h.format.read bytes with
    | .error e => throw e
    | .ok (.list _ nodes) => pure (nodes.filterMap StoredItem.ofNode?)
    | .ok node =>
      match node.value with
      | .null => pure []
      | _ => throw (.hub (.notList h.name))

def store (items : List StoredItem) : HubM Folder Unit := do
  let bytes ← ofExcept ((h.format.write (items.map StoredItem.node)).mapError .fault)
  let f : Folder ← get
  match f.write h.path bytes with
  | .ok f => set f
  | .error e => throw e

/-- The first item with an id, and its position. The ids are written out one after the other, and one
that is not ends the search. -/
def search (items : List StoredItem) (id : String) : Except Failure (Option (StoredItem × Nat)) :=
  match items.zipIdx.find? fun entry => !entry.1.hasIdText || entry.1.idText == id with
  | some found => if found.1.hasIdText then .ok (some found) else .error (.fault .badValue)
  | none => .ok none

def find (items : List StoredItem) (id : String) : HubM Folder (StoredItem × Nat) := do
  match ← ofExcept (search items id) with
  | some found => pure found
  | none => throw (.hub (.noAutomation id))

def list : HubM Folder (List Automation) := do
  let items ← h.items
  ofExcept ((items.filter StoredItem.isListed).mapM StoredItem.read)

def get (id : String) : HubM Folder Automation := do
  let found ← find (← h.items) id
  ofExcept found.1.read

def create (c : Config) : HubM Folder String := do
  let items ← h.items
  if (← ofExcept (search items c.id)).isSome then throw (.hub (.taken c.id))
  h.store (items ++ [.ofConfig c.id c])
  pure c.id

def update (id : String) (c : Config) : HubM Folder Unit := do
  let items ← h.items
  let (old, position) ← find items id
  h.store (items.set position (old.replacing id c))

def delete (id : String) : HubM Folder Unit := do
  let items ← h.items
  let (_, position) ← find items id
  h.store (items.eraseIdx position)

def setState (id : String) (state : Value) : HubM Folder Unit := do
  let items ← h.items
  let (i, position) ← find items id
  h.store (StoredItem.setIn items i position StoredItem.stateKey (.ofValue state))

def hub : Hub Folder where
  list := h.list
  get := h.get
  create := h.create
  update := h.update
  delete := h.delete
  setEnabled id b := h.setState id (.bool b)

end FileHub

end HomePortal
