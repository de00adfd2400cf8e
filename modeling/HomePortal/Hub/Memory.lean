import HomePortal.Hub.Basic
/-!
A hub that keeps its automations in memory, each under an id, in the order they came.
-/

namespace HomePortal

abbrev Memory := List (String × Automation)

namespace Memory

def find? (m : Memory) (id : String) : Option Automation :=
  m.lookup id

def put (m : Memory) (id : String) (a : Automation) : Memory :=
  if m.any (·.1 == id) then m.map fun entry => if entry.1 == id then (id, a) else entry
  else m ++ [(id, a)]

def remove (m : Memory) (id : String) : Memory :=
  m.filter (·.1 != id)

def ofAutomations (automations : List Automation) : Memory :=
  automations.foldl (fun m a => m.put a.config.id a) []

def change (id : String) (f : Memory → Automation → Memory) : HubM Memory Unit := do
  let m : Memory ← get
  match m.find? id with
  | some a => set (f m a)
  | none => throw (.fault .unknownKey)

def hub : Hub Memory where
  list := do
    let m : Memory ← get
    pure (m.map (·.2))
  get id := do
    let m : Memory ← get
    match m.find? id with
    | some a => pure a
    | none => throw (.hub (.noAutomation id))
  create c := do
    modify fun m : Memory => m.put c.id ⟨some ("automation." ++ c.id), true, c⟩
    pure c.id
  update id c := change id fun m a => m.put id { a with config := c }
  delete id := change id fun m _ => m.remove id
  setEnabled id b := change id fun m a => m.put id { a with enabled := b }

end Memory

end HomePortal
