import HomePortal.Config.Basic
import HomePortal.Failure
/-!
What the portal needs from a hub: six operations on its automations.
-/

namespace HomePortal

/-- An automation as a hub lists it: its config, the entity that stands for it if that is known,
and whether it runs. -/
structure Automation where
  entity : Option String
  enabled : Bool
  config : Config

def Automation.read (value : Value) : Checked Automation :=
  (Field.record "HubAutomation" value).andThen fun fields =>
    Automation.mk
      <$> fields.optional ["entity_id"] none (Field.orNull Field.text)
      <*> fields.optional ["enabled"] true Field.flag
      <*> fields.required "config" [] Config.read

/-- An action on a hub's state. What it changed before it failed stays changed. -/
abbrev HubM (σ : Type) := ExceptT Failure (StateM σ)

structure Hub (σ : Type) where
  list : HubM σ (List Automation)
  get : String → HubM σ Automation
  create : Config → HubM σ String
  update : String → Config → HubM σ Unit
  delete : String → HubM σ Unit
  setEnabled : String → Bool → HubM σ Unit

inductive HubCall where
  | list
  | get (id : String)
  | create (id : String)
  | update (id : String)
  | delete (id : String)
  | setEnabled (id : String) (enabled : Bool)
  deriving DecidableEq

def HubCall.isWrite : HubCall → Bool
  | list | get _ => false
  | _ => true

structure Recorded (σ : Type) where
  state : σ
  calls : List HubCall

namespace Recorded

variable {σ α : Type}

def note (call : HubCall) (act : HubM σ α) : HubM (Recorded σ) α :=
  ExceptT.mk fun r =>
    let (outcome, state) := act.run r.state
    (outcome, ⟨state, call :: r.calls⟩)

end Recorded

def Hub.recorded {σ : Type} (h : Hub σ) : Hub (Recorded σ) where
  list := Recorded.note .list h.list
  get id := Recorded.note (.get id) (h.get id)
  create c := Recorded.note (.create c.id) (h.create c)
  update id c := Recorded.note (.update id) (h.update id c)
  delete id := Recorded.note (.delete id) (h.delete id)
  setEnabled id b := Recorded.note (.setEnabled id b) (h.setEnabled id b)

end HomePortal
