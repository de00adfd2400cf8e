import HomePortal.Hub.Basic
/-!
The operations of a hub as data: which one is called, and with what.
-/

namespace HomePortal

inductive HubWrite where
  | create (c : Config)
  | update (id : String) (c : Config)
  | delete (id : String)
  | setEnabled (id : String) (enabled : Bool)

def HubWrite.on {σ : Type} (h : Hub σ) : HubWrite → HubM σ Unit
  | create c => do
    let _ ← h.create c
    pure ()
  | update id c => h.update id c
  | delete id => h.delete id
  | setEnabled id b => h.setEnabled id b

def HubWrite.soughtId : HubWrite → String
  | create c => c.id
  | update id _ | delete id | setEnabled id _ => id

def HubWrite.config? : HubWrite → Option Config
  | create c | update _ c => some c
  | delete _ | setEnabled .. => none

inductive HubOperation where
  | list
  | get (id : String)
  | write (w : HubWrite)

def HubOperation.on {σ : Type} (h : Hub σ) : HubOperation → HubM σ Unit
  | list => do
    let _ ← h.list
    pure ()
  | get id => do
    let _ ← h.get id
    pure ()
  | write w => w.on h

def HubOperation.soughtId? : HubOperation → Option String
  | list => none
  | get id => some id
  | write w => some w.soughtId

def HubOperation.configId? : HubOperation → Option String
  | list | write (.setEnabled ..) => none
  | get id | write (.update id _) | write (.delete id) => some id
  | write (.create c) => some c.id

end HomePortal
