import HomePortal.Http.Exchange
import HomePortal.Hub.Basic
import HomePortal.Value.Finite
/-!
A hub behind an HTTP server. Configs are stored under paths of their own; what runs is seen in the
list of states and changed by calls of services. A listing joins the two: one state, one config.
Replies are read from JSON, so whatever they hold is written out.
-/

namespace HomePortal

open Http (Line Method Request Server)

/-- Where a hub's server is, the token that requests to it carry, how many of them may be under way
at a time, and whether the line to it is the hub's own. -/
structure RestHub where
  base : String
  token : String
  limit : Nat
  limit_pos : 0 < limit
  ownsLine : Bool

/-- Slashes at the end of the base do not count, and one request at least may be under way. -/
def RestHub.ofAddress (base token : String) (limit : Int) (ownsLine : Bool) : RestHub where
  base := String.ofList (base.toList.reverse.dropWhile (· == '/')).reverse
  token := token
  limit := (max 1 limit).toNat
  limit_pos := by omega
  ownsLine := ownsLine

structure EntityState where
  entity : String
  configId : Option String
  isOn : Bool

namespace EntityState

/-- The id of the config: any data but null and the empty text, written out. -/
def configId? (fields : Entries) : Option String :=
  match fields.get? "attributes" with
  | some (.mapping attributes) =>
    match Entries.get? attributes "id" with
    | none | some .null | some (.text "") => none
    | some id => some id.display
  | _ => none

def ofValue? : Value → Option EntityState
  | .mapping fields =>
    match Entries.get? fields "entity_id" with
    | some (.text entity) =>
      if "automation.".toList.isPrefixOf entity.toList then
        let isOn := match Entries.get? fields "state" with
          | some (.text "off") => false
          | _ => true
        some ⟨entity, configId? fields, isOn⟩
      else none
    | _ => none
  | _ => none

end EntityState

def Automation.ofState (state : Option EntityState) (c : Config) : Automation :=
  match state with
  | some s => ⟨some s.entity, s.isOn, c⟩
  | none => ⟨none, true, c⟩

namespace RestHub

/-! ### Requests -/

def statesPath : String :=
  "/api/states"

def configRoot : String :=
  "/api/config/automation/config/"

def configPath (id : String) : String :=
  configRoot ++ String.ofList (Percent.encode Percent.isUnreserved id.toList)

def servicePath (enabled : Bool) : String :=
  "/api/services/automation/" ++ if enabled then "turn_on" else "turn_off"

variable {σ : Type} (h : RestHub)

/-- What a request is authorized by: name and password of the address if it gives them, else the
token. -/
def authorization (a : Address) : String :=
  match a.credentials? with
  | some bytes => "Basic " ++ String.ofList (Text.base64 bytes)
  | none => "Bearer " ++ h.token

/-- Whether JSON can be written of some data: its numbers are finite, and written out. -/
def isSendable (v : Value) : Bool :=
  v.isFinite && v.hasText

def request (method : Method) (path : String) (body : Option Value) : Except Failure Request := do
  let address ← Address.ofText (h.base ++ path)
  if !h.token.toList.all fun c => c.val < 128 then throw (.fault .unencodable)
  if !body.all isSendable then throw (.fault .badValue)
  pure ⟨method, address, h.authorization address, body⟩

/-- The data of a reply. A config's path that is not found means that there is no such config. -/
def replyData (path : String) : Http.Reply → Except Failure Value
  | .unreachable reason => .error (.hub (.unreachable reason))
  | .response status body =>
    if status = 404 ∧ configRoot.toList.isPrefixOf path.toList then .error (.hub (.noConfig path))
    else if status < 200 ∨ 300 ≤ status then .error (.hub (.failed status))
    else match body with
      | .empty => .ok .null
      | .value v => .ok v
      | .flawed .malformed => .error (.hub (.notJson status))
      | .flawed .tooDeep => .error (.fault .tooDeep)

def send (server : Server σ) (r : Request) : StateM (Line σ) Http.Reply := fun line =>
  let (reply, state) := (server.respond r).run line.server
  (reply, { line with server := state, log := ⟨r, reply⟩ :: line.log })

def usable (r : Request) : Http.Reply → Except Failure Http.Reply
  | .response status body =>
    if r.address.isComplete then .ok (.response status body) else .error (.fault .badValue)
  | reply => .ok reply

def ask (server : Server σ) (method : Method) (path : String) (body : Option Value) :
    HubM (Line σ) Value := do
  let r ← ofExcept (h.request method path body)
  let line : Line σ ← get
  if !line.isOpen then throw (.fault .closed)
  let reply ← ExceptT.lift (send server r)
  let reply ← ofExcept (usable r reply)
  ofExcept (replyData path reply)

/-! ### Operations -/

def states (server : Server σ) : HubM (Line σ) (List EntityState) := do
  match ← h.ask server .get statesPath none with
  | .list items => pure (items.filterMap EntityState.ofValue?)
  | _ => throw (.hub .unexpectedStates)

/-- The config in a reply. One without an id gets the id that was asked for. -/
def readConfig (id : String) : Value → Except Failure Config
  | .mapping fields =>
    let c := Config.ofEntries fields
    .ok (if c.id == "" then { c with id } else c)
  | _ => .error (.hub (.unexpectedConfig id))

def fetch (server : Server σ) (id : String) : HubM (Line σ) Config := do
  let data ← h.ask server .get (configPath id) none
  ofExcept (readConfig id data)

/-- The automation of a state. There is none when the state has no config or its config is not
found. -/
def fetchFor (server : Server σ) (s : EntityState) : HubM (Line σ) (Option Automation) :=
  match s.configId with
  | none => pure none
  | some id => do
    match ← observing (h.fetch server id) with
    | .ok c => pure (some (.ofState s c))
    | .error (.hub (.noConfig _)) => pure none
    | .error e => throw e

/-- Tasks in the order in which they are done. They are taken up in their own order, so those under
way are the first ones that are left. -/
def completed {α : Type} (limit : Nat) (next : Nat → Nat) : List α → List α
  | [] => []
  | task :: rest =>
    let i := min (next rest.length % limit) rest.length
    (task :: rest).getD i task :: completed limit next ((task :: rest).eraseIdx i)
termination_by tasks => tasks.length
decreasing_by
  rw [List.length_eraseIdx_of_lt (by simp only [List.length_cons]; omega)]
  simp

/-- The configs are fetched side by side. The first failure that comes about is the one that counts,
and it stops no other fetch. -/
def list (server : Server σ) : HubM (Line σ) (List Automation) := do
  let states ← h.states server
  let outcomes ← (states.filter fun s => s.configId.isSome).mapM fun s =>
    observing (h.fetchFor server s)
  let _ ← ofExcept ((completed h.limit server.next outcomes).mapM id)
  let found ← ofExcept (outcomes.mapM id)
  pure (found.filterMap id)

def get (server : Server σ) (id : String) : HubM (Line σ) Automation := do
  let c ← h.fetch server id
  let states ← h.states server
  pure (.ofState (states.find? fun s => s.configId == some id) c)

def put (server : Server σ) (id : String) (c : Config) : HubM (Line σ) Unit := do
  let stored : Config := { c with id }
  let _ ← h.ask server .post (configPath id) (some (.record stored.payload))

def create (server : Server σ) (c : Config) : HubM (Line σ) String := do
  h.put server c.id c
  pure c.id

def delete (server : Server σ) (id : String) : HubM (Line σ) Unit := do
  let _ ← h.ask server .delete (configPath id) none

/-- The entity that stands for an id: an id with a dot is an entity itself, and one that no state
names is the entity's second part. -/
def entityFor (server : Server σ) (id : String) : HubM (Line σ) String :=
  if id.toList.contains '.' then pure id
  else do
    let states ← h.states server
    pure (match states.find? fun s => s.configId == some id with
      | some s => s.entity
      | none => "automation." ++ id)

def setEnabled (server : Server σ) (id : String) (enabled : Bool) : HubM (Line σ) Unit := do
  let entity ← h.entityFor server id
  let _ ← h.ask server .post (servicePath enabled) (some (.record [("entity_id", .text entity)]))

/-- Closes the line if it is the hub's own, and says whether the line is closed. -/
def close : HubM (Line σ) Bool := do
  let line : Line σ ← MonadState.get
  let closed : Line σ := { line with isOpen := line.isOpen && !h.ownsLine }
  set closed
  pure !closed.isOpen

def hub (server : Server σ) : Hub (Line σ) where
  list := h.list server
  get := h.get server
  create := h.create server
  update := h.put server
  delete := h.delete server
  setEnabled := h.setEnabled server

end RestHub

end HomePortal
