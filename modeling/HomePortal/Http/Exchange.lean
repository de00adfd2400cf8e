import HomePortal.Http.Address
import HomePortal.Value.Json
/-!
Requests to a server, its replies, and a server as a machine that answers requests one by one.
-/

namespace HomePortal.Http

inductive Method where
  | get
  | post
  | delete
  deriving DecidableEq

def Method.name : Method → String
  | get => "GET"
  | post => "POST"
  | delete => "DELETE"

structure Request where
  method : Method
  address : Address
  authorization : String
  body : Option Value

namespace Request

def path (r : Request) : String :=
  String.ofList r.address.target

def contentType : String :=
  "application/json"

end Request

inductive Body where
  | empty
  | value (v : Value)
  | flawed (f : Json.Flaw)

def Body.ofText (text : String) : Body :=
  if text == "" then empty
  else
    let cs := text.toList
    match Json.read (String.ofList (if cs.head? == some '\uFEFF' then cs.drop 1 else cs)) with
    | .ok v => value v
    | .error f => flawed f

/-- What comes of a request: a response, or the reason why there is none. -/
inductive Reply where
  | unreachable (reason : String)
  | response (status : Nat) (body : Body)

structure Exchange where
  request : Request
  reply : Reply

/-- A server whose state is of any type. It is reached by requests in the order in which they are
sent, but its replies may overtake one another: by how many requests are left, `next` tells which of
those under way is replied to before the others. -/
structure Server (σ : Type) where
  respond : Request → StateM σ Reply
  next : Nat → Nat := fun _ => 0

/-- A client's line to a server: the server's state, the exchanges with the last one first, and
whether the line is open. -/
structure Line (σ : Type) where
  server : σ
  log : List Exchange
  isOpen : Bool

end HomePortal.Http
