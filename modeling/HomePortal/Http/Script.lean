import HomePortal.Http.Exchange
/-!
A server that answers from a script: for each method and path a list of replies, used in turn.
-/

namespace HomePortal.Http

/-- The replies that are left for each route. The last one of a route is used again and again. -/
abbrev Script := List (String × List Reply)

namespace Script

def route (r : Request) : String :=
  r.method.name ++ " " ++ r.path

def next (s : Script) (route : String) : Reply :=
  match s.lookup route with
  | some (reply :: _) => reply
  | _ => .response 404 .empty

def advance (s : Script) (route : String) : Script :=
  s.map fun entry =>
    if entry.1 == route && 1 < entry.2.length then (entry.1, entry.2.drop 1) else entry

def server : Server Script where
  respond r := do
    let s : Script ← get
    set (s.advance (route r))
    pure (s.next (route r))

end Script

end HomePortal.Http
