import HomePortal.Failure
/-!
Names of files inside a directory. A name may leave the directory and come back, but not end
outside it.
-/

namespace HomePortal.Path

def walk (before : List String) : List String → List String
  | [] => before.reverse
  | step :: rest =>
    if step == "" || step == "." then walk before rest
    else if step == ".." then walk (before.drop 1) rest
    else walk (step :: before) rest

def steps (name : List Char) : List String :=
  (name.splitOn '/').map String.ofList

def resolve (base : List String) (name : List Char) : List String :=
  if name.head? == some '/' then walk [] (steps name) else walk base.reverse (steps name)

def relative (name : List Char) : List Char :=
  if name.head? == some '/' then name.drop 1 else name

/-- The path of a file inside a directory, from the directory on. A name is a text of characters:
names with half a surrogate pair alone in them, which cannot be encoded as file names and are
refused for that, are left out. -/
def inside (base : List String) (name : String) : Except Failure (List String) :=
  let cs := relative name.toList
  if cs.isEmpty then .error (.hub .emptyName)
  else if cs.contains '\x00' then .error (.fault .badValue)
  else
    let full := resolve base cs
    if base.isPrefixOf full && full != base then .ok (full.drop base.length)
    else .error (.hub (.outside (String.ofList cs)))

end HomePortal.Path
