import HomePortal.Failure
/-!
The files of a directory, by their paths from it.
-/

namespace HomePortal

@[ext]
structure Folder where
  files : List (List String × ByteArray)
  directories : List (List String)

namespace Folder

inductive Entry where
  | file (bytes : ByteArray)
  | directory

def at? (f : Folder) (path : List String) : Option Entry :=
  match f.files.lookup path with
  | some bytes => some (.file bytes)
  | none =>
    if path.isEmpty || (f.directories ++ f.files.map (·.1)).any path.isPrefixOf then
      some .directory
    else none

def isFile (f : Folder) (path : List String) : Bool :=
  (f.files.lookup path).isSome

def above (path : List String) : List (List String) :=
  (List.range path.length).map path.take

def put (f : Folder) (path : List String) (bytes : ByteArray) : Folder :=
  { f with files :=
      if f.isFile path then
        f.files.map fun file => if file.1 == path then (path, bytes) else file
      else f.files ++ [(path, bytes)] }

/-- Writes a file, with the directories above it. A file cannot be a directory, nor the other way
round. -/
def write (f : Folder) (path : List String) (bytes : ByteArray) : Except Failure Folder :=
  match f.at? path, (above path).any f.isFile with
  | some .directory, _ | _, true => .error (.hub .inaccessible)
  | _, false => .ok (f.put path bytes)

end Folder

end HomePortal
