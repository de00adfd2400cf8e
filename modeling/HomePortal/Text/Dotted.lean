/-!
Names of two parts with a dot between them, as the hub names services and stores entity ids.
-/

namespace HomePortal.Text

def isPlain (c : Char) : Bool :=
  ('a' ≤ c && c ≤ 'z') || c.isDigit || c == '_'

/-- The two parts of a dotted name. One line break may follow the name and belongs to its second
part. -/
def dottedParts? (cs : List Char) : Option (List Char × List Char) :=
  let first := cs.takeWhile isPlain
  match cs.dropWhile isPlain with
  | '.' :: second =>
    let after := second.dropWhile isPlain
    if !first.isEmpty && second.head?.any isPlain && (after == [] || after == ['\n']) then
      some (first, second)
    else none
  | _ => none

def isDotted (cs : List Char) : Bool :=
  (dottedParts? cs).isSome

end HomePortal.Text
