import HomePortal.Yaml.Content
import HomePortal.Yaml.Writer
/-!
Files read as data and data written to files.
-/

namespace HomePortal.Yaml

def isAllowed (c : Char) : Bool :=
  c == '\t' || c == '\n' || c == '\r' || (' ' ≤ c && c ≤ '~') || c == '\x85' ||
    ('\xA0' ≤ c && c ≤ '\uD7FF') || ('\uE000' ≤ c && c ≤ '\uFFFD') || 0x10000 ≤ c.toNat

def normalLines : List Char → List Char
  | [] => []
  | '\r' :: '\n' :: rest => '\n' :: normalLines rest
  | '\r' :: rest => '\n' :: normalLines rest
  | c :: rest => c :: normalLines rest

def readText (text : List Char) : Except Failure Node := do
  if !text.all isAllowed then malformed
  match ← Tree.ofTokens? (← Token.ofText text) with
  | some t => Node.ofTree t
  | none => pure (.scalar .null)

def readBytes (bytes : ByteArray) : Except Failure Node :=
  match String.fromUTF8? bytes with
  | some text => readText (normalLines text.toList)
  | none => .error (.fault .undecodable)

end HomePortal.Yaml
