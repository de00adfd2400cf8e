import HomePortal.Text.Word
import HomePortal.Value.Text
/-!
Automation ids: lower-case letters, digits and underscores.
-/

namespace HomePortal.AutomationId

def reduce? (raw : String) : Option String :=
  let kept := (raw.toList.filter Text.isAsciiWord).map Char.toLower
  if kept.isEmpty then none else some (String.ofList kept)

/-- A new id: the portal's mark and a token of 32 hexadecimal digits. -/
def minted (mark : String) (token : Nat) : String :=
  mark ++ "_" ++ paddedDigits 16 32 token

def kept? (existing : Option String) : Option String :=
  existing.filter (· != "")

def choose? (existing : Option String) (mark : String) (token : Nat) : Option String :=
  reduce? ((kept? existing).getD (minted mark token))

def nextToken (existing : Option String) (token : Nat) : Nat :=
  if (kept? existing).isSome then token else token + 1

def defaultMark : String :=
  "portal"

end HomePortal.AutomationId
