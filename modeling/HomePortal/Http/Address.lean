import HomePortal.Decimal.Reading
import HomePortal.Failure
import HomePortal.Http.Percent
import HomePortal.Text.Base64
/-!
Addresses in the form in which a client sends them: scheme and host in small letters, no port that
the scheme implies, a path without `.` and `..` segments, and ASCII characters alone.
-/

namespace HomePortal

structure Address where
  scheme : String
  user : List Char
  host : String
  port : Option Int
  path : List Char
  query : Option (List Char)

namespace Address

/-! ### Host and port -/

def hostMarks : List Char :=
  "!$&'()*+,;=\"`\x7b\x7d%|\\".toList

def isOctet (digits : List Char) : Bool :=
  digits.length ≤ 3 && natOfDigits digits ≤ 255 && (digits.length ≤ 1 || digits.head? != some '0')

def isGroupChar (c : Char) : Bool :=
  c == ':' || c == '.' || (Text.hexValue? c).isSome

def readHost? (cs : List Char) : Option String :=
  let parts := cs.splitOn '.'
  if parts.length = 4 && parts.all fun part => !part.isEmpty && part.all Char.isDigit then
    if parts.all isOctet then some (String.ofList cs) else none
  else if cs.head? == some '[' && cs.getLast? == some ']' then
    let inner := (cs.drop 1).dropLast
    if inner.contains ':' && inner.all isGroupChar then some (String.ofList cs) else none
  else if cs.all fun c => c.val < 128 then
    some (String.ofList (Percent.encode (fun c => Percent.isUnreserved c || hostMarks.contains c)
      (cs.map Char.toLower)))
  else none

def impliedPorts : List (String × Int) :=
  [("ftp", 21), ("http", 80), ("https", 443), ("ws", 80), ("wss", 443)]

/-- The port of an address, if it is given and not implied by the scheme as it is written. -/
def readPort? (scheme : String) (cs : List Char) : Option (Option Int) :=
  if cs.isEmpty then some none
  else (intOfText? (String.ofList cs)).map fun n =>
    if impliedPorts.lookup scheme == some n then none else some n

def splitAuthority (cs : List Char) : List Char × List Char × List Char :=
  let parts := cs.splitOn '@'
  let user := ['@'].intercalate parts.dropLast
  let rest := parts.getLastD []
  let inBrackets := (rest.reverse.dropWhile (· != ']')).reverse
  let host :=
    if rest.head? == some '[' && !inBrackets.isEmpty then inBrackets else rest.takeWhile (· != ':')
  match rest.drop host.length with
  | ':' :: port => (user, host, port)
  | port => (user, host, port)

/-! ### Path and query -/

def followDots (before : List (List Char)) : List (List Char) → List (List Char)
  | [] => before.reverse
  | segment :: rest =>
    if segment == ['.'] then followDots before rest
    else if segment == ['.', '.'] then
      followDots (if before == [[]] then before else before.drop 1) rest
    else followDots (segment :: before) rest

def plainPath (path : List Char) : List Char :=
  ['/'].intercalate (followDots [] (path.splitOn '/'))

def inQuery (c : Char) : Bool :=
  0x20 < c.val && c.val < 0x7F && !("\"#<>".toList.contains c)

/-- A character that a path holds as it is. A percent sign is one of them, so what is encoded
already stays as it is. -/
def inPath (c : Char) : Bool :=
  inQuery c && !("?`\x7b\x7d".toList.contains c)

/-! ### The whole address -/

def splitScheme (cs : List Char) : List Char × List Char :=
  let scheme := cs.takeWhile fun c => c.isAlphanum || c == '+' || c == '.' || c == '-'
  match cs.drop scheme.length with
  | ':' :: rest => if scheme.head?.all Char.isAlpha then (scheme, rest) else ([], cs)
  | _ => ([], cs)

def isControl (c : Char) : Bool :=
  c.val < 0x20 || c.val == 0x7F

def maxLength : Nat :=
  65536

def read? (text : List Char) : Option Address := do
  if maxLength < text.length || text.any isControl then none
  let (scheme, rest) := splitScheme text
  let (authority, rest) := match rest with
    | '/' :: '/' :: rest => (rest.takeWhile fun c => !("/?#".toList.contains c),
        rest.dropWhile fun c => !("/?#".toList.contains c))
    | _ => ([], rest)
  let path := rest.takeWhile fun c => c != '?' && c != '#'
  let query := match rest.drop path.length with
    | '?' :: rest => some (Percent.encode inQuery (rest.takeWhile (· != '#')))
    | _ => none
  let (user, host, port) := splitAuthority authority
  let scheme := String.ofList scheme
  let host ← readHost? host
  let port ← readPort? scheme port
  let isLocal := scheme == "" && user.isEmpty && host == "" && port.isNone
  if isLocal && (path.head? == some ':' || path.take 2 == ['/', '/']) then none
  let path := if isLocal then path else plainPath path
  pure ⟨String.ofList (scheme.toList.map Char.toLower), user, host, port,
    Percent.encode inPath path, query⟩

def isComplete (a : Address) : Bool :=
  a.scheme != "" && a.host != ""

def target (a : Address) : List Char :=
  (if a.path.isEmpty then ['/'] else a.path) ++ (a.query.map ('?' :: ·)).getD []

def localPart (a : Address) : Address :=
  ⟨"", [], "", none, '/' :: (if a.path.isEmpty then [] else a.path.dropWhile (· == '/')), a.query⟩

def origin (a : Address) : String :=
  a.scheme ++ "://" ++ a.host ++ (a.port.map fun n => ":" ++ toString n).getD ""

def credentials? (a : Address) : Option (List UInt8) :=
  let name := a.user.takeWhile (· != ':')
  let password := (a.user.drop name.length).drop 1
  if name.isEmpty && password.isEmpty then none
  else some (Percent.decode name ++ String.utf8EncodeChar ':' ++ Percent.decode password)

end Address

def Address.ofText (text : String) : Except Failure Address :=
  match Address.read? text.toList with
  | none => .error (.fault .badAddress)
  | some a => .ok (if a.isComplete then a else a.localPart)

end HomePortal
