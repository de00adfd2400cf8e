import HomePortal.Failure
/-!
Places in the text of a file. The end of the text reads as the null character, which no file may
hold.
-/

namespace HomePortal.Yaml

/-- What is left of a text from some place on, and the place: counted from the start of the text,
in lines, and from the start of the line. -/
structure Source where
  rest : List Char
  index : Nat
  line : Nat
  column : Nat

def endOfText : Char :=
  '\x00'

def byteOrderMark : Char :=
  '\uFEFF'

def isBreak (c : Char) : Bool :=
  c == '\n' || c == '\x85' || c == '\u2028' || c == '\u2029'

def isBreakOrEnd (c : Char) : Bool :=
  isBreak c || c == endOfText

def isSpaceOrEnd (c : Char) : Bool :=
  c == ' ' || c == '\t' || isBreakOrEnd c

def malformed {α : Type} : Except Failure α :=
  .error (.hub .notYaml)

namespace Source

def ofText (text : List Char) : Source :=
  ⟨text, 0, 0, 0⟩

def peek (s : Source) (ahead : Nat) : Char :=
  s.rest.getD ahead endOfText

/-- One character further. The byte order mark takes no column. -/
def next (s : Source) : Source :=
  match s.rest with
  | [] => s
  | c :: rest =>
    if isBreak c then ⟨rest, s.index + 1, s.line + 1, 0⟩
    else if c == byteOrderMark then ⟨rest, s.index + 1, s.line, s.column⟩
    else ⟨rest, s.index + 1, s.line, s.column + 1⟩

def advance (s : Source) : Nat → Source
  | 0 => s
  | n + 1 => s.next.advance n

def run (s : Source) (p : Char → Bool) : List Char × Source :=
  let taken := s.rest.takeWhile p
  (taken, s.advance taken.length)

def skip (s : Source) (p : Char → Bool) : Source :=
  (s.run p).2

def skipSpaces (s : Source) : Source :=
  s.skip (· == ' ')

def lineBreak? (s : Source) : Option (Char × Source) :=
  let c := s.peek 0
  if isBreak c then some (if c == '\x85' then '\n' else c, s.next) else none

def skipBreak (s : Source) : Source :=
  match s.lineBreak? with
  | some (_, after) => after
  | none => s

def skipComment (s : Source) : Source :=
  if s.peek 0 == '#' then s.skip fun c => !isBreak c else s

def atMark (s : Source) (mark : Char) : Bool :=
  s.rest.take 3 == [mark, mark, mark] && isSpaceOrEnd (s.peek 3)

def atDocumentMark (s : Source) : Bool :=
  s.atMark '-' || s.atMark '.'

def endLine (s : Source) : Except Failure Source :=
  let after := s.skipSpaces.skipComment
  if isBreakOrEnd (after.peek 0) then .ok after.skipBreak else malformed

end Source

end HomePortal.Yaml
