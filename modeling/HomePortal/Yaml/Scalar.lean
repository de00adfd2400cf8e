import HomePortal.Text.Hex
import HomePortal.Yaml.Source
/-!
The texts of scalars: plain, in quotes, and in blocks of lines.
-/

namespace HomePortal.Yaml

/-- A line break between two words stands for a space, and with further breaks for those. -/
def folded (first : Char) (more : List Char) : List Char :=
  if first != '\n' then first :: more
  else if more.isEmpty then [' ']
  else more

namespace Plain

def wordLength (inFlow : Bool) : List Char → Nat
  | [] => 0
  | c :: rest =>
    let after := rest.headD endOfText
    let ends := isSpaceOrEnd c ||
      (c == ':' &&
        (isSpaceOrEnd after || (inFlow && [',', '[', ']', '\x7b', '\x7d'].contains after))) ||
      (inFlow && [',', '?', '[', ']', '\x7b', '\x7d'].contains c)
    if ends then 0 else wordLength inFlow rest + 1

def emptyLines (fuel : Nat) (s : Source) : Option (List Char) × Source :=
  match fuel with
  | 0 => (none, s)
  | fuel + 1 =>
    let s := s.skipSpaces
    match s.lineBreak? with
    | none => (some [], s)
    | some (c, after) =>
      if after.atDocumentMark then (none, after)
      else
        let (more, s) := emptyLines fuel after
        (more.map (c :: ·), s)

def gap (s : Source) : List Char × Source × Bool :=
  let (spaces, after) := s.run (· == ' ')
  match after.lineBreak? with
  | none => (spaces, after, false)
  | some (c, after) =>
    if after.atDocumentMark then ([], after, true)
    else
      match emptyLines (after.rest.length + 1) after with
      | (some more, s) => (folded c more, s, true)
      | (none, s) => ([], s, true)

/-- The text of a plain scalar that starts here, the place after it, and whether it ends on a
later line. In blocks the text ends where a line starts left of the given column. -/
def read (fuel : Nat) (inFlow : Bool) (indent : Int) (s : Source) : List Char × Source × Bool :=
  match fuel with
  | 0 => ([], s, false)
  | fuel + 1 =>
    let length := if s.peek 0 == '#' then 0 else wordLength inFlow s.rest
    if length = 0 then ([], s, false)
    else
      let word := s.rest.take length
      let (between, after, broken) := gap (s.advance length)
      if between.isEmpty || after.peek 0 == '#' || (!inFlow && after.column < indent) then
        (word, after, broken)
      else
        match read fuel inFlow indent after with
        | ([], last, _) => (word, last, broken)
        | (more, last, later) => (word ++ between ++ more, last, later)

end Plain

namespace Quoted

def escapes : List (Char × Char) :=
  [('0', '\x00'), ('a', '\x07'), ('b', '\x08'), ('t', '\t'), ('\t', '\t'), ('n', '\n'),
   ('v', '\x0B'), ('f', '\x0C'), ('r', '\r'), ('e', '\x1B'), (' ', ' '), ('"', '"'),
   ('\\', '\\'), ('/', '/'), ('N', '\x85'), ('_', '\xA0'), ('L', '\u2028'), ('P', '\u2029')]

def codeLengths : List (Char × Nat) :=
  [('x', 2), ('u', 4), ('U', 8)]

def emptyLines (fuel : Nat) (s : Source) : Except Failure (List Char × Source) :=
  match fuel with
  | 0 => malformed
  | fuel + 1 =>
    if s.atDocumentMark then malformed
    else
      let s := s.skip fun c => c == ' ' || c == '\t'
      match s.lineBreak? with
      | none => .ok ([], s)
      | some (c, after) => (emptyLines fuel after).map fun found => (c :: found.1, found.2)

def gap (s : Source) : Except Failure (List Char × Source) :=
  let (blanks, after) := s.run fun c => c == ' ' || c == '\t'
  match after.lineBreak? with
  | some (c, after) =>
    (emptyLines (after.rest.length + 1) after).map fun found => (folded c found.1, found.2)
  | none => if after.peek 0 == endOfText then malformed else .ok (blanks, after)

def maxCode : Nat :=
  0x7FFFFFFF

/-- The character of a code point. Half a pair alone is no character here and reads as the
replacement character. Where texts are made of code points it is kept instead, so texts that differ
in such halves only become one here. -/
def ofCode (n : Nat) : Except Failure Char :=
  if maxCode < n then .error (.fault .overflow)
  else if 0x10FFFF < n then .error (.fault .badValue)
  else .ok (if 0xD800 ≤ n ∧ n < 0xE000 then '\uFFFD' else Char.ofNat n)

def code? (length : Nat) (s : Source) : Option Nat :=
  let digits := s.rest.take length
  if digits.length < length then none else Text.hexNumber? digits

def pairWith? (high : Nat) (s : Source) : Option Char :=
  if s.peek 0 == '\\' && s.peek 1 == 'u' then
    (code? 4 (s.advance 2)).bind fun low => Text.joinHalves? high low
  else none

def escape (s : Source) : Except Failure (List Char × Source) :=
  let c := s.peek 0
  match escapes.lookup c, codeLengths.lookup c with
  | some found, _ => .ok ([found], s.next)
  | none, some length =>
    match code? length s.next with
    | none => malformed
    | some n =>
      let after := s.next.advance length
      match pairWith? n after with
      | some found => .ok ([found], after.advance 6)
      | none => (ofCode n).map fun found => ([found], after)
  | none, none =>
    if isBreak c then emptyLines (s.rest.length + 1) s.skipBreak else malformed

def read (fuel : Nat) (quote : Char) (s : Source) : Except Failure (List Char × Source) :=
  match fuel with
  | 0 => malformed
  | fuel + 1 =>
    let c := s.peek 0
    let more (found : List Char × Source) : Except Failure (List Char × Source) :=
      (read fuel quote found.2).map fun later => (found.1 ++ later.1, later.2)
    if c == quote then
      if quote == '\'' && s.peek 1 == '\'' then more (['\''], s.advance 2) else .ok ([], s.next)
    else if c == '\\' && quote == '"' then (escape s.next).bind more
    else if isSpaceOrEnd c then (gap s).bind more
    else more ([c], s.next)

end Quoted

namespace Block

inductive Chomping where
  | keep
  | drop
  deriving DecidableEq

def chomping? (c : Char) : Option Chomping :=
  if c == '+' then some .keep else if c == '-' then some .drop else none

def increment? (c : Char) : Except Failure (Option Nat) :=
  if c == '0' then malformed
  else .ok (if c.isDigit then some (c.toNat - '0'.toNat) else none)

def header (s : Source) : Except Failure (Option Chomping × Option Nat × Source) := do
  let (chomping, increment, after) ←
    match chomping? (s.peek 0) with
    | some chomping =>
      match ← increment? (s.peek 1) with
      | some n => pure (some chomping, some n, s.advance 2)
      | none => pure (some chomping, none, s.next)
    | none =>
      match ← increment? (s.peek 0) with
      | some n =>
        match chomping? (s.peek 1) with
        | some chomping => pure (some chomping, some n, s.advance 2)
        | none => pure (none, some n, s.next)
      | none => pure (none, none, s)
  if after.peek 0 == ' ' || isBreakOrEnd (after.peek 0) then pure (chomping, increment, after)
  else malformed

/-- The empty lines before a block's first line, and the widest of their indentations and its
own. -/
def measure (fuel : Nat) (widest : Nat) (s : Source) : List Char × Nat × Source :=
  match fuel with
  | 0 => ([], widest, s)
  | fuel + 1 =>
    match s.lineBreak? with
    | some (c, after) =>
      let (more, width, last) := measure fuel widest after
      (c :: more, width, last)
    | none =>
      if s.peek 0 == ' ' then
        let s := s.skipSpaces
        measure fuel (max widest s.column) s
      else ([], widest, s)

def indentTo (s : Source) (indent : Nat) : Source :=
  s.advance (min (s.rest.takeWhile (· == ' ')).length (indent - s.column))

def emptyLines (fuel : Nat) (indent : Nat) (s : Source) : List Char × Source :=
  let s := indentTo s indent
  match fuel, s.lineBreak? with
  | fuel + 1, some (c, after) =>
    let (more, last) := emptyLines fuel indent after
    (c :: more, last)
  | _, _ => ([], s)

/-- The lines of a block, the breaks before each among them, and after them the break of the last
line and the breaks of the empty lines at the end. -/
def lines (fuel : Nat) (isFolded : Bool) (indent : Nat) (before : List Char) (s : Source) :
    List Char × Option Char × List Char × Source :=
  match fuel with
  | 0 => ([], none, before, s)
  | fuel + 1 =>
    let startsWithText := !(s.peek 0 == ' ' || s.peek 0 == '\t')
    let (line, after) := s.run fun c => !isBreak c
    let lineEnd := after.lineBreak?.map (·.1)
    let (breaks, next) := emptyLines (after.rest.length + 1) indent after.skipBreak
    if next.column == indent && next.peek 0 != endOfText then
      let joined :=
        if isFolded && lineEnd == some '\n' && startsWithText &&
            !(next.peek 0 == ' ' || next.peek 0 == '\t') then
          if breaks.isEmpty then [' '] else []
        else lineEnd.toList
      let (more, final, last) := lines fuel isFolded indent breaks next
      (before ++ line ++ joined ++ more, final, last)
    else (before ++ line, lineEnd, breaks, next)

def read (isFolded : Bool) (indent : Int) (s : Source) : Except Failure (List Char × Source) := do
  let (chomping, increment, afterHeader) ← header s
  let s ← afterHeader.endLine
  let least := (max (indent + 1) 1).toNat
  let (breaks, width, start) :=
    match increment with
    | none =>
      let (breaks, widest, start) := measure (s.rest.length + 1) 0 s
      (breaks, max least widest, start)
    | some n =>
      let width := least + n - 1
      let (breaks, start) := emptyLines (s.rest.length + 1) width s
      (breaks, width, start)
  let (text, final, after, last) :=
    if start.column == width && start.peek 0 != endOfText then
      lines (start.rest.length + 1) isFolded width breaks start
    else ([], none, breaks, start)
  let ending := if chomping == some .drop then [] else final.toList
  let kept := if chomping == some .keep then after else []
  pure (text ++ ending ++ kept, last)

end Block

end HomePortal.Yaml
