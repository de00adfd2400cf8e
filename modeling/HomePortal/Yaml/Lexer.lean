import HomePortal.Yaml.Property
import HomePortal.Yaml.Scalar
/-!
The tokens of a text. Structure comes from indentation; a key without a sign of its own is known
only by the colon after it, so its mark is put in place afterwards.
-/

namespace HomePortal.Yaml

/-- A value that a colon may turn into a key: the tokens before it, its place, and whether it must
become one. -/
structure KeyCandidate where
  tokens : Nat
  index : Nat
  line : Nat
  column : Nat
  required : Bool

/-- The work on a text: the place reached, the depth of brackets, the columns of the blocks around
the place, whether a key may start here, the candidates at each depth, and the tokens so far, the
last one first. -/
structure Lexer where
  source : Source
  depth : Nat
  indent : Int
  outer : List Int
  keyAllowed : Bool
  candidates : List (Nat × KeyCandidate)
  tokens : List Token
  count : Nat

namespace Lexer

def start (text : List Char) : Lexer :=
  let source := Source.ofText text
  let first := if source.peek 0 == byteOrderMark then source.next else source
  ⟨first, 0, -1, [], true, [], [], 0⟩

def push (l : Lexer) (t : Token) : Lexer :=
  { l with tokens := t :: l.tokens, count := l.count + 1 }

def insert (l : Lexer) (position : Nat) (t : Token) : Lexer :=
  let later := l.count - position
  { l with tokens := l.tokens.take later ++ t :: l.tokens.drop later, count := l.count + 1 }

def inFlow (l : Lexer) : Bool :=
  l.depth != 0

def candidate? (l : Lexer) : Option KeyCandidate :=
  l.candidates.lookup l.depth

def forget (l : Lexer) : Lexer :=
  { l with candidates := l.candidates.filter (·.1 != l.depth) }

def dropCandidate (l : Lexer) : Except Failure Lexer :=
  if l.candidate?.any (·.required) then malformed else .ok l.forget

/-- Makes a candidate of the value that starts here, where a key may start. -/
def saveCandidate (l : Lexer) : Except Failure Lexer := do
  if l.keyAllowed then
    let freed ← l.dropCandidate
    let s := l.source
    let required := !l.inFlow && l.indent == s.column
    pure { freed with
      candidates := (l.depth, ⟨l.count, s.index, s.line, s.column, required⟩) :: freed.candidates }
  else pure l

/-- A key stands on one line and is not longer than 1024 characters. -/
def isStale (s : Source) (c : KeyCandidate) : Bool :=
  c.line != s.line || 1024 < s.index - c.index

def dropStale (l : Lexer) : Except Failure Lexer :=
  let (stale, live) := l.candidates.partition fun c => isStale l.source c.2
  if stale.any (·.2.required) then malformed else .ok { l with candidates := live }

def openBlock? (l : Lexer) (column : Int) : Option Lexer :=
  if l.indent < column then some { l with indent := column, outer := l.indent :: l.outer }
  else none

def closeBlocks (column : Int) (l : Lexer) : Lexer :=
  if l.inFlow then l else go l.outer l
where
  go (outer : List Int) (l : Lexer) : Lexer :=
    if column < l.indent then
      match outer with
      | [] => l
      | indent :: rest => go rest ({ l with indent, outer := rest }.push .blockEnd)
    else l

/-- The place of the next token. A line break outside brackets allows a key. -/
def skipToToken (fuel : Nat) (l : Lexer) : Lexer :=
  match fuel with
  | 0 => l
  | fuel + 1 =>
    let s := l.source.skipSpaces.skipComment
    match s.lineBreak? with
    | some (_, after) =>
      skipToToken fuel { l with source := after, keyAllowed := l.keyAllowed || !l.inFlow }
    | none => { l with source := s }

def take (l : Lexer) (length : Nat) (t : Token) : Lexer :=
  { l with source := l.source.advance length }.push t

def endBlocks (l : Lexer) : Except Failure Lexer := do
  let closed ← (l.closeBlocks (-1)).dropCandidate
  pure { closed with keyAllowed := false }

def directive (l : Lexer) : Except Failure Lexer := do
  let l ← l.endBlocks
  let (t, source) ← Property.directive l.source
  pure ({ l with source }.push t)

def documentMark (l : Lexer) (t : Token) : Except Failure Lexer := do
  pure ((← l.endBlocks).take 3 t)

def openFlow (l : Lexer) (t : Token) : Except Failure Lexer := do
  let l ← l.saveCandidate
  pure ({ l with depth := l.depth + 1, keyAllowed := true }.take 1 t)

def closeFlow (l : Lexer) (t : Token) : Except Failure Lexer := do
  if !l.inFlow then malformed
  let l ← l.dropCandidate
  pure ({ l with depth := l.depth - 1, keyAllowed := false }.take 1 t)

def flowEntry (l : Lexer) : Except Failure Lexer := do
  let l ← { l with keyAllowed := true }.dropCandidate
  pure (l.take 1 .flowEntry)

def openAt (l : Lexer) (t : Token) : Except Failure Lexer :=
  if l.inFlow then .ok l
  else if !l.keyAllowed then malformed
  else match l.openBlock? l.source.column with
    | some opened => .ok (opened.push t)
    | none => .ok l

def blockEntry (l : Lexer) : Except Failure Lexer := do
  let l ← l.openAt .blockSequence
  let l ← { l with keyAllowed := true }.dropCandidate
  pure (l.take 1 .blockEntry)

def explicitKey (l : Lexer) : Except Failure Lexer := do
  let l ← l.openAt .blockMapping
  let l ← { l with keyAllowed := !l.inFlow }.dropCandidate
  pure (l.take 1 .key)

def value (l : Lexer) : Except Failure Lexer := do
  match l.candidate? with
  | some c =>
    let l := l.forget.insert c.tokens .key
    let l :=
      if l.inFlow then l
      else match l.openBlock? c.column with
        | some opened => opened.insert c.tokens .blockMapping
        | none => l
    pure ({ l with keyAllowed := false }.take 1 .value)
  | none =>
    let l ← l.openAt .blockMapping
    let l ← { l with keyAllowed := !l.inFlow }.dropCandidate
    pure (l.take 1 .value)

def property (l : Lexer) (read : Source → Except Failure (Token × Source)) :
    Except Failure Lexer := do
  let l ← l.saveCandidate
  let (t, source) ← read l.source
  pure ({ l with source, keyAllowed := false }.push t)

def named (make : String → Token) (s : Source) : Except Failure (Token × Source) :=
  (Property.anchorName s.next).map fun found => (make found.1, found.2)

def quoted (quote : Char) (s : Source) : Except Failure (Token × Source) :=
  (Quoted.read (s.rest.length + 1) quote s.next).map fun found =>
    (.scalar found.1 false, found.2)

def block (l : Lexer) (isFolded : Bool) : Except Failure Lexer := do
  let l ← { l with keyAllowed := true }.dropCandidate
  let (text, source) ← Block.read isFolded l.indent l.source.next
  pure ({ l with source }.push (.scalar text false))

def plain (l : Lexer) : Except Failure Lexer := do
  let l ← l.saveCandidate
  let (text, source, broken) :=
    Plain.read (l.source.rest.length + 1) l.inFlow (l.indent + 1) l.source
  pure ({ l with source, keyAllowed := broken }.push (.scalar text true))

def signs : List Char :=
  "-?:,[]\x7b\x7d#&*!|>'\"%@`".toList

def startsPlain (l : Lexer) : Bool :=
  let c := l.source.peek 0
  !(isSpaceOrEnd c || signs.contains c) ||
    (!isSpaceOrEnd (l.source.peek 1) && (c == '-' || (!l.inFlow && (c == '?' || c == ':'))))

def step (l : Lexer) : Except Failure Lexer := do
  let c := l.source.peek 0
  let separate := isSpaceOrEnd (l.source.peek 1)
  let atStart := l.source.column == 0
  if c == '%' && atStart then l.directive
  else if atStart && l.source.atMark '-' then l.documentMark .documentStart
  else if atStart && l.source.atMark '.' then l.documentMark .documentEnd
  else match c with
    | '[' => l.openFlow .flowSequence
    | '\x7b' => l.openFlow .flowMapping
    | ']' => l.closeFlow .flowSequenceEnd
    | '\x7d' => l.closeFlow .flowMappingEnd
    | ',' => l.flowEntry
    | '*' => l.property (named .alias_)
    | '&' => l.property (named .anchor)
    | '!' => l.property Property.tag
    | '\'' => l.property (quoted '\'')
    | '"' => l.property (quoted '"')
    | _ =>
      if c == '-' && separate then l.blockEntry
      else if c == '?' && (l.inFlow || separate) then l.explicitKey
      else if c == ':' && (l.inFlow || separate) then l.value
      else if c == '|' && !l.inFlow then l.block false
      else if c == '>' && !l.inFlow then l.block true
      else if l.startsPlain then l.plain
      else malformed

def run (fuel : Nat) (l : Lexer) : Except Failure (List Token) :=
  match fuel with
  | 0 => malformed
  | fuel + 1 => do
    let l ← (l.skipToToken (l.source.rest.length + 1)).dropStale
    let l := l.closeBlocks l.source.column
    if l.source.peek 0 == endOfText then pure (← l.endBlocks).tokens.reverse
    else run fuel (← l.step)

end Lexer

def Token.ofText (text : List Char) : Except Failure (List Token) :=
  (Lexer.start text).run (text.length + 1)

end HomePortal.Yaml
