import HomePortal.Value.Text
import HomePortal.Yaml.Style
/-!
Text as it is laid out: words, signs and line breaks, with lines folded after their eightieth
column.
-/

namespace HomePortal.Yaml

/-- What is written, the last character first; the column; whether a blank was just written, and
whether nothing but signs of structure stands on the line. -/
structure Page where
  written : List Char
  column : Nat
  spaced : Bool
  fresh : Bool

namespace Page

def empty : Page :=
  ⟨[], 0, true, true⟩

def text (p : Page) : String :=
  String.ofList p.written.reverse

def put (p : Page) (cs : List Char) : Page :=
  { p with written := cs.reverse ++ p.written, column := p.column + cs.length }

def newLine (c : Char) (p : Page) : Page :=
  ⟨c :: p.written, 0, true, true⟩

def indentTo (p : Page) (column : Nat) : Page :=
  let line :=
    if !p.fresh || column < p.column || (p.column == column && !p.spaced) then p.newLine '\n'
    else p
  if line.column < column then
    { line.put (List.replicate (column - line.column) ' ') with spaced := true }
  else line

def sign (p : Page) (cs : List Char) (needsSpace structural : Bool) : Page :=
  let p' := p.put (if p.spaced || !needsSpace then cs else ' ' :: cs)
  { p' with spaced := false, fresh := p.fresh && structural }

def used (p : Page) : Page :=
  { p with spaced := false, fresh := false }

def width : Nat :=
  80

inductive Piece where
  | spaces (count : Nat)
  | breaks (cs : List Char)
  | word (cs : List Char)
  deriving DecidableEq

def pieces : List Char → List Piece
  | [] => []
  | c :: rest =>
    match pieces rest with
    | .spaces n :: more =>
      if c == ' ' then .spaces (n + 1) :: more else alone c :: .spaces n :: more
    | .breaks cs :: more =>
      if isBreak c then .breaks (c :: cs) :: more else alone c :: .breaks cs :: more
    | .word cs :: more =>
      if c == ' ' || isBreak c then alone c :: .word cs :: more else .word (c :: cs) :: more
    | [] => [alone c]
where
  alone (c : Char) : Piece :=
    if c == ' ' then .spaces 1 else if isBreak c then .breaks [c] else .word [c]

def putBreaks (p : Page) (cs : List Char) (column : Nat) : Page :=
  let doubled := if cs.head? == some '\n' then p.newLine '\n' else p
  (cs.foldl (fun p c => p.newLine c) doubled).indentTo column

/-- Pieces of a plain text or of one in single quotes. A single space between two words may become
a line break where the line is too long; quotes are doubled. -/
def putPieces (column : Nat) (folds quoted : Bool) (inside : Bool) : List Piece → Page → Page
  | [], p => p
  | .spaces n :: rest, p =>
    let next :=
      if n == 1 && width < p.column && folds && inside && !rest.isEmpty then
        if quoted then p.indentTo column else (p.indentTo column).used
      else p.put (List.replicate n ' ')
    putPieces column folds quoted true rest next
  | .breaks cs :: rest, p => putPieces column folds quoted true rest (p.putBreaks cs column)
  | .word cs :: rest, p =>
    let shown := if quoted then cs.flatMap fun c => if c == '\'' then ['\'', '\''] else [c] else cs
    putPieces column folds quoted true rest (p.put shown)

def plain (p : Page) (column : Nat) (folds : Bool) (cs : List Char) : Page :=
  let spaced := if p.spaced then p else p.put [' ']
  putPieces column folds false false (pieces cs) spaced.used

def single (p : Page) (column : Nat) (folds : Bool) (cs : List Char) : Page :=
  (putPieces column folds true false (pieces cs) (p.sign ['\''] true false)).sign ['\''] false false

def escapes : List (Char × Char) :=
  [('\x00', '0'), ('\x07', 'a'), ('\x08', 'b'), ('\t', 't'), ('\n', 'n'), ('\x0B', 'v'),
   ('\x0C', 'f'), ('\r', 'r'), ('\x1B', 'e'), ('"', '"'), ('\\', '\\'), ('\x85', 'N'),
   ('\xA0', '_'), ('\u2028', 'L'), ('\u2029', 'P')]

def standsForItself (c : Char) : Bool :=
  !(['"', '\\', '\x85', '\u2028', '\u2029', byteOrderMark].contains c) &&
    ((' ' ≤ c && c ≤ '~') || ('\xA0' ≤ c && c ≤ '\uD7FF') || ('\uE000' ≤ c && c ≤ '\uFFFD'))

def upperHex (width n : Nat) : List Char :=
  (paddedDigits 16 width n).toList.map Char.toUpper

def escaped (c : Char) : List Char :=
  match escapes.lookup c with
  | some letter => ['\\', letter]
  | none =>
    if c.toNat ≤ 0xFF then '\\' :: 'x' :: upperHex 2 c.toNat
    else if c.toNat ≤ 0xFFFF then '\\' :: 'u' :: upperHex 4 c.toNat
    else '\\' :: 'U' :: upperHex 8 c.toNat

def foldDouble (p : Page) (column : Nat) (next : Char) : Page :=
  let line := ((p.put ['\\']).indentTo column).used
  if next == ' ' then line.put ['\\'] else line

/-- Characters in double quotes. `pending` are those of the line that stand for themselves and are
not written yet, the last one first. A line may end before a space and around an escape. -/
def putDouble (column : Nat) (folds : Bool) (inside : Bool) (pending : List Char) :
    List Char → Page → Page
  | [], p => p.put pending.reverse
  | c :: rest, p =>
    if standsForItself c then
      let long := width < p.column + pending.length
      if inside && !rest.isEmpty && (c == ' ' || pending.isEmpty) && long && folds then
        putDouble column folds true [c] rest ((p.put pending.reverse).foldDouble column c)
      else putDouble column folds true (c :: pending) rest p
    else
      let shown := (p.put pending.reverse).put (escaped c)
      match rest with
      | next :: _ =>
        if inside && width + 1 < shown.column && folds then
          putDouble column folds true [] rest (shown.foldDouble column next)
        else putDouble column folds true [] rest shown
      | [] => putDouble column folds true [] rest shown

def double (p : Page) (column : Nat) (folds : Bool) (cs : List Char) : Page :=
  (putDouble column folds false [] cs (p.sign ['"'] true false)).sign ['"'] false false

def literal (p : Page) (column : Nat) (lines : List (List Char)) : Page :=
  lines.foldl (fun p line => ((p.indentTo column).put line).newLine '\n')
    ((p.sign ['|'] true false).newLine '\n')

def scalar (p : Page) (style : Style) (column : Nat) (folds : Bool) (cs : List Char) : Page :=
  match style with
  | .plain => p.plain column folds cs
  | .single => p.single column folds cs
  | .double => p.double column folds cs

end Page

end HomePortal.Yaml
