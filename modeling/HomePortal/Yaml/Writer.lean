import HomePortal.Failure
import HomePortal.Text.Base64
import HomePortal.Yaml.Node
import HomePortal.Yaml.Page
/-!
Data written to a file: blocks by indentation, empty lists and mappings in brackets. A pair is
written as a list, and a set as a mapping of its members to nothing. What stands in several places
is written at the first of them, with an anchor that the others name. Nothing is written of data that
stands too deep inside other data, or that holds an integer of too many digits.
-/

namespace HomePortal.Yaml

namespace Writer

/-- Numbers that are not finite have a point before their names, and an exponent comes after a
point always. -/
def floatText (x : Double) : String :=
  if x.isNaN then ".nan"
  else if !x.isFinite then if x.isNegative then "-.inf" else ".inf"
  else
    let cs := x.text.toList
    if cs.contains '.' then x.text
    else String.ofList (cs.flatMap fun c => if c == 'e' then ['.', '0', 'e'] else [c])

def bytesPerLine : Nat :=
  57

def byteLines : Nat → List UInt8 → List (List Char)
  | 0, _ | _, [] => []
  | fuel + 1, data =>
    Text.base64 (data.take bytesPerLine) :: byteLines fuel (data.drop bytesPerLine)

def linesOf (data : List UInt8) : List (List Char) :=
  byteLines data.length data

def scalarText : Scalar → String
  | .null => "null"
  | .bool b => if b then "true" else "false"
  | .int n => toString n
  | .float x => floatText x
  | .text s => s
  | .moment m => m.format " "
  | .bytes data => String.ofList ((linesOf data).flatMap fun line => line ++ ['\n'])

def scalarKind : Scalar → Kind
  | .null => .null
  | .bool _ => .bool
  | .int _ => .int
  | .float _ => .float
  | .text _ => .text
  | .moment _ => .timestamp
  | .bytes _ => .binary

def scalarStyle : Scalar → Style
  | .text s => Style.ofText s
  | .bytes _ => .single
  | _ => .plain

/-- The length of a scalar's tag in its short form, which counts even where it is not written. -/
def tagLength (s : Scalar) : Nat :=
  2 + (scalarKind s).name.length

def isSimpleKey (s : Scalar) : Bool :=
  let cs := (scalarText s).toList
  !cs.isEmpty && !Style.isMultiline cs && tagLength s + cs.length < 128

/-- The marks met so far, and of these the ones met again, the last one first. -/
structure Survey where
  met : List Nat
  again : List Nat

def Survey.meet (s : Survey) (mark : Option Nat) : Bool × Survey :=
  match mark with
  | none => (true, s)
  | some m =>
    if !s.met.contains m then (true, { s with met := m :: s.met })
    else if s.again.contains m then (false, s)
    else (false, { s with again := m :: s.again })

def Survey.add (s : Survey) (mark : Option Nat) : Survey :=
  (s.meet mark).2

def Survey.enter (s : Survey) (mark : Option Nat) (room : Nat)
    (inside : Nat → Survey → Except Fault Survey) : Except Fault Survey :=
  let (isNew, s) := s.meet mark
  match isNew, room with
  | false, _ => .ok s
  | true, 0 => .error .tooDeep
  | true, room + 1 => inside room s

def Survey.leaf (s : Survey) (l : Leaf) : Except Fault Survey :=
  if l.scalar.hasText then .ok (s.add l.mark) else .error .badValue

/-- So many lists and mappings may stand inside one another in what is written. -/
def maxDepth : Nat :=
  328

mutual

/-- Meets every mark in its order, with room for so many lists and mappings inside one another. What
is met again is not looked into. -/
def survey (room : Nat) : Node → Survey → Except Fault Survey
  | .leaf l, s => s.leaf l
  | .list mark items, s => s.enter mark room fun room s => surveyItems room items s
  | .pair a b, s => s.enter none room fun room s => do survey room b (← survey room a s)
  | .set mark members, s => s.enter mark room fun _ s => members.foldlM Survey.leaf s
  | .mapping mark entries, s => s.enter mark room fun room s => surveyEntries room entries s
  | .again mark _, s => .ok (s.add (some mark))

def surveyItems (room : Nat) : List Node → Survey → Except Fault Survey
  | [], s => .ok s
  | item :: rest, s => do surveyItems room rest (← survey room item s)

def surveyEntries (room : Nat) : List (Leaf × Node) → Survey → Except Fault Survey
  | [], s => .ok s
  | (key, item) :: rest, s => do
    surveyEntries room rest (← survey room item (← s.leaf key))

end

/-- The anchors of a file, numbered in the order in which their nodes are met again. -/
abbrev Anchors := List (Nat × String)

def Survey.anchors (s : Survey) : Anchors :=
  s.again.reverse.zipIdx.map fun (mark, i) => (mark, "id" ++ paddedDigits 10 3 (i + 1))

structure Sheet where
  page : Page
  done : List Nat

namespace Sheet

def onPage (s : Sheet) (f : Page → Page) : Sheet :=
  { s with page := f s.page }

/-- Writes the anchor of a node, or the alias of one that is written. The answer tells whether the
node itself is to be written. -/
def name (anchors : Anchors) (mark : Option Nat) (s : Sheet) : Bool × Sheet :=
  match mark with
  | none => (true, s)
  | some m =>
    match anchors.lookup m with
    | none => (true, s)
    | some anchor =>
      if s.done.contains m then
        (false, s.onPage fun p => p.sign ('*' :: anchor.toList) true false)
      else
        (true, { s with
          page := s.page.sign ('&' :: anchor.toList) true false
          done := m :: s.done })

end Sheet

def shortTag (name : String) : List Char :=
  '!' :: '!' :: name.toList

def putBytes (column : Nat) (data : List UInt8) (p : Page) : Page :=
  let line := p.sign (shortTag Kind.binary.name) true false
  if data.isEmpty then line.single column true [] else line.literal column (linesOf data)

def putLeaf (anchors : Anchors) (column : Nat) (folds : Bool) (l : Leaf) (s : Sheet) : Sheet :=
  let (isNew, s) := s.name anchors l.mark
  if !isNew then s
  else s.onPage fun p =>
    match l.scalar with
    | .bytes data => putBytes column data p
    | v => p.scalar (scalarStyle v) column folds (scalarText v).toList

def putKey (anchors : Anchors) (column : Nat) (key : Leaf) (s : Sheet) : Sheet :=
  let line := s.onPage fun p => p.indentTo column
  if isSimpleKey key.scalar then
    (putLeaf anchors (column + 2) false key line).onPage fun p => p.sign [':'] false false
  else
    let shown := putLeaf anchors (column + 2) true key (line.onPage fun p => p.sign ['?'] true true)
    shown.onPage fun p => (p.indentTo column).sign [':'] true true

def putMember (anchors : Anchors) (column : Nat) (s : Sheet) (member : Leaf) : Sheet :=
  putLeaf anchors (column + 2) true (.ofScalar .null) (putKey anchors column member s)

def putDash (column : Nat) (s : Sheet) : Sheet :=
  s.onPage fun p => (p.indentTo column).sign ['-'] true true

def putEmpty (start stop : Char) (s : Sheet) : Sheet :=
  s.onPage fun p => (p.sign [start] true false).sign [stop] false false

/-- The column of the items of a list. In a mapping, a list that starts on a line of its own is not
indented further. -/
def itemColumn (column : Nat) (inMapping : Bool) (s : Sheet) : Nat :=
  if inMapping && !s.page.fresh then column else column + 2

mutual

def put (anchors : Anchors) (column : Nat) (inMapping : Bool) : Node → Sheet → Sheet
  | .leaf l, s => putLeaf anchors (column + 2) true l s
  | .list mark items, s =>
    let (isNew, s) := s.name anchors mark
    if !isNew then s
    else if items.isEmpty then putEmpty '[' ']' s
    else putItems anchors (itemColumn column inMapping s) items s
  | .pair a b, s =>
    let column := itemColumn column inMapping s
    let first := put anchors column false a (putDash column s)
    put anchors column false b (putDash column first)
  | .set mark members, s =>
    let (isNew, s) := s.name anchors mark
    if !isNew then s
    else
      let s := s.onPage fun p => p.sign (shortTag "set") true false
      if members.isEmpty then putEmpty '\x7b' '\x7d' s
      else members.foldl (putMember anchors (column + 2)) s
  | .mapping mark entries, s =>
    let (isNew, s) := s.name anchors mark
    if !isNew then s
    else if entries.isEmpty then putEmpty '\x7b' '\x7d' s
    else putEntries anchors (column + 2) entries s
  | .again mark _, s => (s.name anchors (some mark)).2

def putItems (anchors : Anchors) (column : Nat) : List Node → Sheet → Sheet
  | [], s => s
  | item :: rest, s =>
    putItems anchors column rest (put anchors column false item (putDash column s))

def putEntries (anchors : Anchors) (column : Nat) : List (Leaf × Node) → Sheet → Sheet
  | [], s => s
  | (key, item) :: rest, s =>
    putEntries anchors column rest (put anchors column true item (putKey anchors column key s))

end

end Writer

def writeList (nodes : List Node) : Except Fault String := do
  let survey ← Writer.survey Writer.maxDepth (.list none nodes) ⟨[], []⟩
  let sheet := Writer.putItems survey.anchors 0 nodes ⟨Page.empty, []⟩
  pure (if nodes.isEmpty then "[]\n" else (sheet.page.indentTo 0).text)

/-- The text of a file that holds a mapping in which nothing has a mark, if it can be written. -/
def writeMapping (entries : Entries) : String :=
  let sheet := Writer.putEntries [] 0 (Node.ofEntries entries) ⟨Page.empty, []⟩
  if entries.isEmpty then "\x7b\x7d\n" else (sheet.page.indentTo 0).text

end HomePortal.Yaml
