import HomePortal.Yaml.Kind
import HomePortal.Yaml.Lexer
/-!
The trees that tokens write. An alias stands for the very node that its anchor names, so each node
has a number that tells which are one and the same.
-/

namespace HomePortal.Yaml

inductive Tag where
  | scalar (k : Kind)
  | list
  | pairs
  | set
  | mapping
  | unknown
  deriving DecidableEq

namespace Tag

def space : String :=
  "tag:yaml.org,2002:"

def collections : List (String × Tag) :=
  [("seq", list), ("omap", pairs), ("pairs", pairs), ("set", set), ("map", mapping)]

def ofName (name : String) : Tag :=
  match (collections ++ Kind.all.map fun k => (k.name, scalar k)).find? fun entry =>
      name == space ++ entry.1 with
  | some entry => entry.2
  | none => unknown

end Tag

inductive Tree where
  | scalar (tag : Tag) (mark : Nat) (text : String)
  | list (tag : Tag) (mark : Nat) (items : List Tree)
  | mapping (tag : Tag) (mark : Nat) (entries : List (Tree × Tree))
  | again (mark : Nat) (isList : Bool)

namespace Tree

instance : Inhabited Tree := ⟨scalar .unknown 0 ""⟩

/-- The work on tokens: those left, the meanings of handles, the nodes that anchors name, the next
number, and how many lists and mappings stand around the next node. An anchor of a node that is not
finished names a place inside that very node. -/
structure Builder where
  tokens : List Token
  handles : List (String × String)
  anchors : List (String × Tree)
  mark : Nat
  depth : Nat

def maxDepth : Nat :=
  480

abbrev Build := StateT Builder (Except Failure)

namespace Build

def fail {α : Type} : Build α :=
  StateT.lift malformed

def peek : Build (Option Token) := do
  pure (← get).tokens.head?

def skip : Build Unit :=
  modify fun b => { b with tokens := b.tokens.drop 1 }

def accept (t : Token) : Build Bool := do
  if (← peek) == some t then
    skip
    pure true
  else pure false

def expect (t : Token) : Build Unit := do
  if !(← accept t) then fail

def isNext (ts : List Token) : Build Bool := do
  match ← peek with
  | some t => pure (ts.contains t)
  | none => pure false

def freshMark : Build Nat := do
  let b ← get
  set { b with mark := b.mark + 1 }
  pure b.mark

def properties : Build (Option String × Option (Option String × String)) := do
  match ← peek with
  | some (.anchor name) =>
    skip
    match ← peek with
    | some (.tag handle suffix) =>
      skip
      pure (some name, some (handle, suffix))
    | _ => pure (some name, none)
  | some (.tag handle suffix) =>
    skip
    match ← peek with
    | some (.anchor name) =>
      skip
      pure (some name, some (handle, suffix))
    | _ => pure (none, some (handle, suffix))
  | _ => pure (none, none)

def tagName : Option (Option String × String) → Build (Option String)
  | none => pure none
  | some (none, suffix) => pure (some suffix)
  | some (some handle, suffix) => do
    match (← get).handles.lookup handle with
    | some meaning => pure (some (meaning ++ suffix))
    | none => fail

def announce : Option String → Build Unit
  | none => pure ()
  | some name => do
    if ((← get).anchors.lookup name).isSome then fail

def name (anchor : Option String) (t : Tree) : Build Tree := do
  match anchor with
  | none => pure t
  | some name =>
    modify fun b => { b with anchors := (name, t) :: b.anchors }
    pure t

def around {α : Type} (anchor : Option String) (isList : Bool) (content : Build α)
    (make : Nat → α → Tree) : Build Tree := do
  let mark ← freshMark
  let _ ← name anchor (.again mark isList)
  if maxDepth ≤ (← get).depth then StateT.lift (.error (.fault .tooDeep))
  modify fun b => { b with depth := b.depth + 1 }
  let found ← content
  modify fun b => { b with depth := b.depth - 1 }
  name anchor (make mark found)

def nothing : Build Tree := do
  pure (.scalar (.scalar .null) (← freshMark) "")

/-- The tag of a scalar. A lone exclamation mark has the text read as if it were plain. -/
def scalarTag (tag : Option String) (text : List Char) (plain : Bool) : Tag :=
  match tag with
  | none => .scalar (if plain then Kind.ofPlain text else .text)
  | some "!" => .scalar (Kind.ofText text)
  | some name => Tag.ofName name

def collectionTag (tag : Option String) (default : Tag) : Tag :=
  match tag with
  | none | some "!" => default
  | some name => Tag.ofName name

end Build

open Build

mutual

/-- One value. Inside brackets there are no blocks; the value of a key may be a list that is not
indented. -/
def node (fuel : Nat) (block indentless : Bool) : Build Tree := do
  match fuel with
  | 0 => fail
  | fuel + 1 =>
    if let some (.alias_ target) ← peek then
      skip
      match (← get).anchors.lookup target with
      | some t => return t
      | none => fail
    let (anchor, tag) ← properties
    let given := anchor.isSome || tag.isSome
    let tag ← tagName tag
    announce anchor
    let asList (items : Build (List Tree)) : Build Tree :=
      around anchor true items (.list (collectionTag tag .list))
    let asMapping (entries : Build (List (Tree × Tree))) : Build Tree :=
      around anchor false entries (.mapping (collectionTag tag .mapping))
    let t ← peek
    if indentless && t == some .blockEntry then asList (indentlessItems fuel)
    else match t with
      | some (.scalar text plain) =>
        skip
        name anchor (.scalar (scalarTag tag text plain) (← freshMark) (String.ofList text))
      | some .flowSequence =>
        skip
        asList (flowItems fuel true)
      | some .flowMapping =>
        skip
        asMapping (flowEntries fuel true)
      | some .blockSequence =>
        if !block then fail
        skip
        asList (blockItems fuel)
      | some .blockMapping =>
        if !block then fail
        skip
        asMapping (blockEntries fuel)
      | _ =>
        if given then name anchor (.scalar (scalarTag tag [] true) (← freshMark) "") else fail

def nodeUnless (fuel : Nat) (ends : List Token) (block indentless : Bool) : Build Tree := do
  match fuel with
  | 0 => fail
  | fuel + 1 => if ← isNext ends then nothing else node fuel block indentless

def blockItems (fuel : Nat) : Build (List Tree) := do
  match fuel with
  | 0 => fail
  | fuel + 1 =>
    if ← accept .blockEntry then
      let item ← nodeUnless fuel [.blockEntry, .blockEnd] true false
      pure (item :: (← blockItems fuel))
    else
      expect .blockEnd
      pure []

def indentlessItems (fuel : Nat) : Build (List Tree) := do
  match fuel with
  | 0 => fail
  | fuel + 1 =>
    if ← accept .blockEntry then
      let item ← nodeUnless fuel [.blockEntry, .key, .value, .blockEnd] true false
      pure (item :: (← indentlessItems fuel))
    else pure []

def blockEntries (fuel : Nat) : Build (List (Tree × Tree)) := do
  match fuel with
  | 0 => fail
  | fuel + 1 =>
    if ← accept .key then
      let key ← nodeUnless fuel [.key, .value, .blockEnd] true true
      let value ← if ← accept .value then nodeUnless fuel [.key, .value, .blockEnd] true true
        else nothing
      pure ((key, value) :: (← blockEntries fuel))
    else
      expect .blockEnd
      pure []

/-- The items of a list in brackets. A key among them makes a mapping of one entry. -/
def flowItems (fuel : Nat) (first : Bool) : Build (List Tree) := do
  match fuel with
  | 0 => fail
  | fuel + 1 =>
    if ← accept .flowSequenceEnd then pure []
    else
      if !first then expect .flowEntry
      if ← accept .key then
        let pair ← around none false (flowPair fuel) (.mapping .mapping)
        pure (pair :: (← flowItems fuel false))
      else if ← accept .flowSequenceEnd then pure []
      else
        let item ← node fuel false false
        pure (item :: (← flowItems fuel false))

def flowPair (fuel : Nat) : Build (List (Tree × Tree)) := do
  match fuel with
  | 0 => fail
  | fuel + 1 =>
    let key ← nodeUnless fuel [.value, .flowEntry, .flowSequenceEnd] false false
    let value ← if ← accept .value then
        nodeUnless fuel [.flowEntry, .flowSequenceEnd] false false
      else nothing
    pure [(key, value)]

def flowEntries (fuel : Nat) (first : Bool) : Build (List (Tree × Tree)) := do
  match fuel with
  | 0 => fail
  | fuel + 1 =>
    if ← accept .flowMappingEnd then pure []
    else
      if !first then expect .flowEntry
      if ← accept .key then
        let key ← nodeUnless fuel [.value, .flowEntry, .flowMappingEnd] false false
        let value ← if ← accept .value then
            nodeUnless fuel [.flowEntry, .flowMappingEnd] false false
          else nothing
        pure ((key, value) :: (← flowEntries fuel false))
      else if ← accept .flowMappingEnd then pure []
      else
        let key ← node fuel false false
        pure ((key, ← nothing) :: (← flowEntries fuel false))

end

def standardHandles : List (String × String) :=
  [("!", "!"), ("!!", Tag.space)]

def directives (versioned : Bool) (own : List (String × String)) :
    List Token → Except Failure (List (String × String) × List Token)
  | .directive (.version major) :: rest =>
    if versioned || major != 1 then malformed else directives true own rest
  | .directive (.tag handle meaning) :: rest =>
    if (own.lookup handle).isSome then malformed
    else directives versioned ((handle, meaning) :: own) rest
  | .directive .other :: rest => directives versioned own rest
  | rest => .ok (own ++ standardHandles, rest)

def content (handles : List (String × String)) (explicit : Bool) (tokens : List Token) :
    Except Failure (Tree × List Token) := do
  let fuel := 5 * tokens.length + 5
  let act : Build Tree :=
    match explicit, tokens.head? with
    | true, none | true, some .documentStart | true, some .documentEnd
    | true, some (.directive _) => nothing
    | _, _ => node fuel true false
  let (t, b) ← act.run ⟨tokens, handles, [], 0, 0⟩
  pure (t, b.tokens)

def ofTokens? (tokens : List Token) : Except Failure (Option Tree) := do
  let (explicit, handles, tokens) ←
    match tokens.head? with
    | none => return none
    | some .documentStart | some (.directive _) =>
      let (handles, rest) ← directives false [] tokens
      match rest with
      | .documentStart :: rest => pure (true, handles, rest)
      | _ => malformed
    | some _ => pure (false, standardHandles, tokens)
  let (t, rest) ← content handles explicit tokens
  if (rest.dropWhile (· == .documentEnd)).isEmpty then pure (some t) else malformed

end Tree

end HomePortal.Yaml
