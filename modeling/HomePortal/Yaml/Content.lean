import HomePortal.Value.Text
import HomePortal.Yaml.Meaning
import HomePortal.Yaml.Node
import HomePortal.Yaml.Tree
/-!
The data of a tree: entries of other mappings merged in, every scalar read by its kind. Of several
faults the one nearest to the root counts, and of those the first.
-/

namespace HomePortal.Yaml

/-- A tree with its merges done. A mapping has its entries as they are written beside those that
it has then, if all it merges in are mappings. -/
inductive Merged where
  | scalar (tag : Tag) (mark : Nat) (text : String)
  | list (tag : Tag) (mark : Nat) (items : List Merged)
  | mapping (tag : Tag) (mark : Nat) (written : List (Merged × Merged))
      (merged : Option (List (Merged × Merged)))
  | again (mark : Nat) (isList : Bool)

namespace Merged

def hasTag (tag : Tag) : Merged → Bool
  | scalar t _ _ | list t _ _ | mapping t _ _ _ => t == tag
  | again .. => false

def isMergeKey : Merged → Bool :=
  hasTag (.scalar .merge)

def isValueKey : Merged → Bool :=
  hasTag (.scalar .value)

def entriesOfItems : List Merged → Option (List (Merged × Merged))
  | [] => some []
  | mapping _ _ _ merged :: rest => do pure ((← entriesOfItems rest) ++ (← merged))
  | again _ false :: rest => entriesOfItems rest
  | _ :: _ => none

def source? : Merged → Option (List (Merged × Merged))
  | mapping _ _ _ merged => merged
  | list _ _ items => entriesOfItems items
  | again .. => some []
  | scalar .. => none

def asKey (key : Merged) : Merged :=
  if key.isValueKey then
    match key with
    | scalar _ mark text => scalar (.scalar .text) mark text
    | list _ mark items => list (.scalar .text) mark items
    | mapping _ mark written merged => mapping (.scalar .text) mark written merged
    | again mark isList => again mark isList
  else key

def merge (entries : List (Merged × Merged)) : Option (List (Merged × Merged)) := do
  let brought ← (entries.filter fun e => e.1.isMergeKey).mapM fun e => e.2.source?
  some (brought.flatten ++
    (entries.filter fun e => !e.1.isMergeKey).map fun e => (e.1.asKey, e.2))

mutual

def ofTree : Tree → Merged
  | .scalar tag mark text => scalar tag mark text
  | .list tag mark items => list tag mark (ofItems items)
  | .mapping tag mark entries =>
    let written := ofEntries entries
    mapping tag mark written (merge written)
  | .again mark isList => again mark isList

def ofItems : List Tree → List Merged
  | [] => []
  | item :: rest => ofTree item :: ofItems rest

def ofEntries : List (Tree × Tree) → List (Merged × Merged)
  | [] => []
  | (key, value) :: rest => (ofTree key, ofTree value) :: ofEntries rest

end

mutual

def text? : Merged → Option String
  | scalar _ _ text => some text
  | mapping _ _ written _ => textOfEntries written
  | list .. | again .. => none

def textOfEntries : List (Merged × Merged) → Option String
  | [] => none
  | (key, value) :: rest => if key.isValueKey then text? value else textOfEntries rest

end

end Merged

abbrev Outcome (α : Type) := Except (Nat × Failure) α

namespace Outcome

variable {α β : Type}

def both (a : Outcome α) (b : Outcome β) : Outcome (α × β) :=
  match a, b with
  | .ok a, .ok b => .ok (a, b)
  | .error e, .ok _ => .error e
  | .ok _, .error e => .error e
  | .error e, .error f => if f.1 < e.1 then .error f else .error e

def malformedAt (depth : Nat) : Outcome α :=
  .error (depth, .hub .notYaml)

end Outcome

/-- Whether what a tag asks for is filled after it is made, one step further from the root. -/
def Tag.isFilledLater : Tag → Bool
  | .scalar _ | .unknown => false
  | .list | .pairs | .set | .mapping => true

namespace Leaf

def sameKey (a b : Leaf) : Bool :=
  a.scalar.same b.scalar

def precedes (a b : Leaf) : Bool :=
  match a.scalar.quantity?, b.scalar.quantity? with
  | some (.finite p), some (.finite q) => p < q
  | _, _ => a.scalar.display < b.scalar.display

/-- A scalar of a kind. Only a moment can be told from another one with the same meaning. -/
def ofText (depth : Nat) (k : Kind) (mark : Nat) (text : String) : Outcome Leaf :=
  match Meaning.ofKind k text with
  | .ok (.moment m) => .ok ⟨some mark, .moment m⟩
  | .ok s => .ok (.ofScalar s)
  | .error f => .error (depth, f)

end Leaf

namespace Node

open Outcome

def gather (entries : List (Leaf × Node)) : List (Leaf × Node) :=
  entries.foldl (fun done entry =>
    if done.any fun old => old.1.sameKey entry.1 then
      done.map fun old => if old.1.sameKey entry.1 then (old.1, entry.2) else old
    else done ++ [entry]) []

def insertMember (l : Leaf) (members : List Leaf) : List Leaf :=
  members.takeWhile (fun m => !l.precedes m) ++ l :: members.dropWhile fun m => !l.precedes m

def members (entries : List (Leaf × Node)) : List Leaf :=
  (gather entries).foldl (fun done entry => insertMember entry.1 done) []

def ofValueKey (depth : Nat) (k : Kind) (mark : Nat) (text : Option String) : Outcome Node :=
  match text with
  | none => malformedAt depth
  | some text =>
    if k == .timestamp then .error (depth, .fault .typeMismatch)
    else leaf <$> Leaf.ofText depth k mark text

mutual

def ofMerged (depth : Nat) : Merged → Outcome Node
  | .scalar (.scalar k) mark text => leaf <$> Leaf.ofText depth k mark text
  | .list .list mark items => (list (some mark)) <$> ofItems (depth + 1) items
  | .list .pairs mark items => (list (some mark)) <$> ofPairs (depth + 1) items
  | .mapping .mapping mark _ (some entries) =>
    (fun entries => mapping (some mark) (gather entries)) <$> ofMergedEntries (depth + 1) entries
  | .mapping .set mark _ (some entries) =>
    (fun entries => set (some mark) (members entries)) <$> ofMergedEntries (depth + 1) entries
  | .mapping (.scalar k) mark written _ =>
    ofValueKey depth k mark (Merged.textOfEntries written)
  | .scalar tag _ _ | .list tag _ _ | .mapping tag _ _ _ =>
    malformedAt (if tag.isFilledLater then depth + 1 else depth)
  | .again mark isList => .ok (again mark isList)

def ofItems (depth : Nat) : List Merged → Outcome (List Node)
  | [] => .ok []
  | item :: rest =>
    (fun found => found.1 :: found.2) <$> both (ofMerged depth item) (ofItems depth rest)

/-- Each item is a mapping with one entry, whose key may be any data. -/
def ofPairs (depth : Nat) : List Merged → Outcome (List Node)
  | [] => .ok []
  | .mapping _ _ [(key, value)] _ :: rest =>
    (fun found => pair found.1 found.2.1 :: found.2.2) <$>
      both (ofMerged depth key) (both (ofMerged depth value) (ofPairs depth rest))
  | _ :: _ => malformedAt depth

def ofMergedEntries (depth : Nat) : List (Merged × Merged) → Outcome (List (Leaf × Node))
  | [] => .ok []
  | (key, value) :: rest =>
    let key : Outcome Leaf :=
      match ofMerged depth key with
      | .ok (leaf l) => .ok l
      | .ok _ => malformedAt depth
      | .error e => if depth < e.1 then malformedAt depth else .error e
    (fun found => (found.1, found.2.1) :: found.2.2) <$>
      both key (both (ofMerged depth value) (ofMergedEntries depth rest))

end

def ofTree (t : Tree) : Except Failure Node :=
  (ofMerged 0 (Merged.ofTree t)).mapError (·.2)

end Node

end HomePortal.Yaml
