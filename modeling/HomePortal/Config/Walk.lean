import HomePortal.Config.Finding
/-!
A walk over the tree of a config. Every value has a role, from its place alone; the role tells
what the value says by itself and the roles of what it holds.
-/

namespace HomePortal

inductive Role where
  | data
  | reference
  | trigger
  | condition
  | step
  | option
  | loop
  | read
  deriving DecidableEq

/-- A role for one value, or for each item of a list; nothing is a list without items, and another
value alone is one item. -/
structure Place where
  role : Role
  many : Bool
  deriving DecidableEq

namespace Place

def one (role : Role) : Place := ⟨role, false⟩

def each (role : Role) : Place := ⟨role, true⟩

def ofKey (key : Scalar) : Place :=
  if Finding.isKey Finding.entityKeys key then each .reference
  else if Finding.isKey Finding.targetKeys key then one .read
  else one .data

def among (places : List (String × Place)) (key : Scalar) : Place :=
  match key with
  | .text s => (places.lookup s).getD (ofKey key)
  | _ => ofKey key

end Place

namespace Role

open Place

def conditionPlaces (fields : Entries) : List (String × Place) :=
  match Finding.conditionKind fields with
  | .shorthand key => [(key, each .condition)]
  | .logical => [("conditions", each .condition)]
  | .plain "template" => [("value_template", one .read)]
  | _ => []

def stepPlaces (fields : Entries) : List (String × Place) :=
  match Finding.stepKind fields with
  | .choose => [("choose", each .option), ("default", each .step)]
  | .branch => [("if", each .condition), ("then", each .step), ("else", each .step)]
  | .loop => [("repeat", one .loop)]
  | .group key => [(key, each .step)]
  | .wait => [("wait_for_trigger", each .trigger)]
  | .condition => conditionPlaces fields
  | _ => []

def places (role : Role) (fields : Entries) : List (String × Place) :=
  match role with
  | condition => conditionPlaces fields
  | step => stepPlaces fields
  | option => [("conditions", each .condition), ("sequence", each .step)]
  | loop => [("while", each .condition), ("until", each .condition), ("sequence", each .step)]
  | _ => []

def ofFields (role : Role) (fields : Entries) : List Finding :=
  match role with
  | reference => [.unseen]
  | trigger => Finding.ofTrigger fields ++ Finding.ofTargets fields
  | condition => Finding.ofCondition fields ++ Finding.ofTargets fields
  | step => Finding.ofStep fields ++ Finding.ofTargets fields
  | data | option | loop => Finding.ofTargets fields
  | read => []

def ofScalar (role : Role) (s : Scalar) : List Finding :=
  match role, s with
  | data, s => Finding.ofScalar s
  | reference, .text s => Finding.ofReference s
  | condition, .text s => if Template.isContextOnly s then [] else [.unseen]
  | read, _ => []
  | _, _ => [.unseen]

def ofOther (role : Role) : List Finding :=
  match role with
  | data | read => []
  | _ => [.unseen]

def goesOn (role : Role) : Bool :=
  match role with
  | reference | read => false
  | _ => true

end Role

mutual

def Value.walk (place : Place) : Value → List Finding
  | .scalar s => if place.many && s == .null then [] else place.role.ofScalar s
  | .list items =>
    if place.many then walkItems place.role items
    else place.role.ofOther ++ (if place.role.goesOn then walkItems .data items else [])
  | .pair .. | .set _ => place.role.ofOther
  | .mapping fields =>
    place.role.ofFields fields ++
      (if place.role.goesOn then walkEntries (Place.among (place.role.places fields)) fields
      else [])

def Value.walkItems (role : Role) : List Value → List Finding
  | [] => []
  | item :: rest => item.walk (.one role) ++ walkItems role rest

def Value.walkEntries (placeOf : Scalar → Place) : List (Scalar × Value) → List Finding
  | [] => []
  | (key, value) :: rest => value.walk (placeOf key) ++ walkEntries placeOf rest

end

end HomePortal
