/-!
The tokens of a file: marks of structure, and the properties and texts of its values.
-/

namespace HomePortal.Yaml

inductive Directive where
  | version (major : Nat)
  | tag (handle meaning : String)
  | other
  deriving DecidableEq

inductive Token where
  | directive (d : Directive)
  | documentStart
  | documentEnd
  | blockSequence
  | blockMapping
  | blockEnd
  | flowSequence
  | flowSequenceEnd
  | flowMapping
  | flowMappingEnd
  | blockEntry
  | flowEntry
  | key
  | value
  | alias_ (name : String)
  | anchor (name : String)
  | tag (handle : Option String) (suffix : String)
  | scalar (text : List Char) (plain : Bool)
  deriving DecidableEq

end HomePortal.Yaml
