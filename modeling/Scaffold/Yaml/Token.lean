import Scaffold.Yaml.Trouble

/-!
# Tokens of YAML

What a text is made of once lines and indentation have been understood: the block collections begin
and end by tokens of their own.
-/

namespace Scaffold.Yaml

/-- A tag as it is written; with no handle it stands for itself. -/
structure TagText where
  handle? : Option (List Char)
  suffix : List Char
  deriving DecidableEq, Repr

inductive Directive where
  | version (major : Nat)
  /-- A handle with the text that it abbreviates. -/
  | handle (name text : List Char)
  | other
  deriving DecidableEq, Repr

inductive Token where
  | directive (d : Directive)
  | documentStart
  | documentEnd
  | blockSequenceStart
  | blockMappingStart
  | blockEnd
  | flowSequenceStart
  | flowSequenceEnd
  | flowMappingStart
  | flowMappingEnd
  | blockEntry
  | flowEntry
  | key
  | value
  | alias (name : List Char)
  | anchor (name : List Char)
  | tag (text : TagText)
  | scalar (plain : Bool) (text : List Char)
  | streamEnd
  /-- The text cannot be understood from here on. -/
  | broken (trouble : Trouble)
  deriving DecidableEq, Repr

end Scaffold.Yaml
