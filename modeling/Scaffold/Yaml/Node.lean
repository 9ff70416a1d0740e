/-!
# Nodes of YAML

The tree that a text describes: scalars, sequences and mappings, each with a tag that says what kind
of data it is.
-/

namespace Scaffold.Yaml

/-- The kinds of plain data, and everything else. -/
inductive Tag where
  | null
  | bool
  | int
  | float
  | binary
  | timestamp
  | omap
  | pairs
  | set
  | str
  | seq
  | map
  /-- The key that merges another mapping. -/
  | merge
  /-- The key of the value that stands for the whole mapping. -/
  | value
  | unknown
  deriving DecidableEq, Repr

namespace Tag

/-- What the tags of all plain data begin with. -/
def common : String := "tag:yaml.org,2002:"

def names : List (String × Tag) :=
  [("null", null), ("bool", bool), ("int", int), ("float", float), ("binary", binary),
    ("timestamp", timestamp), ("omap", omap), ("pairs", pairs), ("set", set), ("str", str),
    ("seq", seq), ("map", map), ("merge", merge), ("value", value)]

def ofName (text : List Char) : Tag :=
  if common.toList.isPrefixOf text then
    (names.lookup (String.ofList (text.drop common.length))).getD unknown
  else unknown

end Tag

inductive Node where
  | scalar (tag : Tag) (text : List Char)
  | sequence (tag : Tag) (items : List Node)
  | mapping (tag : Tag) (entries : List (Node × Node))

namespace Node

def tag : Node → Tag
  | scalar tag _ | sequence tag _ | mapping tag _ => tag

end Node

end Scaffold.Yaml
