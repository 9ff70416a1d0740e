/-!
# Names that templates may use

The filters and tests that a template may name.
-/

namespace Scaffold.Template.Vocabulary

def filters : List String :=
  ["abs", "attr", "batch", "capitalize", "center", "count", "d", "default", "dictsort", "e",
    "escape", "filesizeformat", "first", "float", "forceescape", "format", "groupby", "indent",
    "int", "items", "join", "last", "length", "list", "lower", "map", "max", "min", "pprint",
    "random", "reject", "rejectattr", "replace", "reverse", "round", "safe", "select",
    "selectattr", "slice", "sort", "string", "striptags", "sum", "title", "tojson", "trim",
    "truncate", "unique", "upper", "urlencode", "urlize", "wordcount", "wordwrap", "xmlattr",
    "pascal_case", "camel_case", "snake_case"]

def tests : List String :=
  ["boolean", "callable", "defined", "divisibleby", "eq", "equalto", "escaped", "even", "false",
    "filter", "float", "ge", "greaterthan", "gt", "in", "integer", "iterable", "le", "lessthan",
    "lower", "lt", "mapping", "ne", "none", "number", "odd", "sameas", "sequence", "string",
    "test", "true", "undefined", "upper"]

def isFilter (name : String) : Bool := filters.contains name

def isTest (name : String) : Bool := tests.contains name

end Scaffold.Template.Vocabulary
