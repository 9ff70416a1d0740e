import Scaffold.Datum
import Scaffold.Template.Value

/-!
# Data for templates

Plain data as template values.
-/

namespace Scaffold.Template

mutual
def Value.ofDatum : Datum → Value
  | .null => .none
  | .bool b => .bool b
  | .int n => .int n
  | .float x => .float x
  | .text s => .text s
  | .list items | .set items => .list (valuesOfData items)
  | .pair a b => .tuple [Value.ofDatum a, Value.ofDatum b]
  | .dict entries => .dict (entriesOfData entries)
  | .bytes b => .text (Datum.bytes b).literal
  | .date d => .text (Datum.date d).literal
  | .time d t => .text (Datum.time d t).literal

def valuesOfData : List Datum → List Value
  | [] => []
  | d :: rest => Value.ofDatum d :: valuesOfData rest

def entriesOfData : List (Datum × Datum) → List (Value × Value)
  | [] => []
  | (k, v) :: rest => (Value.ofDatum k, Value.ofDatum v) :: entriesOfData rest
end

/-- The names and values of a mapping. -/
def namesOfData : Datum → List (String × Value)
  | .dict entries => entries.filterMap fun
    | (.text name, v) => some (name, Value.ofDatum v)
    | _ => none
  | _ => []

end Scaffold.Template
