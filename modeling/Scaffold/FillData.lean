import Scaffold.Naming
import Scaffold.Request

/-!
# Fill data

Everything that a template may name: the forms of the entity's name, the domain and the module
path.
-/

namespace Scaffold

def defaultModulePath : String := "ichi-go"

structure FillData where
  packageName : String
  structName : String
  varName : String
  domain : String
  lowerName : String
  tableName : String
  hasCrud : Bool
  modulePath : String
  deriving DecidableEq, Repr

namespace FillData

/-- The plural of a table name always takes a bare `s`. -/
def ofRequest (r : Request) (modulePath : String) : FillData where
  packageName := r.domain
  structName := Naming.pascal r.name
  varName := Naming.camel r.name
  domain := r.domain
  lowerName := Text.lowerString r.name
  tableName := Naming.snake r.name ++ "s"
  hasCrud := r.crud
  modulePath := modulePath

/-- Fill data with a module path that is still to be checked. -/
def ofInput (r : Request) (modulePath : Datum) : Except Failure FillData :=
  match Fields.readText modulePath with
  | .ok path => .ok (ofRequest r path)
  | .error cause => .error (.invalid [.ofField "module_path" cause])

/-- The names that templates use for the fields. -/
def context (d : FillData) : List (String × Template.Value) :=
  [("package_name", .text d.packageName), ("struct_name", .text d.structName),
    ("var_name", .text d.varName), ("domain", .text d.domain),
    ("lower_name", .text d.lowerName), ("table_name", .text d.tableName),
    ("has_crud", .bool d.hasCrud), ("module_path", .text d.modulePath)]

def fieldNames : List String :=
  ["package_name", "struct_name", "var_name", "domain", "lower_name", "table_name", "has_crud",
    "module_path"]

/-- Fill data of named fields, or all that is wrong with them. -/
def ofFields (fields : Fields) : Except Failure FillData :=
  let text (name : String) := fields.required name Fields.readText
  let unexpected := fields.unexpected fieldNames
  match text "package_name", text "struct_name", text "var_name", text "domain",
    text "lower_name", text "table_name", fields.required "has_crud" Fields.readBool,
    fields.optional "module_path" Fields.readText defaultModulePath, unexpected with
  | .ok p, .ok s, .ok v, .ok d, .ok l, .ok t, .ok h, .ok m, [] => .ok ⟨p, s, v, d, l, t, h, m⟩
  | p, s, v, d, l, t, h, m, unexpected =>
      .error (.invalid ([p, s, v, d, l, t].flatMap Fields.issues ++ Fields.issues h ++
        Fields.issues m ++ unexpected))

/-- No field can be changed. -/
def assign (_ : FillData) (name : String) : Except Failure FillData :=
  .error (.invalid [.ofField name .frozen])

end FillData

end Scaffold
