import Scaffold.Failure

/-!
# Requests

What to generate: a type of component, the name of the entity, the domain, and whether the files
hold the operations on stored entities.
-/

namespace Scaffold

structure Request where
  type : ComponentType
  name : String
  domain : String
  crud : Bool
  deriving DecidableEq, Repr

namespace ComponentType

/-- The type that a value names.  Values that cannot be keys name nothing and are no answer either. -/
def parse (value : Datum) : Except Failure ComponentType :=
  match value with
  | .text s =>
    match parse? s with
    | some type => .ok type
    | none => .error (.input (.unknownType value))
  | value =>
      if value.isHashable then .error (.input (.unknownType value))
      else .error (.fault (.unhashable value.typeName))

/-- The type of a name without short forms. -/
def ofValue (value : Datum) : Except Failure ComponentType :=
  match value with
  | .text s =>
    match ofName? s with
    | some type => .ok type
    | none => .error (.fault (.notType value))
  | value => .error (.fault (.notType value))

end ComponentType

def ComponentKind.ofValue (value : Datum) : Except Failure ComponentKind :=
  match value with
  | .text s =>
    match ofName? s with
    | some kind => .ok kind
    | none => .error (.fault (.notKind value))
  | value => .error (.fault (.notKind value))

namespace Request

def fieldNames : List String := ["component_type", "name", "domain", "crud"]

/-- The form in which messages show a request. -/
def describe (r : Request) : String :=
  s!"<GenerationSpec {r.type.name} {Text.quote r.name} in {Text.quote r.domain}>"

/-- A text that must not be empty, if it is a text at all. -/
def refuseEmpty (text : Except Issue String) (failure : InputFailure) : Except Failure Unit :=
  match text with
  | .ok "" => .error (.input failure)
  | _ => .ok ()

/-- The issues of the fields in their order. -/
def finish (type : Except Issue ComponentType) (name domain : Except Issue String)
    (crud : Except Issue Bool) (unexpected : List Issue) : Except Failure Request :=
  match type, name, domain, crud, unexpected with
  | .ok type, .ok name, .ok domain, .ok crud, [] => .ok ⟨type, name, domain, crud⟩
  | type, name, domain, crud, unexpected =>
      .error (.invalid (Fields.issues type ++ Fields.issues name ++ Fields.issues domain
        ++ Fields.issues crud ++ unexpected))

/-- A request of named fields.  A bad type, an empty name and an empty domain are reported at
once, in this order; all other issues together. -/
def ofFields (fields : Fields) (type : Except Issue ComponentType) : Except Failure Request := do
  let name := fields.required "name" Fields.readText
  refuseEmpty name .missingName
  let domain := fields.required "domain" Fields.readText
  refuseEmpty domain .missingDomain
  finish type name domain (fields.optional "crud" Fields.readBool false)
    (fields.unexpected fieldNames)

/-- A request whose type is given by a name or a short name. -/
def build (fields : Fields) : Except Failure Request := do
  match fields.lookup "component_type" with
  | some value => ofFields fields (.ok (← ComponentType.parse value))
  | none => ofFields fields (.error (.ofField "component_type" .missing))

/-- A request from what a user typed: nothing in the place of the domain or the name is reported
before anything else. -/
def ofInput (type name domain crud : Datum) : Except Failure Request :=
  if domain.isFalsy then .error (.input .missingDomain)
  else if name.isFalsy then .error (.input .missingName)
  else
    build [("component_type", type), ("name", name), ("domain", domain), ("crud", crud)]

/-- No field of a request can be changed. -/
def assign (_ : Request) (name : String) : Except Failure Request :=
  .error (.invalid [.ofField name .frozen])

end Request

end Scaffold
