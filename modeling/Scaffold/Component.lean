/-!
# Components

The kinds of file in one layered application, and the types of request that select them.
-/

namespace Scaffold

/-- One file of the stack, in the order in which a full stack is written. -/
inductive ComponentKind where
  | dto
  | validator
  | repository
  | service
  | controller
  | providers
  | registry
  deriving DecidableEq, Repr

namespace ComponentKind

def fullStack : List ComponentKind :=
  [dto, validator, repository, service, controller, providers, registry]

def name : ComponentKind → String
  | dto => "dto"
  | validator => "validator"
  | repository => "repository"
  | service => "service"
  | controller => "controller"
  | providers => "providers"
  | registry => "registry"

def label : ComponentKind → String
  | dto => "DTO"
  | validator => "Validator"
  | repository => "Repository"
  | service => "Service"
  | controller => "Controller"
  | providers => "Providers"
  | registry => "Registry"

/-- The folder under the domain; the two files that wire a domain together have none. -/
def folder? : ComponentKind → Option String
  | dto => some "dto"
  | validator => some "validators"
  | repository => some "repository"
  | service => some "service"
  | controller => some "controller"
  | providers | registry => none

def isWiring (kind : ComponentKind) : Bool := kind.folder?.isNone

/-- The end of the names of template resources. -/
def resourceSuffix : String := ".go.j2"

def resource (kind : ComponentKind) : String := kind.name ++ resourceSuffix

/-- The wiring files of a domain bear no entity's name. -/
def fileName (kind : ComponentKind) (lowerName : String) : String :=
  if kind.isWiring then kind.name ++ ".go" else lowerName ++ "_" ++ kind.name ++ ".go"

def ofName? (text : String) : Option ComponentKind :=
  fullStack.find? fun kind => kind.name = text

end ComponentKind

/-- What a request asks for: one component or all of them. -/
inductive ComponentType where
  | controller
  | service
  | repository
  | validator
  | dto
  | full
  deriving DecidableEq, Repr

namespace ComponentType

def all : List ComponentType := [controller, service, repository, validator, dto, full]

def name : ComponentType → String
  | controller => "controller"
  | service => "service"
  | repository => "repository"
  | validator => "validator"
  | dto => "dto"
  | full => "full"

/-- The short names. -/
def aliases : List (String × ComponentType) :=
  [("c", controller), ("s", service), ("r", repository), ("repo", repository),
    ("v", validator), ("d", dto), ("f", full)]

def ofName? (text : String) : Option ComponentType :=
  all.find? fun type => type.name = text

/-- The type that a text names, in full or in short. -/
def parse? (text : String) : Option ComponentType :=
  match aliases.lookup text with
  | some type => some type
  | none => ofName? text

def kinds : ComponentType → List ComponentKind
  | controller => [.controller]
  | service => [.service]
  | repository => [.repository]
  | validator => [.validator]
  | dto => [.dto]
  | full => ComponentKind.fullStack

end ComponentType

end Scaffold
