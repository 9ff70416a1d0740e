import Scaffold.FillData
import Scaffold.Text.Lines

/-!
# Forms

The templates that the documentation describes: text with placeholders for fields, and choices
whose tags stand on lines of their own.  What such a template gives is told line by line.
-/

namespace Scaffold

namespace FillData

/-- What stands for a field in running text. -/
def shown (d : FillData) (name : String) : List Char :=
  match d.context.lookup name with
  | some (.text s) => s.toList
  | some (.bool b) => if b then "True".toList else "False".toList
  | _ => []

/-- The truth of a field: a text is true unless it is empty. -/
def holds (d : FillData) (name : String) : Bool :=
  match d.context.lookup name with
  | some (.text s) => s ≠ ""
  | some (.bool b) => b
  | _ => false

end FillData

namespace Template

open Text

/-! ## Parts -/

/-- A placeholder: a field's name with so many spaces before and after it. -/
structure Placeholder where
  before : Nat
  name : String
  after : Nat

/-- A text, and placeholders with the text behind each.  Texts may be empty; no two meet. -/
structure Body where
  text : List Char
  placed : List (Placeholder × List Char)

/-- One body or the other, by the truth of a field. -/
structure Choice where
  name : String
  body : Body
  otherwise? : Option Body

/-- A body, and choices with the body behind each. -/
structure Form where
  first : Body
  rest : List (Choice × Body)

inductive Tag where
  | choose (name : String)
  | otherwise
  | done
  deriving DecidableEq

/-- What stands between two texts. -/
inductive Mark where
  | place (p : Placeholder)
  | tag (t : Tag)

/-- Marks with the text behind each. -/
abbrev Links := List (Mark × List Char)

def Body.links (b : Body) : Links := b.placed.map fun (p, text) => (.place p, text)

/-- A body with the tag before it. -/
def Body.behind (b : Body) (t : Tag) : Links := (.tag t, b.text) :: b.links

def Choice.links (c : Choice) : Links :=
  c.body.behind (.choose c.name) ++
    match c.otherwise? with
    | some other => other.behind .otherwise
    | none => []

/-- All marks of a form. -/
def Form.links (f : Form) : Links :=
  f.first.links ++ f.rest.flatMap fun (c, next) => c.links ++ next.behind .done

/-! ## Source -/

def Placeholder.source (p : Placeholder) : List Char :=
  '\x7b' :: '\x7b' :: (List.replicate p.before ' ' ++ p.name.toList ++
    List.replicate p.after ' ' ++ ['\x7d', '\x7d'])

/-- The words inside a tag. -/
def Tag.words : Tag → List String
  | choose name => ["if", name]
  | otherwise => ["else"]
  | done => ["endif"]

def Tag.source (t : Tag) : List Char :=
  '\x7b' :: '%' :: (t.words.flatMap (fun word => ' ' :: word.toList) ++ [' ', '%', '\x7d'])

def Mark.source : Mark → List Char
  | place p => p.source
  | tag t => t.source

/-- A text with marks behind it. -/
def sourceFrom (text : List Char) (links : Links) : List Char :=
  text ++ links.flatMap fun (mark, text) => mark.source ++ text

def Form.source (f : Form) : List Char := sourceFrom f.first.text f.links

/-! ## Well-formedness -/

/-- No delimiter opens in the text. -/
def isClean : List Char → Bool
  | '\x7b' :: c :: rest => !(c = '\x7b' || c = '%' || c = '#') && isClean (c :: rest)
  | _ :: rest => isClean rest
  | [] => true

def isNewline (c : Char) : Bool := c = '\n' || c = '\r'

/-- Nothing but spaces and tabs stands on the line at the end of the text; `blank` says so of what
stands before it. -/
def blankAfter (blank : Bool) (text : List Char) : Bool :=
  text.foldl (fun blank c => isNewline c || blank && (c = ' ' || c = '\t')) blank

/-- What follows a tag begins with a line end, or nothing follows it. -/
def startsLine (text : List Char) (links : Links) : Bool :=
  match text with
  | c :: _ => isNewline c
  | [] => links.isEmpty

/-- Texts open no delimiter, also not with a mark behind them, and tags stand alone on their lines.
`blank` says that nothing but spaces and tabs stands on the line before the text. -/
def wellSet (blank : Bool) (text : List Char) : Links → Bool
  | [] => isClean text
  | (.place _, next) :: rest =>
      isClean text && text.getLast? ≠ some '\x7b' && wellSet false next rest
  | (.tag _, next) :: rest =>
      isClean text && blankAfter blank text && startsLine next rest && wellSet false next rest

/-- The fields that a mark names. -/
def Mark.names : Mark → List String
  | place p => [p.name]
  | tag (.choose name) => [name]
  | tag _ => []

/-- The names in marks, in their order. -/
def namesIn (links : Links) : List String := links.flatMap fun link => link.1.names

def Form.names (f : Form) : List String := namesIn f.links

/-- The documented templates. -/
structure Form.WellFormed (f : Form) : Prop where
  known : ∀ link ∈ f.links, ∀ name ∈ link.1.names, name ∈ FillData.fieldNames
  set : wellSet true f.first.text f.links = true

/-! ## What a form gives -/

inductive Symbol where
  | char (c : Char)
  | place (name : String)
  | tag (t : Tag)
  deriving DecidableEq

def Mark.symbol : Mark → Symbol
  | place p => .place p.name
  | tag t => .tag t

/-- The characters and marks of a text with marks behind it. -/
def symbolsFrom (text : List Char) (links : Links) : List Symbol :=
  text.map .char ++ links.flatMap fun (mark, text) => mark.symbol :: text.map .char

def normalizeLinks (links : Links) : Links :=
  links.map fun (mark, text) => (mark, normalizeNewlines text)

/-- The symbols of the source with one kind of line end. -/
def Form.symbols (f : Form) : List Symbol :=
  symbolsFrom (normalizeNewlines f.first.text) (normalizeLinks f.links)

/-- The lines with their ends. -/
def lines : List Symbol → List (List Symbol)
  | [] => []
  | .char '\n' :: rest => [.char '\n'] :: lines rest
  | s :: rest =>
      match lines rest with
      | [] => [[s]]
      | line :: more => (s :: line) :: more

def Symbol.tag? : Symbol → Option Tag
  | tag t => some t
  | _ => none

/-- Whether lines are kept behind a tag. -/
def Tag.keeps (data : FillData) (keep : Bool) : Tag → Bool
  | choose name => data.holds name
  | otherwise => !keep
  | done => true

/-- The lines that remain: none with a tag, and those of the chosen bodies only. -/
def chosenLines (data : FillData) (keep : Bool) : List (List Symbol) → List (List Symbol)
  | [] => []
  | line :: rest =>
      match line.findSome? Symbol.tag? with
      | some t => chosenLines data (t.keeps data keep) rest
      | none => (if keep then [line] else []) ++ chosenLines data keep rest

def Symbol.shown (data : FillData) : Symbol → List Char
  | char c => [c]
  | place name => data.shown name
  | tag _ => []

/-- What a form gives for some data. -/
def Form.reference (f : Form) (data : FillData) : List Char :=
  (chosenLines data true (lines f.symbols)).flatten.flatMap (Symbol.shown data)

end Template

end Scaffold
