import Scaffold.Template.Arguments
import Scaffold.Text.Case

/-!
# Filler text

Paragraphs of drawn words, as `lipsum` writes them.
-/

namespace Scaffold.Template.Lorem

open Text

def words : List String :=
  ["a", "ac", "accumsan", "ad", "adipiscing", "aenean", "aliquam", "aliquet", "amet", "ante",
    "aptent", "arcu", "at", "auctor", "augue", "bibendum", "blandit", "class", "commodo",
    "condimentum", "congue", "consectetuer", "consequat", "conubia", "convallis", "cras",
    "cubilia", "cum", "curabitur", "curae", "cursus", "dapibus", "diam", "dictum", "dictumst",
    "dignissim", "dis", "dolor", "donec", "dui", "duis", "egestas", "eget", "eleifend",
    "elementum", "elit", "enim", "erat", "eros", "est", "et", "etiam", "eu", "euismod",
    "facilisi", "facilisis", "fames", "faucibus", "felis", "fermentum", "feugiat", "fringilla",
    "fusce", "gravida", "habitant", "habitasse", "hac", "hendrerit", "hymenaeos", "iaculis",
    "id", "imperdiet", "in", "inceptos", "integer", "interdum", "ipsum", "justo", "lacinia",
    "lacus", "laoreet", "lectus", "leo", "libero", "ligula", "litora", "lobortis", "luctus",
    "maecenas", "magna", "magnis", "malesuada", "massa", "mattis", "mauris", "metus", "mi",
    "molestie", "mollis", "montes", "morbi", "mus", "nam", "nascetur", "natoque", "nec",
    "neque", "netus", "nibh", "nisi", "nisl", "non", "nonummy", "nostra", "nulla", "nullam",
    "nunc", "odio", "orci", "ornare", "parturient", "pede", "pellentesque", "penatibus", "per",
    "pharetra", "phasellus", "placerat", "platea", "porta", "porttitor", "posuere", "potenti",
    "praesent", "pretium", "primis", "proin", "pulvinar", "purus", "quam", "quis", "quisque",
    "rhoncus", "ridiculus", "risus", "rutrum", "sagittis", "sapien", "scelerisque", "sed",
    "sem", "semper", "senectus", "sit", "sociis", "sociosqu", "sodales", "sollicitudin",
    "suscipit", "suspendisse", "taciti", "tellus", "tempor", "tempus", "tincidunt", "torquent",
    "tortor", "tristique", "turpis", "ullamcorper", "ultrices", "ultricies", "urna", "ut",
    "varius", "vehicula", "vel", "velit", "venenatis", "vestibulum", "vitae", "vivamus",
    "viverra", "volutpat", "vulputate"]

/-- A whole number from `low` on and below `high`. -/
def between (low high : Int) : Run Int := do
  if low < high then return low + (← Run.draw (high - low).toNat)
  else Run.stop (.wrongValue s!"empty range for randrange() ({low}, {high}, {high - low})")

/-- What a paragraph is at between two words.  The places are those of the last comma, and of the
last full stop with two more for each comma behind it. -/
structure Writer where
  previous : String
  opening : Bool
  comma : Int
  stop : Int

def begun : Writer := ⟨"", true, 0, 0⟩

/-- The next word, which is not the previous one, with the signs behind it. -/
def nextWord (index : Nat) (w : Writer) : Run (String × Writer) := do
  let others := words.filter (· ≠ w.previous)
  let drawn := others[← Run.draw others.length]?.getD ""
  let word := if w.opening then String.ofList (capitalize drawn.toList) else drawn
  let comma : Bool := w.comma < index - (← between 3 8)
  let (word, lastComma, lastStop) :=
    if comma then (word ++ ",", (index : Int), w.stop + 2) else (word, w.comma, w.stop)
  let ends : Bool := lastStop < index - (← between 10 20)
  if ends then pure (word ++ ".", ⟨drawn, true, index, index⟩)
  else pure (word, ⟨drawn, false, lastComma, lastStop⟩)

/-- So many words from a place on. -/
def wordsFrom (index : Nat) (w : Writer) : Nat → Run (List String)
  | 0 => pure []
  | n + 1 => do
      let (word, w) ← nextWord index w
      return word :: (← wordsFrom (index + 1) w n)

/-- A text that ends with a full stop, which replaces a comma at its end. -/
def stopped (text : List Char) : List Char :=
  match text.getLast? with
  | some ',' => text.dropLast ++ ['.']
  | some '.' => text
  | _ => text ++ ['.']

def paragraph (least most : Int) : Run String := do
  let count ← between least most
  let text := " ".intercalate (← wordsFrom 0 begun count.toNat)
  pure (String.ofList (stopped text.toList))

def paragraphs (least most : Int) : Nat → Run (List String)
  | 0 => pure []
  | n + 1 => do
      let text ← paragraph least most
      return text :: (← paragraphs least most n)

/-- The answer of `lipsum`: markup, or else running text. -/
def generate (args : List Value) (named : Arguments) : Run Value := do
  let a ← (Parameters.mk "generate_lorem_ipsum" 0 [] ["n", "html", "min", "max"]).bind args named
  let given (name : String) (default : Int) : Run Int := do
    Run.lift (asIndex ((a.find? name).getD (.int default)))
  let count ← given "n" 5
  let texts ←
    if 0 < count then do
      let least ← given "min" 20
      paragraphs least (← given "max" 100) count.toNat
    else pure []
  if ← ((a.find? "html").getD (.bool true)).truth then
    pure (.markup ("\n".intercalate (texts.map fun text => s!"<p>{text}</p>")))
  else pure (.text ("\n\n".intercalate texts))

end Scaffold.Template.Lorem
