import Scaffold.CommandLine.Grammar

/-!
# Reading arguments

What the arguments of a command line are to a grammar.  Options may stand among operands; behind two
hyphens everything is an operand.
-/

namespace Scaffold.CommandLine

/-- What an argument is before it is known what takes it. -/
inductive Item where
  | word (text : String)
  | option (text : String) (meaning : Grammar.Meaning)
  | separator

def separatorText : String := "--"

def Item.text : Item → String
  | word text => text
  | option text _ => text
  | separator => separatorText

def Item.isOption : Item → Bool
  | option _ _ => true
  | _ => false

/-- An option or an operand with its values. -/
structure Finding where
  label : String
  values : List String
  deriving DecidableEq, Repr

/-- Why reading ends before its end. -/
inductive Stop where
  | help
  | version
  | problem (p : Problem)
  deriving DecidableEq, Repr

/-- What was found, and the arguments that nothing takes. -/
structure Reading where
  findings : List Finding := []
  surplus : List String := []

namespace Reading

def add (r : Reading) (new : List Finding) : Reading :=
  { r with findings := r.findings ++ new }

def leave (r : Reading) (arguments : List String) : Reading :=
  { r with surplus := r.surplus ++ arguments }

/-- The values that were found last. -/
def last? (r : Reading) (label : String) : Option (List String) :=
  (r.findings.reverse.find? fun f => f.label = label).map (·.values)

def count (r : Reading) (label : String) : Nat :=
  (r.findings.filter fun f => f.label = label).length

end Reading

namespace Grammar

/-- The items of arguments. -/
def items (g : Grammar) : List String → Except Problem (List Item)
  | [] => .ok []
  | argument :: rest =>
      if argument = separatorText then .ok (.separator :: rest.map .word)
      else do
        let item ← match ← g.meaning? argument with
          | some meaning => pure (Item.option argument meaning)
          | none => pure (Item.word argument)
        return item :: (← g.items rest)

/-! ## Options -/

/-- Options written together: those before the last one, the last one, and the value attached to
it. -/
structure Cluster where
  before : List OptionSpec
  last : OptionSpec
  value? : Option (List Char)

/-- The options that a short option and the text attached to it are. -/
def cluster (g : Grammar) (o : OptionSpec) : List Char → Except Problem Cluster
  | [] => if o.takesValue then .ok ⟨[], o, some []⟩ else .error (.needlessValue o "")
  | c :: rest =>
      if o.takesValue then .ok ⟨[], o, some (c :: rest)⟩
      else
        match g.find? (String.ofList ['-', c]) with
        | none => .error (.needlessValue o (String.ofList (c :: rest)))
        | some next =>
            if rest.isEmpty then .ok ⟨[o], next, none⟩
            else do
              let more ← g.cluster next rest
              return { more with before := o :: more.before }

/-- The options that one argument is. -/
def clusterOf (g : Grammar) (o : OptionSpec) (meaning : Meaning) : Except Problem Cluster :=
  match meaning.attached with
  | none => .ok ⟨[], o, none⟩
  | some text =>
      if meaning.short then g.cluster o text
      else if o.takesValue then .ok ⟨[], o, some text⟩
      else .error (.needlessValue o (String.ofList text))

/-- Without the first separator. -/
def dropSeparator (values : List String) : List String := values.erase separatorText

/-- The value of the last option of a cluster, and the items behind it. -/
def valueOf (c : Cluster) (rest : List Item) : Except Problem (List String × List Item) :=
  match c.value? with
  | some text => .ok ([String.ofList text], rest)
  | none =>
      if c.last.takesValue then
        match rest with
        | .word text :: rest => .ok ([text], rest)
        | _ => .error (.noValue c.last)
      else .ok ([], rest)

/-- What options do, one after the other. -/
def act : List (OptionSpec × List String) → Except Stop (List Finding)
  | [] => .ok []
  | (o, values) :: rest =>
    match o.effect with
    | .help => .error .help
    | .version => .error .version
    | .mention | .value => do return ⟨o.label, dropSeparator values⟩ :: (← act rest)

/-- Read an option with its value. -/
def readOption (g : Grammar) (r : Reading) (text : String) (meaning : Meaning)
    (rest : List Item) : Except Stop (Reading × List Item) := do
  match meaning.spec? with
  | none => return (r.leave [text], rest)
  | some o =>
    let cluster ← (g.clusterOf o meaning).mapError .problem
    let (values, rest) ← (valueOf cluster rest).mapError .problem
    return (r.add (← act (cluster.before.map (·, []) ++ [(cluster.last, values)])), rest)

/-! ## Operands -/

/-- The items of one operand, with separators around it, and the rest. -/
def takeOperand (o : Operand) (items : List Item) : Option (List Item × List Item) :=
  let isSeparator : Item → Bool
    | .separator => true
    | _ => false
  let before := items.takeWhile isSeparator
  match items.dropWhile isSeparator with
  | .word text :: rest =>
      if o.takesRest then some (before ++ .word text :: rest, [])
      else some (before ++ .word text :: rest.takeWhile isSeparator, rest.dropWhile isSeparator)
  | _ => none

/-- An operand that is found; only one that takes the rest keeps separators. -/
def found (o : Operand) (taken : List Item) : Finding :=
  let values := taken.map Item.text
  ⟨o.label, if o.takesRest then values else dropSeparator values⟩

/-- Read as many operands as stand here: the findings, the operands that are left, and the rest. -/
def takeOperands : List Operand → List Item → List Finding × List Operand × List Item
  | [], items => ([], [], items)
  | o :: more, items =>
    match takeOperand o items with
    | some (taken, rest) =>
        let (findings, left, rest) := takeOperands more rest
        (found o taken :: findings, left, rest)
    | none => ([], o :: more, items)

/-- Read items, of which there are at most so many. -/
def readItems (g : Grammar) : Nat → List Operand → Reading → List Item →
    Except Stop (Reading × List Operand)
  | 0, operands, r, items => .ok (r.leave (items.map Item.text), operands)
  | n + 1, operands, r, items =>
      if !items.any Item.isOption then
        let (findings, operands, rest) := takeOperands operands items
        .ok ((r.add findings).leave (rest.map Item.text), operands)
      else
        match items with
        | .option text meaning :: rest => do
            let (r, rest) ← g.readOption r text meaning rest
            g.readItems n operands r rest
        | items => do
            let (findings, left, rest) := takeOperands operands items
            if findings.isEmpty then
              let words := items.takeWhile fun item => !item.isOption
              g.readItems n operands (r.leave (words.map Item.text))
                (items.dropWhile fun item => !item.isOption)
            else g.readItems n left (r.add findings) rest

/-- Read the arguments of a command.  All operands that are required have to be there. -/
def read (g : Grammar) (arguments : List String) : Except Stop Reading := do
  let items ← (g.items arguments).mapError .problem
  let (r, left) ← g.readItems (items.length + 1) g.operands {} items
  let missing := left.filter (·.required)
  if missing.isEmpty then return r else throw (.problem (.missing missing))

end Grammar

end Scaffold.CommandLine
