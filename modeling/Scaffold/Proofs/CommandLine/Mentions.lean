import Scaffold.CommandLine.Command

/-!
# Mentions in front of arguments

An option that only says something by being there may be put in front of the arguments of a command.
What is read then is what was read before, with one finding more; what the option is to the program
has no bearing on it.
-/

namespace Scaffold.CommandLine

namespace Reading

/-- The reading with findings in front of its own. -/
def behind (front : List Finding) (r : Reading) : Reading :=
  { r with findings := front ++ r.findings }

variable (front : List Finding) (r : Reading)

theorem behind_add (new : List Finding) : (r.behind front).add new = (r.add new).behind front := by
  simp [behind, add]

theorem behind_leave (arguments : List String) :
    (r.behind front).leave arguments = (r.leave arguments).behind front := rfl

variable {front} {label : String}

/-- Findings in front have a say in nothing but their own labels. -/
theorem last?_behind (h : ∀ f ∈ front, f.label ≠ label) :
    (r.behind front).last? label = r.last? label := by
  have none : front.reverse.find? (fun f => f.label = label) = none := by
    simpa using h
  rw [last?, last?, behind, List.reverse_append, List.find?_append, none, Option.or_none]

theorem value_behind (h : ∀ f ∈ front, f.label ≠ label) (default : Datum) :
    (r.behind front).value label default = r.value label default := by
  rw [value, value, last?_behind r h]

theorem count_behind (h : ∀ f ∈ front, f.label ≠ label) :
    (r.behind front).count label = r.count label := by
  have none : front.filter (fun f => f.label = label) = [] := by
    simpa using h
  rw [count, count, behind, List.filter_append, none, List.nil_append]

end Reading

/-- What an argument is by its meaning as an option. -/
def Item.ofMeaning (argument : String) : Option Grammar.Meaning → Item
  | some meaning => option argument meaning
  | none => word argument

theorem Item.text_ofMeaning (argument : String) (meaning? : Option Grammar.Meaning) :
    (ofMeaning argument meaning?).text = argument := by
  cases meaning? <;> rfl

namespace Grammar

/-! ## Items -/

section

variable {g : Grammar} {argument : String} {meaning? : Option Meaning}

theorem items_cons (plain : argument ≠ separatorText) (h : g.meaning? argument = .ok meaning?)
    (rest : List String) :
    g.items (argument :: rest) = (g.items rest).map (.ofMeaning argument meaning? :: ·) := by
  rw [items, if_neg plain, h]
  cases meaning? <;> cases g.items rest <;> rfl

/-- Items keep the texts of their arguments. -/
theorem texts_of_items {arguments : List String} {items : List Item}
    (h : g.items arguments = .ok items) : items.map Item.text = arguments := by
  induction arguments generalizing items with
  | nil =>
      cases h
      rfl
  | cons argument rest ih =>
      by_cases separator : argument = separatorText
      · rw [Grammar.items, if_pos separator] at h
        cases h
        rw [List.map_cons, List.map_map, separator]
        exact congrArg _ (List.map_id rest)
      · cases meaning : g.meaning? argument with
        | error problem =>
            rw [Grammar.items, if_neg separator, meaning] at h
            cases h
        | ok meaning? =>
            rw [items_cons separator meaning] at h
            cases read : g.items rest with
            | error problem =>
                rw [read] at h
                cases h
            | ok more =>
                rw [read] at h
                cases h
                rw [List.map_cons, ih read, Item.text_ofMeaning]

end

/-! ## The end of reading -/

/-- What was read, if no operand is missing. -/
def complete (read : Reading × List Operand) : Except Stop Reading :=
  if (read.2.filter (·.required)).isEmpty then .ok read.1
  else .error (.problem (.missing (read.2.filter (·.required))))

section

variable {g : Grammar} {arguments : List String}

theorem read_of_items {items : List Item} (h : g.items arguments = .ok items) :
    g.read arguments = g.readItems (items.length + 1) g.operands {} items >>= complete := by
  rw [read, h]
  rfl

theorem read_of_problem {p : Problem} (h : g.items arguments = .error p) :
    g.read arguments = .error (.problem p) := by
  rw [read, h]
  rfl

end

/-! ## What has been found stays in front -/

/-- The result of reading, with findings in front. -/
def frontedBy {α : Type} (front : List Finding) (read : Except Stop (Reading × α)) :
    Except Stop (Reading × α) :=
  read.map fun (r, rest) => (r.behind front, rest)

theorem complete_frontedBy (front : List Finding) (read : Except Stop (Reading × List Operand)) :
    frontedBy front read >>= complete = (read >>= complete).map (Reading.behind front) := by
  cases read with
  | error stop => rfl
  | ok read =>
      change complete (read.1.behind front, read.2) = (complete read).map _
      unfold complete
      split <;> rfl

section

variable (g : Grammar) (front : List Finding)

theorem readOption_behind (r : Reading) (text : String) (meaning : Meaning) (rest : List Item) :
    g.readOption (r.behind front) text meaning rest =
      frontedBy front (g.readOption r text meaning rest) := by
  unfold readOption
  split
  · rfl
  · next o _ =>
      cases (g.clusterOf o meaning).mapError Stop.problem with
      | error stop => rfl
      | ok cluster =>
        simp only [bind, Except.bind]
        cases (valueOf cluster rest).mapError Stop.problem with
        | error stop => rfl
        | ok value =>
          simp only
          cases act (cluster.before.map (·, []) ++ [(cluster.last, value.1)]) with
          | error stop => rfl
          | ok new =>
            simp only [Reading.behind_add]
            rfl

/-- Reading looks at nothing that was found before. -/
theorem readItems_behind (n : Nat) (operands : List Operand) (r : Reading) (items : List Item) :
    g.readItems n operands (r.behind front) items =
      frontedBy front (g.readItems n operands r items) := by
  induction n generalizing operands r items with
  | zero => rfl
  | succ n ih =>
    unfold readItems
    split
    · simp only [Reading.behind_add]
      rfl
    · split
      · next text meaning rest _ =>
          rw [readOption_behind]
          cases g.readOption r text meaning rest with
          | error stop => rfl
          | ok read => exact ih ..
      · simp only
        split
        · rw [Reading.behind_leave]
          exact ih ..
        · rw [Reading.behind_add]
          exact ih ..

end

/-! ## An option in front -/

variable {g : Grammar} {argument : String} {o : OptionSpec}

/-- The argument is an option, written out, that says something by being there. -/
structure Mentions (g : Grammar) (argument : String) (o : OptionSpec) : Prop where
  plain : argument ≠ separatorText
  meaning : ∃ short, g.meaning? argument = .ok (some ⟨some o, short, none⟩)
  effect : o.effect = .mention

theorem readOption_mention (effect : o.effect = .mention) (r : Reading) (short : Bool)
    (rest : List Item) :
    g.readOption r argument ⟨some o, short, none⟩ rest = .ok (r.add [⟨o.label, []⟩], rest) := by
  -- The option stands alone, no other one is written together with it.
  have cluster : (g.clusterOf o ⟨some o, short, none⟩).mapError Stop.problem =
      .ok ⟨[], o, none⟩ := rfl
  have value : (valueOf ⟨[], o, none⟩ rest).mapError Stop.problem = .ok ([], rest) := by
    have nothing : valueOf ⟨[], o, none⟩ rest = .ok ([], rest) := by
      simp [valueOf, OptionSpec.takesValue, effect]
    rw [nothing]
    rfl
  have acts : act [(o, [])] = .ok [⟨o.label, []⟩] := by
    rw [act, effect]
    rfl
  unfold readOption
  simp only [cluster, value, acts, bind, Except.bind, List.map_nil, List.nil_append]
  rfl

/-- An option in front adds its mention and changes nothing else. -/
theorem Mentions.read_cons (h : g.Mentions argument o) (rest : List String) :
    g.read (argument :: rest) = (g.read rest).map (Reading.behind [⟨o.label, []⟩]) := by
  obtain ⟨short, meaning⟩ := h.meaning
  have more := items_cons h.plain meaning rest
  cases read : g.items rest with
  | error problem =>
      rw [read] at more
      rw [read_of_problem more, read_of_problem read]
      rfl
  | ok items =>
      rw [read] at more
      have step : g.readItems (items.length + 2) g.operands {}
            (.option argument ⟨some o, short, none⟩ :: items) =
          frontedBy [⟨o.label, []⟩] (g.readItems (items.length + 1) g.operands {} items) := by
        rw [← readItems_behind, readItems, if_neg (by simp [Item.isOption])]
        simp only [readOption_mention h.effect]
        rfl
      rw [read_of_items more, read_of_items read]
      exact (congrArg (· >>= complete) step).trans (complete_frontedBy _ _)

end Grammar

/-! ## The name of a command in front -/

namespace Command

variable {name argument : String}

/-- Behind a word the program leaves all arguments to the command of that name. -/
theorem read_named (plain : name ≠ separatorText) (word : Top.grammar.meaning? name = .ok none)
    {rest : List String} {items : List Item} (read : Top.grammar.items rest = .ok items) :
    Top.grammar.read (name :: rest) = .ok ⟨[⟨Top.command.label, name :: rest⟩], []⟩ := by
  have taken : Grammar.takeOperands [Top.command] (.word name :: items) =
      ([⟨Top.command.label, name :: rest⟩], [], []) := by
    rw [← Grammar.texts_of_items read]
    rfl
  -- Whether or not there are options, the one operand takes everything.
  have readItems (n : Nat) :
      Top.grammar.readItems (n + 2) [Top.command] {} (.word name :: items) =
        .ok (⟨[⟨Top.command.label, name :: rest⟩], []⟩, []) := by
    unfold Grammar.readItems
    split
    · rw [taken]
      rfl
    · simp only [taken]
      rfl
  have named := Grammar.items_cons plain word rest
  rw [read] at named
  rw [Grammar.read_of_items named]
  exact congrArg (· >>= Grammar.complete) (readItems items.length)

/-- Of the arguments behind the name of a command the program asks only whether each can be told for
an option or a word. -/
theorem ofArguments_named (plain : name ≠ separatorText)
    (word : Top.grammar.meaning? name = .ok none) (rest : List String) :
    ofArguments (name :: rest) =
      (Top.grammar.items rest).mapError (Halt.ofStop Top.grammar ∘ Stop.problem) >>= fun _ =>
        ofName name rest [] := by
  cases read : Top.grammar.items rest with
  | error problem =>
      have named := Grammar.items_cons plain word rest
      rw [read] at named
      rw [ofArguments, Grammar.read_of_problem named]
      rfl
  | ok items =>
      rw [ofArguments, read_named plain word read]
      rfl

/-- An option behind the name is a matter of the command only. -/
theorem ofArguments_option (plain : name ≠ separatorText)
    (word : Top.grammar.meaning? name = .ok none) (option : argument ≠ separatorText)
    {meaning : Grammar.Meaning} (means : Top.grammar.meaning? argument = .ok (some meaning))
    (rest : List String) :
    ofArguments (name :: argument :: rest) =
      (Top.grammar.items rest).mapError (Halt.ofStop Top.grammar ∘ Stop.problem) >>= fun _ =>
        ofName name (argument :: rest) [] := by
  rw [ofArguments_named plain word, Grammar.items_cons option means]
  cases Top.grammar.items rest <;> rfl

end Command

end Scaffold.CommandLine
