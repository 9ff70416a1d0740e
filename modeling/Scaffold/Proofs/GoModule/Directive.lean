import Scaffold.GoModule
import Scaffold.Proofs.Bundle.Decoding
import Scaffold.Proofs.Text.Words

/-!
# The directive of a module file

The declared path is the word behind the first directive that opens a line.  Where the directive
stands alone on its line, that word comes from a later line.
-/

namespace Scaffold

namespace GoModule

open Text

/-- The words of each line of a file, whichever way its lines end. -/
def wordLines (text : String) : List (List (List Char)) :=
  ((normalizeNewlines text.toList).splitOn '\n').map blankWords

/-- The second one of some words if the first one is the directive. -/
def secondWord? : List (List Char) → Option (List Char)
  | [] => none
  | first :: rest => if first = keyword then rest.head? else none

/-- The second word of the first line that has one behind the directive. -/
def lineWord? (lines : List (List (List Char))) : Option (List Char) := lines.findSome? secondWord?

/-- The word behind the first directive that opens a line, on the same line or on a later one. -/
def nextWord? : List (List (List Char)) → Option (List Char)
  | [] => none
  | line :: rest =>
      if line.head? = some keyword then (line.tail ++ rest.flatten).head? else nextWord? rest

/-! ## One directive -/

theorem keyword_plain : ∀ c ∈ keyword, isBlank c = false := by
  have plain : keyword.all (!isBlank ·) = true := by decide
  intro c hc
  simpa using List.all_eq_true.mp plain c hc

theorem secondWord?_keyword (words : List (List Char)) :
    secondWord? (keyword :: words) = words.head? := by
  rw [secondWord?, if_pos rfl]

/-- A text that does not begin with the directive and white space has another first word. -/
theorem secondWord?_of_other {body : List Char} (head : ∀ c ∈ body.head?, isBlank c = false)
    (other : ∀ rest, body = keyword ++ rest → ∃ c ∈ rest.head?, isBlank c = false) :
    secondWord? (blankWords body) = none := by
  by_cases hne : body = []
  · rw [hne]
    rfl
  rw [blankWords_of_head hne head, secondWord?, if_neg]
  intro first
  have split := List.takeWhile_append_dropWhile (p := (!isBlank ·)) (l := body)
  rw [first] at split
  obtain ⟨c, hc, plain⟩ := other _ split.symm
  have stop := blank_of_head?_dropWhile hc
  rw [plain] at stop
  cases stop

/-- The directive at the beginning of a text, by the words of the text. -/
theorem directive?_eq (text : List Char) :
    directive? text = (secondWord? (blankWords text)).map unquote := by
  have head : ∀ c ∈ (text.dropWhile isBlank).head?, isBlank c = false := by
    intro c hc
    exact plain_of_head?_dropWhile hc
  rw [directive?, ← blankWords_dropWhile]
  generalize text.dropWhile isBlank = body at head
  simp only
  split
  · next opens =>
      obtain ⟨rest, rfl⟩ := List.isPrefixOf_iff_prefix.mp opens
      rw [List.drop_left]
      by_cases behind : ∃ c ∈ rest.head?, isBlank c = false
      · obtain ⟨c, hc, plain⟩ := behind
        rw [secondWord?_of_other head]
        · simp [Option.mem_def.mp hc, plain]
        · intro rest' same
          rw [← List.append_cancel_left same]
          exact ⟨c, hc, plain⟩
      · have blank : ∀ c ∈ rest.head?, isBlank c = true := by
          intro c hc
          by_contra plain
          exact behind ⟨c, hc, by simpa using plain⟩
        rw [blankWords_word keyword_plain (by decide) blank, secondWord?_keyword, head?_blankWords]
        cases rest with
        | nil => rfl
        | cons c rest =>
            have hc : isBlank c = true := blank c rfl
            simp only [List.head?_cons, Option.map_some, hc, Option.getD_some, Bool.true_and]
            generalize ((c :: rest).dropWhile isBlank).takeWhile (!isBlank ·) = word
            cases word <;> rfl
  · next opens =>
      rw [secondWord?_of_other head]
      · rfl
      · rintro rest rfl
        exact absurd (List.isPrefixOf_iff_prefix.mpr (List.prefix_append keyword rest)) opens

/-! ## Lines -/

/-- A line that opens with the directive is not left without a word if any follows. -/
theorem nextWord?_of_secondWord? {lines : List (List (List Char))} {word : List Char}
    (h : secondWord? lines.flatten = some word) : nextWord? lines = some word := by
  induction lines with
  | nil => cases h
  | cons line rest ih =>
      cases line with
      | nil => exact ih h
      | cons first tail =>
          rw [List.flatten_cons, List.cons_append, secondWord?] at h
          split at h
          · next opens =>
              rw [nextWord?, List.head?_cons, if_pos (congrArg some opens), List.tail_cons]
              exact h
          · cases h

theorem nextWord?_of_no_words {lines : List (List (List Char))} (h : lines.flatten = []) :
    nextWord? lines = none := by
  induction lines with
  | nil => rfl
  | cons line rest ih =>
      rw [List.flatten_cons, List.append_eq_nil_iff] at h
      rw [h.1]
      exact ih h.2

/-- The first line opens with the directive, or the word is to be found in the other lines. -/
theorem nextWord?_cons (line : List (List Char)) (rest : List (List (List Char))) :
    nextWord? (line :: rest) = (secondWord? (line ++ rest.flatten)).or (nextWord? rest) := by
  cases found : secondWord? (line ++ rest.flatten) with
  | some word => exact nextWord?_of_secondWord? found
  | none =>
      rw [Option.none_or, nextWord?]
      split
      · next opens =>
          obtain ⟨tail, rfl⟩ := List.head?_eq_some_iff.mp opens
          rw [List.cons_append, secondWord?_keyword] at found
          have nothing := List.append_eq_nil_iff.mp (List.head?_eq_none_iff.mp found)
          rw [List.tail_cons, found, nextWord?_of_no_words nothing.2]
      · rfl

/-- Only what follows a newline is looked at. -/
theorem declaration?_eq (text : List Char) :
    declaration? text = (nextWord? ((text.splitOn '\n').map blankWords).tail).map unquote := by
  induction text with
  | nil => rfl
  | cons c rest ih =>
      rw [List.splitOn_cons_eq_if_modifyHead]
      have words := flatMap_blankWords_splitOn rest
      cases lines : rest.splitOn '\n' with
      | nil => exact absurd lines (List.splitOn_ne_nil '\n' rest)
      | cons line others =>
          rw [lines] at ih words
          by_cases hc : c = '\n'
          · subst hc
            rw [List.flatMap_cons] at words
            have opens : declaration? ('\n' :: rest) = (directive? rest).or (declaration? rest) := by
              rw [declaration?]
              cases directive? rest <;> rfl
            rw [opens, directive?_eq, ih, ← words, beq_self_eq_true, if_pos rfl]
            simp only [List.map_cons, List.tail_cons, nextWord?_cons, Option.map_or,
              List.flatMap_def]
          · have other : declaration? (c :: rest) = declaration? rest := by
              rw [declaration?]
              exact hc
            rw [other, ih, if_neg (by simpa using hc)]
            rfl

/-- The first line is one that a newline stands before. -/
theorem declared?_eq (text : String) :
    declared? text =
      (nextWord? ((text.toList.splitOn '\n').map blankWords)).map
        (String.ofList ∘ unquote) := by
  rw [declared?, declaration?_eq, List.splitOn_cons_eq_if_modifyHead]
  simp

/-- Where the first line that opens with the directive has more words, its second word is the one
behind the directive. -/
theorem nextWord?_eq_lineWord? {lines : List (List (List Char))}
    (goesOn : ∀ line ∈ lines.find? (·.head? = some keyword), line ≠ [keyword]) :
    nextWord? lines = lineWord? lines := by
  induction lines with
  | nil => rfl
  | cons line rest ih =>
      rw [lineWord?, List.findSome?_cons, nextWord?]
      by_cases opens : line.head? = some keyword
      · obtain ⟨tail, rfl⟩ := List.head?_eq_some_iff.mp opens
        have more : tail ≠ [] := by
          rintro rfl
          exact goesOn [keyword] (by simp) rfl
        obtain ⟨second, words, rfl⟩ := List.exists_cons_of_ne_nil more
        rw [if_pos opens, secondWord?_keyword]
        rfl
      · have skipped : secondWord? line = none := by
          cases line with
          | nil => rfl
          | cons first words => exact if_neg fun he => opens (congrArg some he)
        rw [if_neg opens, skipped]
        apply ih
        rwa [List.find?_cons_of_neg (by simpa using opens)] at goesOn

/-! ## Files -/

theorem read_eq {tree : FileTree} {root : Path} {text : String}
    (file : tree.readBytes (root / "go.mod") = .ok text.toUTF8) :
    (read tree root).map Prod.fst =
      .ok ((nextWord? (wordLines text)).map (String.ofList ∘ unquote)) := by
  have declared := declared?_eq (String.ofList (normalizeNewlines text.toList))
  rw [String.toList_ofList] at declared
  rw [wordLines, ← declared]
  simp only [read, file, Bundle.decode_toUTF8]
  cases declared? (String.ofList (normalizeNewlines text.toList)) <;> rfl

/-- The module path is the word behind the first directive that opens a line, without quotes.  It
stands on the line of the directive if there is more than the directive on that line. -/
theorem read_declares {tree : FileTree} {root : Path} {text : String}
    (file : tree.readBytes (root / "go.mod") = .ok text.toUTF8) :
    (read tree root).map Prod.fst =
        .ok ((nextWord? (wordLines text)).map (String.ofList ∘ unquote)) ∧
      ((∀ line ∈ (wordLines text).find? (·.head? = some keyword), line ≠ [keyword]) →
        (read tree root).map Prod.fst =
          .ok ((lineWord? (wordLines text)).map (String.ofList ∘ unquote))) := by
  constructor
  · exact read_eq file
  · intro goesOn
    rw [← nextWord?_eq_lineWord? goesOn]
    exact read_eq file

/-- A tree with a module file. -/
def holding (text : String) : FileTree := ⟨[], [(["go.mod"], .file text.toUTF8)]⟩

/-- A word that begins as the directive does, an empty line, wide white space before the directive
and line ends of all kinds. -/
def indented : String :=
  "modules a\r\n\r\n\u3000module\t\"example.com/app\" // b\rmodule c\n"

theorem read_indented :
    (holding indented).readBytes (Path.parse "." / "go.mod") = .ok indented.toUTF8 ∧
      (read (holding indented) ".").map Prod.fst = .ok (some "example.com/app") := by
  refine ⟨rfl, ?_⟩
  obtain ⟨-, onItsLine⟩ := @read_declares (holding indented) "." indented rfl
  rw [onItsLine (by decide +kernel)]
  exact congrArg Except.ok (by decide +kernel)

/-- A directive that stands alone on its line. -/
def lone : String := "module\nrequire example.com/lib v1.0.0\n"

/-- The word that is found then is another directive, though no line declares a path. -/
theorem read_lone :
    (read (holding lone) ".").map Prod.fst ≠
      .ok ((lineWord? (wordLines lone)).map (String.ofList ∘ unquote)) := by
  have file : (holding lone).readBytes (Path.parse "." / "go.mod") = .ok lone.toUTF8 := rfl
  rw [read_eq file]
  intro same
  have words := Except.ok.inj same
  revert words
  decide +kernel

end GoModule

end Scaffold
