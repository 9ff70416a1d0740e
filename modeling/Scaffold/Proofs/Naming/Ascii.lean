import Mathlib
import Scaffold.Proofs.Naming.Forms
import Scaffold.Proofs.Text.Ascii

/-!
# Case forms within ASCII

Snake case of a Pascal form shows every word again, with an underscore before each further word that
begins with a letter: only a letter has a capital to tell the word by.  Words that begin otherwise
run into the word before, and for the same reason the Pascal form is found again from there.
-/

namespace Scaffold.Naming

open Text

theorem isAsciiUpper_eq_isUpper (c : Char) : isAsciiUpper c = c.isUpper := by
  simp [isAsciiUpper, Char.isUpper, Char.le_def]

/-! ## Words -/

/-- What a name within ASCII is made of. -/
structure AsciiWord (word : List Char) : Prop where
  ne_nil : word ≠ []
  ascii : IsAscii word
  plain : IsPlain word

theorem asciiWord_of_mem_words {name word : List Char} (ascii : IsAscii name)
    (h : word ∈ words name) : AsciiWord word := by
  obtain ⟨hne, hall⟩ := mem_words h
  exact ⟨hne, fun c hc => ascii c (hall c hc).1, fun c hc => (hall c hc).2⟩

/-- In Pascal case such a word has a capital, and any other has none. -/
def beginsWithLetter (word : List Char) : Bool := word.head?.any Char.isAlpha

/-- What stands before a further word in snake case. -/
def link (word : List Char) : List Char := if beginsWithLetter word then ['_'] else []

/-- Words in lower case, an underscore before each further one that begins with a letter. -/
def linked : List (List Char) → List Char
  | [] => []
  | word :: rest => lower word ++ rest.flatMap fun further => link further ++ lower further

theorem capitalizeWord_ascii {c : Char} {rest : List Char} (h : IsAscii (c :: rest)) :
    capitalizeWord (c :: rest) = c.toUpper :: rest.map Char.toLower := by
  have hc : c.toLower.toNat < 128 := toNat_toLower_ascii (h c List.mem_cons_self)
  rw [capitalizeWord, lower_ascii h, List.map_cons]
  simp [upper, upperChar_ascii hc]

theorem isAscii_capitalizeWord {word : List Char} (h : IsAscii word) :
    IsAscii (capitalizeWord word) := by
  cases word with
  | nil => exact h
  | cons c rest =>
      rw [capitalizeWord_ascii h]
      intro d hd
      rcases List.mem_cons.mp hd with rfl | hd
      · exact toNat_toUpper_ascii (h c List.mem_cons_self)
      · obtain ⟨e, he, rfl⟩ := List.mem_map.mp hd
        exact toNat_toLower_ascii (h e (List.mem_cons_of_mem c he))

theorem lower_capitalizeWord_ascii {word : List Char} (h : IsAscii word) :
    lower (capitalizeWord word) = lower word := by
  rw [lower_ascii (isAscii_capitalizeWord h), lower_ascii h]
  cases word with
  | nil => rfl
  | cons c rest => simp [capitalizeWord_ascii h]

/-! ## Snake case of Pascal case -/

theorem markCapitals_append (front back : List Char) :
    markCapitals (front ++ back) = markCapitals front ++ markCapitals back :=
  List.flatMap_append

theorem markCapitals_map_toLower (text : List Char) :
    markCapitals (text.map Char.toLower) = text.map Char.toLower := by
  apply markCapitals_of_no_capital
  intro c hc
  obtain ⟨d, -, rfl⟩ := List.mem_map.mp hc
  rw [isAsciiUpper_eq_isUpper, Char.isUpper_toLower_eq_false]

/-- Only the first character of a word in Pascal case is a capital, if it is a letter. -/
theorem markCapitals_capitalizeWord {word : List Char} (h : AsciiWord word) :
    markCapitals (capitalizeWord word) = link word ++ capitalizeWord word := by
  obtain ⟨c, rest, rfl⟩ := List.exists_cons_of_ne_nil h.ne_nil
  have hcapital : isAsciiUpper c.toUpper = beginsWithLetter (c :: rest) := by
    simp [isAsciiUpper_eq_isUpper, beginsWithLetter]
  rw [capitalizeWord_ascii h.ascii, ← List.singleton_append, markCapitals_append,
    markCapitals_map_toLower, markCapitals, List.flatMap_singleton, hcapital, link]
  split <;> rfl

theorem snakeChars_capitalizeWord_append {word : List Char} (h : AsciiWord word)
    (more : List Char) :
    snakeChars (capitalizeWord word ++ more) = lower (capitalizeWord word ++ markCapitals more) := by
  obtain ⟨c, rest, rfl⟩ := List.exists_cons_of_ne_nil h.ne_nil
  rw [capitalizeWord_ascii h.ascii, List.cons_append, snakeChars, markCapitals_append,
    markCapitals_map_toLower, List.cons_append]

theorem isAscii_link (word : List Char) : IsAscii (link word) := by
  unfold link
  split <;> decide

theorem lower_link (word : List Char) : lower (link word) = link word := by
  unfold link
  split <;> decide

/-- The further words of a Pascal form, in snake case. -/
theorem marked_further {rest : List (List Char)} (h : ∀ word ∈ rest, AsciiWord word) :
    IsAscii (markCapitals (rest.flatMap capitalizeWord)) ∧
      lower (markCapitals (rest.flatMap capitalizeWord)) =
        rest.flatMap fun further => link further ++ lower further := by
  induction rest with
  | nil => exact ⟨by decide, rfl⟩
  | cons word more ih =>
      obtain ⟨hword, hmore⟩ := List.forall_mem_cons.mp h
      obtain ⟨hascii, hlower⟩ := ih hmore
      have hcapital := isAscii_capitalizeWord hword.ascii
      have hfront := (isAscii_link word).append hcapital
      rw [List.flatMap_cons, markCapitals_append, markCapitals_capitalizeWord hword]
      refine ⟨hfront.append hascii, ?_⟩
      rw [lower_append_ascii hfront hascii, lower_append_ascii (isAscii_link word) hcapital, hlower,
        lower_link, lower_capitalizeWord_ascii hword.ascii, List.flatMap_cons]

/-- Snake case links the words of a Pascal form. -/
theorem snakeChars_pascal {found : List (List Char)} (h : ∀ word ∈ found, AsciiWord word) :
    snakeChars (found.flatMap capitalizeWord) = linked found := by
  cases found with
  | nil => rfl
  | cons word rest =>
      obtain ⟨hword, hrest⟩ := List.forall_mem_cons.mp h
      obtain ⟨hascii, hlower⟩ := marked_further hrest
      rw [List.flatMap_cons, snakeChars_capitalizeWord_append hword,
        lower_append_ascii (isAscii_capitalizeWord hword.ascii) hascii, hlower,
        lower_capitalizeWord_ascii hword.ascii, linked]

/-! ## Underscores at every word boundary -/

theorem intercalate_lower (word : List Char) (rest : List (List Char)) :
    ['_'].intercalate ((word :: rest).map lower) =
      lower word ++ rest.flatMap fun further => '_' :: lower further := by
  induction rest generalizing word with
  | nil => simp
  | cons next more ih =>
      have hnext := ih next
      simp only [List.map_cons] at hnext ⊢
      rw [List.intercalate_cons_cons, hnext]
      simp

theorem length_linked_le (rest : List (List Char)) :
    (rest.flatMap fun further => link further ++ lower further).length ≤
      (rest.flatMap fun further => '_' :: lower further).length := by
  induction rest with
  | nil => exact le_rfl
  | cons word more ih =>
      have hlink : (link word).length ≤ 1 := by
        unfold link
        split <;> decide
      simp only [List.flatMap_cons, List.length_append, List.length_cons]
      omega

/-- Words are linked by underscores throughout just if each further one begins with a letter. -/
theorem linked_eq_intercalate_iff (found : List (List Char)) :
    linked found = ['_'].intercalate (found.map lower) ↔
      ∀ word ∈ found.tail, beginsWithLetter word = true := by
  cases found with
  | nil => simp [linked]
  | cons first rest =>
      rw [linked, intercalate_lower, List.append_cancel_left_eq, List.tail_cons]
      induction rest with
      | nil => simp
      | cons word more ih =>
          rw [List.flatMap_cons, List.flatMap_cons, List.forall_mem_cons, ← ih]
          cases hletter : beginsWithLetter word with
          | true => simp [link, hletter]
          | false =>
              -- Here an underscore is missing, and none of the words to come makes up for it.
              have hlink : link word = [] := by simp [link, hletter]
              have hle := length_linked_le more
              simp only [hlink, List.nil_append, Bool.false_eq_true, false_and, iff_false]
              intro heq
              have hlength := congrArg List.length heq
              simp only [List.length_append, List.length_cons] at hlength
              omega

/-- Snake case of a Pascal form or of a camel form holds the words of the name in lower case, with
an underscore wherever a further word begins with a letter, and nowhere else. -/
theorem snake_of_pascal (s : String) (ascii : IsAscii s.toList) :
    (snake (pascal s)).toList = linked (segments s.toList) ∧
    ((snake (pascal s)).toList = ['_'].intercalate ((segments s.toList).map lower) ↔
      ∀ word ∈ (segments s.toList).tail, beginsWithLetter word = true) ∧
    snake (camel s) = snake (pascal s) := by
  have hlinked : (snake (pascal s)).toList = linked (segments s.toList) := by
    rw [toList_snake, toList_pascal, ← words_eq_segments]
    exact snakeChars_pascal fun word hword => asciiWord_of_mem_words ascii hword
  refine ⟨hlinked, ?_, snake_camel s⟩
  rw [hlinked]
  exact linked_eq_intercalate_iff _

/-- The word that begins with a digit runs into the one before. -/
theorem snake_of_pascal_digits :
    IsAscii "_HTTP 2go--xY".toList ∧ (snake (pascal "_HTTP 2go--xY")).toList =
      linked ["HTTP".toList, "2go".toList, "xY".toList] ∧
    snake (camel "_HTTP 2go--xY") = "http2go_xy" := by
  have ascii : IsAscii "_HTTP 2go--xY".toList := by decide
  obtain ⟨hlinked, -, hcamel⟩ := snake_of_pascal "_HTTP 2go--xY" ascii
  refine ⟨ascii, hlinked, hcamel.trans ?_⟩
  rw [← String.toList_inj, hlinked]
  decide +kernel

/-! ## Pascal case of snake case -/

theorem AsciiWord.lower {word : List Char} (h : AsciiWord word) : AsciiWord (lower word) where
  ne_nil := fun hnil => h.ne_nil (lower_eq_nil.mp hnil)
  ascii := by
    rw [lower_ascii h.ascii]
    intro c hc
    obtain ⟨d, hd, rfl⟩ := List.mem_map.mp hc
    exact toNat_toLower_ascii (h.ascii d hd)
  plain := isPlain_lower h.plain

theorem AsciiWord.append {front back : List Char} (hfront : AsciiWord front)
    (hback : AsciiWord back) : AsciiWord (front ++ back) where
  ne_nil := List.append_ne_nil_of_left_ne_nil hfront.ne_nil back
  ascii := hfront.ascii.append hback.ascii
  plain := by
    intro c hc
    rcases List.mem_append.mp hc with hc | hc
    · exact hfront.plain c hc
    · exact hback.plain c hc

/-- A word that begins with no letter has no capital. -/
theorem capitalizeWord_of_no_letter {word : List Char} (h : AsciiWord word)
    (letter : beginsWithLetter word = false) : capitalizeWord word = lower word := by
  obtain ⟨c, rest, rfl⟩ := List.exists_cons_of_ne_nil h.ne_nil
  have hc : c.isAlpha = false := by simpa [beginsWithLetter] using letter
  rw [Char.isAlpha, Bool.or_eq_false_iff] at hc
  rw [capitalizeWord_ascii h.ascii, lower_ascii h.ascii, List.map_cons,
    Char.toUpper_eq_of_not_isLower (by simp [hc.2]),
    Char.toLower_eq_of_not_isUpper (by simp [hc.1])]

theorem capitalizeWord_append_lower {front back : List Char} (hfront : AsciiWord front)
    (hback : AsciiWord back) :
    capitalizeWord (front ++ lower back) = capitalizeWord front ++ lower back := by
  obtain ⟨c, rest, rfl⟩ := List.exists_cons_of_ne_nil hfront.ne_nil
  have hwhole := (hfront.append hback.lower).ascii
  rw [List.cons_append] at hwhole ⊢
  rw [capitalizeWord_ascii hwhole, capitalizeWord_ascii hfront.ascii, lower_ascii hback.ascii]
  simp

/-- Further words are found again by their underscores, or stand as they are in the word before. -/
theorem pascalChars_joined {word : List Char} {rest : List (List Char)} (hword : AsciiWord word)
    (h : ∀ further ∈ rest, AsciiWord further) :
    pascalChars (word ++ rest.flatMap fun further => link further ++ lower further) =
      capitalizeWord word ++ rest.flatMap capitalizeWord := by
  -- The word in hand grows by every further word that no underscore parts from it.
  induction rest generalizing word with
  | nil =>
      rw [List.flatMap_nil, List.flatMap_nil, List.append_nil, List.append_nil]
      exact pascalChars_plain hword.plain hword.ne_nil
  | cons next more ih =>
      obtain ⟨hnext, hmore⟩ := List.forall_mem_cons.mp h
      rw [List.flatMap_cons, List.flatMap_cons]
      cases hletter : beginsWithLetter next with
      | true =>
          have hlink : link next = ['_'] := by simp [link, hletter]
          rw [hlink, List.singleton_append, List.cons_append,
            pascalChars_append_delimiter (by decide), ih hnext.lower hmore,
            pascalChars_plain hword.plain hword.ne_nil, capitalizeWord_lower]
      | false =>
          have hlink : link next = [] := by simp [link, hletter]
          rw [hlink, List.nil_append, ← List.append_assoc, ih (hword.append hnext.lower) hmore,
            capitalizeWord_append_lower hword hnext, capitalizeWord_of_no_letter hnext hletter,
            List.append_assoc]

theorem pascalChars_linked {found : List (List Char)} (h : ∀ word ∈ found, AsciiWord word) :
    pascalChars (linked found) = found.flatMap capitalizeWord := by
  cases found with
  | nil => rfl
  | cons word rest =>
      obtain ⟨hword, hrest⟩ := List.forall_mem_cons.mp h
      rw [linked, pascalChars_joined hword.lower hrest, capitalizeWord_lower, List.flatMap_cons]

theorem pascalChars_snakeChars {name : List Char} (ascii : IsAscii name) :
    pascalChars (snakeChars (pascalChars name)) = pascalChars name := by
  have hwords : ∀ word ∈ words name, AsciiWord word := fun word hword =>
    asciiWord_of_mem_words ascii hword
  calc
    pascalChars (snakeChars (pascalChars name)) = pascalChars (linked (words name)) :=
      congrArg pascalChars (snakeChars_pascal hwords)
    _ = pascalChars name := pascalChars_linked hwords

/-- Snake case loses nothing of a Pascal form or a camel form, though neither form can be taken
twice. -/
theorem snake_keeps_forms :
    (∀ s : String, IsAscii s.toList →
      pascal (snake (pascal s)) = pascal s ∧ camel (snake (camel s)) = camel s) ∧
    (∃ s : String, IsAscii s.toList ∧ pascal (pascal s) ≠ pascal s) ∧
    ∃ s : String, IsAscii s.toList ∧ camel (camel s) ≠ camel s := by
  refine ⟨fun s ascii => ⟨?_, ?_⟩, ⟨"a_b", by decide, by decide +kernel⟩,
    "a_b", by decide, by decide +kernel⟩
  · rw [pascal, toList_snake, toList_pascal, pascalChars_snakeChars ascii]
    rfl
  · rw [snake_camel, camel, toList_snake, toList_pascal,
      camelChars_of_pascalChars (pascalChars_snakeChars ascii)]
    rfl

theorem snake_keeps_initials :
    IsAscii "a_b-2c D".toList ∧ pascal (snake (pascal "a_b-2c D")) = "AB2cD" ∧
      camel (snake (camel "a_b-2c D")) = "aB2cD" := by
  have ascii : IsAscii "a_b-2c D".toList := by decide
  obtain ⟨hpascal, hcamel⟩ := snake_keeps_forms.1 "a_b-2c D" ascii
  exact ⟨ascii, hpascal.trans (by decide +kernel), hcamel.trans (by decide +kernel)⟩

end Scaffold.Naming
