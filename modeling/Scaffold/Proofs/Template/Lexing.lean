import Mathlib.Data.List.TakeDrop
import Scaffold.Proofs.Template.Shape
import Scaffold.Proofs.Template.Trimming

/-!
# The tokens of a form

The lexer reads a form mark by mark.  Its tokens are those of the marks and of the texts as the
tags around them leave them.
-/

namespace Scaffold.Template

open Text

/-! ## Words -/

/-- Characters that are read as one name. -/
structure IsWord (word : List Char) : Prop where
  identifier : isIdentifier word = true
  named : ∀ c ∈ word, isNamePart c = true
  plain : ∀ c ∈ word.head?, isBlank c = false ∧ isDigit c = false

instance (word : List Char) : Decidable (IsWord word) :=
  decidable_of_iff
    (isIdentifier word = true ∧ word.all isNamePart = true ∧
      (word.head?.all fun c => !isBlank c && !isDigit c) = true)
    ⟨fun ⟨identifier, named, plain⟩ =>
        ⟨identifier, List.all_eq_true.mp named, by simpa [Option.all_eq_true] using plain⟩,
      fun h =>
        ⟨h.identifier, List.all_eq_true.mpr h.named, by simpa [Option.all_eq_true] using h.plain⟩⟩

theorem IsWord.ne_nil {word : List Char} (h : IsWord word) : word ≠ [] := by
  rintro rfl
  exact absurd h.identifier (by decide)

theorem IsWord.head {word : List Char} (h : IsWord word) (rest : List Char) :
    ∃ c text, word ++ rest = c :: text ∧ isNamePart c = true ∧ isBlank c = false := by
  cases word with
  | nil => exact absurd rfl h.ne_nil
  | cons c word =>
      exact ⟨c, word ++ rest, rfl, h.named c List.mem_cons_self, (h.plain c rfl).1⟩

/-- The words of a mark. -/
def Mark.words : Mark → List String
  | place p => [p.name]
  | tag t => t.words

/-! ## Tokens -/

def textTokens (text : List Char) : List Token :=
  if text.isEmpty then [] else [.data (String.ofList text)]

def Mark.tokens : Mark → List Token
  | place p => [.variableBegin, .name p.name, .variableEnd]
  | tag t => .blockBegin :: (t.words.map .name ++ [.blockEnd])

def linkTokens (links : Links) : List Token :=
  links.flatMap fun (mark, text) => mark.tokens ++ textTokens text

def tokensFrom (text : List Char) (links : Links) : List Token :=
  textTokens text ++ linkTokens links

/-- The stream holds these tokens, on whatever lines, and does not break off. -/
structure TokenStream.Holds (stream : TokenStream) (tokens : List Token) : Prop where
  sound : stream.fault? = none
  tokens : stream.tokens.map (·.2) = tokens

theorem TokenStream.Holds.cons {stream : TokenStream} {tokens : List Token}
    (h : stream.Holds tokens) (line : Nat) (token : Token) :
    (stream.cons line token).Holds (token :: tokens) :=
  ⟨h.sound, congrArg (token :: ·) h.tokens⟩

theorem TokenStream.Holds.consData {stream : TokenStream} {tokens : List Token}
    (h : stream.Holds tokens) (line : Nat) (text : List Char) :
    (Template.consData line text stream).Holds (textTokens text ++ tokens) := by
  unfold Template.consData textTokens
  cases text with
  | nil => exact h
  | cons c text => exact h.cons line _

/-- From any line and position on, with steps enough, the text is read as these tokens. -/
def LexesTo (mode : LexMode) (text : List Char) (tokens : List Token) : Prop :=
  ∀ fuel line position, text.length < fuel →
    (lexFrom fuel mode line position text).Holds tokens

theorem lexesTo_nil (mode : LexMode) : LexesTo mode [] [] := by
  intro fuel line position h
  cases fuel with
  | zero => exact absurd h (Nat.not_lt_zero _)
  | succ fuel => exact ⟨rfl, rfl⟩

/-! ## Inside tags -/

variable {kind : TagKind} {tokens : List Token} {rest : List Char}

theorem lexFrom_inside {text : List Char} (h : text ≠ []) (fuel line position : Nat)
    (hclose : kind.close? text = none) :
    lexFrom (fuel + 1) (.inside kind [] false) line position text =
      match Lexeme.read false position [] text with
      | .fault message => .broken line message
      | .escape cause => .escaped cause
      | .skip n =>
          lexFrom fuel (.inside kind [] false) (line + countNewlines (text.take n))
            (position + n) (text.drop n)
      | .token token n brackets =>
          .cons line token <|
            lexFrom fuel (.inside kind brackets (lexFrom.endsPoint token))
              (line + countNewlines (text.take n)) (position + n) (text.drop n) := by
  cases text with
  | nil => exact absurd rfl h
  | cons c text =>
      rw [lexFrom]
      · cases Lexeme.read false position [] (c :: text) <;>
          simp only [List.isEmpty_nil, if_true, hclose]
      · simp

theorem closeVariable?_cons {c : Char} (hm : c ≠ '-') (hb : c ≠ '\x7d') (text : List Char) :
    closeVariable? (c :: text) = none := by
  unfold closeVariable?
  split
  · next h => exact absurd (List.cons.inj h).1 hm
  · next h => exact absurd (List.cons.inj h).1 hb
  · rfl

theorem closeBlock?_cons {c : Char} (hp : c ≠ '+') (hm : c ≠ '-') (hc : c ≠ '%')
    (text : List Char) : closeBlock? '%' (c :: text) = none := by
  unfold closeBlock?
  split
  · next h => exact absurd (List.cons.inj h).1 hp
  · next h => exact absurd (List.cons.inj h).1 hm
  · next h =>
      obtain rfl := (List.cons.inj h).1
      rw [if_neg hc]
  · rfl

/-- The inside of a mark begins with a space or a word, and so with no sign and no delimiter. -/
theorem ne_of_opens {c d : Char} (h : c = ' ' ∨ isNamePart c = true)
    (hd : d ≠ ' ' ∧ isNamePart d = false) : c ≠ d := by
  rintro rfl
  rcases h with h | h
  · exact hd.1 h
  · rw [hd.2] at h
    cases h

theorem close?_cons {c : Char} (h : c = ' ' ∨ isNamePart c = true) (text : List Char) :
    kind.close? (c :: text) = none := by
  have hm : c ≠ '-' := ne_of_opens h (by decide)
  have hp : c ≠ '+' := ne_of_opens h (by decide)
  have hc : c ≠ '%' := ne_of_opens h (by decide)
  have hb : c ≠ '\x7d' := ne_of_opens h (by decide)
  cases kind
  · exact closeVariable?_cons hm hb text
  · exact closeBlock?_cons hp hm hc text
  · exact closeBlock?_cons hp hm hc text

theorem Sign.read_plain {text : List Char}
    (h : ∀ c ∈ text.head?, c = ' ' ∨ isNamePart c = true) : Sign.read text = (.plain, text) := by
  unfold Sign.read
  split
  · exact absurd rfl (ne_of_opens (h '-' rfl) (by decide))
  · exact absurd rfl (ne_of_opens (h '+' rfl) (by decide))
  · rfl

theorem takeWhile_append_stop {p : Char → Bool} {front : List Char} (h : ∀ c ∈ front, p c = true)
    (hrest : ∀ c ∈ rest.head?, p c = false) : (front ++ rest).takeWhile p = front := by
  rw [List.takeWhile_append_of_pos h]
  cases rest with
  | nil => rw [List.takeWhile_nil, List.append_nil]
  | cons c rest =>
      rw [List.takeWhile_cons_of_neg (by rw [hrest c rfl]; exact Bool.false_ne_true),
        List.append_nil]

theorem read_blanks (position n : Nat) (h : ∀ c ∈ rest.head?, isBlank c = false) :
    Lexeme.read false position [] (List.replicate (n + 1) ' ' ++ rest) = .skip (n + 1) := by
  have htake : (List.replicate (n + 1) ' ' ++ rest).takeWhile isBlank =
      List.replicate (n + 1) ' ' := by
    refine takeWhile_append_stop (fun c hc => ?_) h
    rw [List.eq_of_mem_replicate hc]
    decide
  simp only [Lexeme.read, htake, List.length_replicate]
  rw [if_pos (Nat.succ_ne_zero n)]

/-- No number begins with what is no digit. -/
theorem floatLength?_cons {c : Char} (h : isDigit c = false) (text : List Char) :
    floatLength? (c :: text) = none := by
  have hgroup : groupLength (c :: text) = 0 := by
    simp [groupLength, digitGroups, digitRun, List.span_eq_takeWhile_dropWhile, h]
  simp [floatLength?, hgroup]

theorem isDigit_of_ascii {c : Char} (h : '0' ≤ c ∧ c ≤ '9') : isDigit c = true := by
  have hfirst : 48 ≤ c.toNat := h.1
  have hlast : c.toNat ≤ 57 := h.2
  rw [isDigit, digitValue?, Option.isSome_map, List.find?_isSome]
  refine ⟨48, by decide, ?_⟩
  simp only [Bool.and_eq_true, decide_eq_true_eq]
  omega

theorem intLength?_cons {c : Char} (h : isDigit c = false) (text : List Char) :
    intLength? (c :: text) = none := by
  have hnot : ¬ ('0' ≤ c ∧ c ≤ '9') := by
    intro hc
    rw [isDigit_of_ascii hc] at h
    cases h
  unfold intLength?
  split
  · next he =>
      obtain rfl := (List.cons.inj he).1
      exact absurd (by decide) hnot
  · next d rest _ he =>
      obtain rfl := (List.cons.inj he).1
      rw [if_neg]
      intro hc
      simp only [Bool.and_eq_true, decide_eq_true_eq] at hc
      exact hnot ⟨Char.le_trans (by decide) hc.1, hc.2⟩
  · rfl

theorem read_word {word : List Char} (h : IsWord word) (position : Nat)
    (hrest : ∀ c ∈ rest.head?, isNamePart c = false) :
    Lexeme.read false position [] (word ++ rest) =
      .token (.name (String.ofList word)) word.length [] := by
  have htake := takeWhile_append_stop h.named hrest
  have hid := h.identifier
  have hplain := h.plain
  cases word with
  | nil => exact absurd rfl h.ne_nil
  | cons c word =>
      obtain ⟨hblank, hdigit⟩ := hplain c rfl
      have hblanks : (c :: (word ++ rest)).takeWhile isBlank = [] :=
        List.takeWhile_cons_of_neg (by rw [hblank]; exact Bool.false_ne_true)
      rw [List.cons_append] at htake ⊢
      simp only [Lexeme.read, htake, hblanks, floatLength?_cons hdigit, intLength?_cons hdigit, hid]
      rfl

/-- Blanks inside a tag give no token. -/
theorem LexesTo.blanks (h : LexesTo (.inside kind [] false) rest tokens) (n : Nat)
    (hrest : ∀ c ∈ rest.head?, isBlank c = false) :
    LexesTo (.inside kind [] false) (List.replicate n ' ' ++ rest) tokens := by
  cases n with
  | zero => exact h
  | succ n =>
      intro fuel line position hfuel
      rw [List.length_append, List.length_replicate] at hfuel
      obtain ⟨fuel, rfl⟩ := Nat.exists_eq_succ_of_ne_zero (Nat.ne_of_gt (Nat.zero_lt_of_lt hfuel))
      have hclose : kind.close? (List.replicate (n + 1) ' ' ++ rest) = none :=
        close?_cons (Or.inl rfl) _
      rw [lexFrom_inside (by simp) fuel line position hclose, read_blanks position n hrest]
      simp only
      rw [List.drop_left' List.length_replicate]
      exact h fuel _ _ (by omega)

theorem LexesTo.word (h : LexesTo (.inside kind [] false) rest tokens) {word : List Char}
    (hword : IsWord word) (hrest : ∀ c ∈ rest.head?, isNamePart c = false) :
    LexesTo (.inside kind [] false) (word ++ rest) (.name (String.ofList word) :: tokens) := by
  intro fuel line position hfuel
  obtain ⟨fuel, rfl⟩ := Nat.exists_eq_succ_of_ne_zero (Nat.ne_of_gt (Nat.zero_lt_of_lt hfuel))
  have hclose : kind.close? (word ++ rest) = none := by
    cases word with
    | nil => exact absurd rfl hword.ne_nil
    | cons c word => exact close?_cons (Or.inr (hword.named c List.mem_cons_self)) _
  have hlen : 0 < word.length := List.length_pos_iff.mpr hword.ne_nil
  rw [List.length_append] at hfuel
  rw [lexFrom_inside (by simp [hword.ne_nil]) fuel line position hclose,
    read_word hword position hrest]
  simp only
  rw [List.drop_left]
  exact (h fuel _ _ (by omega)).cons line _

/-- The end of a placeholder. -/
theorem LexesTo.closePlace (h : LexesTo (.outside false) rest tokens) :
    LexesTo (.inside .variable [] false) ('\x7d' :: '\x7d' :: rest) (.variableEnd :: tokens) := by
  intro fuel line position hfuel
  obtain ⟨fuel, rfl⟩ := Nat.exists_eq_succ_of_ne_zero (Nat.ne_of_gt (Nat.zero_lt_of_lt hfuel))
  rw [lexFrom]
  · exact (h fuel _ _ (by simp at hfuel; omega)).cons line _
  · simp

/-- The end of a tag, with the line end behind it. -/
theorem LexesTo.closeTag (h : LexesTo (.outside true) rest tokens) :
    LexesTo (.inside .block [] false) ('%' :: '\x7d' :: '\n' :: rest) (.blockEnd :: tokens) := by
  intro fuel line position hfuel
  obtain ⟨fuel, rfl⟩ := Nat.exists_eq_succ_of_ne_zero (Nat.ne_of_gt (Nat.zero_lt_of_lt hfuel))
  rw [lexFrom]
  · exact (h fuel _ _ (by simp at hfuel; omega)).cons line _
  · simp

theorem lexesTo_closeTag_end :
    LexesTo (.inside .block [] false) ['%', '\x7d'] [.blockEnd] := by
  intro fuel line position hfuel
  obtain ⟨fuel, rfl⟩ := Nat.exists_eq_succ_of_ne_zero (Nat.ne_of_gt (Nat.zero_lt_of_lt hfuel))
  rw [lexFrom]
  · exact (lexesTo_nil (.outside false) fuel _ _ (by simp at hfuel ⊢; omega)).cons line _
  · simp

/-! ## Outside tags -/

theorem ofChar?_eq_none {c : Char} (h : opensTag c = false) : TagKind.ofChar? c = none := by
  simp only [opensTag, Bool.or_eq_false_iff, decide_eq_false_iff_not] at h
  unfold TagKind.ofChar?
  split
  · exact absurd rfl h.1.1
  · exact absurd rfl h.1.2
  · exact absurd rfl h.2
  · rfl

theorem splitAtTag_cons_of_ne {c : Char} (h : c ≠ '\x7b') (rest : List Char) :
    splitAtTag (c :: rest) =
      (splitAtTag rest).map fun (before, found) => (c :: before, found) := by
  rw [splitAtTag]
  exact fun _ _ hc => absurd hc h

theorem splitAtTag_brace {c : Char} (h : opensTag c = false) (rest : List Char) :
    splitAtTag ('\x7b' :: c :: rest) =
      (splitAtTag (c :: rest)).map fun (before, found) => ('\x7b' :: before, found) := by
  rw [splitAtTag, ofChar?_eq_none h]

/-- The first delimiter that opens behind a text. -/
theorem splitAtTag_append {text : List Char} (h : isClean text = true)
    (hlast : text.getLast? ≠ some '\x7b') {c : Char} {kind : TagKind}
    (hkind : TagKind.ofChar? c = some kind) (rest : List Char) :
    splitAtTag (text ++ '\x7b' :: c :: rest) = some (text, kind, rest) := by
  induction text with
  | nil => rw [List.nil_append, splitAtTag, hkind]
  | cons d text ih =>
      rw [isClean_cons, Bool.and_eq_true] at h
      have hlast' : text.getLast? ≠ some '\x7b' := by
        intro he
        rw [List.getLast?_cons, he] at hlast
        exact hlast rfl
      have ih := ih h.2 hlast'
      by_cases hd : d = '\x7b'
      · subst hd
        cases text with
        | nil => exact absurd rfl hlast
        | cons e text =>
            have he : opensTag e = false := by simpa using h.1
            rw [List.cons_append] at ih
            rw [List.cons_append, List.cons_append, splitAtTag_brace he, ih]
            rfl
      · rw [List.cons_append, splitAtTag_cons_of_ne hd, ih]
        rfl

theorem splitAtTag_clean {text : List Char} (h : isClean text = true) :
    splitAtTag text = none := by
  induction text with
  | nil => rfl
  | cons d text ih =>
      rw [isClean_cons, Bool.and_eq_true] at h
      have ih := ih h.2
      by_cases hd : d = '\x7b'
      · subst hd
        cases text with
        | nil => rfl
        | cons e text =>
            have he : opensTag e = false := by simpa using h.1
            rw [splitAtTag_brace he, ih]
            rfl
      · rw [splitAtTag_cons_of_ne hd, ih]
        rfl

theorem lexesTo_text {text : List Char} (h : isClean text = true) (lineStart : Bool) :
    LexesTo (.outside lineStart) text (textTokens text) := by
  intro fuel line position hfuel
  obtain ⟨fuel, rfl⟩ := Nat.exists_eq_succ_of_ne_zero (Nat.ne_of_gt (Nat.zero_lt_of_lt hfuel))
  have hended : TokenStream.ended.Holds [] := ⟨rfl, rfl⟩
  cases text with
  | nil => exact hended
  | cons c text =>
      rw [lexFrom]
      · rw [splitAtTag_clean h]
        simpa using hended.consData line (c :: text)
      · simp

/-- The beginning of a placeholder, behind a text that stays as it is. -/
theorem LexesTo.openPlace (h : LexesTo (.inside .variable [] false) rest tokens)
    {text : List Char} (hclean : isClean text = true) (hlast : text.getLast? ≠ some '\x7b')
    (hrest : Sign.read rest = (.plain, rest)) (lineStart : Bool) :
    LexesTo (.outside lineStart) (text ++ '\x7b' :: '\x7b' :: rest)
      (textTokens text ++ .variableBegin :: tokens) := by
  intro fuel line position hfuel
  obtain ⟨fuel, rfl⟩ := Nat.exists_eq_succ_of_ne_zero (Nat.ne_of_gt (Nat.zero_lt_of_lt hfuel))
  have hsplit : splitAtTag (text ++ '\x7b' :: '\x7b' :: rest) = some (text, .variable, rest) :=
    splitAtTag_append hclean hlast rfl rest
  rw [lexFrom]
  · rw [hsplit]
    simp only [hrest]
    refine TokenStream.Holds.consData ((h fuel _ _ ?_).cons _ _) line text
    simp at hfuel
    omega
  · simp

/-- A tag takes the indentation before it. -/
theorem trimBefore_of_blank {text : List Char} {blank lineStart : Bool} (hr : '\r' ∉ text)
    (hblank : blankAfter blank text = true) (hstart : blank = true → lineStart = true) :
    trimBefore .plain .block lineStart text = headLines text := by
  obtain ⟨hsplit, -, hindent, hwhole⟩ := headLines_of_blank hr hblank
  have hall : (lastLine text).all isBlank = true := by
    rw [List.all_eq_true]
    intro c hc
    rcases hindent c hc with rfl | rfl <;> decide
  have hlen := congrArg List.length hsplit
  rw [List.length_append] at hlen
  have hline : (decide ((lastLine text).length < text.length) || lineStart) = true := by
    rcases hwhole with ⟨hb, -⟩ | ⟨front, hfront⟩
    · rw [hstart hb, Bool.or_true]
    · rw [hfront, List.length_append, List.length_singleton] at hlen
      rw [decide_eq_true (by omega), Bool.true_or]
  simp only [trimBefore, hall, hline]
  rfl

theorem getLast?_of_blank {text : List Char} {blank : Bool} (h : blankAfter blank text = true) :
    text.getLast? ≠ some '\x7b' := by
  intro he
  obtain ⟨init, rfl⟩ := List.getLast?_eq_some_iff.mp he
  rw [blankAfter_append, blankAfter_cons] at h
  simp [isNewline, blankAfter] at h

/-- The beginning of a tag, behind a text that loses its last line. -/
theorem LexesTo.openTag (h : LexesTo (.inside .block [] false) rest tokens)
    {text : List Char} (hclean : isClean text = true) {blank lineStart : Bool}
    (hr : '\r' ∉ text) (hblank : blankAfter blank text = true)
    (hstart : blank = true → lineStart = true)
    (hrest : Sign.read rest = (.plain, rest)) (hraw : startRaw? rest = none) :
    LexesTo (.outside lineStart) (text ++ '\x7b' :: '%' :: rest)
      (textTokens (headLines text) ++ .blockBegin :: tokens) := by
  intro fuel line position hfuel
  obtain ⟨fuel, rfl⟩ := Nat.exists_eq_succ_of_ne_zero (Nat.ne_of_gt (Nat.zero_lt_of_lt hfuel))
  have hsplit : splitAtTag (text ++ '\x7b' :: '%' :: rest) = some (text, .block, rest) :=
    splitAtTag_append hclean (getLast?_of_blank hblank) rfl rest
  rw [lexFrom]
  · rw [hsplit]
    simp only [hrest, hraw, trimBefore_of_blank hr hblank hstart, if_true]
    refine TokenStream.Holds.consData ((h fuel _ _ ?_).cons _ _) line (headLines text)
    simp at hfuel
    omega
  · simp

/-! ## Whole forms -/

/-- The inside of a tag: its words with a space before each, and the space before its end. -/
theorem lexesTo_words {words : List String} (hwords : ∀ word ∈ words, IsWord word.toList)
    (h : LexesTo (.inside .block [] false) ('%' :: rest) tokens) :
    LexesTo (.inside .block [] false)
      (words.flatMap (fun word => ' ' :: word.toList) ++ ' ' :: '%' :: rest)
      (words.map .name ++ tokens) := by
  have hpercent : ∀ c ∈ ('%' :: rest).head?, isBlank c = false := by
    intro c hc
    cases hc
    decide
  induction words with
  | nil => exact h.blanks 1 hpercent
  | cons word words ih =>
      have ih := ih (fun w hw => hwords w (List.mem_cons_of_mem word hw))
      have hword := hwords word List.mem_cons_self
      have hnext : ∀ c ∈ (words.flatMap (fun word => ' ' :: word.toList) ++
          ' ' :: '%' :: rest).head?, isNamePart c = false := by
        intro c hc
        cases words <;> cases hc <;> decide
      have hread := ih.word hword hnext
      rw [String.ofList_toList] at hread
      rw [List.flatMap_cons, List.map_cons, List.cons_append, List.cons_append,
        List.append_assoc]
      refine hread.blanks 1 (fun c hc => ?_)
      obtain ⟨d, text, htext, -, hblank⟩ := hword.head
        (words.flatMap (fun word => ' ' :: word.toList) ++ ' ' :: '%' :: rest)
      rw [htext] at hc
      cases hc
      exact hblank

theorem startRaw?_cons {c : Char} (hc : c ≠ 'r') (hblank : isBlank c = false) (rest : List Char) :
    startRaw? (' ' :: c :: rest) = none := by
  have hdrop : (' ' :: c :: rest).dropWhile isBlank = c :: rest := by
    rw [List.dropWhile_cons_of_pos (by decide),
      List.dropWhile_cons_of_neg (by rw [hblank]; exact Bool.false_ne_true)]
  unfold startRaw?
  rw [hdrop]
  split
  · next h => exact absurd (List.cons.inj h).1 hc
  · rfl

theorem tokensFrom_cons (text : List Char) (mark : Mark) (next : List Char) (rest : Links) :
    tokensFrom text ((mark, next) :: rest) =
      textTokens text ++ (mark.tokens ++ tokensFrom next rest) := by
  rw [tokensFrom, linkTokens, List.flatMap_cons, List.append_assoc, tokensFrom, linkTokens]

/-- A placeholder, before what is read behind it. -/
theorem LexesTo.place (h : LexesTo (.outside false) rest tokens) {p : Placeholder}
    (hword : IsWord p.name.toList) {text : List Char} (hclean : isClean text = true)
    (hlast : text.getLast? ≠ some '\x7b') (lineStart : Bool) :
    LexesTo (.outside lineStart) (text ++ (p.source ++ rest))
      (textTokens text ++ ((Mark.place p).tokens ++ tokens)) := by
  have hclose := h.closePlace.blanks p.after (by intro c hc; cases hc; decide)
  have hname := hclose.word hword (by
    intro c hc
    cases hn : p.after with
    | zero => rw [hn] at hc; cases hc; decide
    | succ n => rw [hn] at hc; cases hc; decide)
  obtain ⟨c, tail, hhead, hnamed, hblank⟩ := hword.head
    (List.replicate p.after ' ' ++ '\x7d' :: '\x7d' :: rest)
  have hinside := hname.blanks p.before (by
    intro d hd
    rw [hhead] at hd
    cases hd
    exact hblank)
  rw [String.ofList_toList] at hinside
  have hopen := hinside.openPlace hclean hlast (Sign.read_plain (by
    intro d hd
    cases hn : p.before with
    | zero =>
        rw [hn, List.replicate_zero, List.nil_append, hhead] at hd
        cases hd
        exact Or.inr hnamed
    | succ n =>
        rw [hn] at hd
        cases hd
        exact Or.inl rfl)) lineStart
  have hsource : p.source ++ rest = '\x7b' :: '\x7b' :: (List.replicate p.before ' ' ++
      (p.name.toList ++ (List.replicate p.after ' ' ++ '\x7d' :: '\x7d' :: rest))) := by
    simp [Placeholder.source]
  rw [hsource]
  exact hopen

/-- A tag, before what is read from its end on. -/
theorem LexesTo.tag {t : Tag} {rest' : List Char}
    (h : LexesTo (.inside .block [] false) ('%' :: '\x7d' :: rest') (.blockEnd :: tokens))
    (hwords : ∀ word ∈ t.words, IsWord word.toList) {text : List Char}
    (hclean : isClean text = true) {blank lineStart : Bool} (hr : '\r' ∉ text)
    (hblank : blankAfter blank text = true) (hstart : blank = true → lineStart = true) :
    LexesTo (.outside lineStart) (text ++ (t.source ++ rest'))
      (textTokens (headLines text) ++ ((Mark.tag t).tokens ++ tokens)) := by
  have hinside := lexesTo_words hwords h
  have hraw : startRaw? (t.words.flatMap (fun word => ' ' :: word.toList) ++
      ' ' :: '%' :: '\x7d' :: rest') = none := by
    cases t with
    | choose name => exact startRaw?_cons (by decide) (by decide) _
    | otherwise => exact startRaw?_cons (by decide) (by decide) _
    | done => exact startRaw?_cons (by decide) (by decide) _
  have hopen := hinside.openTag hclean hr hblank hstart (Sign.read_plain (by
    intro c hc
    cases t <;> cases hc <;> exact Or.inl rfl)) hraw
  have hsource : t.source ++ rest' = '\x7b' :: '%' ::
      (t.words.flatMap (fun word => ' ' :: word.toList) ++ ' ' :: '%' :: '\x7d' :: rest') := by
    simp [Tag.source]
  have htokens : (Mark.tag t).tokens ++ tokens =
      .blockBegin :: (t.words.map .name ++ .blockEnd :: tokens) := by
    simp [Mark.tokens]
  rw [hsource, htokens]
  exact hopen

/-- A form without carriage returns is read as its trimmed texts and its marks. -/
theorem lexesTo_sourceFrom {blank lineStart : Bool} {text : List Char} {links : Links}
    (hr : '\r' ∉ text) (hrs : ∀ link ∈ links, '\r' ∉ link.2)
    (hwords : ∀ link ∈ links, ∀ word ∈ link.1.words, IsWord word.toList)
    (h : wellSet blank text links = true) (hstart : blank = true → lineStart = true) :
    LexesTo (.outside lineStart) (sourceFrom text links)
      (tokensFrom (cut false (tagFollows links) text) (trimLinks links)) := by
  induction links generalizing blank lineStart text with
  | nil =>
      have hclean := lexesTo_text h lineStart
      simpa [sourceFrom, tokensFrom, linkTokens, trimLinks, cut, tagFollows] using hclean
  | cons link rest ih =>
      obtain ⟨mark, next⟩ := link
      have hrest : ∀ link ∈ rest, '\r' ∉ link.2 := fun l hl => hrs l (List.mem_cons_of_mem _ hl)
      have hnext : '\r' ∉ next := hrs (mark, next) List.mem_cons_self
      have hmark : ∀ word ∈ mark.words, IsWord word.toList :=
        hwords (mark, next) List.mem_cons_self
      have hothers : ∀ link ∈ rest, ∀ word ∈ link.1.words, IsWord word.toList :=
        fun l hl => hwords l (List.mem_cons_of_mem _ hl)
      rw [sourceFrom_cons, trimLinks, tokensFrom_cons]
      cases mark with
      | place p =>
          simp only [wellSet, Bool.and_eq_true, decide_eq_true_eq] at h
          have ih := @ih false false next hnext hrest hothers h.2 (fun hf => hf)
          exact ih.place (hmark p.name List.mem_cons_self) h.1.1 h.1.2 lineStart
      | tag t =>
          simp only [wellSet, Bool.and_eq_true] at h
          obtain ⟨⟨⟨hclean, hblank⟩, hline⟩, hset⟩ := h
          have hdrop := wellSet_drop hline hnext hset
          rcases behind_cases hline hnext with ⟨rfl, rfl⟩ | ⟨next, rfl⟩
          · exact lexesTo_closeTag_end.tag hmark hclean hr hblank hstart
          · have ih := @ih true true next (fun hm => hnext (List.mem_cons_of_mem _ hm)) hrest
              hothers hdrop (fun _ => rfl)
            exact ih.closeTag.tag hmark hclean hr hblank hstart

/-! ## Sources -/

theorem isWord_of_keyword : ∀ word ∈ ["if", "else", "endif"], IsWord word.toList := by
  decide +kernel

/-- The words of marks are names and the keywords of tags. -/
theorem Named.words {links : Links} (h : Named (fun name => IsWord name.toList) links) :
    ∀ link ∈ links, ∀ word ∈ link.1.words, IsWord word.toList := by
  rintro ⟨mark, text⟩ hl word hw
  have hnames := h _ hl
  cases mark with
  | place p => exact hnames word hw
  | tag t =>
      cases t with
      | choose name =>
          rcases List.mem_cons.mp hw with rfl | hw
          · exact isWord_of_keyword _ (by decide)
          · exact hnames word hw
      | otherwise =>
          obtain rfl := List.mem_singleton.mp hw
          exact isWord_of_keyword _ (by decide)
      | done =>
          obtain rfl := List.mem_singleton.mp hw
          exact isWord_of_keyword _ (by decide)

/-- Names and delimiters have no line ends. -/
theorem Mark.return_not_mem {mark : Mark} (h : ∀ word ∈ mark.words, IsWord word.toList) :
    '\r' ∉ mark.source := by
  have hword {word : String} (hw : word ∈ mark.words) : '\r' ∉ word.toList := by
    intro hr
    have hnamed := (h word hw).named '\r' hr
    exact absurd hnamed (by decide)
  cases mark with
  | place p =>
      have hname : '\r' ∉ p.name.toList := hword List.mem_cons_self
      simp [Mark.source, Placeholder.source, hname]
  | tag t =>
      have hwords : '\r' ∉ t.words.flatMap (fun word => ' ' :: word.toList) := by
        intro hr
        obtain ⟨word, hw, hr⟩ := List.mem_flatMap.mp hr
        rcases List.mem_cons.mp hr with hr | hr
        · exact absurd hr (by decide)
        · exact hword hw hr
      simp only [Mark.source, Tag.source, List.mem_cons, List.mem_append, not_or]
      refine ⟨by decide, by decide, hwords, by decide⟩

/-- The tokens of a form whose names are words and whose marks are well set. -/
theorem Form.lex_source {f : Form} (hn : Named (fun name => IsWord name.toList) f.links)
    (set : wellSet true f.first.text f.links = true) :
    (lex (String.ofList f.source)).Holds
      (tokensFrom
        (cut false (tagFollows (normalizeLinks f.links)) (normalizeNewlines f.first.text))
        (trimLinks (normalizeLinks f.links))) := by
  have hreturn : ∀ link ∈ f.links, '\r' ∉ link.1.source :=
    fun link hl => Mark.return_not_mem (hn.words link hl)
  have hlinks : ∀ link ∈ normalizeLinks f.links,
      '\r' ∉ link.2 ∧ ∀ word ∈ link.1.words, IsWord word.toList := by
    intro link hl
    obtain ⟨old, hold, rfl⟩ := List.mem_map.mp hl
    exact ⟨not_mem_normalizeNewlines old.2, hn.words old hold⟩
  have hread := @lexesTo_sourceFrom true true _ _ (not_mem_normalizeNewlines f.first.text)
    (fun link hl => (hlinks link hl).1) (fun link hl => (hlinks link hl).2)
    (wellSet_normalize set) (fun h => h)
  rw [lex, String.toList_ofList, Form.source, normalizeNewlines_sourceFrom hreturn]
  exact hread _ 1 0 (Nat.lt_succ_self _)

end Scaffold.Template
