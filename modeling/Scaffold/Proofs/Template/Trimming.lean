import Scaffold.Proofs.Template.Newlines
import Scaffold.Proofs.Template.Reach
import Scaffold.Template.Token.Lexer

/-!
# Trimmed forms

A tag takes the line on which it stands out of the texts around it.  What the texts are then is
what the kept lines leave of them, between the same fields and conditions.
-/

namespace Scaffold.Template

open Text

/-! ## Texts -/

/-- A text up to its last line end. -/
def headLines (text : List Char) : List Char := text.take (text.length - (lastLine text).length)

theorem headLines_append (front : List Char) {back : List Char} (h : '\n' ∉ back) :
    lastLine (front ++ '\n' :: back) = back ∧
      headLines (front ++ '\n' :: back) = front ++ ['\n'] := by
  have hlast : lastLine (front ++ '\n' :: back) = back := by
    have hall : ∀ c ∈ back.reverse, decide (c ≠ '\n') = true := by
      intro c hc
      exact decide_eq_true (fun he => h (he ▸ List.mem_reverse.mp hc))
    rw [lastLine, List.reverse_append, List.reverse_cons, List.append_assoc,
      List.takeWhile_append_of_pos hall, List.singleton_append,
      List.takeWhile_cons_of_neg (by simp), List.append_nil, List.reverse_reverse]
  refine ⟨hlast, ?_⟩
  rw [headLines, hlast, List.append_cons, List.length_append, Nat.add_sub_cancel]
  exact List.take_left' rfl

theorem headLines_of_single {text : List Char} (h : '\n' ∉ text) :
    lastLine text = text ∧ headLines text = [] := by
  have hlast : lastLine text = text := by
    have hall : ∀ c ∈ text.reverse, decide (c ≠ '\n') = true := by
      intro c hc
      exact decide_eq_true (fun he => h (he ▸ List.mem_reverse.mp hc))
    have htake : (text.reverse ++ []).takeWhile (fun c => decide (c ≠ '\n')) =
        text.reverse ++ [].takeWhile _ := List.takeWhile_append_of_pos hall
    rw [List.append_nil, List.takeWhile_nil, List.append_nil] at htake
    rw [lastLine, htake, List.reverse_reverse]
  refine ⟨hlast, ?_⟩
  rw [headLines, hlast, Nat.sub_self, List.take_zero]

/-- A text is one line, or has a last line end with one line behind it. -/
theorem lastLine_cases (text : List Char) :
    '\n' ∉ text ∨ ∃ front back, '\n' ∉ back ∧ text = front ++ '\n' :: back := by
  induction text with
  | nil => exact Or.inl List.not_mem_nil
  | cons c rest ih =>
      rcases ih with h | ⟨front, back, hback, rfl⟩
      · by_cases hc : c = '\n'
        · exact Or.inr ⟨[], rest, h, by rw [hc, List.nil_append]⟩
        · refine Or.inl (fun hm => ?_)
          rcases List.mem_cons.mp hm with he | hm
          · exact hc he.symm
          · exact h hm
      · exact Or.inr ⟨c :: front, back, hback, rfl⟩

/-- A text between marks, without the line end after a tag and the indentation before one. -/
def cut (after before : Bool) (text : List Char) : List Char :=
  let text := if after then text.drop 1 else text
  if before then headLines text else text

/-! ## Links -/

def Mark.isTag : Mark → Bool
  | place _ => false
  | tag _ => true

/-- The next mark is a tag. -/
def tagFollows : Links → Bool
  | (mark, _) :: _ => mark.isTag
  | [] => false

/-- The texts as the tags around them leave them. -/
def trimLinks : Links → Links
  | [] => []
  | (mark, text) :: rest => (mark, cut mark.isTag (tagFollows rest) text) :: trimLinks rest

/-- What is come to in a text and in the links behind it: the texts and fields between the tags
that keep them, and the conditions. -/
def reachedFrom (data : FillData) (keep : Bool) (text : List Char) : Links → List Symbol
  | [] => if keep then text.map .char else []
  | (.place p, next) :: rest =>
      (if keep then text.map .char ++ [.place p.name] else []) ++ reachedFrom data keep next rest
  | (.tag t, next) :: rest =>
      (if keep then text.map .char else []) ++
        (t.tested ++ reachedFrom data (t.keeps data keep) next rest)

/-! ## Lines of symbols -/

/-- Symbols without tags. -/
def Plain (symbols : List Symbol) : Prop := ∀ s ∈ symbols, s.tag? = none

theorem plain_chars (text : List Char) : Plain (text.map .char) := by
  intro s hs
  obtain ⟨c, -, rfl⟩ := List.mem_map.mp hs
  rfl

theorem plain_append {front back : List Symbol} (hf : Plain front) (hb : Plain back) :
    Plain (front ++ back) := by
  intro s hs
  rcases List.mem_append.mp hs with h | h
  · exact hf s h
  · exact hb s h

theorem lines_cons_of_ne {s : Symbol} (h : s ≠ .char '\n') (rest : List Symbol) :
    lines (s :: rest) =
      match lines rest with
      | [] => [[s]]
      | line :: more => (s :: line) :: more := by
  exact lines.eq_3 s rest h

theorem flatten_lines (symbols : List Symbol) : (lines symbols).flatten = symbols := by
  fun_induction lines symbols with
  | case1 => rfl
  | case2 rest ih => rw [List.flatten_cons, ih, List.singleton_append]
  | case3 s rest _ h ih => simpa [h] using ih
  | case4 s rest _ line more h ih =>
      rw [h, List.flatten_cons] at ih
      rw [List.flatten_cons, List.cons_append, ih]

theorem lines_newline_append (front rest : List Symbol) :
    lines (front ++ .char '\n' :: rest) = lines (front ++ [.char '\n']) ++ lines rest := by
  induction front with
  | nil => rfl
  | cons s front ih =>
      by_cases h : s = .char '\n'
      · subst h
        rw [List.cons_append, List.cons_append, lines, lines, ih, List.cons_append]
      · rw [List.cons_append, List.cons_append, lines_cons_of_ne h, lines_cons_of_ne h, ih]
        cases hl : lines (front ++ [.char '\n']) with
        | nil =>
            have hf := flatten_lines (front ++ [.char '\n'])
            rw [hl] at hf
            exact absurd hf.symm (by simp)
        | cons line more => rfl

/-- Text without line ends, with a last symbol, is one line. -/
theorem lines_single {text : List Char} (h : '\n' ∉ text) {s : Symbol} (hs : s ≠ .char '\n')
    (rest : List Symbol) :
    lines (text.map .char ++ s :: rest) =
      match lines rest with
      | [] => [text.map .char ++ [s]]
      | line :: more => (text.map .char ++ s :: line) :: more := by
  induction text with
  | nil => exact lines_cons_of_ne hs rest
  | cons c text ih =>
      have hc : Symbol.char c ≠ .char '\n' := by
        intro he
        exact h (Symbol.char.inj he ▸ List.mem_cons_self)
      rw [List.map_cons, List.cons_append, lines_cons_of_ne hc,
        ih (fun hm => h (List.mem_cons_of_mem c hm))]
      cases lines rest <;> rfl

/-! ## Kept lines -/

variable (data : FillData) (keep : Bool)

/-- What is come to in symbols, line by line. -/
def reached (symbols : List Symbol) : List Symbol := reachedLines data keep (lines symbols)

theorem reachedLines_append {front : List (List Symbol)} (h : Plain front.flatten)
    (back : List (List Symbol)) :
    reachedLines data keep (front ++ back) =
      (if keep then front.flatten else []) ++ reachedLines data keep back := by
  induction front with
  | nil => cases keep <;> rfl
  | cons line front ih =>
      have hline : line.findSome? Symbol.tag? = none := by
        rw [List.findSome?_eq_none_iff]
        exact fun s hs => h s (List.mem_append_left _ hs)
      rw [List.cons_append, reachedLines, hline, ih (fun s hs => h s (List.mem_append_right _ hs))]
      cases keep with
      | false => rfl
      | true => exact (List.append_assoc ..).symm

theorem reached_plain {symbols : List Symbol} (h : Plain symbols) :
    reached data keep symbols = if keep then symbols else [] := by
  have hl := @reachedLines_append data keep (lines symbols) (by rw [flatten_lines]; exact h) []
  rw [List.append_nil, flatten_lines, reachedLines, List.append_nil] at hl
  exact hl

/-- Whole lines without tags are kept or dropped as such. -/
theorem reached_append {front : List Symbol} (h : Plain front)
    (whole : front = [] ∨ ∃ init, front = init ++ [.char '\n']) (back : List Symbol) :
    reached data keep (front ++ back) =
      (if keep then front else []) ++ reached data keep back := by
  rcases whole with rfl | ⟨init, rfl⟩
  · cases keep <;> rfl
  · rw [reached, List.append_assoc, List.singleton_append, lines_newline_append,
      reachedLines_append data keep (by rw [flatten_lines]; exact h), flatten_lines, reached]

theorem findTag {front : List Symbol} (h : Plain front) (t : Tag) (rest : List Symbol) :
    (front ++ .tag t :: rest).findSome? Symbol.tag? = some t := by
  rw [List.findSome?_append, List.findSome?_eq_none_iff.mpr h]
  rfl

/-- The line of a tag is dropped, and the tag says what happens to the lines behind it. -/
theorem reached_tag {indent : List Char} (h : '\n' ∉ indent) (t : Tag) (rest : List Symbol) :
    reached data keep (indent.map .char ++ .tag t :: .char '\n' :: rest) =
      t.tested ++ reached data (t.keeps data keep) rest := by
  rw [reached, lines_single h (by simp), lines]
  simp only [reachedLines, findTag (plain_chars indent)]
  rfl

theorem reached_tag_end {indent : List Char} (h : '\n' ∉ indent) (t : Tag) :
    reached data keep (indent.map .char ++ [.tag t]) = t.tested := by
  rw [reached, lines_single h (by simp), lines]
  simp only [reachedLines, findTag (plain_chars indent), List.append_nil]

/-! ## Blank lines -/

theorem eq_newline {c : Char} (h : isNewline c = true) (hr : c ≠ '\r') : c = '\n' := by
  simp only [isNewline, Bool.or_eq_true, decide_eq_true_eq] at h
  exact h.resolve_right hr

theorem blankAfter_append (blank : Bool) (front back : List Char) :
    blankAfter blank (front ++ back) = blankAfter (blankAfter blank front) back :=
  List.foldl_append ..

theorem blankAfter_cons (blank : Bool) (c : Char) (text : List Char) :
    blankAfter blank (c :: text) =
      blankAfter (isNewline c || blank && (c = ' ' || c = '\t')) text := rfl

/-- A text that leaves a line blank is one line only where the line was blank before. -/
theorem blankAfter_single {blank : Bool} {text : List Char} (hn : '\n' ∉ text) (hr : '\r' ∉ text)
    (h : blankAfter blank text = true) :
    blank = true ∧ ∀ c ∈ text, c = ' ' ∨ c = '\t' := by
  induction text generalizing blank with
  | nil => exact ⟨h, fun c hc => absurd hc List.not_mem_nil⟩
  | cons c text ih =>
      rw [List.mem_cons, not_or] at hn hr
      have hc : isNewline c = false := by
        simp [isNewline, Ne.symm hn.1, Ne.symm hr.1]
      rw [blankAfter_cons, hc, Bool.false_or] at h
      obtain ⟨hb, hrest⟩ := ih hn.2 hr.2 h
      rw [Bool.and_eq_true, Bool.or_eq_true, decide_eq_true_eq, decide_eq_true_eq] at hb
      refine ⟨hb.1, fun d hd => ?_⟩
      rcases List.mem_cons.mp hd with rfl | hd
      · exact hb.2
      · exact hrest d hd

/-- Where a tag may follow, the last line of a text is an indentation, and the lines before it are
whole. -/
theorem headLines_of_blank {blank : Bool} {text : List Char} (hr : '\r' ∉ text)
    (h : blankAfter blank text = true) :
    text = headLines text ++ lastLine text ∧ '\n' ∉ lastLine text ∧
      (∀ c ∈ lastLine text, c = ' ' ∨ c = '\t') ∧
      ((blank = true ∧ headLines text = []) ∨ ∃ front, headLines text = front ++ ['\n']) := by
  rcases lastLine_cases text with hn | ⟨front, back, hback, rfl⟩
  · obtain ⟨hlast, hhead⟩ := headLines_of_single hn
    obtain ⟨hb, hall⟩ := blankAfter_single hn hr h
    rw [hlast, hhead]
    exact ⟨rfl, hn, hall, Or.inl ⟨hb, rfl⟩⟩
  · obtain ⟨hlast, hhead⟩ := headLines_append front hback
    rw [List.mem_append, List.mem_cons, not_or, not_or] at hr
    rw [blankAfter_append, blankAfter_cons] at h
    obtain ⟨-, hall⟩ := blankAfter_single hback hr.2.2 h
    rw [hlast, hhead]
    refine ⟨?_, hback, hall, Or.inr ⟨front, rfl⟩⟩
    rw [List.append_assoc, List.singleton_append]

/-- Behind a tag a text begins with the line end that belongs to the tag, or is the last one. -/
theorem behind_cases {text : List Char} {links : Links} (start : startsLine text links = true)
    (hr : '\r' ∉ text) : (text = [] ∧ links = []) ∨ ∃ rest, text = '\n' :: rest := by
  cases text with
  | nil => exact Or.inl ⟨rfl, List.isEmpty_iff.mp start⟩
  | cons c text =>
      refine Or.inr ⟨text, ?_⟩
      rw [eq_newline start (fun hc => hr (hc ▸ List.mem_cons_self))]

/-- Without the line end of the tag a text behind it stands at the beginning of a line. -/
theorem wellSet_drop {blank : Bool} {text : List Char} {links : Links}
    (start : startsLine text links = true) (hr : '\r' ∉ text)
    (h : wellSet blank text links = true) : wellSet true (text.drop 1) links = true := by
  rcases behind_cases start hr with ⟨rfl, rfl⟩ | ⟨text, rfl⟩
  · rfl
  have hclean : isClean ('\n' :: text) = isClean text := by
    rw [isClean]
    simp
  have hlast : ∀ c, text.getLast? = some c → ('\n' :: text).getLast? = some c := by
    intro c hc
    rw [List.getLast?_cons, hc]
    rfl
  rw [List.drop_succ_cons, List.drop_zero]
  cases links with
  | nil =>
      rw [wellSet, hclean] at h
      exact h
  | cons link rest =>
      obtain ⟨mark, next⟩ := link
      cases mark with
      | place p =>
          simp only [wellSet, hclean, Bool.and_eq_true, decide_eq_true_eq] at h ⊢
          exact ⟨⟨h.1.1, fun hc => h.1.2 (hlast _ hc)⟩, h.2⟩
      | tag t =>
          simp only [wellSet, hclean, blankAfter_cons] at h ⊢
          exact h

/-! ## Trimmed texts -/

theorem symbolsFrom_cons (text : List Char) (mark : Mark) (next : List Char) (rest : Links) :
    symbolsFrom text ((mark, next) :: rest) =
      text.map .char ++ mark.symbol :: symbolsFrom next rest := by
  rw [symbolsFrom, List.flatMap_cons, List.cons_append]
  rfl

/-- The lines before that of a tag are kept or dropped as such. -/
theorem reached_before_tag {begun : List Symbol} {blank : Bool} {text : List Char}
    (plain : Plain begun) (hblank : blank = true → begun = []) (hr : '\r' ∉ text)
    (hb : blankAfter blank text = true) (rest : List Symbol) :
    reached data keep (begun ++ (text.map .char ++ rest)) =
      (if keep then begun ++ (headLines text).map .char else []) ++
        reached data keep ((lastLine text).map .char ++ rest) := by
  obtain ⟨hsplit, -, -, hwhole⟩ := headLines_of_blank hr hb
  have whole : begun ++ (headLines text).map Symbol.char = [] ∨
      ∃ init, begun ++ (headLines text).map Symbol.char = init ++ [.char '\n'] := by
    rcases hwhole with ⟨hblank', hnil⟩ | ⟨front, hfront⟩
    · rw [hblank hblank', hnil]
      exact Or.inl rfl
    · refine Or.inr ⟨begun ++ front.map .char, ?_⟩
      rw [hfront, List.map_append, List.append_assoc]
      rfl
  have hsymbols : begun ++ (text.map Symbol.char ++ rest) =
      (begun ++ (headLines text).map .char) ++ ((lastLine text).map .char ++ rest) := by
    rw [List.append_assoc, ← List.append_assoc (List.map _ _), ← List.map_append, ← hsplit]
  rw [hsymbols, reached_append data keep (plain_append plain (plain_chars _)) whole]

/-- The line of a tag is dropped with its end. -/
theorem reached_behind_tag {indent next : List Char} {rest : Links} (h : '\n' ∉ indent) (t : Tag)
    (start : startsLine next rest = true) (hr : '\r' ∉ next) :
    reached data keep (indent.map .char ++ .tag t :: symbolsFrom next rest) =
      t.tested ++ reached data (t.keeps data keep) (symbolsFrom (next.drop 1) rest) := by
  rcases behind_cases start hr with ⟨rfl, rfl⟩ | ⟨next, rfl⟩
  · exact (reached_tag_end data keep h t).trans (List.append_nil _).symm
  · exact reached_tag data keep h t (symbolsFrom next rest)

/-- Line by line one comes to the trimmed texts and to the fields and conditions between them.
The symbols of the begun line come first; where a tag may follow there are none. -/
theorem reached_symbolsFrom (begun : List Symbol) {blank : Bool} {text : List Char} {links : Links}
    (plain : Plain begun) (hblank : blank = true → begun = [])
    (hr : '\r' ∉ text) (hrs : ∀ link ∈ links, '\r' ∉ link.2)
    (h : wellSet blank text links = true) :
    reached data keep (begun ++ symbolsFrom text links) =
      (if keep then begun else []) ++
        reachedFrom data keep (cut false (tagFollows links) text) (trimLinks links) := by
  induction links generalizing begun blank text keep with
  | nil =>
      have hs : symbolsFrom text [] = text.map .char := List.append_nil _
      rw [hs, reached_plain data keep (plain_append plain (plain_chars text))]
      cases keep <;> rfl
  | cons link rest ih =>
      obtain ⟨mark, next⟩ := link
      have hrest : ∀ link ∈ rest, '\r' ∉ link.2 := fun l hl => hrs l (List.mem_cons_of_mem _ hl)
      have hnext : '\r' ∉ next := hrs (mark, next) List.mem_cons_self
      rw [symbolsFrom_cons]
      cases mark with
      | place p =>
          simp only [wellSet, Bool.and_eq_true] at h
          have hplain : Plain (begun ++ (text.map .char ++ [.place p.name])) := by
            refine plain_append plain (plain_append (plain_chars text) ?_)
            intro s hs
            rw [List.mem_singleton.mp hs]
            rfl
          have ih := ih keep (begun ++ (text.map .char ++ [.place p.name])) hplain
            (fun hf => absurd hf (by simp)) hnext hrest h.2
          rw [List.append_assoc, List.append_assoc, List.singleton_append] at ih
          rw [Mark.symbol, ih]
          cases keep with
          | false => rfl
          | true => exact List.append_assoc ..
      | tag t =>
          simp only [wellSet, Bool.and_eq_true] at h
          obtain ⟨⟨⟨-, hb⟩, start⟩, hset⟩ := h
          obtain ⟨-, hindent, -⟩ := headLines_of_blank hr hb
          have ih := ih (t.keeps data keep) [] (fun s hs => absurd hs List.not_mem_nil)
            (fun _ => rfl) (fun hm => hnext (List.mem_of_mem_drop hm)) hrest
            (wellSet_drop start hnext hset)
          rw [List.nil_append, ite_self, List.nil_append] at ih
          rw [Mark.symbol, reached_before_tag data keep plain hblank hr hb,
            reached_behind_tag data keep hindent t start hnext, ih]
          cases keep with
          | false => rfl
          | true => exact List.append_assoc ..

theorem Form.reached_eq {f : Form} (set : wellSet true f.first.text f.links = true) :
    f.reached data =
      reachedFrom data true
        (cut false (tagFollows (normalizeLinks f.links)) (normalizeNewlines f.first.text))
        (trimLinks (normalizeLinks f.links)) := by
  have hlinks : ∀ link ∈ normalizeLinks f.links, '\r' ∉ link.2 := by
    intro link hl
    obtain ⟨old, -, rfl⟩ := List.mem_map.mp hl
    exact not_mem_normalizeNewlines old.2
  exact reached_symbolsFrom data true [] (fun s hs => absurd hs List.not_mem_nil) (fun _ => rfl)
    (not_mem_normalizeNewlines f.first.text) hlinks (wellSet_normalize set)

/-! ## Names that are come to -/

theorem mem_of_mem_reachedLines {lines : List (List Symbol)} {s : Symbol}
    (h : s ∈ reachedLines data keep lines) : s ∈ lines.flatten := by
  induction lines generalizing keep with
  | nil => exact h
  | cons line rest ih =>
      rw [List.flatten_cons, List.mem_append]
      cases htag : line.findSome? Symbol.tag? with
      | none =>
          simp only [reachedLines, htag] at h
          rcases List.mem_append.mp h with h | h
          · cases keep with
            | false => cases h
            | true => exact Or.inl h
          · exact Or.inr (ih keep h)
      | some t =>
          simp only [reachedLines, htag] at h
          rcases List.mem_append.mp h with h | h
          · obtain ⟨found, hfound, hsome⟩ := List.exists_of_findSome?_eq_some htag
            cases found <;> cases hsome
            cases t with
            | choose name =>
                rw [List.mem_singleton.mp h]
                exact Or.inl hfound
            | otherwise => cases h
            | done => cases h
          · exact Or.inr (ih _ h)

theorem Mark.names_of_unknown {mark : Mark} {name : String}
    (h : mark.symbol.unknown? = some name) :
    name ∈ mark.names ∧ name ∉ FillData.fieldNames := by
  have hnamed : ∀ own : String,
      (if own ∈ FillData.fieldNames then none else some own) = some name →
      name ∈ [own] ∧ name ∉ FillData.fieldNames := by
    intro own hown
    split at hown
    · cases hown
    · next hf =>
        cases hown
        exact ⟨List.mem_cons_self, hf⟩
  cases mark with
  | place p => exact hnamed p.name h
  | tag t =>
      cases t with
      | choose own => exact hnamed own h
      | otherwise => cases h
      | done => cases h

/-- The first unknown name that a form comes to is a name of the form. -/
theorem Form.exists_of_firstUnknown? {f : Form} {name : String}
    (h : firstUnknown? (f.reached data) = some name) :
    ∃ link ∈ f.links, name ∈ link.1.names ∧ name ∉ FillData.fieldNames := by
  obtain ⟨s, hs, hname⟩ := List.exists_of_findSome?_eq_some h
  have hmem : s ∈ f.symbols := by
    rw [← flatten_lines f.symbols]
    exact mem_of_mem_reachedLines data true hs
  have hchars : ∀ text : List Char, s ∉ text.map Symbol.char := by
    intro text hc
    obtain ⟨c, -, rfl⟩ := List.mem_map.mp hc
    cases hname
  obtain ⟨link, hlink, hmem⟩ :=
    List.mem_flatMap.mp ((List.mem_append.mp hmem).resolve_left (hchars _))
  obtain ⟨old, hold, rfl⟩ := List.mem_map.mp hlink
  rcases List.mem_cons.mp hmem with rfl | hmem
  · exact ⟨old, hold, Mark.names_of_unknown hname⟩
  · exact absurd hmem (hchars _)

/-- A documented template comes to no unknown name. -/
theorem Form.WellFormed.firstUnknown? {f : Form} (wf : f.WellFormed) :
    firstUnknown? (f.reached data) = none := by
  refine Option.eq_none_iff_forall_ne_some.mpr (fun name h => ?_)
  obtain ⟨link, hl, hn, hf⟩ := Form.exists_of_firstUnknown? data h
  exact hf (wf.known link hl name hn)

end Scaffold.Template
