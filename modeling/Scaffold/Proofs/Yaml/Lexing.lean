import Scaffold.Proofs.Yaml.Quoted
import Scaffold.Yaml.Token.Lexer

/-!
# Lines of a flat mapping

A line holds a key and, behind a colon, a text in double quotes.  The tokens of such lines are those
of one block mapping, whatever the texts look like.
-/

namespace Scaffold.Yaml

open Quoted

/-- A line of a flat mapping. -/
structure Line where
  key : List Char
  text : List Char

namespace Line

/-- Letters in lower case, and the low line. -/
def isKeyChar (c : Char) : Bool := ('a' ≤ c && c ≤ 'z') || c = '_'

/-- The line can be read back. -/
structure Legible (line : Line) : Prop where
  filled : line.key ≠ []
  plain : ∀ c ∈ line.key, isKeyChar c = true
  short : line.key.length ≤ keyLimit
  printable : ∀ c ∈ line.text, IsPrintable c

/-- What stands behind the key. -/
def behindKey (line : Line) : List Char := ':' :: ' ' :: '"' :: (inside line.text ++ ['"'])

def source (line : Line) : List Char := line.key ++ line.behindKey

/-- The tokens of a line, without those that begin and end the mapping. -/
def tokens (line : Line) : List Token :=
  [.key, .scalar true line.key, .value, .scalar false line.text]

theorem keyChar_forall {P : Char → Prop}
    (h : ∀ code < 128, isKeyChar (Char.ofNat code) = true → P (Char.ofNat code)) {c : Char}
    (hc : isKeyChar c = true) : P c := by
  have ascii : c.toNat < 128 := by
    have small : c.toNat ≤ 'z'.toNat := by
      simp only [isKeyChar, Bool.or_eq_true, Bool.and_eq_true, decide_eq_true_eq] at hc
      rcases hc with hc | rfl
      · exact hc.2
      · decide
    exact Nat.lt_of_le_of_lt small (by decide)
  exact Text.ascii_forall (P := fun c => isKeyChar c = true → P c) h ascii hc

end Line

open Line

/-! ## Places -/

theorem Place.after_keyChar {c : Char} (h : isKeyChar c = true) (p : Place) :
    p.after c = ⟨p.index + 1, p.line, p.column + 1⟩ := by
  have plain : isBreak c = false ∧ c ≠ byteOrderMark :=
    keyChar_forall (P := fun c => isBreak c = false ∧ c ≠ byteOrderMark) (by decide +kernel) h
  rw [after, if_neg (by simp [plain.1]), if_neg plain.2]

theorem Place.after_key {key : List Char} (h : ∀ c ∈ key, isKeyChar c = true) (p : Place) :
    key.foldl Place.after p = ⟨p.index + key.length, p.line, p.column + key.length⟩ := by
  induction key generalizing p with
  | nil => rfl
  | cons c rest ih =>
      obtain ⟨hc, hrest⟩ := List.forall_mem_cons.mp h
      rw [List.foldl_cons, after_keyChar hc, ih hrest, List.length_cons]
      simp only [Place.mk.injEq, true_and]
      omega

namespace Lexer

theorem moveTo_append (l : Lexer) {front back : List Char} (h : l.rest = front ++ back) :
    l.moveTo back = { l with rest := back, place := front.foldl Place.after l.place } := by
  unfold moveTo
  simp [h]

theorem moveTo_self (l : Lexer) : l.moveTo l.rest = l := by
  rw [moveTo_append l (List.nil_append _).symm]
  rfl

/-! ## Between tokens -/

/-- A character that is not passed over between tokens. -/
def Stops (c : Char) : Prop := c ≠ ' ' ∧ c ≠ '#' ∧ isBreak c = false ∧ c ≠ byteOrderMark

theorem stops_keyChar {c : Char} (h : isKeyChar c = true) : Stops c :=
  keyChar_forall (P := Stops) (by unfold Stops; decide +kernel) h

theorem dropComment_stops {c : Char} (stops : Stops c) (after : List Char) :
    dropComment (c :: after) = c :: after := by
  have spaces : dropSpaces (c :: after) = c :: after :=
    List.dropWhile_cons_of_neg (by simpa using stops.1)
  simp [dropComment, spaces, stops.2.1]

theorem toNext_stops {l : Lexer} {c : Char} {after : List Char} (rest : l.rest = c :: after)
    (stops : Stops c) (n : Nat) : toNext (n + 1) l = l := by
  rw [toNext]
  simp only [rest, dropComment_stops stops, stops.2.2.1]
  rw [← rest]
  exact l.moveTo_self

theorem dropStale_fresh {l : Lexer} (outer : l.outer = [])
    (fresh : ∀ c ∈ l.candidate, c.isStale l.place = false) : l.dropStale = .ok l := by
  obtain ⟨rest, place, blocks, keyAllowed, candidate, outer, tokens⟩ := l
  cases outer
  cases candidate with
  | none => rfl
  | some c =>
      have fresh : c.isStale place = false := fresh c rfl
      simp only [dropStale, refresh, fresh]
      rfl

/-- Collections that begin in the first column stay open. -/
theorem closeBlocks_first {l : Lexer} (first : ∀ block ∈ l.blocks, block = 0) (column : Nat) :
    l.closeBlocks column = l := by
  have none : l.blocks.takeWhile (column < ·) = [] ∧
      l.blocks.dropWhile (column < ·) = l.blocks := by
    cases blocks : l.blocks with
    | nil => exact ⟨rfl, rfl⟩
    | cons block rest =>
        obtain rfl := first block (blocks ▸ List.mem_cons_self)
        exact ⟨rfl, rfl⟩
  unfold closeBlocks
  split
  · rfl
  · simp [none]

/-- A lexer outside of brackets with no collection but one in the first column. -/
structure Shallow (l : Lexer) : Prop where
  outer : l.outer = []
  first : ∀ block ∈ l.blocks, block = 0
  fresh : ∀ c ∈ l.candidate, c.isStale l.place = false

theorem approach_of_toNext {l next : Lexer} (mark : l.rest.head? ≠ some byteOrderMark)
    (passed : toNext (l.rest.length + 1) l = next) (shallow : Shallow next) :
    l.approach = .ok next := by
  have unmarked : l.dropMark = l := by
    unfold dropMark
    simp [mark]
  rw [approach, unmarked, passed, dropStale_fresh shallow.outer shallow.fresh]
  change Except.ok (next.closeBlocks next.place.column) = _
  rw [closeBlocks_first shallow.first]

theorem approach_stops {l : Lexer} {c : Char} {after : List Char} (rest : l.rest = c :: after)
    (stops : Stops c) (shallow : Shallow l) : l.approach = .ok l := by
  have mark : l.rest.head? ≠ some byteOrderMark := by
    simpa [rest] using stops.2.2.2
  exact approach_of_toNext mark (toNext_stops rest stops _) shallow

theorem run_succ {l next : Lexer} {c : Char} {after : List Char} (n : Nat)
    (token : l.token c after = .ok next) {before : Lexer} (approach : before.approach = .ok l)
    (rest : l.rest = c :: after) : run (n + 1) before = run n next := by
  rw [run, approach]
  simp only [rest, token]

/-! ## Keys -/

/-- A key goes on to its colon. -/
theorem word_key {key : List Char} (plain : ∀ c ∈ key, isKeyChar c = true) (after : List Char) :
    Plain.word false (key ++ ':' :: ' ' :: after) = (key, ':' :: ' ' :: after) := by
  induction key with
  | nil => rfl
  | cons c key ih =>
      obtain ⟨hc, hkey⟩ := List.forall_mem_cons.mp plain
      have inWord : isSpaceOrTab c = false ∧ isBreak c = false ∧ c ≠ ':' :=
        keyChar_forall (P := fun c => isSpaceOrTab c = false ∧ isBreak c = false ∧ c ≠ ':')
          (by decide +kernel) hc
      rw [List.cons_append, Plain.word]
      simp [inWord, ih hkey]

theorem read_key {key : List Char} (filled : key ≠ []) (plain : ∀ c ∈ key, isKeyChar c = true)
    (margin : Nat) (after : List Char) :
    Plain.read false margin (key ++ ':' :: ' ' :: after) = ⟨key, false, ':' :: ' ' :: after⟩ := by
  obtain ⟨c, rest, rfl⟩ := List.exists_cons_of_ne_nil filled
  rw [Plain.read, List.cons_append, List.length_cons, Plain.words, ← List.cons_append,
    word_key plain]
  rfl

/-- A letter begins a plain scalar. -/
theorem token_keyChar {c : Char} (h : isKeyChar c = true) {l : Lexer} {after : List Char}
    (rest : l.rest = c :: after) : l.token c after = l.plain := by
  have signs : "%-.[\x7b]\x7d,?:*&!|>'\"".toList.contains c = false :=
    keyChar_forall (P := fun c => "%-.[\x7b]\x7d,?:*&!|>'\"".toList.contains c = false)
      (by decide +kernel) h
  have starts : startsPlain l.flow l.rest = true := by
    have letter : (isSpaceOrTab c || isBreak c || isIndicator c) = false :=
      keyChar_forall (P := fun c => (isSpaceOrTab c || isBreak c || isIndicator c) = false)
        (by decide +kernel) h
    rw [rest, startsPlain, letter]
    rfl
  simp at signs
  simp [token, signs, starts]

/-! ## Lines -/

/-- The lexer in front of a line, with the mapping open or not. -/
structure AtLine (line : Line) (behind : List Char) (l : Lexer) : Prop where
  rest : l.rest = line.source ++ behind
  column : l.place.column = 0
  allowed : l.keyAllowed = true
  candidate : l.candidate = none
  outer : l.outer = []
  blocks : l.blocks = [] ∨ l.blocks = [0]

/-- The lexer behind a line of the open mapping. -/
structure BehindLine (rest : List Char) (l : Lexer) : Prop where
  rest : l.rest = rest
  candidate : l.candidate = none
  outer : l.outer = []
  blocks : l.blocks = [0]

/-- The token that begins the mapping, unless it is open. -/
def opening (blocks : List Nat) : List Token := if blocks = [] then [.blockMappingStart] else []

/-- The lexer at the colon behind the key. -/
structure AtColon (line : Line) (behind : List Char) (blocks : List Nat) (tokens : List Token)
    (l : Lexer) : Prop where
  rest : l.rest = line.behindKey ++ behind
  candidate : ∃ required place, l.candidate = some ⟨tokens.length, required, place⟩ ∧
    place.column = 0 ∧ place.line = l.place.line ∧ l.place.index = place.index + line.key.length
  outer : l.outer = []
  blocks : l.blocks = blocks
  tokens : l.tokens = .scalar true line.key :: tokens

variable {line : Line} {behind : List Char} {l : Lexer}

theorem AtLine.shallow (at_ : AtLine line behind l) : Shallow l where
  outer := at_.outer
  first := by rcases at_.blocks with h | h <;> simp [h]
  fresh := by simp [at_.candidate]

theorem AtLine.offered (at_ : AtLine line behind l) :
    ∃ required, l.offered = .ok { l with
      keyAllowed := false
      candidate := some ⟨l.tokens.length, required, l.place⟩ } := by
  obtain ⟨rest, place, blocks, keyAllowed, candidate, outer, tokens⟩ := l
  obtain rfl : keyAllowed = true := at_.allowed
  obtain rfl : candidate = none := at_.candidate
  exact ⟨_, rfl⟩

theorem plain_of_offered {next : Lexer} {text rest : List Char} (offered : l.offered = .ok next)
    (read : Plain.read next.flow next.margin next.rest = ⟨text, false, rest⟩) :
    l.plain = .ok (((next.moveTo rest).emit (.scalar true text)).allowKey false) := by
  rw [plain, offered]
  simp only [bind, Except.bind, read]
  rfl

theorem AtLine.plain (legible : line.Legible) (at_ : AtLine line behind l) :
    ∃ next, l.plain = .ok next ∧ AtColon line behind l.blocks l.tokens next := by
  obtain ⟨required, offered⟩ := at_.offered
  have passed : l.rest = line.key ++ (line.behindKey ++ behind) := by
    rw [at_.rest, source, List.append_assoc]
  have outside : l.flow = false := by simp [flow, at_.outer]
  have read : Plain.read l.flow l.margin l.rest =
      ⟨line.key, false, line.behindKey ++ behind⟩ := by
    rw [outside, passed]
    exact read_key legible.filled legible.plain l.margin _
  refine ⟨_, plain_of_offered offered read, ?_⟩
  have moved := moveTo_append { l with
    keyAllowed := false
    candidate := some ⟨l.tokens.length, required, l.place⟩ } passed
  rw [moved, Place.after_key legible.plain]
  exact {
    rest := rfl
    candidate := ⟨required, l.place, rfl, at_.column, rfl, rfl⟩
    outer := at_.outer
    blocks := rfl
    tokens := rfl }

theorem AtLine.reads_key (legible : line.Legible) (at_ : AtLine line behind l) (n : Nat) :
    ∃ next, run (n + 1) l = run n next ∧ AtColon line behind l.blocks l.tokens next := by
  obtain ⟨c, key, hkey⟩ := List.exists_cons_of_ne_nil legible.filled
  have letter : isKeyChar c = true := legible.plain c (by simp [hkey])
  have rest : l.rest = c :: (key ++ line.behindKey ++ behind) := by
    rw [at_.rest, source, hkey]
    simp
  obtain ⟨next, plain, atColon⟩ := at_.plain legible
  have token := (token_keyChar letter rest).trans plain
  have approach := approach_stops rest (stops_keyChar letter) at_.shallow
  exact ⟨next, run_succ n token approach rest, atColon⟩

/-! ## Values -/

theorem AtColon.shallow {blocks : List Nat} {tokens : List Token} (legible : line.Legible)
    (open_ : blocks = [] ∨ blocks = [0]) (colon : AtColon line behind blocks tokens l) :
    Shallow l where
  outer := colon.outer
  first := by
    rw [colon.blocks]
    rcases open_ with rfl | rfl <;> simp
  fresh := by
    obtain ⟨required, place, candidate, -, hline, hindex⟩ := colon.candidate
    have short := legible.short
    simp [candidate, Candidate.isStale, hline, hindex]
    omega

theorem token_colon {after : List Char} (gap : atGap after = true) :
    l.token ':' after = l.value := by
  simp [token, gap]

/-- The lexer in front of a text in quotes. -/
structure AtText (line : Line) (behind : List Char) (l : Lexer) : Prop where
  rest : l.rest = ' ' :: '"' :: (inside line.text ++ '"' :: behind)
  allowed : l.keyAllowed = false
  candidate : l.candidate = none
  outer : l.outer = []
  blocks : l.blocks = [0]

/-- The first key opens the mapping, to which the later ones belong. -/
theorem acceptKey_first {t : Token} {tokens : List Token} (required : Bool) {place : Place}
    (outer : l.outer = []) (open_ : l.blocks = [] ∨ l.blocks = [0])
    (column : place.column = 0) (h : l.tokens = t :: tokens) :
    l.acceptKey ⟨tokens.length, required, place⟩ = { l with
      blocks := [0]
      keyAllowed := false
      candidate := none
      tokens := t :: .key :: (opening l.blocks ++ tokens) } := by
  obtain ⟨rest, here, blocks, keyAllowed, candidate, outer', tokens'⟩ := l
  obtain rfl : outer' = [] := outer
  obtain rfl : tokens' = t :: tokens := h
  obtain ⟨index, number, column'⟩ := place
  obtain rfl : column' = 0 := column
  rcases open_ with h | h
  · obtain rfl : blocks = [] := h
    simp [acceptKey, flow, openBlock?, margin, insert, allowKey, opening]
  · obtain rfl : blocks = [0] := h
    simp [acceptKey, flow, openBlock?, margin, insert, allowKey, opening]

theorem AtColon.value {blocks : List Nat} {tokens : List Token}
    (open_ : blocks = [] ∨ blocks = [0]) (colon : AtColon line behind blocks tokens l) :
    ∃ next, l.value = .ok next ∧ AtText line behind next ∧
      next.tokens = .value :: .scalar true line.key :: .key :: (opening blocks ++ tokens) := by
  obtain ⟨required, place, candidate, column, -, -⟩ := colon.candidate
  have open_ : l.blocks = [] ∨ l.blocks = [0] := colon.blocks ▸ open_
  have accepted := acceptKey_first required colon.outer open_ column colon.tokens
  refine ⟨((l.acceptKey ⟨tokens.length, required, place⟩).skip 1).emit .value, ?_, ?_⟩
  · simp only [Lexer.value, candidate]
    rfl
  · rw [accepted]
    refine ⟨⟨?_, rfl, rfl, colon.outer, rfl⟩, ?_⟩
    · change l.rest.drop 1 = _
      rw [colon.rest, behindKey]
      simp
    · rw [colon.blocks]
      rfl

theorem AtColon.reads_colon {blocks : List Nat} {tokens : List Token} (legible : line.Legible)
    (open_ : blocks = [] ∨ blocks = [0]) (colon : AtColon line behind blocks tokens l) (n : Nat) :
    ∃ next, run (n + 1) l = run n next ∧ AtText line behind next ∧
      next.tokens = .value :: .scalar true line.key :: .key :: (opening blocks ++ tokens) := by
  have shallow := colon.shallow legible open_
  have rest : l.rest = ':' :: ' ' :: '"' :: (inside line.text ++ '"' :: behind) := by
    rw [colon.rest, behindKey]
    simp
  have approach := approach_stops rest (by unfold Stops; decide) shallow
  have token : l.token ':' (' ' :: '"' :: (inside line.text ++ '"' :: behind)) = l.value :=
    token_colon rfl
  obtain ⟨next, value, atText⟩ := colon.value open_
  exact ⟨next, run_succ n (token.trans value) approach rest, atText⟩

/-! ## Texts -/

theorem AtText.approach (atText : AtText line behind l) :
    ∃ next, l.approach = .ok next ∧ next.rest = '"' :: (inside line.text ++ '"' :: behind) ∧
      next.keyAllowed = false ∧ next.candidate = none ∧ next.outer = [] ∧ next.blocks = [0] ∧
      next.tokens = l.tokens := by
  have passed : toNext (l.rest.length + 1) l =
      l.moveTo ('"' :: (inside line.text ++ '"' :: behind)) := by
    rw [toNext]
    simp only [atText.rest]
    rfl
  have shallow : Shallow (l.moveTo ('"' :: (inside line.text ++ '"' :: behind))) := {
    outer := atText.outer
    first := by
      change ∀ block ∈ l.blocks, block = 0
      simp [atText.blocks]
    fresh := by
      change ∀ c ∈ l.candidate, _
      simp [atText.candidate] }
  have mark : l.rest.head? ≠ some byteOrderMark := by
    simp [atText.rest, byteOrderMark]
  exact ⟨_, approach_of_toNext mark passed shallow, rfl, atText.allowed, atText.candidate,
    atText.outer, atText.blocks, rfl⟩

theorem token_quote {after : List Char} : l.token '"' after = l.quoted .double := by
  simp [token]

theorem AtText.reads_text (legible : line.Legible) (atText : AtText line behind l) (n : Nat) :
    ∃ next, run (n + 1) l = run n next ∧ BehindLine behind next ∧
      next.tokens = .scalar false line.text :: l.tokens := by
  obtain ⟨mid, approach, rest, allowed, candidate, outer, blocks, tokens⟩ := atText.approach
  have offered : mid.offered = .ok mid := by
    obtain ⟨_, _, _, keyAllowed, _, _, _⟩ := mid
    obtain rfl : keyAllowed = false := allowed
    rfl
  have quoted : mid.quoted .double = .ok ((mid.moveTo behind).emit (.scalar false line.text)) := by
    rw [Lexer.quoted, offered]
    change (Quoted.read .double (mid.rest.drop 1) >>= _) = _
    rw [rest, List.drop_one, List.tail_cons, read_inside legible.printable]
    rfl
  have behindLine : BehindLine behind ((mid.moveTo behind).emit (.scalar false line.text)) :=
    ⟨rfl, candidate, outer, blocks⟩
  exact ⟨_, run_succ n (token_quote.trans quoted) approach rest, behindLine,
    congrArg (_ :: ·) tokens⟩

/-! ## Texts of lines -/

theorem AtLine.reads_line (legible : line.Legible) (at_ : AtLine line behind l) (n : Nat) :
    ∃ next, run (n + 3) l = run n next ∧ BehindLine behind next ∧
      next.tokens = line.tokens.reverse ++ (opening l.blocks ++ l.tokens) := by
  obtain ⟨atColon, toColon, colon⟩ := at_.reads_key legible (n + 2)
  obtain ⟨atText, toText, text, read⟩ := colon.reads_colon legible at_.blocks (n + 1)
  obtain ⟨next, toNext, behindLine, tokens⟩ := text.reads_text legible n
  refine ⟨next, toColon.trans (toText.trans toNext), behindLine, ?_⟩
  rw [tokens, read]
  rfl

theorem AtLine.starts (legible : line.Legible) (at_ : AtLine line behind l) :
    ∃ c after, l.rest = c :: after ∧ Stops c := by
  obtain ⟨c, key, hkey⟩ := List.exists_cons_of_ne_nil legible.filled
  refine ⟨c, key ++ line.behindKey ++ behind, ?_, stops_keyChar (legible.plain c (by simp [hkey]))⟩
  rw [at_.rest, source, hkey]
  simp

theorem toNext_newline {after : List Char} (rest : l.rest = '\n' :: after) (n : Nat) :
    toNext (n + 1) l = toNext n ((l.moveTo after).allowKey (l.keyAllowed || !l.flow)) := by
  rw [toNext]
  simp only [rest]
  rfl

/-- The next line begins behind the line end. -/
theorem BehindLine.approach (legible : line.Legible)
    (behindLine : BehindLine ('\n' :: (line.source ++ behind)) l) :
    ∃ next, l.approach = .ok next ∧ AtLine line behind next ∧ next.blocks = [0] ∧
      next.tokens = l.tokens := by
  let next := (l.moveTo (line.source ++ behind)).allowKey true
  have passed : l.rest = ['\n'] ++ (line.source ++ behind) := behindLine.rest
  have atLine : AtLine line behind next := {
    rest := rfl
    column := by
      change ((l.moveTo (line.source ++ behind)).place).column = 0
      rw [moveTo_append l passed]
      rfl
    allowed := rfl
    candidate := behindLine.candidate
    outer := behindLine.outer
    blocks := Or.inr behindLine.blocks }
  obtain ⟨c, after, rest, stops⟩ := atLine.starts legible
  have found : toNext (l.rest.length + 1) l = next := by
    have outside : (l.keyAllowed || !l.flow) = true := by simp [flow, behindLine.outer]
    rw [toNext_newline behindLine.rest, outside, behindLine.rest]
    exact toNext_stops rest stops _
  have mark : l.rest.head? ≠ some byteOrderMark := by
    simp [behindLine.rest, byteOrderMark]
  exact ⟨next, approach_of_toNext mark found atLine.shallow, atLine, behindLine.blocks, rfl⟩

theorem run_of_approach {l l' next : Lexer} (h : l.approach = .ok next)
    (h' : l'.approach = .ok next) (n : Nat) : run (n + 1) l = run (n + 1) l' := by
  rw [run, run, h, h']

theorem BehindLine.shallow {rest : List Char} (behindLine : BehindLine rest l) : Shallow l where
  outer := behindLine.outer
  first := by simp [behindLine.blocks]
  fresh := by simp [behindLine.candidate]

/-- Behind the last line nothing is left. -/
theorem BehindLine.approach_end {ending : List Char} (ends : ending = [] ∨ ending = ['\n'])
    (behindLine : BehindLine ending l) :
    ∃ next, l.approach = .ok next ∧ BehindLine [] next ∧ next.tokens = l.tokens := by
  obtain ⟨next, found, last, tokens⟩ : ∃ next, toNext (l.rest.length + 1) l = next ∧
      BehindLine [] next ∧ next.tokens = l.tokens := by
    rcases ends with rfl | rfl
    · refine ⟨l, ?_, behindLine, rfl⟩
      have nothing : l.rest = [] := behindLine.rest
      rw [toNext]
      simp only [nothing]
      change l.moveTo [] = l
      rw [← nothing]
      exact l.moveTo_self
    · refine ⟨_, toNext_newline behindLine.rest _, ?_⟩
      rw [behindLine.rest]
      exact ⟨⟨rfl, behindLine.candidate, behindLine.outer, behindLine.blocks⟩, rfl⟩
  have mark : l.rest.head? ≠ some byteOrderMark := by
    rw [behindLine.rest]
    rcases ends with rfl | rfl <;> decide
  exact ⟨next, approach_of_toNext mark found last.shallow, last, tokens⟩

/-- At the end of the text the mapping is closed. -/
theorem BehindLine.run_end {ending : List Char} (ends : ending = [] ∨ ending = ['\n'])
    (behindLine : BehindLine ending l) (n : Nat) :
    run (n + 1) l = l.tokens.reverse ++ [.blockEnd, .streamEnd] := by
  obtain ⟨next, approach, last, tokens⟩ := behindLine.approach_end ends
  have left : next.leave = .ok { next with
      blocks := []
      keyAllowed := false
      tokens := .blockEnd :: next.tokens } := by
    obtain ⟨_, _, blocks, _, candidate, outer, _⟩ := next
    obtain rfl : candidate = none := last.candidate
    obtain rfl : outer = [] := last.outer
    obtain rfl : blocks = [0] := last.blocks
    rfl
  rw [run, approach]
  simp only [last.rest, left, tokens]
  simp

/-- The lines that follow a line, with what stands at the end. -/
def behindLines (ending : List Char) (lines : List Line) : List Char :=
  lines.flatMap (fun line => '\n' :: line.source) ++ ending

/-- Three steps for each line, and one for the end. -/
theorem BehindLine.run_lines {ending : List Char} (ends : ending = [] ∨ ending = ['\n'])
    {lines : List Line} (legible : ∀ line ∈ lines, line.Legible)
    (behindLine : BehindLine (behindLines ending lines) l) {n : Nat}
    (enough : 3 * lines.length < n) :
    run n l = l.tokens.reverse ++ (lines.flatMap Line.tokens ++ [.blockEnd, .streamEnd]) := by
  induction lines generalizing l n with
  | nil =>
      obtain ⟨n, rfl⟩ := Nat.exists_eq_add_of_lt enough
      exact behindLine.run_end ends _
  | cons line rest ih =>
      obtain ⟨hline, hrest⟩ := List.forall_mem_cons.mp legible
      have split : behindLines ending (line :: rest) =
          '\n' :: (line.source ++ behindLines ending rest) := by
        simp [behindLines]
      rw [split] at behindLine
      obtain ⟨next, approach, atLine, blocks, tokens⟩ := behindLine.approach hline
      obtain ⟨last, run, behindNext, read⟩ := atLine.reads_line hline (n - 3)
      obtain ⟨c, after, starts, stops⟩ := atLine.starts hline
      have steps : n = n - 3 + 2 + 1 := by
        rw [List.length_cons] at enough
        omega
      have later := ih hrest behindNext (n := n - 3) (by rw [List.length_cons] at enough; omega)
      rw [steps, run_of_approach approach (approach_stops starts stops atLine.shallow), run, later,
        read, blocks, tokens]
      simp [opening]

end Lexer

/-! ## Characters -/

theorem Line.Legible.printable_source {line : Line} (legible : line.Legible) :
    ∀ c ∈ line.source, IsPrintable c := by
  have key : ∀ c ∈ line.key, IsPrintable c := fun c hc =>
    keyChar_forall (by decide +kernel) (legible.plain c hc)
  have text : ∀ c ∈ inside line.text, IsPrintable c := printable_of_mem_inside legible.printable
  intro c hc
  simp only [source, behindKey, List.mem_append, List.mem_cons, List.not_mem_nil, or_false] at hc
  rcases hc with hc | rfl | rfl | rfl | hc | rfl
  · exact key c hc
  · decide
  · decide
  · decide
  · exact text c hc
  · decide

/-- A text of lines holds line feeds beside what is printable. -/
theorem printable_or_newline {ending : List Char} (ends : ending = [] ∨ ending = ['\n'])
    {line : Line} {rest : List Line} (legible : ∀ l ∈ line :: rest, l.Legible) :
    ∀ c ∈ line.source ++ Lexer.behindLines ending rest, IsPrintable c ∨ c = '\n' := by
  obtain ⟨hline, hrest⟩ := List.forall_mem_cons.mp legible
  intro c hc
  rw [Lexer.behindLines, List.mem_append, List.mem_append] at hc
  rcases hc with hc | hc | hc
  · exact .inl (hline.printable_source c hc)
  · obtain ⟨next, hnext, hc⟩ := List.mem_flatMap.mp hc
    rcases List.mem_cons.mp hc with rfl | hc
    · exact .inr rfl
    · exact .inl ((hrest next hnext).printable_source c hc)
  · rcases ends with rfl | rfl
    · cases hc
    · exact .inr (List.mem_singleton.mp hc)

theorem Line.three_le_source (line : Line) : 3 ≤ line.source.length := by
  simp only [source, behindKey, List.length_append, List.length_cons]
  omega

theorem three_mul_le_behindLines (ending : List Char) (lines : List Line) :
    3 * lines.length ≤ (Lexer.behindLines ending lines).length := by
  induction lines with
  | nil => exact Nat.zero_le _
  | cons line rest ih =>
      have here := line.three_le_source
      simp only [Lexer.behindLines, List.flatMap_cons, List.length_append, List.length_cons] at ih ⊢
      omega

/-- The tokens of a text of lines are those of one mapping. -/
theorem Token.ofText_lines {ending : List Char} (ends : ending = [] ∨ ending = ['\n'])
    {line : Line} {rest : List Line} (legible : ∀ l ∈ line :: rest, l.Legible) :
    Token.ofText (line.source ++ Lexer.behindLines ending rest) =
      .blockMappingStart ::
        ((line :: rest).flatMap Line.tokens ++ [.blockEnd, .streamEnd]) := by
  obtain ⟨hline, hrest⟩ := List.forall_mem_cons.mp legible
  have allowed : (line.source ++ Lexer.behindLines ending rest).all isAllowed = true := by
    rw [List.all_eq_true]
    intro c hc
    rcases printable_or_newline ends legible c hc with printable | rfl
    · exact printable_forall (P := fun c => isAllowed c = true) (by decide +kernel) printable
    · decide
  have atLine : Lexer.AtLine line (Lexer.behindLines ending rest)
      (.start (line.source ++ Lexer.behindLines ending rest)) :=
    ⟨rfl, rfl, rfl, rfl, rfl, Or.inl rfl⟩
  have long : 3 + 3 * rest.length ≤ (line.source ++ Lexer.behindLines ending rest).length := by
    rw [List.length_append]
    exact Nat.add_le_add line.three_le_source (three_mul_le_behindLines ending rest)
  obtain ⟨m, hm⟩ := Nat.exists_eq_add_of_le long
  obtain ⟨next, run, behind, tokens⟩ := atLine.reads_line hline (3 * rest.length + m + 1)
  have steps : (line.source ++ Lexer.behindLines ending rest).length + 1 =
      3 * rest.length + m + 1 + 3 := by omega
  rw [ofText, if_pos allowed, steps, run, behind.run_lines ends hrest (by omega), tokens]
  simp [Lexer.opening, Lexer.start]

end Scaffold.Yaml
