import Scaffold.Proofs.Yaml.Lexing
import Scaffold.Yaml.Document

/-!
# Data of lines

The tokens of a flat mapping are read as one mapping with an entry for each line.  If the keys are
text of their own accord and all different, its data has each line's text under its key.
-/

namespace Scaffold.Yaml

namespace Node

open Reader

/-- The entry of a line. -/
def ofLine (line : Line) : Node × Node :=
  (.scalar (Tag.ofPlain line.key) line.key, .scalar .str line.text)

theorem readBlockEntries_line (line : Line) (n : Nat) (rest : List Token)
    (anchors : List (List Char × Node)) (handles : List (List Char × List Char)) :
    readBlockEntries (n + 4) ⟨line.tokens ++ rest, anchors, handles⟩ =
      (readBlockEntries (n + 3) ⟨rest, anchors, handles⟩).map
        fun (entries, left) => (ofLine line :: entries, left) := by
  change (readBlockEntries (n + 3) >>= fun entries => pure (ofLine line :: entries))
    ⟨rest, anchors, handles⟩ = _
  change (readBlockEntries (n + 3) ⟨rest, anchors, handles⟩ >>= _) = _
  cases readBlockEntries (n + 3) ⟨rest, anchors, handles⟩ <;> rfl

/-- Each entry takes one step, and the steps to read a scalar are left at the last one. -/
theorem readBlockEntries_lines (lines : List Line) (rest : List Token)
    (anchors : List (List Char × Node)) (handles : List (List Char × List Char)) {n : Nat}
    (enough : lines.length + 3 ≤ n) :
    readBlockEntries n ⟨lines.flatMap Line.tokens ++ .blockEnd :: rest, anchors, handles⟩ =
      .ok (lines.map ofLine, ⟨rest, anchors, handles⟩) := by
  induction lines generalizing n with
  | nil =>
      obtain ⟨n, rfl⟩ := Nat.exists_eq_add_of_le' enough
      rfl
  | cons line lines ih =>
      obtain ⟨m, rfl⟩ := Nat.exists_eq_add_of_le' enough
      have later := ih (n := m + lines.length + 3) (by omega)
      have steps : m + ((line :: lines).length + 3) = m + lines.length + 4 := by
        rw [List.length_cons]
        omega
      rw [steps, List.flatMap_cons, List.append_assoc, readBlockEntries_line, later]
      rfl

theorem read_blockMapping (n : Nat) (rest : List Token) (anchors : List (List Char × Node))
    (handles : List (List Char × List Char)) :
    read .block (n + 2) ⟨.blockMappingStart :: rest, anchors, handles⟩ =
      (readBlockEntries n ⟨rest, anchors, handles⟩).map
        fun (entries, left) => (.mapping .map entries, left) := by
  change (readBlockEntries n ⟨rest, anchors, handles⟩ >>= _) = _
  cases readBlockEntries n ⟨rest, anchors, handles⟩ <;> rfl

/-- The tokens of a flat mapping are those of a mapping with an entry for each line. -/
theorem ofTokens_lines (lines : List Line) :
    ofTokens (.blockMappingStart :: (lines.flatMap Line.tokens ++ [.blockEnd, .streamEnd])) =
      .ok (some (.mapping .map (lines.map ofLine))) := by
  have tokens : (lines.flatMap Line.tokens ++ [Token.blockEnd, Token.streamEnd]).length =
      4 * lines.length + 2 := by
    simp [List.length_flatMap, Line.tokens, Nat.mul_comm]
  have enough : lines.length + 3 ≤ 4 * (4 * lines.length + 3) + 2 := by omega
  have entries := readBlockEntries_lines lines [.streamEnd] [] commonHandles enough
  have node := read_blockMapping (4 * (4 * lines.length + 3) + 2)
    (lines.flatMap Line.tokens ++ [.blockEnd, .streamEnd]) [] commonHandles
  rw [entries] at node
  rw [ofTokens, List.length_cons, tokens]
  change ((read .block (4 * (4 * lines.length + 3) + 2 + 2) _ >>= _) >>= _) = _
  rw [node]
  rfl

end Node

/-! ## Data -/

/-- The entry of a line in the data. -/
def Line.entry (line : Line) : Datum × Datum :=
  (.text (String.ofList line.key), .text (String.ofList line.text))

/-- Entries of different keys stay as they are. -/
theorem ofEntries_of_pairwise {entries : List (Datum × Datum)}
    (distinct : entries.Pairwise fun a b => isSameKey a.1 b.1 = false) :
    ofEntries entries = entries := by
  -- Entries are added to those that are known, all of them different.
  suffices kept : ∀ known, (known ++ entries).Pairwise (fun a b => isSameKey a.1 b.1 = false) →
      entries.foldl (fun known e => putEntry known e.1 e.2) known = known ++ entries from
    kept [] distinct
  clear distinct
  induction entries with
  | nil => exact fun known _ => (List.append_nil known).symm
  | cons e rest ih =>
      intro known distinct
      have new : (known.any fun other => isSameKey other.1 e.1) = false := by
        rw [List.any_eq_false]
        intro other hother
        rw [(List.pairwise_append.mp distinct).2.2 other hother e List.mem_cons_self]
        exact Bool.false_ne_true
      rw [List.append_cons] at distinct ⊢
      rw [List.foldl_cons, putEntry, new]
      exact ih _ distinct

theorem Outcome.all_ok {α : Type} (values : List α) : all (values.map .ok) = .ok values := by
  induction values with
  | nil => rfl
  | cons v rest ih =>
      rw [List.map_cons, all, ih]
      rfl

/-- Entries with keys that can be keys and are different are all there. -/
theorem collect_ok {entries : List (Datum × Datum)} (keys : ∀ e ∈ entries, e.1.isHashable = true)
    (distinct : entries.Pairwise fun a b => isSameKey a.1 b.1 = false) :
    collect (entries.map fun e => (.ok e.1, .ok e.2)) = .ok entries := by
  have checked : (entries.map fun e => ((.ok e.1, .ok e.2) : Entry)).map checkEntry =
      entries.map .ok := by
    rw [List.map_map]
    refine List.map_congr_left fun e he => ?_
    simp only [Function.comp, checkEntry, checkKey, keys e he, if_true]
    rfl
  rw [collect, checked, Outcome.all_ok]
  exact congrArg Except.ok (ofEntries_of_pairwise distinct)

theorem mergedEntries_lines {lines : List Line}
    (plain : ∀ line ∈ lines, Tag.ofPlain line.key = .str) :
    Node.mergedEntries (lines.map Node.ofLine) =
      some ([], (lines.map Line.entry).map fun e => (.ok e.1, .ok e.2)) := by
  induction lines with
  | nil => rfl
  | cons line rest ih =>
      obtain ⟨hline, hrest⟩ := List.forall_mem_cons.mp plain
      rw [List.map_cons, Node.ofLine, Node.mergedEntries, ih hrest]
      simp only [Node.tag, hline]
      rfl

/-- Lines that can be read back, with keys that are different and text of their own accord. -/
structure Flat (lines : List Line) : Prop where
  legible : ∀ line ∈ lines, line.Legible
  plain : ∀ line ∈ lines, Tag.ofPlain line.key = .str
  distinct : (lines.map Line.key).Nodup

/-- The data has the text of each line under its key. -/
theorem Flat.toDatum {lines : List Line} (flat : Flat lines) :
    (Node.mapping .map (lines.map Node.ofLine)).toDatum = .ok (.dict (lines.map Line.entry)) := by
  have keys : ∀ e ∈ lines.map Line.entry, e.1.isHashable = true := by
    intro e he
    obtain ⟨line, -, rfl⟩ := List.mem_map.mp he
    rfl
  have different : (lines.map Line.entry).Pairwise fun a b => isSameKey a.1 b.1 = false := by
    rw [List.pairwise_map]
    refine (List.pairwise_map.mp flat.distinct).imp fun {a b} apart => ?_
    exact beq_false_of_ne fun same => apart (String.ofList_injective same)
  rw [Node.toDatum, Node.tag, Node.outcome, mergedEntries_lines flat.plain]
  change ((Datum.dict <$> collect ((lines.map Line.entry).map _)).below).mapError _ = _
  rw [collect_ok keys different]
  rfl

/-- A text of lines is read as what the lines say. -/
theorem Flat.read {ending : List Char} (ends : ending = [] ∨ ending = ['\n']) {line : Line}
    {rest : List Line} (flat : Flat (line :: rest)) :
    read (line.source ++ Lexer.behindLines ending rest) =
      .ok (.dict ((line :: rest).map Line.entry)) := by
  rw [Yaml.read, Token.ofText_lines ends flat.legible, Node.ofTokens_lines]
  exact flat.toDatum

end Scaffold.Yaml
