import Mathlib.Data.List.Chain
import Mathlib.Data.List.Sort
import Mathlib.Data.List.TakeWhile
import Scaffold.Text.Ranges

/-!
# Comparing tables

Two tables of ranges in ascending order are compared by going through both of them once: the ranges
of one lie within those of the other, or keep apart from them.  Runs of case mappings are compared
as ranges too, those that they take characters from and those that they lead to.
-/

namespace Scaffold.Text

/-! ## Ranges in order -/

/-- Each range begins no earlier than the one before. -/
def Ascending (ranges : List (Nat × Nat)) : Prop := ranges.Pairwise fun r s => r.1 ≤ s.1

theorem Ascending.of_isChain {ranges : List (Nat × Nat)}
    (h : (ranges.map (·.1)).IsChain (· ≤ ·)) : Ascending ranges :=
  List.pairwise_map.mp (List.isChain_iff_pairwise.mp h)

/-- What ascending ranges begin with is not beyond a code point in them. -/
theorem Ascending.head_le {range found : Nat × Nat} {rest : List (Nat × Nat)} {code : Nat}
    (h : Ascending (range :: rest)) (hfound : found ∈ range :: rest) (hcode : found.1 ≤ code) :
    range.1 ≤ code := by
  rcases List.mem_cons.mp hfound with rfl | hrest
  · exact hcode
  · exact ((List.pairwise_cons.mp h).1 found hrest).trans hcode

theorem Ascending.dropWhile {ranges : List (Nat × Nat)} (h : Ascending ranges)
    (p : Nat × Nat → Bool) : Ascending (ranges.dropWhile p) :=
  h.sublist (List.dropWhile_sublist p)

theorem exists_of_inRanges {code : Nat} {ranges : List (Nat × Nat)}
    (h : inRanges code ranges = true) : ∃ range ∈ ranges, range.1 ≤ code ∧ code ≤ range.2 := by
  induction ranges with
  | nil => cases h
  | cons range rest ih =>
      simp only [inRanges, Bool.and_eq_true, Bool.or_eq_true, decide_eq_true_eq] at h
      rcases h.2 with hlast | hrest
      · exact ⟨range, List.mem_cons_self, h.1, hlast⟩
      · obtain ⟨found, hfound, hcode⟩ := ih hrest
        exact ⟨found, List.mem_cons_of_mem range hfound, hcode⟩

/-- An item passes the test that drops items, or is left. -/
theorem mem_dropWhile_or {α : Type} (p : α → Bool) {items : List α} {item : α}
    (h : item ∈ items) : p item = true ∨ item ∈ items.dropWhile p := by
  rw [← List.takeWhile_append_dropWhile (p := p) (l := items)] at h
  rcases List.mem_append.mp h with h | h
  · exact Or.inl (List.mem_takeWhile_imp h)
  · exact Or.inr h

/-! ## Going through two tables -/

/-- Every range of the first list lies within one of the second. -/
def within : List (Nat × Nat) → List (Nat × Nat) → Bool
  | parts, [] => parts.isEmpty
  | parts, whole :: rest =>
      let left := parts.dropWhile fun part => whole.1 ≤ part.1 && part.2 ≤ whole.2
      (left.head?.all fun part => whole.1 ≤ part.1) && within left rest

theorem inRanges_of_within {code : Nat} {parts ranges : List (Nat × Nat)}
    (ascending : Ascending parts) (h : within parts ranges = true) {part : Nat × Nat}
    (hpart : part ∈ parts) (first : part.1 ≤ code) (last : code ≤ part.2) :
    inRanges code ranges = true := by
  induction ranges generalizing parts with
  | nil =>
      rw [List.isEmpty_iff.mp h] at hpart
      cases hpart
  | cons whole rest ih =>
      rw [within, Bool.and_eq_true] at h
      rw [inRanges, Bool.and_eq_true, Bool.or_eq_true, decide_eq_true_eq, decide_eq_true_eq]
      rcases mem_dropWhile_or (fun part => decide (whole.1 ≤ part.1) && decide (part.2 ≤ whole.2))
        hpart with hin | hleft
      · rw [Bool.and_eq_true, decide_eq_true_eq, decide_eq_true_eq] at hin
        exact ⟨hin.1.trans first, Or.inl (last.trans hin.2)⟩
      · have ascending := ascending.dropWhile
          fun part => decide (whole.1 ≤ part.1) && decide (part.2 ≤ whole.2)
        refine ⟨?_, Or.inr (ih ascending h.2 hleft)⟩
        cases hcase : parts.dropWhile
            fun part => decide (whole.1 ≤ part.1) && decide (part.2 ≤ whole.2) with
        | nil =>
            rw [hcase] at hleft
            cases hleft
        | cons head more =>
            rw [hcase] at hleft ascending h
            exact (of_decide_eq_true h.1).trans (ascending.head_le hleft first)

/-- No range of the first list meets one of the second. -/
def apart : List (Nat × Nat) → List (Nat × Nat) → Bool
  | _, [] => true
  | ranges, other :: rest =>
      let left := ranges.dropWhile fun range => range.2 < other.1
      (left.head?.all fun range => other.2 < range.1) && apart left rest

theorem not_mem_of_apart {code : Nat} {ranges others : List (Nat × Nat)}
    (ascending : Ascending ranges) (order : Ascending others) (h : apart ranges others = true)
    {range : Nat × Nat} (hrange : range ∈ ranges) (first : range.1 ≤ code)
    (last : code ≤ range.2) : ∀ other ∈ others, code < other.1 ∨ other.2 < code := by
  induction others generalizing ranges with
  | nil =>
      intro other hother
      cases hother
  | cons next rest ih =>
      rw [apart, Bool.and_eq_true] at h
      rcases mem_dropWhile_or (fun range => decide (range.2 < next.1)) hrange with hin | hleft
      · intro other hother
        have hbefore : code < next.1 := last.trans_lt (of_decide_eq_true hin)
        exact Or.inl (hbefore.trans_le (order.head_le hother le_rfl))
      · have ascending := ascending.dropWhile fun range => decide (range.2 < next.1)
        intro other hother
        rcases List.mem_cons.mp hother with rfl | hrest
        · refine Or.inr ?_
          cases hcase : ranges.dropWhile fun range => decide (range.2 < other.1) with
          | nil =>
              rw [hcase] at hleft
              cases hleft
          | cons head more =>
              rw [hcase] at hleft ascending h
              exact (of_decide_eq_true h.1).trans_le (ascending.head_le hleft first)
        · exact ih ascending (List.pairwise_cons.mp order).2 h.2 hleft other hrest

theorem inRanges_of_apart {code : Nat} {ranges others : List (Nat × Nat)}
    (ascending : Ascending ranges) (order : Ascending others) (h : apart ranges others = true)
    {range : Nat × Nat} (hrange : range ∈ ranges) (first : range.1 ≤ code)
    (last : code ≤ range.2) : inRanges code others = false := by
  rw [← Bool.not_eq_true]
  intro hin
  obtain ⟨other, hother, hfirst, hlast⟩ := exists_of_inRanges hin
  have hapart := not_mem_of_apart ascending order h hrange first last other hother
  omega

/-! ## Runs as ranges -/

/-- The code points of a run, those of a run without gaps in one range. -/
def ShiftRun.pieces (run : ShiftRun) : List (Nat × Nat) :=
  if run.step = 1 then [(run.first, run.last)]
  else (List.range ((run.last - run.first) / run.step + 1)).map fun k =>
    (run.first + run.step * k, run.first + run.step * k)

/-- A range moved by an offset. -/
def movedRange (shift : Int) (range : Nat × Nat) : Nat × Nat :=
  ((range.1 + shift).toNat, (range.2 + shift).toNat)

/-- The code points that runs move. -/
def sources (runs : List ShiftRun) : List (Nat × Nat) := runs.flatMap ShiftRun.pieces

/-- The code points that runs lead to, in ascending order. -/
def targets (runs : List ShiftRun) : List (Nat × Nat) :=
  (runs.flatMap fun run => run.pieces.map (movedRange run.shift)).insertionSort
    fun r s => r.1 ≤ s.1

theorem targets_ascending (runs : List ShiftRun) : Ascending (targets runs) := by
  have total : Std.Total fun r s : Nat × Nat => r.1 ≤ s.1 := ⟨fun r s => Nat.le_total r.1 s.1⟩
  have transitive : IsTrans (Nat × Nat) fun r s => r.1 ≤ s.1 := ⟨fun _ _ _ => Nat.le_trans⟩
  exact List.pairwise_insertionSort ..

theorem ShiftRun.exists_piece {run : ShiftRun} {code : Nat} (first : run.first ≤ code)
    (last : code ≤ run.last) (step : (code - run.first) % run.step = 0) :
    ∃ piece ∈ run.pieces, piece.1 ≤ code ∧ code ≤ piece.2 := by
  unfold pieces
  split
  · exact ⟨(run.first, run.last), List.mem_singleton_self _, first, last⟩
  · have hcode : run.first + run.step * ((code - run.first) / run.step) = code := by
      have := Nat.div_add_mod (code - run.first) run.step
      omega
    refine ⟨(code, code), List.mem_map.mpr ⟨(code - run.first) / run.step, ?_, ?_⟩, le_rfl, le_rfl⟩
    · rw [List.mem_range, Nat.lt_succ_iff]
      exact Nat.div_le_div_right (by omega)
    · rw [hcode]

/-- The run that moves a code point. -/
theorem shiftIn?_some {code : Nat} {runs : List ShiftRun} {shift : Int}
    (h : shiftIn? code runs = some shift) :
    ∃ run ∈ runs, run.shift = shift ∧ run.first ≤ code ∧ code ≤ run.last ∧
      (code - run.first) % run.step = 0 := by
  induction runs with
  | nil => cases h
  | cons run rest ih =>
      rw [shiftIn?] at h
      split at h
      · cases h
      · next hfirst =>
          split at h
          · next hin =>
              exact ⟨run, List.mem_cons_self, Option.some.inj h, Nat.not_lt.mp hfirst, hin⟩
          · obtain ⟨run', hrun', hall⟩ := ih h
            exact ⟨run', List.mem_cons_of_mem run hrun', hall⟩

theorem exists_source {code : Nat} {runs : List ShiftRun} {shift : Int}
    (h : shiftIn? code runs = some shift) :
    ∃ range ∈ sources runs, range.1 ≤ code ∧ code ≤ range.2 := by
  obtain ⟨run, hrun, -, hfirst, hlast, hstep⟩ := shiftIn?_some h
  obtain ⟨piece, hpiece, hcode⟩ := ShiftRun.exists_piece hfirst hlast hstep
  exact ⟨piece, List.mem_flatMap.mpr ⟨run, hrun, hpiece⟩, hcode⟩

theorem exists_target {code : Nat} {runs : List ShiftRun} {shift : Int}
    (h : shiftIn? code runs = some shift) :
    ∃ range ∈ targets runs, range.1 ≤ (code + shift).toNat ∧ (code + shift).toNat ≤ range.2 := by
  obtain ⟨run, hrun, rfl, hfirst, hlast, hstep⟩ := shiftIn?_some h
  obtain ⟨piece, hpiece, hcode⟩ := ShiftRun.exists_piece hfirst hlast hstep
  refine ⟨movedRange run.shift piece, ?_, ?_⟩
  · rw [targets, List.mem_insertionSort]
    exact List.mem_flatMap.mpr ⟨run, hrun, List.mem_map_of_mem hpiece⟩
  · simp only [movedRange]
    omega

/-- What no run moves keeps its code point. -/
theorem shiftIn?_of_apart {code : Nat} {ranges : List (Nat × Nat)} {runs : List ShiftRun}
    (ascending : Ascending ranges) (order : Ascending (sources runs))
    (h : apart ranges (sources runs) = true) {range : Nat × Nat} (hrange : range ∈ ranges)
    (first : range.1 ≤ code) (last : code ≤ range.2) : shiftIn? code runs = none := by
  cases hcase : shiftIn? code runs with
  | none => rfl
  | some shift =>
      obtain ⟨source, hsource, hcode⟩ := exists_source hcase
      have hapart := not_mem_of_apart ascending order h hrange first last source hsource
      omega

end Scaffold.Text
