import Scaffold.Proofs.Template.Form

/-!
# One kind of line end

Templates are read with every line end as a line feed.  A form read so is the form with its texts
read so, and is as well-formed.
-/

namespace Scaffold.Template

open Text

theorem not_mem_normalizeNewlines (text : List Char) : '\r' ∉ normalizeNewlines text := by
  fun_induction normalizeNewlines text with
  | case1 => exact List.not_mem_nil
  | case2 rest ih => simpa using ih
  | case3 rest _ ih => simpa using ih
  | case4 c rest _ hc ih =>
      rw [List.mem_cons, not_or]
      exact ⟨fun h => hc h.symm, ih⟩

theorem normalizeNewlines_cons {c : Char} (h : c ≠ '\r') (rest : List Char) :
    normalizeNewlines (c :: rest) = c :: normalizeNewlines rest := by
  rw [normalizeNewlines]
  · exact fun _ hc => absurd hc h
  · exact h

/-- Text without carriage returns is as it was, and does not touch the text behind it. -/
theorem normalizeNewlines_append {front : List Char} (h : '\r' ∉ front) (back : List Char) :
    normalizeNewlines (front ++ back) = front ++ normalizeNewlines back := by
  induction front with
  | nil => rfl
  | cons c front ih =>
      rw [List.mem_cons, not_or] at h
      rw [List.cons_append, normalizeNewlines_cons (Ne.symm h.1), ih h.2, List.cons_append]

theorem normalizeNewlines_return {rest : List Char} (h : rest.head? ≠ some '\n') :
    normalizeNewlines ('\r' :: rest) = '\n' :: normalizeNewlines rest := by
  rw [normalizeNewlines]
  rintro rest' rfl
  exact h rfl

/-- A brace that follows a text does not touch it. -/
theorem normalizeNewlines_brace (text back : List Char) :
    normalizeNewlines (text ++ '\x7b' :: back) =
      normalizeNewlines text ++ '\x7b' :: normalizeNewlines back := by
  fun_induction normalizeNewlines text with
  | case1 => exact normalizeNewlines_cons (by decide) back
  | case2 rest ih => exact congrArg ('\n' :: ·) ih
  | case3 rest h ih =>
      rw [List.cons_append, normalizeNewlines_return, ih, List.cons_append]
      intro hn
      cases rest with
      | nil => exact absurd hn (by simp)
      | cons c rest =>
          obtain rfl : c = '\n' := Option.some.inj hn
          exact h rest rfl
  | case4 c rest _ hc ih =>
      rw [List.cons_append, normalizeNewlines_cons hc, ih, List.cons_append]

theorem blankAfter_normalizeNewlines (blank : Bool) (text : List Char) :
    blankAfter blank (normalizeNewlines text) = blankAfter blank text := by
  fun_induction normalizeNewlines text generalizing blank with
  | case1 => rfl
  | case2 rest ih => exact ih true
  | case3 rest _ ih => exact ih true
  | case4 c rest _ hc ih => exact ih _

theorem head?_normalizeNewlines (text : List Char) :
    (normalizeNewlines text).head? = text.head?.map fun c => if c = '\r' then '\n' else c := by
  fun_cases normalizeNewlines text with
  | case1 => rfl
  | case2 => rfl
  | case3 => rfl
  | case4 c rest _ hc => simp [show c ≠ '\r' from hc]

theorem getLast?_normalizeNewlines (text : List Char) :
    (normalizeNewlines text).getLast? =
      text.getLast?.map fun c => if c = '\r' then '\n' else c := by
  fun_induction normalizeNewlines text with
  | case1 => rfl
  | case2 rest ih =>
      rw [List.getLast?_cons, ih, List.getLast?_cons, List.getLast?_cons]
      cases rest.getLast? <;> rfl
  | case3 rest _ ih =>
      rw [List.getLast?_cons, ih, List.getLast?_cons]
      cases rest.getLast? <;> rfl
  | case4 c rest _ hc ih =>
      rw [List.getLast?_cons, ih, List.getLast?_cons]
      cases rest.getLast? <;> simp [show c ≠ '\r' from hc]

/-- The character opens a tag behind a brace. -/
def opensTag (c : Char) : Bool := c = '\x7b' || c = '%' || c = '#'

theorem isClean_cons (c : Char) (rest : List Char) :
    isClean (c :: rest) = (!(c = '\x7b' && rest.head?.any opensTag) && isClean rest) := by
  cases rest with
  | nil =>
      rw [isClean]
      · simp
      · simp
  | cons d rest =>
      by_cases hc : c = '\x7b'
      · subst hc
        rw [isClean]
        simp [opensTag]
      · rw [isClean]
        · simp [hc]
        · simp [hc]

theorem isClean_normalizeNewlines {text : List Char} (h : isClean text = true) :
    isClean (normalizeNewlines text) = true := by
  have hopens (c : Char) : opensTag (if c = '\r' then '\n' else c) = opensTag c := by
    split
    · next hc => rw [hc]; rfl
    · rfl
  fun_induction normalizeNewlines text with
  | case1 => rfl
  | case2 rest ih =>
      rw [isClean_cons, isClean_cons, Bool.and_eq_true, Bool.and_eq_true] at h
      rw [isClean_cons, ih h.2.2]
      rfl
  | case3 rest _ ih =>
      rw [isClean_cons, Bool.and_eq_true] at h
      rw [isClean_cons, ih h.2]
      rfl
  | case4 c rest _ hc ih =>
      rw [isClean_cons, Bool.and_eq_true] at h
      rw [isClean_cons, ih h.2, head?_normalizeNewlines, Option.any_map, Bool.and_true]
      simpa only [Function.comp_def, hopens] using h.1

theorem startsLine_normalize (text : List Char) (links : Links) :
    startsLine (normalizeNewlines text) (normalizeLinks links) = startsLine text links := by
  have hstart (text : List Char) (links : Links) :
      startsLine text links = (text.head?.map isNewline).getD links.isEmpty := by
    cases text <;> rfl
  have hnewline (c : Char) : isNewline (if c = '\r' then '\n' else c) = isNewline c := by
    split
    · next hc => rw [hc]; rfl
    · rfl
  rw [hstart, hstart, head?_normalizeNewlines, Option.map_map, normalizeLinks, List.isEmpty_map]
  simp only [Function.comp_def, hnewline]

theorem wellSet_normalize {blank : Bool} {text : List Char} {links : Links}
    (h : wellSet blank text links = true) :
    wellSet blank (normalizeNewlines text) (normalizeLinks links) = true := by
  induction links generalizing blank text with
  | nil => exact isClean_normalizeNewlines h
  | cons link rest ih =>
      obtain ⟨mark, next⟩ := link
      cases mark with
      | place p =>
          simp only [wellSet, Bool.and_eq_true, decide_eq_true_eq] at h
          obtain ⟨⟨hclean, hlast⟩, hset⟩ := h
          have hlast' : (normalizeNewlines text).getLast? ≠ some '\x7b' := by
            rw [getLast?_normalizeNewlines]
            intro he
            obtain ⟨c, hc, hb⟩ := Option.map_eq_some_iff.mp he
            split at hb
            · exact absurd hb (by decide)
            · exact hlast (hb ▸ hc)
          simp only [normalizeLinks, List.map_cons, wellSet, Bool.and_eq_true, decide_eq_true_eq]
          exact ⟨⟨isClean_normalizeNewlines hclean, hlast'⟩, ih hset⟩
      | tag t =>
          simp only [wellSet, Bool.and_eq_true] at h
          obtain ⟨⟨⟨hclean, hblank⟩, hstart⟩, hset⟩ := h
          have hstart' := startsLine_normalize next rest
          simp only [normalizeLinks, List.map_cons, wellSet, Bool.and_eq_true,
            blankAfter_normalizeNewlines] at hstart' ⊢
          exact ⟨⟨⟨isClean_normalizeNewlines hclean, hblank⟩, hstart'.trans hstart⟩, ih hset⟩

/-! ## Sources -/

theorem sourceFrom_cons (text : List Char) (mark : Mark) (next : List Char) (rest : Links) :
    sourceFrom text ((mark, next) :: rest) = text ++ (mark.source ++ sourceFrom next rest) := by
  rw [sourceFrom, List.flatMap_cons, List.append_assoc, sourceFrom]

theorem normalizeNewlines_sourceFrom {text : List Char} {links : Links}
    (h : ∀ link ∈ links, '\r' ∉ link.1.source) :
    normalizeNewlines (sourceFrom text links) =
      sourceFrom (normalizeNewlines text) (normalizeLinks links) := by
  induction links generalizing text with
  | nil =>
      rw [sourceFrom, List.flatMap_nil, List.append_nil]
      exact (List.append_nil _).symm
  | cons link rest ih =>
      obtain ⟨mark, next⟩ := link
      have hmark : '\r' ∉ mark.source := h (mark, next) List.mem_cons_self
      have hbrace : ∃ inner, mark.source = '\x7b' :: inner := by
        cases mark with
        | place p => exact ⟨_, rfl⟩
        | tag t => exact ⟨_, rfl⟩
      have ih := @ih next (fun link hl => h link (List.mem_cons_of_mem _ hl))
      rw [normalizeLinks, List.map_cons, sourceFrom_cons, sourceFrom_cons]
      obtain ⟨inner, hinner⟩ := hbrace
      rw [hinner] at hmark ⊢
      rw [List.mem_cons, not_or] at hmark
      rw [List.cons_append, normalizeNewlines_brace, normalizeNewlines_append hmark.2, ih]
      rfl

end Scaffold.Template
