import Scaffold.Path
import Mathlib.Data.List.Induction

/-!
# Parts of paths

The components of a text that is cut at slashes, and the last component of joined paths.
-/

namespace Scaffold.Path

/-- A path is no shorter than the path above it. -/
theorem size_dropLast_le (anchor : Anchor) (init : List String) (last : String) :
    (toString ⟨anchor, init⟩).utf8ByteSize ≤ (toString ⟨anchor, init ++ [last]⟩).utf8ByteSize := by
  have hle : (anchorText anchor ++ "/".intercalate init).utf8ByteSize ≤
      (anchorText anchor ++ "/".intercalate (init ++ [last])).utf8ByteSize := by
    by_cases hi : init = []
    · subst hi
      simp
    · rw [String.intercalate_append_of_ne_nil hi (List.cons_ne_nil _ _)]
      simp only [String.utf8ByteSize_append]
      omega
  unfold toString
  simp only
  split
  · split
    · exact Nat.le_refl _
    · next h =>
        have := mt String.utf8ByteSize_eq_zero_iff.mp h
        simp only [show ".".utf8ByteSize = 1 from rfl]
        omega
  · split
    · next h h' =>
        rw [h', String.utf8ByteSize_eq_zero_iff.mpr rfl, Nat.le_zero,
          String.utf8ByteSize_eq_zero_iff] at hle
        exact absurd hle h
    · exact hle

/-- The bytes of components with a slash before each. -/
def width (parts : List String) : Nat := parts.foldr (fun part n => part.utf8ByteSize + 1 + n) 0

theorem size_intercalate (first : String) (rest : List String) :
    ("/".intercalate (first :: rest)).utf8ByteSize = first.utf8ByteSize + width rest := by
  induction rest generalizing first with
  | nil => simp [width]
  | cons next rest ih =>
      rw [String.intercalate_cons_cons, String.utf8ByteSize_append, String.utf8ByteSize_append, ih]
      simp only [show "/".utf8ByteSize = 1 from rfl, width, List.foldr_cons]
      omega

theorem size_toString (anchor : Anchor) {first : String} (filled : first ≠ "")
    (rest : List String) :
    (toString ⟨anchor, first :: rest⟩).utf8ByteSize =
      (anchorText anchor).utf8ByteSize + first.utf8ByteSize + width rest := by
  have size : (anchorText anchor ++ "/".intercalate (first :: rest)).utf8ByteSize =
      (anchorText anchor).utf8ByteSize + first.utf8ByteSize + width rest := by
    rw [String.utf8ByteSize_append, size_intercalate, Nat.add_assoc]
  have text : anchorText anchor ++ "/".intercalate (first :: rest) ≠ "" := by
    intro nothing
    rw [nothing, String.utf8ByteSize_eq_zero_iff.mpr rfl] at size
    exact filled (String.utf8ByteSize_eq_zero_iff.mp (by omega))
  rw [← size, toString]
  exact congrArg String.utf8ByteSize (if_neg text)

theorem resolveFrom_append (here : List String) (parts rest : List String) :
    resolveFrom here (parts ++ rest) = resolveFrom (resolveFrom here parts) rest :=
  List.foldl_append ..

/-- Parts without `..` are gone down one after the other. -/
theorem resolveFrom_of_plain (here : List String) {parts : List String}
    (h : ∀ part ∈ parts, part ≠ "..") : resolveFrom here parts = here ++ parts := by
  induction parts generalizing here with
  | nil => simp [resolveFrom]
  | cons part rest ih =>
      have hp : part ≠ ".." := h part (by simp)
      have hr := ih (here ++ [part]) (fun p hm => h p (by simp [hm]))
      rw [resolveFrom, List.foldl_cons, if_neg hp]
      simpa [resolveFrom] using hr

/-- Where the components lead to bears the name of the last one. -/
theorem getLast?_resolveFrom (here : List String) {parts : List String} {last : String}
    (h : parts.getLast? = some last) (hp : last ≠ "..") :
    (resolveFrom here parts).getLast? = some last := by
  obtain ⟨init, rfl⟩ := List.getLast?_eq_some_iff.mp h
  rw [resolveFrom_append, resolveFrom, List.foldl_cons, if_neg hp, List.foldl_nil,
    List.getLast?_concat]

/-! ## Components of a text -/

theorem components_of_no_slash {text : List Char} (hs : '/' ∉ text) (hn : text ≠ [])
    (hd : text ≠ ['.']) : components text = [String.ofList text] := by
  have hempty : String.ofList text ≠ "" := by
    simpa [← String.toList_inj] using hn
  have hdot : String.ofList text ≠ "." := by
    simpa [← String.toList_inj] using hd
  rw [components, List.splitOn_eq_singleton hs]
  simp [hempty, hdot]

theorem anchorOf_of_no_slash {text : List Char} (hs : '/' ∉ text) :
    anchorOf text = .relative := by
  cases text with
  | nil => rfl
  | cons c rest =>
      have hc : c ≠ '/' := by
        rintro rfl
        exact hs List.mem_cons_self
      unfold anchorOf
      split <;> simp_all

theorem parse_of_no_slash {text : String} (hs : '/' ∉ text.toList) (hn : text ≠ "")
    (hd : text ≠ ".") : parse text = ⟨.relative, [text]⟩ := by
  have hn' : text.toList ≠ [] := by simpa using hn
  have hd' : text.toList ≠ ['.'] := fun h => hd (String.toList_inj.mp h)
  rw [parse, anchorOf_of_no_slash hs, components_of_no_slash hs hn' hd', String.ofList_toList]

theorem mem_of_mem_splitOn {text piece : List Char} {sign c : Char}
    (h : piece ∈ text.splitOn sign) (hc : c ∈ piece) : c ∈ text := by
  induction text generalizing piece with
  | nil =>
      rw [List.splitOn_nil, List.mem_singleton] at h
      exact h ▸ hc
  | cons d rest ih =>
      rw [List.splitOn_cons_eq_if_modifyHead] at h
      split at h
      · rcases List.mem_cons.mp h with rfl | h
        · cases hc
        · exact List.mem_cons_of_mem d (ih h hc)
      · cases hp : rest.splitOn sign with
        | nil => exact absurd hp (List.splitOn_ne_nil sign rest)
        | cons first pieces =>
            rw [hp] at h ih
            rcases List.mem_cons.mp h with rfl | h
            · rcases List.mem_cons.mp hc with rfl | hc
              · exact List.mem_cons_self
              · exact List.mem_cons_of_mem d (ih List.mem_cons_self hc)
            · exact List.mem_cons_of_mem d (ih (List.mem_cons_of_mem first h) hc)

/-- Components hold no characters but those of the text. -/
theorem mem_of_mem_components {text : List Char} {part : String} {c : Char}
    (h : part ∈ components text) (hc : c ∈ part.toList) : c ∈ text := by
  obtain ⟨piece, hpiece, rfl⟩ := List.mem_map.mp (List.mem_filter.mp h).1
  rw [String.toList_ofList] at hc
  exact mem_of_mem_splitOn hpiece hc

/-- A text without a slash is its only component, if it has one. -/
theorem eq_of_mem_parts {text part : String} (hs : '/' ∉ text.toList)
    (h : part ∈ (parse text).parts) : part = text := by
  by_cases hn : text = ""
  · subst hn
    cases h
  by_cases hd : text = "."
  · subst hd
    cases h
  rw [parse_of_no_slash hs hn hd] at h
  exact List.mem_singleton.mp h

/-- A text that ends without a slash has what stands behind its last slash as its last
component. -/
theorem getLast?_components (front back : List Char) (hs : '/' ∉ back)
    (hc : ∀ tail, tail ++ back ≠ [] ∧ tail ++ back ≠ ['.']) :
    ∃ tail, '/' ∉ tail ∧
      (components (front ++ back)).getLast? = some (String.ofList (tail ++ back)) := by
  induction front using List.reverseRecOn generalizing back with
  | nil =>
      refine ⟨[], by simp, ?_⟩
      rw [List.nil_append, components_of_no_slash hs (hc []).1 (hc []).2]
      rfl
  | append_singleton front c ih =>
      by_cases hslash : c = '/'
      · subst hslash
        refine ⟨[], by simp, ?_⟩
        have hb := components_of_no_slash hs (hc []).1 (hc []).2
        rw [components, List.append_assoc, List.singleton_append, List.splitOn_append_cons_self,
          List.map_append, List.filter_append]
        change (_ ++ components back).getLast? = _
        rw [hb]
        simp
      · have hcs : '/' ∉ c :: back := by
          simp [hs, Ne.symm hslash]
        obtain ⟨tail, ht, hlast⟩ := ih (c :: back) hcs
          (fun tail => by simpa using hc (tail ++ [c]))
        refine ⟨tail ++ [c], by simp [ht, Ne.symm hslash], ?_⟩
        rw [List.append_assoc, List.singleton_append, hlast, List.append_assoc,
          List.singleton_append]

/-! ## Joined paths -/

/-- The path that goes on from another one. -/
def below (root : Path) (parts : List String) : Path := ⟨root.anchor, root.parts ++ parts⟩

theorem parent_below (root : Path) {parts : List String} (h : parts ≠ []) :
    (root.below parts).parent = root.below parts.dropLast := by
  rw [parent, below, below, List.dropLast_append_of_ne_nil h]

theorem below_below (root : Path) (parts rest : List String) :
    (root.below parts).below rest = root.below (parts ++ rest) := by
  rw [below, below, below, List.append_assoc]

theorem join_assoc (p q r : Path) : (p.join q).join r = p.join (q.join r) := by
  obtain ⟨anchor, parts⟩ := q
  obtain ⟨anchor', parts'⟩ := r
  cases anchor <;> cases anchor' <;> simp [join]

theorem getLast?_join (p q : Path) (h : q.parts ≠ []) :
    (p.join q).parts.getLast? = q.parts.getLast? := by
  obtain ⟨last, hlast⟩ := Option.ne_none_iff_exists'.mp (mt List.getLast?_eq_none_iff.mp h)
  unfold join
  split
  · rw [List.getLast?_append, hlast, Option.some_or]
  · rfl

end Scaffold.Path
