import Scaffold.Proofs.Template.Form

/-!
# Reading forms

The form that a text spells: its marks are found in the text, and what stands between them is put
together as bodies and choices.
-/

namespace Scaffold.Template

/-! ## Marks -/

/-- The marks that are read, with one space before and after a field. -/
def commonMarks : List Mark :=
  FillData.fieldNames.map (fun name => .place ⟨1, name, 1⟩) ++
    FillData.fieldNames.map (fun name => .tag (.choose name)) ++ [.tag .otherwise, .tag .done]

/-- The mark at the beginning of a text, and the text behind it. -/
def Mark.read? (text : List Char) : Option (Mark × List Char) :=
  (commonMarks.find? fun mark => mark.source.isPrefixOf text).map fun mark =>
    (mark, text.drop mark.source.length)

/-- The text before the first mark, and the marks with the text behind each.  The first argument
bounds the number of steps. -/
def readLinks : Nat → List Char → List Char × Links
  | 0, text => (text, [])
  | _, [] => ([], [])
  | fuel + 1, c :: rest =>
      match if c = '\x7b' then Mark.read? (c :: rest) else none with
      | some (mark, behind) =>
          let (text, links) := readLinks fuel behind
          ([], (mark, text) :: links)
      | none =>
          let (text, links) := readLinks fuel rest
          (c :: text, links)

theorem Mark.source_of_read {text behind : List Char} {mark : Mark}
    (h : Mark.read? text = some (mark, behind)) : mark.source ++ behind = text := by
  obtain ⟨found, hfound, he⟩ := Option.map_eq_some_iff.mp h
  cases he
  have hprefix := List.find?_some hfound
  obtain ⟨rest, rfl⟩ := List.isPrefixOf_iff_prefix.mp hprefix
  rw [List.drop_left]

/-- What was read is the text. -/
theorem sourceFrom_readLinks (fuel : Nat) (text : List Char) :
    sourceFrom (readLinks fuel text).1 (readLinks fuel text).2 = text := by
  fun_induction readLinks fuel text with
  | case1 text => exact List.append_nil text
  | case2 => rfl
  | case3 fuel c rest mark behind hread next links hnext ih =>
      rw [hnext] at ih
      have hread' : Mark.read? (c :: rest) = some (mark, behind) := by
        split at hread
        · exact hread
        · cases hread
      have hsource : sourceFrom [] ((mark, next) :: links) =
          mark.source ++ sourceFrom next links := by
        simp [sourceFrom]
      rw [hsource, ih, Mark.source_of_read hread']
  | case4 fuel c rest hread text links hnext ih =>
      rw [hnext] at ih
      exact congrArg (c :: ·) ih

/-! ## Shape -/

/-- The body with a text and the places behind it, and what follows. -/
def readBody (text : List Char) : Links → Body × Links
  | (.place p, next) :: rest =>
      let (body, more) := readBody next rest
      (⟨text, (p, body.text) :: body.placed⟩, more)
  | links => (⟨text, []⟩, links)

/-- The choice that a condition begins, up to its last tag. -/
def readChoice (name : String) (text : List Char) (links : Links) : Choice × Links :=
  match readBody text links with
  | (body, (.tag .otherwise, next) :: rest) =>
      let (other, more) := readBody next rest
      (⟨name, body, some other⟩, more)
  | (body, more) => (⟨name, body, none⟩, more)

/-- Choices with the bodies behind them.  The first argument bounds their number. -/
def readChoices : Nat → Links → Option (List (Choice × Body))
  | _, [] => some []
  | n + 1, (.tag (.choose name), text) :: links =>
      match readChoice name text links with
      | (choice, (.tag .done, next) :: rest) =>
          let (body, more) := readBody next rest
          (readChoices n more).map ((choice, body) :: ·)
      | _ => none
  | _, _ => none

/-- The form that a text spells. -/
def Form.read? (text : List Char) : Option Form :=
  let (text, links) := readLinks text.length text
  let (first, more) := readBody text links
  (readChoices more.length more).map (⟨first, ·⟩)

theorem readBody_links (text : List Char) (links : Links) :
    (readBody text links).1.text = text ∧
      (readBody text links).1.links ++ (readBody text links).2 = links := by
  fun_induction readBody text links with
  | case1 text p next rest body more hbody ih =>
      rw [hbody] at ih
      refine ⟨rfl, ?_⟩
      rw [Body.links, List.map_cons, List.cons_append, ih.1]
      exact congrArg ((Mark.place p, next) :: ·) ih.2
  | case2 text links => exact ⟨rfl, rfl⟩

theorem readBody_behind (text : List Char) (links : Links) (t : Tag) :
    (readBody text links).1.behind t ++ (readBody text links).2 = (.tag t, text) :: links := by
  obtain ⟨htext, hlinks⟩ := readBody_links text links
  rw [Body.behind, List.cons_append, htext, hlinks]

theorem readChoice_links (name : String) (text : List Char) (links : Links) :
    (readChoice name text links).1.links ++ (readChoice name text links).2 =
      (.tag (.choose name), text) :: links := by
  have hbody := readBody_behind text links (.choose name)
  unfold readChoice
  split
  · next body next rest hread =>
      rw [hread] at hbody
      have hother := readBody_behind next rest .otherwise
      rw [Choice.links, List.append_assoc, hother]
      exact hbody
  · next body more _ hread =>
      rw [hread] at hbody
      rw [Choice.links, List.append_nil]
      exact hbody

theorem readChoices_links {n : Nat} {links : Links} {choices : List (Choice × Body)}
    (h : readChoices n links = some choices) :
    (choices.flatMap fun (c, next) => c.links ++ next.behind .done) = links := by
  fun_induction readChoices n links generalizing choices with
  | case1 => cases h; rfl
  | case2 n name text links choice next rest hchoice body more hbody ih =>
      obtain ⟨others, hothers, rfl⟩ := Option.map_eq_some_iff.mp h
      have hlinks := readChoice_links name text links
      have hbehind := readBody_behind next rest .done
      rw [hchoice] at hlinks
      rw [hbody] at hbehind
      rw [List.flatMap_cons, ih hothers, List.append_assoc, hbehind, hlinks]
  | case3 => cases h
  | case4 => cases h

/-- A form that was read spells the text. -/
theorem Form.source_of_read {text : List Char} {f : Form} (h : Form.read? text = some f) :
    f.source = text := by
  obtain ⟨choices, hchoices, rfl⟩ := Option.map_eq_some_iff.mp h
  obtain ⟨htext, hlinks⟩ := readBody_links (readLinks text.length text).1
    (readLinks text.length text).2
  have hmarks : Form.links ⟨(readBody (readLinks text.length text).1
      (readLinks text.length text).2).1, choices⟩ = (readLinks text.length text).2 := by
    rw [Form.links, readChoices_links hchoices, hlinks]
  rw [Form.source, hmarks, htext, sourceFrom_readLinks]

instance (f : Form) : Decidable f.WellFormed :=
  decidable_of_iff
    ((∀ link ∈ f.links, ∀ name ∈ link.1.names, name ∈ FillData.fieldNames) ∧
      wellSet true f.first.text f.links = true)
    ⟨fun h => ⟨h.1, h.2⟩, fun h => ⟨h.known, h.set⟩⟩

end Scaffold.Template
