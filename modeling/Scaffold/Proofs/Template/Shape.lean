import Scaffold.Proofs.Template.Form

/-!
# Forms of one shape

The marks of a form decide its shape: with other texts between them they are the marks of another
form.
-/

namespace Scaffold.Template

/-! ## Names -/

/-- The names in the marks are all such. -/
def Named (p : String → Prop) (links : Links) : Prop :=
  ∀ link ∈ links, ∀ name ∈ link.1.names, p name

variable {p : String → Prop} {links : Links}

theorem Named.front {back : Links} (h : Named p (links ++ back)) : Named p links :=
  fun link hl => h link (List.mem_append_left _ hl)

theorem Named.back {front : Links} (h : Named p (front ++ links)) : Named p links :=
  fun link hl => h link (List.mem_append_right _ hl)

theorem Named.of_marks {other : Links} (h : links.map (·.1) = other.map (·.1))
    (hp : Named p other) : Named p links := by
  intro link hl name hn
  have hm : link.1 ∈ other.map (·.1) := h ▸ List.mem_map_of_mem hl
  obtain ⟨link', hl', he⟩ := List.mem_map.mp hm
  exact hp link' hl' name (he ▸ hn)

theorem named_iff_namesIn : Named p links ↔ ∀ name ∈ namesIn links, p name := by
  simp only [Named, namesIn, List.mem_flatMap]
  exact ⟨fun h name ⟨link, hl, hn⟩ => h link hl name hn, fun h link hl name hn =>
    h name ⟨link, hl, hn⟩⟩

theorem namesIn_of_marks {other : Links} (h : links.map (·.1) = other.map (·.1)) :
    namesIn links = namesIn other := by
  have names (links : Links) : namesIn links = (links.map (·.1)).flatMap Mark.names := by
    rw [List.flatMap_map, namesIn]
  rw [names, names, h]

/-- The names of a body, of a choice and of a form. -/
theorem Named.placed {b : Body} (h : Named p b.links) : ∀ q ∈ b.placed, p q.1.name :=
  fun q hq => h _ (List.mem_map_of_mem hq) q.1.name List.mem_cons_self

theorem Named.behind {b : Body} {t : Tag} (h : Named p (b.behind t)) : Named p b.links :=
  fun link hl => h link (List.mem_cons_of_mem _ hl)

theorem Named.condition {c : Choice} (h : Named p c.links) : p c.name :=
  h (.tag (.choose c.name), c.body.text) List.mem_cons_self c.name List.mem_cons_self

theorem Named.body {c : Choice} (h : Named p c.links) : Named p c.body.links :=
  h.front.behind

theorem Named.other {c : Choice} (h : Named p c.links) :
    ∀ other ∈ c.otherwise?, Named p other.links := by
  intro other ho
  have hback := h.back
  rw [ho] at hback
  exact hback.behind

/-! ## Other texts -/

theorem Body.exists_links {b : Body} (text : List Char)
    (h : links.map (·.1) = b.links.map (·.1)) :
    ∃ b' : Body, b'.text = text ∧ b'.links = links := by
  have hplaced : ∀ placed : List (Placeholder × List Char), ∀ links : Links,
      links.map (·.1) = placed.map (fun q => Mark.place q.1) →
      ∃ placed' : List (Placeholder × List Char),
        placed'.map (fun q => (Mark.place q.1, q.2)) = links := by
    intro placed
    induction placed with
    | nil =>
        intro links h
        exact ⟨[], (List.map_eq_nil_iff.mp h).symm⟩
    | cons head placed ih =>
        intro links h
        cases links with
        | nil => cases h
        | cons link links =>
            obtain ⟨mark, text⟩ := link
            obtain ⟨hmark, hrest⟩ := List.cons.inj h
            obtain ⟨placed', hplaced'⟩ := ih links hrest
            refine ⟨(head.1, text) :: placed', ?_⟩
            rw [List.map_cons, hplaced']
            exact congrArg (fun m => (m, text) :: links) hmark.symm
  obtain ⟨placed', hplaced'⟩ := hplaced b.placed links (by rw [h, Body.links, List.map_map]; rfl)
  exact ⟨⟨text, placed'⟩, rfl, hplaced'⟩

theorem Body.exists_behind {b : Body} {t : Tag}
    (h : links.map (·.1) = (b.behind t).map (·.1)) : ∃ b' : Body, b'.behind t = links := by
  cases links with
  | nil => cases h
  | cons link links =>
      obtain ⟨mark, text⟩ := link
      obtain ⟨hmark, hrest⟩ := List.cons.inj h
      obtain ⟨b', htext, hlinks⟩ := Body.exists_links text hrest
      refine ⟨b', ?_⟩
      rw [Body.behind, htext, hlinks]
      exact congrArg (fun m => (m, text) :: links) hmark.symm

theorem Choice.exists_links {c : Choice} (h : links.map (·.1) = c.links.map (·.1)) :
    ∃ c' : Choice, c'.links = links := by
  obtain ⟨name, body, otherwise?⟩ := c
  cases otherwise? with
  | none =>
      rw [Choice.links, List.append_nil] at h
      obtain ⟨body', rfl⟩ := Body.exists_behind h
      exact ⟨⟨name, body', none⟩, List.append_nil _⟩
  | some other =>
      rw [Choice.links, List.map_append] at h
      obtain ⟨front, back, rfl, hfront, hback⟩ := List.map_eq_append_iff.mp h
      obtain ⟨body', rfl⟩ := Body.exists_behind hfront
      obtain ⟨other', rfl⟩ := Body.exists_behind hback
      exact ⟨⟨name, body', some other'⟩, rfl⟩

/-- The marks of a form with other texts are those of a form. -/
theorem Form.exists_links {f : Form} (text : List Char)
    (h : links.map (·.1) = f.links.map (·.1)) :
    ∃ f' : Form, f'.first.text = text ∧ f'.links = links := by
  obtain ⟨first, rest⟩ := f
  rw [Form.links, List.map_append] at h
  obtain ⟨front, back, rfl, hfront, hback⟩ := List.map_eq_append_iff.mp h
  obtain ⟨first', htext, rfl⟩ := Body.exists_links text hfront
  have hrest : ∃ rest' : List (Choice × Body),
      (rest'.flatMap fun q => q.1.links ++ q.2.behind .done) = back := by
    clear h hfront htext
    induction rest generalizing back with
    | nil => exact ⟨[], (List.map_eq_nil_iff.mp hback).symm⟩
    | cons head rest ih =>
        obtain ⟨c, next⟩ := head
        rw [List.flatMap_cons, List.map_append, List.map_append, List.append_assoc] at hback
        obtain ⟨chosen, more, rfl, hchosen, hmore⟩ := List.map_eq_append_iff.mp hback
        obtain ⟨behind, last, rfl, hbehind, hlast⟩ := List.map_eq_append_iff.mp hmore
        obtain ⟨c', rfl⟩ := Choice.exists_links hchosen
        obtain ⟨next', rfl⟩ := Body.exists_behind hbehind
        obtain ⟨rest', rfl⟩ := ih last hlast
        refine ⟨(c', next') :: rest', ?_⟩
        rw [List.flatMap_cons, List.append_assoc]
  obtain ⟨rest', rfl⟩ := hrest
  exact ⟨⟨first', rest'⟩, htext, rfl⟩

end Scaffold.Template
