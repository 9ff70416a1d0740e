import Scaffold.Proofs.Path.Parts

/-!
# Paths resolved by their text

Without a look at the files each `..` takes back the component before it.  Above its top a path
with an anchor does not get, and one without goes up from wherever it starts.
-/

namespace Scaffold.Path

/-- So many levels up, and down from there. -/
structure Way where
  up : Nat
  down : List String
  deriving DecidableEq

namespace Way

/-- The way with one more component. -/
def go (anchor : Anchor) (way : Way) (part : String) : Way :=
  if part ≠ ".." then ⟨way.up, way.down ++ [part]⟩
  else if way.down ≠ [] then ⟨way.up, way.down.dropLast⟩
  else if anchor = .relative then ⟨way.up + 1, []⟩
  else way

def follow (anchor : Anchor) (way : Way) (parts : List String) : Way :=
  parts.foldl (go anchor) way

variable {anchor : Anchor}

theorem go_plain (way : Way) {part : String} (h : part ≠ "..") :
    way.go anchor part = ⟨way.up, way.down ++ [part]⟩ :=
  if_pos h

theorem go_back {way : Way} (h : way.down ≠ []) :
    way.go anchor ".." = ⟨way.up, way.down.dropLast⟩ := by
  rw [go, if_neg (fun hne => hne rfl), if_pos h]

theorem go_up (up : Nat) : (⟨up, []⟩ : Way).go .relative ".." = ⟨up + 1, []⟩ := rfl

theorem up_le_go (way : Way) (part : String) : way.up ≤ (way.go anchor part).up := by
  unfold go
  split
  · exact Nat.le_refl _
  · split
    · exact Nat.le_refl _
    · split
      · exact Nat.le_succ _
      · exact Nat.le_refl _

/-- What is gone up is not taken back. -/
theorem up_le_follow (way : Way) (parts : List String) : way.up ≤ (way.follow anchor parts).up := by
  induction parts generalizing way with
  | nil => exact Nat.le_refl _
  | cons part rest ih => exact Nat.le_trans (way.up_le_go part) (ih (way.go anchor part))

theorem follow_append (way : Way) (parts rest : List String) :
    way.follow anchor (parts ++ rest) = (way.follow anchor parts).follow anchor rest :=
  List.foldl_append ..

theorem follow_plain (way : Way) {parts : List String} (h : ".." ∉ parts) :
    way.follow anchor parts = ⟨way.up, way.down ++ parts⟩ := by
  induction parts generalizing way with
  | nil => rw [List.append_nil]; rfl
  | cons part rest ih =>
      rw [List.mem_cons, not_or] at h
      rw [follow, List.foldl_cons, go_plain way (Ne.symm h.1)]
      refine (ih _ h.2).trans ?_
      rw [List.append_assoc, List.singleton_append]

/-- A way that stays below its start is the same on any ground. -/
theorem follow_on (up : Nat) (base : List String) {down parts : List String}
    (stays : ((⟨0, down⟩ : Way).follow .relative parts).up = 0) :
    (⟨up, base ++ down⟩ : Way).follow anchor parts =
      ⟨up, base ++ ((⟨0, down⟩ : Way).follow .relative parts).down⟩ := by
  induction parts generalizing down with
  | nil => rfl
  | cons part rest ih =>
      rw [follow, List.foldl_cons] at stays
      rw [follow, follow, List.foldl_cons, List.foldl_cons]
      by_cases hp : part = ".."
      · subst hp
        cases down using List.reverseRecOn with
        | nil =>
            rw [go_up] at stays
            have above : 1 ≤ ((⟨1, []⟩ : Way).follow .relative rest).up := up_le_follow ⟨1, []⟩ rest
            rw [follow, stays] at above
            exact absurd above (by decide)
        | append_singleton down last =>
            rw [go_back (by simp), List.dropLast_concat] at stays
            rw [go_back (by simp), go_back (by simp), ← List.append_assoc, List.dropLast_concat,
              List.dropLast_concat]
            exact ih stays
      · rw [go_plain _ hp] at stays
        rw [go_plain _ hp, go_plain _ hp, List.append_assoc]
        exact ih stays

end Way

/-- The way that a path describes. -/
def way (p : Path) : Way := Way.follow p.anchor ⟨0, []⟩ p.parts

/-- Resolved by its text a path still bears the name of its last component. -/
theorem getLast?_way {p : Path} {last : String} (h : p.parts.getLast? = some last)
    (hp : last ≠ "..") : p.way.down.getLast? = some last := by
  obtain ⟨init, hinit⟩ := List.getLast?_eq_some_iff.mp h
  rw [way, hinit, Way.follow_append, Way.follow, List.foldl_cons, Way.go_plain _ hp,
    List.foldl_nil, List.getLast?_concat]

/-- The first path lies below the second one and is not the same. -/
structure IsBelow (p q : Path) : Prop where
  anchor : p.anchor = q.anchor
  up : p.way.up = q.way.up
  down : q.way.down <+: p.way.down
  proper : q.way.down ≠ p.way.down

instance (p q : Path) : Decidable (p.IsBelow q) :=
  decidable_of_iff
    (p.anchor = q.anchor ∧ p.way.up = q.way.up ∧ q.way.down <+: p.way.down ∧
      q.way.down ≠ p.way.down)
    ⟨fun ⟨anchor, up, down, proper⟩ => ⟨anchor, up, down, proper⟩,
      fun h => ⟨h.anchor, h.up, h.down, h.proper⟩⟩

theorem way_below (root : Path) {parts : List String} (h : ".." ∉ parts) :
    (root.below parts).way = ⟨root.way.up, root.way.down ++ parts⟩ := by
  rw [way, below, Way.follow_append, Way.follow_plain _ h]
  rfl

theorem isBelow_below (root : Path) {dir rest : List String} (plain : ".." ∉ dir ++ rest)
    (h : rest ≠ []) : (root.below (dir ++ rest)).IsBelow (root.below dir) := by
  have plain' : ".." ∉ dir := by
    intro hm
    exact plain (List.mem_append_left rest hm)
  have wayBelow := root.way_below plain
  have wayDir := root.way_below plain'
  constructor
  case anchor => rfl
  case up => rw [wayBelow, wayDir]
  case down =>
    rw [wayBelow, wayDir, ← List.append_assoc]
    exact List.prefix_append _ _
  case proper =>
    rw [wayBelow, wayDir, ← List.append_assoc]
    intro same
    exact h (List.self_eq_append_right.mp same)

/-- A path that leaves no directory at the start of relative paths leaves it nowhere. -/
theorem isBelow_join_of_here {dir : List String} (plain : ".." ∉ dir) {q : Path}
    (here : (join ⟨.relative, dir⟩ q).IsBelow ⟨.relative, dir⟩) (root : Path) :
    ((root.below dir).join q).IsBelow (root.below dir) := by
  obtain ⟨anchor, parts⟩ := q
  cases anchor with
  | root => cases here.anchor
  | doubleRoot => cases here.anchor
  | relative =>
      have dirWay : way ⟨.relative, dir⟩ = ⟨0, dir⟩ := Way.follow_plain ⟨0, []⟩ plain
      have hereWay : (join ⟨.relative, dir⟩ ⟨.relative, parts⟩).way =
          (⟨0, dir⟩ : Way).follow .relative parts := by
        rw [← dirWay, way, join, Way.follow_append]
        rfl
      obtain ⟨-, up, down, proper⟩ := here
      rw [hereWay, dirWay] at up down proper
      have joined : ((root.below dir).join ⟨.relative, parts⟩).way =
          ⟨root.way.up, root.way.down ++ ((⟨0, dir⟩ : Way).follow .relative parts).down⟩ := by
        have goesOn : ((root.below dir).join ⟨.relative, parts⟩).way =
            (root.below dir).way.follow root.anchor parts := by
          rw [way, join, Way.follow_append]
          rfl
        rw [goesOn, way_below root plain, Way.follow_on root.way.up root.way.down up]
      constructor
      case anchor => rfl
      case up => rw [joined, way_below root plain]
      case down =>
        rw [joined, way_below root plain]
        exact (List.prefix_append_right_inj _).mpr down
      case proper =>
        rw [joined, way_below root plain]
        intro same
        exact proper (List.append_cancel_left same)

end Scaffold.Path
