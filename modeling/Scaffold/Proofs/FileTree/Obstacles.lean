import Scaffold.Proofs.FileTree.Directory

/-!
# Obstacles on the way to a directory

A directory is made unless something on the way to it obstructs the walk: an entry that is no
directory, or a name that is too long.  What is made then are the missing directories before the
first obstacle, and nothing else changes.  Behind a missing directory the way may be too long for the
calls that make it; then nothing is made at all.
-/

namespace Scaffold.FileTree

/-- A walk cannot go through the place: what stands there is no directory, or its name is too
long. -/
inductive Obstructs (tree : FileTree) : Location → Prop
  | entry {loc : Location} {e : Entry} (there : tree.get? loc = some e) (other : e ≠ .directory) :
      Obstructs tree loc
  | name {here : Location} {part : String} (long : nameLimit < part.utf8ByteSize) :
      Obstructs tree (here ++ [part])

/-- The second tree is the first one with directories at those of the places where nothing is. -/
structure Furnished (places : List Location) (tree tree' : FileTree) : Prop where
  base : tree'.base = tree.base
  made : ∀ loc ∈ places, tree.get? loc = none → tree'.get? loc = some .directory
  kept : ∀ loc e, tree.get? loc = some e → tree'.get? loc = some e
  others : ∀ loc ∉ places, tree'.get? loc = tree.get? loc

/-- How a walk along some places ends that makes what is missing: it goes through all of them or
stops at the first obstacle. -/
inductive Paving (tree : FileTree) (way : List Location) : FileTree × Option Location → Prop
  | through {tree' : FileTree} {dir : Location} (free : ∀ loc ∈ way, ¬ tree.Obstructs loc)
      (furnished : Furnished way tree tree') : Paving tree way (tree', some dir)
  | stopped {before after : List Location} {obstacle : Location} {tree' : FileTree}
      (split : way = before ++ obstacle :: after) (free : ∀ loc ∈ before, ¬ tree.Obstructs loc)
      (obstructs : tree.Obstructs obstacle) (furnished : Furnished before tree tree') :
      Paving tree way (tree', none)

variable {tree tree' : FileTree} {here loc : Location} {part : String} {places way : List Location}

/-! ## Obstacles -/

theorem obstructs_concat_iff :
    tree.Obstructs (here ++ [part]) ↔
      (∃ e, tree.get? (here ++ [part]) = some e ∧ e ≠ .directory) ∨
        nameLimit < part.utf8ByteSize := by
  constructor
  · intro h
    generalize hplace : here ++ [part] = place at h
    cases h with
    | entry there other => exact Or.inl ⟨_, there, other⟩
    | name long =>
        obtain ⟨-, rfl⟩ := List.append_singleton_inj.mp hplace
        exact Or.inr long
  · rintro (⟨e, there, other⟩ | long)
    · exact .entry there other
    · exact .name long

/-- A new directory is no obstacle, and neither is a free place. -/
theorem obstructs_put (free : tree.get? loc = none) (hn : loc ≠ []) (other : Location) :
    (tree.put loc .directory).Obstructs other ↔ tree.Obstructs other := by
  constructor
  · rintro (⟨there, ne⟩ | long)
    · rw [get?_put tree hn] at there
      split at there
      · cases there
        exact absurd rfl ne
      · exact .entry there ne
    · exact .name long
  · rintro (⟨there, ne⟩ | long)
    · refine .entry ?_ ne
      rw [get?_put tree hn, if_neg, there]
      rintro rfl
      rw [free] at there
      cases there
    · exact .name long

/-- A way is free if only directories stand on it and no component is too long. -/
theorem free_iff (tree : FileTree) (here : Location) (parts : List String) :
    (∀ loc ∈ visited here parts, ¬ tree.Obstructs loc) ↔
      (∀ loc ∈ visited here parts, ∀ e, tree.get? loc = some e → e = .directory) ∧
        ∀ part ∈ parts, part.utf8ByteSize ≤ nameLimit := by
  induction parts generalizing here with
  | nil => simp [visited]
  | cons part rest ih =>
      rw [visited]
      split
      · next up =>
          have short : part.utf8ByteSize ≤ nameLimit := by
            rw [up]
            decide
          simp [ih, short]
      · simp only [List.forall_mem_cons, ih, obstructs_concat_iff]
        simp only [not_or, not_exists, not_and, not_not, Nat.not_lt]
        constructor
        · rintro ⟨⟨entry, name⟩, entries, names⟩
          exact ⟨⟨entry, entries⟩, name, names⟩
        · rintro ⟨⟨entry, entries⟩, name, names⟩
          exact ⟨⟨entry, name⟩, entries, names⟩

/-! ## Furnished places -/

namespace Furnished

theorem nil (tree : FileTree) : Furnished [] tree tree where
  base := rfl
  made _ h := absurd h List.not_mem_nil
  kept _ _ h := h
  others _ _ := rfl

theorem cons_there {e : Entry} (there : tree.get? loc = some e)
    (furnished : Furnished places tree tree') : Furnished (loc :: places) tree tree' where
  base := furnished.base
  made other h free := by
    rcases List.mem_cons.mp h with rfl | h
    · rw [there] at free
      cases free
    · exact furnished.made other h free
  kept := furnished.kept
  others other h := furnished.others other (fun hm => h (List.mem_cons_of_mem loc hm))

theorem cons_made (free : tree.get? loc = none) (hn : loc ≠ [])
    (furnished : Furnished places (tree.put loc .directory) tree') :
    Furnished (loc :: places) tree tree' where
  base := furnished.base.trans (base_put tree loc _)
  made other h none := by
    by_cases ho : other = loc
    · apply furnished.kept
      rw [get?_put tree hn, if_pos ho]
    · have there : other ∈ places := (List.mem_cons.mp h).resolve_left ho
      apply furnished.made other there
      rw [get?_put tree hn, if_neg ho, none]
  kept other e h := by
    apply furnished.kept
    rw [get?_put tree hn, if_neg, h]
    rintro rfl
    rw [free] at h
    cases h
  others other h := by
    rw [List.mem_cons, not_or] at h
    rw [furnished.others other h.2, get?_put tree hn, if_neg h.1]

end Furnished

/-! ## The walk -/

namespace Paving

theorem obstructed (obstructs : tree.Obstructs loc) : Paving tree (loc :: way) (tree, none) :=
  .stopped rfl (by simp) obstructs (.nil tree)

/-- A place where a directory stands is gone through. -/
theorem cons_directory {paved : FileTree × Option Location}
    (there : tree.get? loc = some .directory) (free : ¬ tree.Obstructs loc)
    (paving : Paving tree way paved) : Paving tree (loc :: way) paved := by
  cases paving with
  | through rest furnished =>
      exact .through (List.forall_mem_cons.mpr ⟨free, rest⟩) (furnished.cons_there there)
  | stopped split rest obstructs furnished =>
      subst split
      exact .stopped (List.cons_append ..).symm (List.forall_mem_cons.mpr ⟨free, rest⟩) obstructs
        (furnished.cons_there there)

/-- A free place is gone through when its directory is made. -/
theorem cons_made {paved : FileTree × Option Location} (none : tree.get? loc = none)
    (hn : loc ≠ []) (free : ¬ tree.Obstructs loc)
    (paving : Paving (tree.put loc .directory) way paved) : Paving tree (loc :: way) paved := by
  have same (other : Location) := obstructs_put none hn other
  cases paving with
  | through rest furnished =>
      simp only [same] at rest
      exact .through (List.forall_mem_cons.mpr ⟨free, rest⟩) (furnished.cons_made none hn)
  | stopped split rest obstructs furnished =>
      simp only [same] at rest
      subst split
      exact .stopped (List.cons_append ..).symm (List.forall_mem_cons.mpr ⟨free, rest⟩)
        ((same _).mp obstructs) (furnished.cons_made none hn)

end Paving

theorem pave_paving (tree : FileTree) (here : Location) (parts : List String) :
    Paving tree (visited here parts) (tree.pave here parts) := by
  fun_induction pave tree here parts with
  | case1 tree here => exact .through (by simp [visited]) (.nil tree)
  | case2 tree here rest ih => simpa only [visited, if_true] using ih
  | case3 tree here part rest h long =>
      rw [visited, if_neg h]
      exact .obstructed (.name long)
  | case4 tree here part rest h short there ih =>
      rw [visited, if_neg h]
      apply Paving.cons_directory there _ ih
      rw [obstructs_concat_iff, there]
      simp [short]
  | case5 tree here part rest h short e other there =>
      rw [visited, if_neg h]
      exact .obstructed (.entry there fun he => other he)
  | case6 tree here part rest h short free ih =>
      rw [visited, if_neg h]
      apply Paving.cons_made free (by simp) _ ih
      rw [obstructs_concat_iff, free]
      simp [short]

/-! ## Making the directory -/

/-- A directory that was made is found as it is. -/
theorem ensureDirectory_again {path : Path} {limit : Nat} {made : FileTree}
    (h : Disk.on (ensureDirectory path limit) tree = (.ok (), made)) :
    Disk.on (ensureDirectory path limit) made = (.ok (), made) := by
  obtain ⟨left, dir, found⟩ := withDirectory_of_ensured h
  have again : made.withDirectory path limit = (made, some dir) := by
    rw [← found]
    exact withDirectory_again ⟨by rw [left], fun _ => by rw [left]⟩
  have ensured := ensureDirectory_on made path limit
  rwa [again] at ensured

/-- A way that is too deep for the calls is left as it is. -/
theorem ensureDirectory_deep {path : Path} {limit : Nat} (deep : tree.TooDeep path limit) :
    Disk.on (ensureDirectory path limit) tree = (.error .tooDeep, tree) := by
  have blocked : tree.withDirectory path limit = (tree, none) :=
    if_pos (Or.inr (Or.inr deep.deep))
  have ensured := ensureDirectory_on tree path limit
  rw [blocked] at ensured
  obtain ⟨fault, failed, blocks⟩ := ensured
  rw [failed, blocks.deep.mpr deep]

/-- The ways in which the making of a directory ends, if the calls suffice. -/
theorem ensureDirectory_cases (tree : FileTree) {path : Path} {limit : Nat}
    (noNul : hasNul path = false) (short : path.toString.utf8ByteSize < 4096)
    (shallow : tree.behindMissing (tree.start path) path.parts ≤ limit) :
    ((∀ loc ∈ visited (tree.start path) path.parts, ¬ tree.Obstructs loc) ∧
        ∃ made, Disk.on (ensureDirectory path limit) tree = (.ok (), made) ∧
          Furnished (visited (tree.start path) path.parts) tree made) ∨
      ∃ before obstacle after,
        visited (tree.start path) path.parts = before ++ obstacle :: after ∧
          (∀ loc ∈ before, ¬ tree.Obstructs loc) ∧ tree.Obstructs obstacle ∧
            ∃ cause made, Disk.on (ensureDirectory path limit) tree = (.error (.os cause), made) ∧
              Furnished before tree made := by
  have paved : tree.withDirectory path limit = tree.pave (tree.start path) path.parts := by
    unfold withDirectory
    rw [if_neg]
    simp only [noNul, Bool.false_eq_true, false_or, pathLimit]
    omega
  have ensured := ensureDirectory_on tree path limit
  have paving := pave_paving tree (tree.start path) path.parts
  rw [paved] at ensured
  generalize tree.pave (tree.start path) path.parts = walked at ensured paving
  cases paving with
  | through free furnished => exact Or.inl ⟨free, _, ensured, furnished⟩
  | stopped split free obstructs furnished =>
      obtain ⟨fault, failed, blocks⟩ := ensured
      refine Or.inr ⟨_, _, _, split, free, obstructs, ?_⟩
      cases fault with
      | embeddedNul =>
          have nul := blocks.nul.mp rfl
          rw [noNul] at nul
          cases nul
      | tooDeep => exact absurd (blocks.deep.mp rfl).deep (Nat.not_lt.mpr shallow)
      | os cause => exact ⟨cause, _, failed, furnished⟩

/-- Making a directory succeeds exactly if on the way to it stand directories only, no component is
too long, and so many calls may be nested as components stand behind the first missing one.  Then all
that was missing on the way is there, and making it once more changes nothing.  Where the calls do
not suffice nothing is made; else the missing directories before the first obstacle are there. -/
theorem ensureDirectory_furnishes (tree : FileTree) (path : Path) (limit : Nat)
    (noNul : hasNul path = false) (short : path.toString.utf8ByteSize < 4096) :
    let way := visited (tree.start path) path.parts
    let missing := tree.behindMissing (tree.start path) path.parts
    let outcome := Disk.on (ensureDirectory path limit) tree
    (outcome.1 = .ok () ↔
        ((∀ loc ∈ way, ∀ e, tree.get? loc = some e → e = .directory) ∧
          ∀ part ∈ path.parts, part.utf8ByteSize ≤ 255) ∧ missing ≤ limit) ∧
      (outcome.1 = .ok () →
        Furnished way tree outcome.2 ∧
          Disk.on (ensureDirectory path limit) outcome.2 = (.ok (), outcome.2)) ∧
      ∀ fault, outcome.1 = .error fault →
        if limit < missing then fault = .tooDeep ∧ outcome.2 = tree
        else
          (∃ cause, fault = .os cause) ∧
            ∃ before obstacle after, way = before ++ obstacle :: after ∧
              (∀ loc ∈ before, ¬ tree.Obstructs loc) ∧ tree.Obstructs obstacle ∧
                Furnished before tree outcome.2 := by
  intro way missing outcome
  have free := free_iff tree (tree.start path) path.parts
  rcases Nat.lt_or_ge limit missing with deep | shallow
  · have result : outcome = (.error .tooDeep, tree) :=
      ensureDirectory_deep ⟨noNul, Nat.le_of_lt_succ short, deep⟩
    rw [result]
    refine ⟨⟨fun h => (by cases h), fun h => absurd h.2 (Nat.not_le.mpr deep)⟩,
      fun h => (by cases h), fun fault h => ?_⟩
    rw [if_pos deep]
    cases h
    exact ⟨rfl, rfl⟩
  simp only [if_neg (Nat.not_lt.mpr shallow)]
  rcases ensureDirectory_cases tree noNul short shallow with
    ⟨clear, made, done, furnished⟩ | ⟨before, obstacle, after, split, clear, obstructs, cause, made,
      failed, furnished⟩
  · have result : outcome = (.ok (), made) := done
    rw [result]
    refine ⟨⟨fun _ => ⟨free.mp clear, shallow⟩, fun _ => rfl⟩, fun _ => ⟨furnished, ?_⟩, ?_⟩
    · exact ensureDirectory_again done
    · intro fault h
      cases h
  · have result : outcome = (.error (.os cause), made) := failed
    rw [result]
    refine ⟨⟨fun h => (by cases h), fun h => ?_⟩, fun h => (by cases h), ?_⟩
    · have met : obstacle ∈ visited (tree.start path) path.parts := by simp [split]
      exact absurd obstructs (free.mpr h.1 obstacle met)
    · intro fault h
      cases h
      exact ⟨⟨cause, rfl⟩, before, obstacle, after, split, clear, obstructs, furnished⟩

/-- A directory beside a file, in the directory where relative paths start. -/
def besideFile : FileTree :=
  ⟨["w"], [(["w"], .directory), (["w", "d"], .directory), (["w", "f"], .file .empty)]⟩

/-- A way that leaves a new directory again comes to its end in another one, and breaks off at a
file. -/
theorem ensureDirectory_beside_file :
    hasNul "new/../d/sub" = false ∧ (Path.toString "new/../d/sub").utf8ByteSize < 4096 ∧
      (Disk.on (ensureDirectory "new/../d/sub") besideFile).1 = .ok () ∧
      Furnished [["w", "new"], ["w", "d"], ["w", "d", "sub"]] besideFile
        (Disk.on (ensureDirectory "new/../d/sub") besideFile).2 ∧
      ∃ cause, (Disk.on (ensureDirectory "new/../f/sub") besideFile).1 = .error (.os cause) := by
  have noNul : hasNul "new/../d/sub" = false := by decide +kernel
  have short : (Path.toString "new/../d/sub").utf8ByteSize < 4096 := by decide +kernel
  obtain ⟨succeeds, leaves, -⟩ :=
    ensureDirectory_furnishes besideFile "new/../d/sub" callLimit noNul short
  obtain ⟨fails, -, reports⟩ :=
    ensureDirectory_furnishes besideFile "new/../f/sub" callLimit (by decide +kernel)
      (by decide +kernel)
  have way : visited (besideFile.start "new/../d/sub") (Path.parse "new/../d/sub").parts =
      [["w", "new"], ["w", "d"], ["w", "d", "sub"]] := by
    decide +kernel
  have way' : ["w", "f"] ∈
      visited (besideFile.start "new/../f/sub") (Path.parse "new/../f/sub").parts := by
    decide +kernel
  rw [way] at succeeds leaves
  have done : (Disk.on (ensureDirectory "new/../d/sub") besideFile).1 = .ok () := by
    refine succeeds.mpr ⟨⟨?_, by decide +kernel⟩, by decide +kernel⟩
    intro loc hloc e there
    simp only [List.mem_cons, List.not_mem_nil, or_false] at hloc
    rcases hloc with rfl | rfl | rfl
    · exact absurd there (Option.some_ne_none e).symm
    · exact (Option.some.inj there).symm
    · exact absurd there (Option.some_ne_none e).symm
  refine ⟨noNul, short, done, (leaves done).1, ?_⟩
  cases result : (Disk.on (ensureDirectory "new/../f/sub") besideFile).1 with
  | ok =>
      have directory := (fails.mp result).1.1 _ way' (.file .empty) rfl
      cases directory
  | error fault =>
      have report := reports fault result
      rw [if_neg (by decide +kernel)] at report
      obtain ⟨⟨cause, rfl⟩, -⟩ := report
      exact ⟨cause, rfl⟩

/-- A thousand steps into a new directory and out of it again. -/
def backAndForth : Path := ⟨.relative, (List.replicate 500 ["a", ".."]).flatten⟩

/-- Nothing is in the way, and yet the directory is not made. -/
theorem ensureDirectory_back_and_forth :
    hasNul backAndForth = false ∧ backAndForth.toString.utf8ByteSize < 4096 ∧
      (∀ loc ∈ visited [] backAndForth.parts, ∀ e, (FileTree.mk [] []).get? loc ≠ some e) ∧
        (∀ part ∈ backAndForth.parts, part.utf8ByteSize ≤ 255) ∧
          Disk.on (ensureDirectory backAndForth) ⟨[], []⟩ = (.error .tooDeep, ⟨[], []⟩) := by
  have noNul : hasNul backAndForth = false := by decide +kernel
  have short : backAndForth.toString.utf8ByteSize < 4096 :=
    (Path.size_toString .relative (by decide) _).trans_lt (by decide +kernel)
  have way : ∀ loc ∈ visited [] backAndForth.parts, loc = ["a"] := by decide +kernel
  refine ⟨noNul, short, fun loc hloc e there => ?_, by decide +kernel, ?_⟩
  · rw [way loc hloc] at there
    cases there
  · exact ensureDirectory_deep ⟨noNul, Nat.le_of_lt_succ short, by decide +kernel⟩

end Scaffold.FileTree
