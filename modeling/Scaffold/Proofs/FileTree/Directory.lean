import Scaffold.Proofs.FileTree.Paving
import Scaffold.Proofs.Path.Parts

/-!
# Making a directory

The recursion that tries the whole path first, and the path above it where that is missing, leaves
the tree that one walk from the start of the path leaves, and succeeds exactly when that walk comes
to its end.  Where more components are missing than calls may be nested, it makes nothing.
-/

namespace Scaffold.FileTree

variable (tree : FileTree)

/-! ## One step -/

theorem hasNul_init {anchor : Anchor} {init : List String} {last : String}
    (h : hasNul ⟨anchor, init ++ [last]⟩ = false) : hasNul ⟨anchor, init⟩ = false := by
  simp only [hasNul, List.any_append, Bool.or_eq_false_iff] at h ⊢
  exact h.1

/-- Where a path with a last component leads. -/
theorem target_concat (anchor : Anchor) (init : List String) (last : String)
    (hlen : (Path.toString ⟨anchor, init ++ [last]⟩).utf8ByteSize ≤ pathLimit) :
    tree.target ⟨anchor, init ++ [last]⟩ =
      match tree.walk (tree.start ⟨anchor, init⟩) init with
      | .error e => .error e
      | .ok dir =>
          if last = ".." then .ok (.directory dir.dropLast)
          else if nameLimit < last.utf8ByteSize then .error .nameTooLong
          else .ok (.place (dir ++ [last])) := by
  simp only [target, if_neg (Nat.not_lt.mpr hlen), List.getLast?_append, List.getLast?_singleton,
    Option.some_or, List.dropLast_concat]
  change (tree.walk (tree.start ⟨anchor, init⟩) init >>= _) = _
  cases tree.walk (tree.start ⟨anchor, init⟩) init <;> rfl

theorem makeDirectory_on {path : Path} (hnul : hasNul path = false) :
    Disk.on (makeDirectory path) tree =
      match tree.target path with
      | .error e => (.error (.os e), tree)
      | .ok (.directory _) => (.error (.os .exists), tree)
      | .ok (.place loc) =>
          match tree.get? loc with
          | some _ => (.error (.os .exists), tree)
          | none => (.ok (), tree.put loc .directory) := by
  simp only [makeDirectory, hnul, Bool.false_eq_true, if_false, Disk.on_bind, Disk.on_get]
  cases tree.target path with
  | error e => rfl
  | ok target =>
      cases target with
      | directory loc => rfl
      | place loc =>
          simp only [Disk.on_bind, Disk.on_get]
          cases tree.get? loc <;> rfl

theorem acceptDirectory_on (path : Path) (cause : OsError) (hne : cause ≠ .notFound) :
    Disk.on (acceptDirectory path (.os cause)) tree =
      match tree.isDirectory path with
      | .ok true => (.ok (), tree)
      | .ok false => (.error (.os cause), tree)
      | .error e => (.error (.os e), tree) := by
  cases cause with
  | notFound => exact absurd rfl hne
  | _ =>
      simp only [acceptDirectory, Disk.on_bind, Disk.on_get]
      cases tree.isDirectory path with
      | error e => rfl
      | ok there => cases there <;> rfl

theorem isDirectory_eq {path : Path} (hnul : hasNul path = false) :
    tree.isDirectory path =
      match tree.target path with
      | .error .notFound | .error .notDirectory => .ok false
      | .error e => .error e
      | .ok (.directory _) => .ok true
      | .ok (.place loc) =>
          match tree.get? loc with
          | some .directory => .ok true
          | _ => .ok false := by
  simp only [isDirectory, isKind, hnul, Bool.false_eq_true, if_false, find]
  cases tree.target path with
  | error e => cases e <;> rfl
  | ok target =>
      cases target with
      | directory loc => rfl
      | place loc =>
          simp only [bind, Except.bind]
          cases tree.get? loc with
          | none => rfl
          | some e => cases e <;> rfl

/-! ## The whole way -/

/-- An outcome of making a directory agrees with a walk that paves the way to it. -/
def Agrees (paved : FileTree × Option Location) (done : Except DiskFault Unit × FileTree) : Prop :=
  match paved.2 with
  | some _ => done = (.ok (), paved.1)
  | none => ∃ cause, done = (.error (.os cause), paved.1)

/-- The last component, made in a directory that can be walked to; refusals are accepted where a
directory stands. -/
theorem makeLast_agrees {anchor : Anchor} {init : List String} {last : String} {dir : Location}
    (hnul : hasNul ⟨anchor, init ++ [last]⟩ = false)
    (hlen : (Path.toString ⟨anchor, init ++ [last]⟩).utf8ByteSize ≤ pathLimit)
    (hwalk : tree.walk (tree.start ⟨anchor, init⟩) init = .ok dir)
    (handle : DiskFault → Disk DiskFault Unit)
    (hhandle : ∀ cause, cause ≠ .notFound →
      handle (.os cause) = acceptDirectory ⟨anchor, init ++ [last]⟩ (.os cause)) :
    Agrees (tree.pave dir [last])
      (Disk.on (tryCatch (makeDirectory ⟨anchor, init ++ [last]⟩) handle) tree) := by
  have htarget := target_concat tree anchor init last hlen
  rw [hwalk] at htarget
  simp only at htarget
  have hexists := acceptDirectory_on tree ⟨anchor, init ++ [last]⟩ .exists (by decide)
  rw [Disk.on_tryCatch, makeDirectory_on tree hnul, pave]
  by_cases hp : last = ".."
  · rw [if_pos hp] at htarget ⊢
    simp only [htarget, hhandle .exists (by decide), hexists, isDirectory_eq tree hnul]
    rfl
  rw [if_neg hp] at htarget ⊢
  by_cases hl : nameLimit < last.utf8ByteSize
  · rw [if_pos hl] at htarget ⊢
    simp only [htarget, hhandle .nameTooLong (by decide),
      acceptDirectory_on tree _ .nameTooLong (by decide), isDirectory_eq tree hnul]
    exact ⟨.nameTooLong, rfl⟩
  rw [if_neg hl] at htarget ⊢
  cases hs : tree.get? (dir ++ [last]) with
  | none =>
      simp only [htarget, hs]
      rfl
  | some e =>
      simp only [htarget, hs, hhandle .exists (by decide), hexists, isDirectory_eq tree hnul]
      cases e with
      | directory => rfl
      | file content => exact ⟨.exists, rfl⟩
      | fullDevice => exact ⟨.exists, rfl⟩

/-- Where the parent is missing, it is made first and then the last component in it. -/
theorem ensureMissing_agrees {anchor : Anchor} {init : List String} {last : String}
    (hnul : hasNul ⟨anchor, init ++ [last]⟩ = false)
    (hlen : (Path.toString ⟨anchor, init ++ [last]⟩).utf8ByteSize ≤ pathLimit)
    {ensureParent : Disk DiskFault Unit}
    (parent : Agrees (tree.pave (tree.start ⟨anchor, init⟩) init) (Disk.on ensureParent tree)) :
    Agrees (tree.pave (tree.start ⟨anchor, init⟩) (init ++ [last]))
      (Disk.on (do
        ensureParent
        tryCatch (makeDirectory ⟨anchor, init ++ [last]⟩)
          (acceptDirectory ⟨anchor, init ++ [last]⟩)) tree) := by
  rw [pave_append, Disk.on_bind]
  cases hpave : tree.pave (tree.start ⟨anchor, init⟩) init with
  | mk tree' found =>
      rw [hpave] at parent
      cases found with
      | none =>
          obtain ⟨cause, hc⟩ := parent
          rw [hc]
          exact ⟨cause, rfl⟩
      | some dir =>
          have done : Disk.on ensureParent tree = (.ok (), tree') := parent
          have grows := pave_grows tree (tree.start ⟨anchor, init⟩) init
          rw [hpave] at grows
          have walked := walk_pave hpave
          rw [← grows.start] at walked
          rw [done]
          exact makeLast_agrees tree' hnul hlen walked _ (fun cause _ => rfl)

/-- An outcome of making a directory by nested calls agrees with a walk, if the calls suffice;
else nothing is made. -/
def Comes (limit missing : Nat) (paved : FileTree × Option Location)
    (done : Except DiskFault Unit × FileTree) : Prop :=
  if limit < missing then done = (.error .tooDeep, tree) else Agrees paved done

section

variable {limit missing : Nat} {paved : FileTree × Option Location}
  {done : Except DiskFault Unit × FileTree}

theorem comes_zero : tree.Comes limit 0 paved done ↔ Agrees paved done := by
  rw [Comes, if_neg (Nat.not_lt_zero limit)]

/-- One call more makes one component more. -/
theorem Comes.succ (deep : limit < missing → done = (.error .tooDeep, tree))
    (enough : ¬ limit < missing → Agrees paved done) :
    tree.Comes (limit + 1) (missing + 1) paved done := by
  rw [Comes]
  split
  · next h => exact deep (Nat.lt_of_succ_lt_succ h)
  · next h => exact enough fun h' => h (Nat.succ_lt_succ h')

end

/-- Trying the whole path first comes to the same as one walk. -/
theorem ensureParts_comes (anchor : Anchor) (limit : Nat) (parts : List String)
    (hnul : hasNul ⟨anchor, parts.reverse⟩ = false)
    (hlen : (Path.toString ⟨anchor, parts.reverse⟩).utf8ByteSize ≤ pathLimit) :
    tree.Comes limit (tree.behindMissing (tree.start ⟨anchor, parts.reverse⟩) parts.reverse)
      (tree.pave (tree.start ⟨anchor, parts.reverse⟩) parts.reverse)
      (Disk.on (ensureParts anchor limit parts) tree) := by
  induction parts generalizing limit with
  | nil =>
      rw [List.reverse_nil] at hnul hlen ⊢
      have htarget : tree.target ⟨anchor, []⟩ = .ok (.directory (tree.start ⟨anchor, []⟩)) := by
        simp only [target, if_neg (Nat.not_lt.mpr hlen), List.getLast?_nil]
      rw [behindMissing, comes_zero, ensureParts, Disk.on_tryCatch, makeDirectory_on tree hnul]
      simp only [htarget, acceptDirectory_on tree ⟨anchor, []⟩ .exists (by decide),
        isDirectory_eq tree hnul]
      rfl
  | cons last rest ih =>
      rw [List.reverse_cons] at hnul hlen ⊢
      have hle := Path.size_dropLast_le anchor rest.reverse last
      have ih := fun limit => ih limit (hasNul_init hnul) (Nat.le_trans hle hlen)
      have hstart : tree.start ⟨anchor, rest.reverse ++ [last]⟩ =
          tree.start ⟨anchor, rest.reverse⟩ := rfl
      rw [hstart, ensureParts, List.reverse_cons]
      cases hw : tree.walk (tree.start ⟨anchor, rest.reverse⟩) rest.reverse with
      | ok dir =>
          have missing : tree.behindMissing (tree.start ⟨anchor, rest.reverse⟩)
              (rest.reverse ++ [last]) = 0 := by
            rw [behindMissing_append_of_walk hw, behindMissing_last]
          rw [missing, comes_zero, pave_append, pave_of_walk hw]
          exact makeLast_agrees tree hnul hlen hw _ (fun cause hne => by cases cause <;> trivial)
      | error e =>
          have htarget := target_concat tree anchor rest.reverse last hlen
          rw [hw] at htarget
          simp only at htarget
          by_cases hne : e = .notFound
          · subst hne
            have refused : Disk.on (makeDirectory ⟨anchor, rest.reverse ++ [last]⟩) tree =
                (.error (.os .notFound), tree) := by
              rw [makeDirectory_on tree hnul, htarget]
            rw [Disk.on_tryCatch, refused, behindMissing_concat hw]
            cases limit with
            | zero =>
                rw [Comes, if_pos (Nat.succ_pos _)]
                rfl
            | succ limit =>
                have parent := ih limit
                refine .succ tree (fun deep => ?_) fun enough => ?_
                · rw [Comes, if_pos deep] at parent
                  exact Disk.on_bind_error parent _
                · rw [Comes, if_neg enough] at parent
                  exact ensureMissing_agrees tree hnul hlen parent
          · rw [behindMissing_of_blocked hw hne, comes_zero, Disk.on_tryCatch,
              makeDirectory_on tree hnul]
            simp only [htarget]
            rw [pave_append, pave_of_blocked hw hne]
            have hfault : Disk.on (acceptDirectory ⟨anchor, rest.reverse ++ [last]⟩ (.os e)) tree =
                (.error (.os e), tree) := by
              rw [acceptDirectory_on tree _ e hne, isDirectory_eq tree hnul, htarget]
              cases e <;> rfl
            refine ⟨e, ?_⟩
            cases e <;> first | exact hfault | exact absurd rfl hne

/-- More components are missing behind the first missing one of a path than calls may be nested. -/
structure TooDeep (path : Path) (limit : Nat) : Prop where
  noNul : hasNul path = false
  short : path.toString.utf8ByteSize ≤ pathLimit
  deep : limit < tree.behindMissing (tree.start path) path.parts

/-- The tree in which a directory was made, with its place if that succeeds. -/
def withDirectory (path : Path) (limit : Nat := callLimit) : FileTree × Option Location :=
  if hasNul path ∨ pathLimit < path.toString.utf8ByteSize ∨
      limit < tree.behindMissing (tree.start path) path.parts then (tree, none)
  else tree.pave (tree.start path) path.parts

theorem withDirectory_grows (path : Path) (limit : Nat := callLimit) :
    Grows {loc | loc ∈ visited (tree.start path) path.parts} ∅ tree
      (tree.withDirectory path limit).1 := by
  unfold withDirectory
  split
  · exact .refl ..
  · exact pave_grows tree _ _

section

variable {tree other : FileTree} {path : Path} {limit : Nat}

/-- A second attempt on any tree like the one that the first one left makes nothing more and ends as
the first one did. -/
theorem withDirectory_again (alike : Alike (tree.withDirectory path limit).1 other) :
    other.withDirectory path limit = (other, (tree.withDirectory path limit).2) := by
  have hstart : other.start path = tree.start path := by
    rw [alike.start, (withDirectory_grows tree path limit).start]
  unfold withDirectory at alike ⊢
  rw [hstart]
  by_cases h : hasNul path ∨ pathLimit < path.toString.utf8ByteSize ∨
      limit < tree.behindMissing (tree.start path) path.parts
  · rw [if_pos h] at alike ⊢
    rw [behindMissing_of_alike alike, if_pos h]
  · rw [if_neg h] at alike ⊢
    have missing : other.behindMissing (tree.start path) path.parts = 0 := by
      rw [behindMissing_of_alike alike, behindMissing_pave]
    rw [missing, if_neg fun h' => h (h'.imp_right fun h' => Or.inl (h'.resolve_right (by omega)))]
    exact pave_again alike

/-- Whether the calls suffice does not change by a first attempt. -/
theorem tooDeep_again (alike : Alike (tree.withDirectory path limit).1 other) :
    other.TooDeep path limit ↔ tree.TooDeep path limit := by
  have hstart : other.start path = tree.start path := by
    rw [alike.start, (withDirectory_grows tree path limit).start]
  by_cases h : hasNul path ∨ pathLimit < path.toString.utf8ByteSize ∨
      limit < tree.behindMissing (tree.start path) path.parts
  · rw [withDirectory, if_pos h] at alike
    have same := behindMissing_of_alike alike (tree.start path) path.parts
    constructor
    · rintro ⟨noNul, short, deep⟩
      rw [hstart, same] at deep
      exact ⟨noNul, short, deep⟩
    · rintro ⟨noNul, short, deep⟩
      refine ⟨noNul, short, ?_⟩
      rwa [hstart, same]
  · rw [withDirectory, if_neg h] at alike
    have missing : other.behindMissing (tree.start path) path.parts = 0 := by
      rw [behindMissing_of_alike alike, behindMissing_pave]
    constructor
    · rintro ⟨-, -, deep⟩
      rw [hstart, missing] at deep
      exact absurd deep (Nat.not_lt_zero limit)
    · rintro ⟨-, -, deep⟩
      exact absurd (Or.inr (Or.inr deep)) h

/-- A directory that was made is found on every grown tree, and on those like it. -/
theorem withDirectory_kept {made written : Set Location} {final : FileTree} {dir : Location}
    (found : (tree.withDirectory path limit).2 = some dir)
    (grows : Grows made written (tree.withDirectory path limit).1 final)
    (alike : Alike final other) : other.withDirectory path limit = (other, some dir) := by
  have hstart : other.start path = tree.start path := by
    rw [alike.start, grows.start, (withDirectory_grows tree path limit).start]
  unfold withDirectory at found grows ⊢
  split at found
  · cases found
  · next h =>
      rw [if_neg h] at grows
      cases hpave : tree.pave (tree.start path) path.parts with
      | mk paved end? =>
          rw [hpave] at found grows
          simp only at found
          subst found
          have hwalk := walk_of_grows grows (walk_pave hpave)
          rw [← walk_of_alike alike, ← hstart] at hwalk
          rw [behindMissing_of_walk hwalk, if_neg]
          · exact pave_of_walk hwalk
          · exact fun h' => h (h'.imp_right fun h' => Or.inl (h'.resolve_right (by omega)))

end

/-- A refusal that no missing directory explains, and that is not accepted, stays. -/
theorem ensureDirectory_refused {path : Path} {fault : DiskFault} (limit : Nat)
    (refused : Disk.on (makeDirectory path) tree = (.error fault, tree))
    (hne : fault ≠ .os .notFound)
    (kept : Disk.on (acceptDirectory path fault) tree = (.error fault, tree)) :
    Disk.on (ensureDirectory path limit) tree = (.error fault, tree) := by
  obtain ⟨anchor, parts⟩ := path
  unfold ensureDirectory
  rcases List.eq_nil_or_concat parts with rfl | ⟨init, last, rfl⟩
  · rw [List.reverse_nil, ensureParts, Disk.on_tryCatch, refused]
    exact kept
  · have hparts : (last :: init.reverse).reverse = init ++ [last] := by
      rw [List.reverse_cons, List.reverse_reverse]
    rw [List.concat_eq_append] at refused kept ⊢
    rw [List.reverse_append, List.reverse_singleton, List.singleton_append, ensureParts, hparts,
      Disk.on_tryCatch, refused]
    cases fault with
    | embeddedNul | tooDeep => exact kept
    | os cause =>
        cases cause with
        | notFound => exact absurd rfl hne
        | _ => exact kept

/-- Why making a directory fails, if not by the file system: the path holds a NUL character, or the
calls do not suffice. -/
structure Blocks (path : Path) (limit : Nat) (fault : DiskFault) : Prop where
  nul : fault = .embeddedNul ↔ hasNul path = true
  deep : fault = .tooDeep ↔ tree.TooDeep path limit

/-- What making a directory does: it succeeds where the walk comes to its end, and leaves the paved
tree also where it fails. -/
theorem ensureDirectory_on (path : Path) (limit : Nat := callLimit) :
    match (tree.withDirectory path limit).2 with
    | some _ =>
        Disk.on (ensureDirectory path limit) tree = (.ok (), (tree.withDirectory path limit).1)
    | none => ∃ fault, Disk.on (ensureDirectory path limit) tree =
        (.error fault, (tree.withDirectory path limit).1) ∧ tree.Blocks path limit fault := by
  have hpath : (⟨path.anchor, path.parts.reverse.reverse⟩ : Path) = path := by
    rw [List.reverse_reverse]
  unfold withDirectory
  cases hnul : hasNul path with
  | true =>
      simp only [true_or, if_true]
      refine ⟨.embeddedNul, ensureDirectory_refused tree limit ?_ (by simp) rfl, by simp [hnul], ?_⟩
      · simp only [makeDirectory, hnul, if_true, Disk.on_bind, Disk.on_throw]
      · refine ⟨fun h => (by cases h), fun h => ?_⟩
        rw [h.noNul] at hnul
        cases hnul
  | false =>
      by_cases hlen : pathLimit < path.toString.utf8ByteSize
      · have htarget : tree.target path = .error .nameTooLong := by
          rw [target, if_pos hlen]
        simp only [hlen, true_or, or_true, if_true]
        refine ⟨.os .nameTooLong, ensureDirectory_refused tree limit ?_ (by simp) ?_,
          by simp [hnul], ?_⟩
        · rw [makeDirectory_on tree hnul, htarget]
        · rw [acceptDirectory_on tree path _ (by decide), isDirectory_eq tree hnul, htarget]
        · exact ⟨fun h => (by cases h), fun h => absurd h.short (Nat.not_le.mpr hlen)⟩
      · have comes := ensureParts_comes tree path.anchor limit path.parts.reverse
          (by rw [hpath]; exact hnul) (by rw [hpath]; exact Nat.not_lt.mp hlen)
        rw [hpath, List.reverse_reverse, Comes] at comes
        simp only [hlen, Bool.false_eq_true, false_or]
        by_cases deep : limit < tree.behindMissing (tree.start path) path.parts
        · rw [if_pos deep] at comes ⊢
          exact ⟨.tooDeep, comes, by simp [hnul],
            fun _ => ⟨hnul, Nat.not_lt.mp hlen, deep⟩, fun _ => rfl⟩
        · rw [if_neg deep] at comes ⊢
          unfold Agrees at comes
          split at comes
          · exact comes
          · obtain ⟨cause, hc⟩ := comes
            exact ⟨.os cause, hc, by simp [hnul],
              fun h => (by cases h), fun h => absurd h.deep deep⟩

variable {tree} {path : Path} {limit : Nat} {made : FileTree}

/-- Where making a directory succeeds, the tree is the paved one. -/
theorem withDirectory_of_ensured (h : Disk.on (ensureDirectory path limit) tree = (.ok (), made)) :
    (tree.withDirectory path limit).1 = made ∧
      ∃ dir, (tree.withDirectory path limit).2 = some dir := by
  have ensured := ensureDirectory_on tree path limit
  cases found : (tree.withDirectory path limit).2 with
  | some dir =>
      rw [found, h] at ensured
      exact ⟨(Prod.mk.inj ensured).2.symm, dir, rfl⟩
  | none =>
      rw [found] at ensured
      obtain ⟨fault, hfault, -⟩ := ensured
      rw [h] at hfault
      cases hfault

/-- Where making a directory fails, the tree is paved up to the obstacle. -/
theorem withDirectory_of_blocked {fault : DiskFault}
    (h : Disk.on (ensureDirectory path limit) tree = (.error fault, made)) :
    (tree.withDirectory path limit).1 = made ∧ tree.Blocks path limit fault := by
  have ensured := ensureDirectory_on tree path limit
  cases found : (tree.withDirectory path limit).2 with
  | some dir =>
      rw [found, h] at ensured
      cases ensured
  | none =>
      rw [found] at ensured
      obtain ⟨fault', hfault, blocks⟩ := ensured
      rw [h] at hfault
      cases hfault
      exact ⟨rfl, blocks⟩

/-- Whether or not a directory can be made, what is new are directories on the way to it. -/
theorem ensureDirectory_grows (tree : FileTree) (path : Path) (limit : Nat := callLimit) :
    Grows {loc | loc ∈ visited (tree.start path) path.parts} ∅ tree
      (Disk.on (ensureDirectory path limit) tree).2 := by
  have grows := withDirectory_grows tree path limit
  cases ensured : Disk.on (ensureDirectory path limit) tree with
  | mk result made =>
      cases result with
      | ok => rwa [(withDirectory_of_ensured ensured).1] at grows
      | error fault => rwa [(withDirectory_of_blocked ensured).1] at grows

end Scaffold.FileTree
