import Scaffold.Proofs.FileTree.Likeness

/-!
# Paving a way

A walk along components that makes what is missing and breaks off at the first place that cannot be
entered.  A second walk makes nothing and ends as the first one did.  The components behind the
first missing one are counted: so many calls are nested when the last one is made first.
-/

namespace Scaffold.FileTree

/-- Walk along components and make every directory that is missing.  The walk breaks off at what
is no directory and at a name that is too long; what it made before stays. -/
def pave (tree : FileTree) (here : Location) : List String → FileTree × Option Location
  | [] => (tree, some here)
  | part :: rest =>
      if part = ".." then tree.pave here.dropLast rest
      else if nameLimit < part.utf8ByteSize then (tree, none)
      else
        match tree.get? (here ++ [part]) with
        | some .directory => tree.pave (here ++ [part]) rest
        | some _ => (tree, none)
        | none => (tree.put (here ++ [part]) .directory).pave (here ++ [part]) rest

/-- The places that a walk along components comes to, besides those that `..` leads back to. -/
def visited (here : Location) : List String → List Location
  | [] => []
  | part :: rest =>
      if part = ".." then visited here.dropLast rest
      else (here ++ [part]) :: visited (here ++ [part]) rest

theorem pave_grows (tree : FileTree) (here : Location) (parts : List String) :
    Grows {loc | loc ∈ visited here parts} ∅ tree (tree.pave here parts).1 := by
  fun_induction pave tree here parts with
  | case1 tree here => exact .refl ..
  | case2 tree here rest ih => simpa only [visited, if_true] using ih
  | case3 => exact .refl ..
  | case4 tree here part rest h hl hd ih =>
      refine ih.mono (fun loc hm => ?_) (fun _ hm => hm)
      simp only [visited, h, if_false]
      exact List.mem_cons_of_mem _ hm
  | case5 => exact .refl ..
  | case6 tree here part rest h hl hf ih =>
      have hput := Grows.putDirectory (List.append_ne_nil_of_right_ne_nil here (by simp)) hf
      simp only [visited, h, if_false]
      refine (hput.mono (fun loc hm => ?_) (fun _ hm => hm)).trans
        (ih.mono (fun loc hm => List.mem_cons_of_mem _ hm) (fun _ hm => hm))
      rw [Set.mem_singleton_iff.mp hm]
      exact List.mem_cons_self

theorem pave_append (tree : FileTree) (here : Location) (parts rest : List String) :
    tree.pave here (parts ++ rest) =
      match tree.pave here parts with
      | (tree', some dir) => tree'.pave dir rest
      | (tree', none) => (tree', none) := by
  fun_induction pave tree here parts with
  | case1 tree here => rfl
  | case2 tree here parts ih => rw [List.cons_append, pave, if_pos rfl, ih]
  | case3 tree here part parts h hl => rw [List.cons_append, pave, if_neg h, if_pos hl]
  | case4 tree here part parts h hl hd ih =>
      rw [List.cons_append, pave, if_neg h, if_neg hl, hd]
      exact ih
  | case5 tree here part parts h hl e he hne =>
      rw [List.cons_append, pave, if_neg h, if_neg hl, hne]
      cases e with
      | directory => exact absurd rfl he
      | file content => rfl
      | fullDevice => rfl
  | case6 tree here part parts h hl hf ih =>
      rw [List.cons_append, pave, if_neg h, if_neg hl, hf]
      exact ih

/-- Where everything is there already, nothing is made. -/
theorem pave_of_walk {tree : FileTree} {here dir : Location} {parts : List String}
    (h : tree.walk here parts = .ok dir) : tree.pave here parts = (tree, some dir) := by
  induction parts generalizing here with
  | nil => rw [pave, Except.ok.inj h]
  | cons part rest ih =>
      obtain ⟨next, he, hrest⟩ := (walk_cons_eq_ok_iff ..).mp h
      rcases (enter_eq_ok_iff tree here next part).mp he with ⟨hp, rfl⟩ | ⟨hp, hl, rfl, hd⟩
      · rw [pave, if_pos hp]
        exact ih hrest
      · rw [pave, if_neg hp, if_neg (Nat.not_lt.mpr hl), hd]
        exact ih hrest

/-- A walk that is stopped by more than a missing directory makes nothing. -/
theorem pave_of_blocked {tree : FileTree} {here : Location} {parts : List String} {e : OsError}
    (h : tree.walk here parts = .error e) (hne : e ≠ .notFound) :
    tree.pave here parts = (tree, none) := by
  induction parts generalizing here with
  | nil => cases h
  | cons part rest ih =>
      rw [walk_cons] at h
      cases he : tree.enter here part with
      | ok next =>
          rw [he] at h
          rcases (enter_eq_ok_iff tree here next part).mp he with ⟨hp, rfl⟩ | ⟨hp, hl, rfl, hd⟩
          · rw [pave, if_pos hp]
            exact ih h
          · rw [pave, if_neg hp, if_neg (Nat.not_lt.mpr hl), hd]
            exact ih h
      | error e' =>
          rw [he] at h
          cases Except.error.inj h
          unfold enter at he
          by_cases hp : part = ".."
          · rw [if_pos hp] at he
            cases he
          by_cases hl : nameLimit < part.utf8ByteSize
          · rw [pave, if_neg hp, if_pos hl]
          rw [if_neg hp, if_neg hl] at he
          rw [pave, if_neg hp, if_neg hl]
          cases hs : tree.get? (here ++ [part]) with
          | none =>
              rw [hs] at he
              exact absurd (Except.error.inj he).symm hne
          | some entry =>
              cases entry with
              | directory =>
                  rw [hs] at he
                  cases he
              | file content => rfl
              | fullDevice => rfl

/-- A paved way can be walked. -/
theorem walk_pave {tree tree' : FileTree} {here dir : Location} {parts : List String}
    (h : tree.pave here parts = (tree', some dir)) : tree'.walk here parts = .ok dir := by
  induction parts generalizing tree here with
  | nil =>
      cases h
      rfl
  | cons part rest ih =>
      have grows := pave_grows tree here (part :: rest)
      rw [h] at grows
      rw [walk_cons]
      rw [pave] at h
      split at h
      · next hp =>
          rw [(enter_eq_ok_iff tree' here _ part).mpr (Or.inl ⟨hp, rfl⟩)]
          exact ih h
      · next hp =>
          split at h
          · cases h
          · next hl =>
              have entered (hd : tree'.get? (here ++ [part]) = some .directory) :=
                (enter_eq_ok_iff tree' here _ part).mpr
                  (Or.inr ⟨hp, Nat.not_lt.mp hl, rfl, hd⟩)
              split at h
              · next hd =>
                  rw [entered (grows.directory hd)]
                  exact ih h
              · cases h
              · next hf =>
                  have hput := pave_grows (tree.put (here ++ [part]) .directory)
                    (here ++ [part]) rest
                  rw [h] at hput
                  have hd : (tree.put (here ++ [part]) .directory).get? (here ++ [part]) =
                      some .directory := by
                    rw [get?_put _ (by simp), if_pos rfl]
                  rw [entered (hput.directory hd)]
                  exact ih h

/-- On any tree like the one that was paved, the walk ends as it did and makes nothing more. -/
theorem pave_again {tree other : FileTree} {here : Location} {parts : List String}
    (alike : Alike (tree.pave here parts).1 other) :
    other.pave here parts = (other, (tree.pave here parts).2) := by
  induction parts generalizing tree here with
  | nil => rfl
  | cons part rest ih =>
      rw [pave, pave]
      by_cases hp : part = ".."
      · rw [pave, if_pos hp] at alike
        rw [if_pos hp, if_pos hp]
        exact ih alike
      rw [pave, if_neg hp] at alike
      rw [if_neg hp, if_neg hp]
      by_cases hl : nameLimit < part.utf8ByteSize
      · rw [if_pos hl, if_pos hl]
      rw [if_neg hl] at alike
      rw [if_neg hl, if_neg hl]
      have grows := pave_grows tree (here ++ [part]) rest
      cases hs : tree.get? (here ++ [part]) with
      | none =>
          rw [hs] at alike
          have hput := pave_grows (tree.put (here ++ [part]) .directory) (here ++ [part]) rest
          have hd : (tree.put (here ++ [part]) .directory).get? (here ++ [part]) =
              some .directory := by
            rw [get?_put _ (by simp), if_pos rfl]
          rw [alike.directory (hput.directory hd)]
          exact ih alike
      | some e =>
          rw [hs] at alike
          cases e with
          | directory =>
              rw [alike.directory (grows.directory hs)]
              exact ih alike
          | fullDevice => rw [alike.device hs]
          | file content =>
              obtain ⟨content', hc⟩ := alike.file hs
              rw [hc]

/-! ## Missing components -/

/-- The components behind the first one that is missing, if a walk comes to such a one before
anything stops it. -/
def behindMissing (tree : FileTree) (here : Location) : List String → Nat
  | [] => 0
  | part :: rest =>
      match tree.enter here part with
      | .ok next => tree.behindMissing next rest
      | .error .notFound => rest.length
      | .error _ => 0

section

variable {tree : FileTree} {here dir : Location} {parts : List String}

theorem behindMissing_append_of_walk (h : tree.walk here parts = .ok dir) (rest : List String) :
    tree.behindMissing here (parts ++ rest) = tree.behindMissing dir rest := by
  induction parts generalizing here with
  | nil =>
      cases h
      rfl
  | cons part parts ih =>
      obtain ⟨next, entered, walked⟩ := (walk_cons_eq_ok_iff ..).mp h
      rw [List.cons_append, behindMissing, entered]
      exact ih walked

theorem behindMissing_of_walk (h : tree.walk here parts = .ok dir) :
    tree.behindMissing here parts = 0 := by
  have none := behindMissing_append_of_walk h []
  rwa [List.append_nil] at none

theorem behindMissing_of_blocked {e : OsError} (h : tree.walk here parts = .error e)
    (hne : e ≠ .notFound) (rest : List String) : tree.behindMissing here (parts ++ rest) = 0 := by
  induction parts generalizing here with
  | nil => cases h
  | cons part parts ih =>
      rw [walk_cons] at h
      rw [List.cons_append, behindMissing]
      cases entered : tree.enter here part with
      | ok next =>
          rw [entered] at h
          exact ih h
      | error cause =>
          rw [entered] at h
          cases h
          cases e <;> first | rfl | exact absurd rfl hne

/-- Nothing stands behind the last component. -/
theorem behindMissing_last (tree : FileTree) (here : Location) (last : String) :
    tree.behindMissing here [last] = 0 := by
  rw [behindMissing]
  split <;> rfl

/-- One component more stands behind the missing one. -/
theorem behindMissing_concat (h : tree.walk here parts = .error .notFound) (last : String) :
    tree.behindMissing here (parts ++ [last]) = tree.behindMissing here parts + 1 := by
  induction parts generalizing here with
  | nil => cases h
  | cons part parts ih =>
      rw [walk_cons] at h
      rw [List.cons_append, behindMissing, behindMissing]
      cases entered : tree.enter here part with
      | ok next =>
          rw [entered] at h
          exact ih h
      | error cause =>
          rw [entered] at h
          cases h
          exact List.length_append

theorem behindMissing_le (tree : FileTree) (here : Location) (parts : List String) :
    tree.behindMissing here parts ≤ parts.length := by
  induction parts generalizing here with
  | nil => exact Nat.le_refl 0
  | cons part parts ih =>
      rw [behindMissing, List.length_cons]
      split
      · exact Nat.le_succ_of_le (ih _)
      · exact Nat.le_succ _
      · exact Nat.zero_le _

theorem behindMissing_of_alike {other : FileTree} (alike : Alike tree other) (here : Location)
    (parts : List String) : other.behindMissing here parts = tree.behindMissing here parts := by
  induction parts generalizing here with
  | nil => rfl
  | cons part parts ih =>
      rw [behindMissing, behindMissing, enter_of_alike alike]
      simp only [ih]

/-- A second walk misses nothing: it ends where the first one did, or is stopped where that was. -/
theorem behindMissing_pave (tree : FileTree) (here : Location) (parts : List String) :
    (tree.pave here parts).1.behindMissing here parts = 0 := by
  induction parts generalizing tree here with
  | nil => rfl
  | cons part rest ih =>
      have grows := pave_grows tree here (part :: rest)
      rw [behindMissing]
      rw [pave] at grows ⊢
      by_cases hp : part = ".."
      · rw [if_pos hp, (enter_eq_ok_iff _ here _ part).mpr (Or.inl ⟨hp, rfl⟩)]
        exact ih tree here.dropLast
      rw [if_neg hp] at grows ⊢
      by_cases hl : nameLimit < part.utf8ByteSize
      · simp only [if_pos hl, enter, if_neg hp]
      rw [if_neg hl] at grows ⊢
      have entered (tree' : FileTree) (hd : tree'.get? (here ++ [part]) = some .directory) :=
        (enter_eq_ok_iff tree' here _ part).mpr (Or.inr ⟨hp, Nat.not_lt.mp hl, rfl, hd⟩)
      cases hs : tree.get? (here ++ [part]) with
      | none =>
          have hput := pave_grows (tree.put (here ++ [part]) .directory) (here ++ [part]) rest
          have hd : (tree.put (here ++ [part]) .directory).get? (here ++ [part]) =
              some .directory := by
            rw [get?_put _ (by simp), if_pos rfl]
          simp only [entered _ (hput.directory hd)]
          exact ih (tree.put (here ++ [part]) .directory) (here ++ [part])
      | some e =>
          rw [hs] at grows
          cases e with
          | directory =>
              simp only [entered _ (grows.directory hs)]
              exact ih tree (here ++ [part])
          | file content => simp only [enter, if_neg hp, if_neg hl, hs]
          | fullDevice => simp only [enter, if_neg hp, if_neg hl, hs]

end

end Scaffold.FileTree
