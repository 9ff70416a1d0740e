import Scaffold.Proofs.Generation.Sequence

/-!
# The frame of a generation

What a generation leaves alone, whether it succeeds or fails: nothing goes away or becomes something
else, and new or changed are at most the files of the steps that it came to and the directories on
the ways to them.
-/

namespace Scaffold.Generator

/-- The steps that were attempted: those that were completed and the next one, if there is a
domain. -/
def attempted (g : Generator) (r : Request) (completed : List Step) : List Step :=
  if r.domain = "" then [] else (g.plan r).take (completed.length + 1)

/-- Steps behind the one that fails might as well not be there. -/
theorem renderAll_take (g : Generator) (data : FillData) (steps : List Step) (tree : FileTree) :
    ((g.renderAll data
        (steps.take (((g.renderAll data steps).run tree).1.completed.length + 1))).run tree).2 =
      ((g.renderAll data steps).run tree).2 := by
  induction steps generalizing tree with
  | nil => rfl
  | cons step rest ih =>
      cases h : Disk.on (g.renderStep data step) tree with
      | mk outcome tree' =>
          cases outcome with
          | error failure =>
              rw [renderAll_failed rest h, List.length_nil, List.take_succ_cons,
                renderAll_failed _ h]
          | ok =>
              rw [renderAll_completed rest h, List.length_cons, List.take_succ_cons,
                renderAll_completed _ h, ih]

/-- New are at most the directories above the files of the attempted steps and these files. -/
theorem renderAll_grows_attempted (g : Generator) (data : FillData) (steps : List Step)
    (tree : FileTree) {attempt : Attempt} {final : FileTree}
    (run : (g.renderAll data steps).run tree = (attempt, final)) :
    FileTree.Grows (waysTo (steps.take (attempt.completed.length + 1)) tree)
      (placesOf (steps.take (attempt.completed.length + 1)) tree) tree final := by
  have left := renderAll_take g data steps tree
  have grows := renderAll_grows g data (steps.take (attempt.completed.length + 1)) tree
  simp only [run] at left
  rwa [left] at grows

/-- However a generation ends, entries stay and remain what they are, only the files of the
attempted steps change their contents, and what is new is one of these files or a directory on the
way to one of them. -/
theorem generate_frame (g : Generator) (r : Request) (tree : FileTree) :
    ∃ completed outcome log final,
      (generate g r).run tree = ((completed, outcome, log), final) ∧
      FileTree.Grows (waysTo (g.attempted r completed) tree)
        (placesOf (g.attempted r completed) tree) tree final := by
  by_cases hd : r.domain = ""
  · exact ⟨_, _, _, _, generate_refused g hd tree, .refl ..⟩
  · refine ⟨_, _, _, _, generate_run g hd tree, ?_⟩
    rw [attempted, if_neg hd]
    exact renderAll_grows_attempted g (g.fillData r) (g.plan r) tree rfl

end Scaffold.Generator
