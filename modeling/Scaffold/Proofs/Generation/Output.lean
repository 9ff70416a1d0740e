import Scaffold.Proofs.Generation.Step
import Scaffold.Proofs.Template.Compilation
import Scaffold.Proofs.Template.Execution

/-!
# The output of documented templates

Rendering a documented template to a file that takes data gives the file the lines that remain,
with the fields in their places.  An unknown name that is come to ends the output there, unless it
is another spelling of a field.
-/

namespace Scaffold

open Template

/-- The directories above the file can be made and the file can be opened, and it takes data. -/
def Writable (tree : FileTree) (path : Path) : Prop :=
  ∃ loc opened,
    Disk.on (do
      Render.makeParents path
      Render.createFile path) tree = (.ok loc, opened) ∧
    opened.get? loc ≠ some .fullDevice

variable {bundle : Bundle} {resource : String} {path : Path} {tree : FileTree}

theorem Writable.opened (h : Writable tree path) :
    ∃ dir loc, (tree.withDirectory path.parent).2 = some dir ∧
      (tree.withDirectory path.parent).1.placeToOpen path = .ok loc ∧
      (tree.withDirectory path.parent).1.get? loc ≠ some .fullDevice := by
  obtain ⟨loc, opened, hopen, takes⟩ := h
  have parents := Render.makeParents_on path tree
  cases made : (tree.withDirectory path.parent).2 with
  | none =>
      rw [made] at parents
      obtain ⟨fault, hfault, -⟩ := parents
      rw [Disk.on_bind_error hfault] at hopen
      cases hopen
  | some dir =>
      rw [made] at parents
      rw [Disk.on_bind_ok parents, Render.createFile_on] at hopen
      cases place : (tree.withDirectory path.parent).1.placeToOpen path with
      | error fault =>
          rw [place] at hopen
          cases hopen
      | ok loc' =>
          rw [place] at hopen
          cases hopen
          have target := ((FileTree.placeToOpen_eq_ok_iff _ path loc).mp place).2.1
          have hn := FileTree.place_ne_nil target
          refine ⟨dir, loc, rfl, rfl, fun device => takes ?_⟩
          exact (FileTree.get?_withContent_device _ hn .empty).mpr device

/-- A file that takes data holds what a program wrote, also where it stopped. -/
theorem render_on_writable {program : Program} {data : List (String × Value)} {draws : Draws}
    (read : bundle.program resource = .ok program) (writable : Writable tree path) :
    ∃ final, Disk.on (render bundle resource path data draws) tree =
        (match (program.run data draws).trouble? with
          | some trouble => .error (.generation ⟨.executeTemplate, resource, .trouble trouble⟩)
          | none => .ok (), final) ∧
      final.readBytes path = .ok (program.run data draws).text.toUTF8 := by
  obtain ⟨dir, loc, made, opened, takes⟩ := writable.opened
  exact ⟨_, render_filled data draws read made opened (fun device => absurd device takes),
    FileTree.readBytes_withContent opened (fun device => absurd device takes)⟩

/-- A program that ends is written in full to a file that takes data. -/
theorem render_to_writable {program : Program} {data : List (String × Value)} {draws : Draws}
    (read : bundle.program resource = .ok program) (writable : Writable tree path)
    (ended : (program.run data draws).trouble? = none) :
    ∃ final, Disk.on (render bundle resource path data draws) tree = (.ok (), final) ∧
      final.readBytes path = .ok (program.run data draws).text.toUTF8 := by
  obtain ⟨final, written⟩ :=
    @render_on_writable bundle resource path tree program data draws read writable
  rw [ended] at written
  exact ⟨final, written⟩

theorem Bundle.program_of_compiles {text : String} {program : Program}
    (source : bundle.get? resource = some text) (compiles : compile text = .ok program) :
    bundle.program resource = .ok program := by
  rw [Bundle.program_eq, source]
  simp only [compiles]

/-- The program of a form writes what the form comes to, up to the first unknown name, and draws
nothing. -/
theorem Bundle.program_of_spelled {f : Form} (ws : f.WellSpelled) (apart : SpelledApart f.names)
    (source : bundle.get? resource = some (String.ofList f.source)) :
    ∃ program, bundle.program resource = .ok program ∧
      ∀ (d : FillData) (draws : Draws), program.run d.context draws =
        ⟨String.ofList (shownBefore d (f.reached d)),
          (firstUnknown? (f.reached d)).map fun name => .missing (.name name)⟩ := by
  obtain ⟨f', htext, hlinks⟩ := f.exists_trimmed
  have hnames : f'.names = f.names := by
    refine namesIn_of_marks ?_
    rw [hlinks, trimLinks_marks, normalizeLinks, List.map_map]
    rfl
  have hfrom : ∀ name ∈ f'.names, FromData f'.names name := by
    rw [hnames]
    exact fun name => FromData.of_apart ws.named_names apart
  refine ⟨f'.program, ?_, fun d draws => ?_⟩
  · exact Bundle.program_of_compiles source (ws.legible.compile htext hlinks)
  · rw [Form.run_program hfrom, Form.reached_eq d ws.set, ← htext, ← hlinks, reachedFrom_form]

/-- The program of a documented template writes its reference. -/
theorem Bundle.program_of_form {f : Form} (wf : f.WellFormed)
    (source : bundle.get? resource = some (String.ofList f.source)) :
    ∃ program, bundle.program resource = .ok program ∧
      ∀ (d : FillData) (draws : Draws),
        program.run d.context draws = ⟨String.ofList (f.reference d), none⟩ := by
  obtain ⟨program, read, runs⟩ :=
    Bundle.program_of_spelled wf.wellSpelled wf.spelledApart source
  refine ⟨program, read, fun d draws => ?_⟩
  rw [runs d draws, Form.shownBefore_reached d (wf.firstUnknown? d), wf.firstUnknown? d]
  rfl

/-- For every documented template and all data, rendering to a writable file succeeds, and the file
holds what the template gives by its lines. -/
theorem render_documented {f : Form} (wf : f.WellFormed)
    (source : bundle.get? resource = some (String.ofList f.source))
    (writable : Writable tree path) (d : FillData) (draws : Draws) :
    ∃ final, Disk.on (render bundle resource path d.context draws) tree = (.ok (), final) ∧
      final.readBytes path = .ok (String.ofList (f.reference d)).toUTF8 := by
  obtain ⟨program, read, runs⟩ := Bundle.program_of_form wf source
  have ended : (program.run d.context draws).trouble? = none := by
    rw [runs d draws]
  have written := render_to_writable read writable ended
  rw [runs d draws] at written
  exact written

/-- A form with a field and a choice. -/
def greeting : Form where
  first := ⟨"in ".toList, [(⟨1, "domain", 1⟩, "\r\n".toList)]⟩
  rest := [(⟨"has_crud", ⟨"\nall\n\t".toList, []⟩, some ⟨"\nsome\n".toList, []⟩⟩,
    ⟨"\nend".toList, []⟩)]

theorem render_greeting :
    ∃ final, Disk.on (render ⟨[("t", String.ofList greeting.source)], "m"⟩ "t" "/f"
        (FillData.ofRequest ⟨.full, "a", "d", true⟩ "m").context fun _ => 0) ⟨[], []⟩ =
          (.ok (), final) ∧
      final.readBytes "/f" = .ok "in d\nall\nend".toUTF8 := by
  have wf : greeting.WellFormed := ⟨by decide +kernel, by decide +kernel⟩
  have source : Bundle.get? ⟨[("t", String.ofList greeting.source)], "m"⟩ "t" =
      some (String.ofList greeting.source) := rfl
  have writable : Writable ⟨[], []⟩ "/f" :=
    ⟨["f"], ⟨[], [(["f"], .file .empty)]⟩, rfl, fun device => by cases device⟩
  have output : String.ofList
      (greeting.reference (FillData.ofRequest ⟨.full, "a", "d", true⟩ "m")) =
        "in d\nall\nend" := by
    decide +kernel
  rw [← output]
  exact render_documented wf source writable (FillData.ofRequest ⟨.full, "a", "d", true⟩ "m") _

/-! ## Unknown names -/

/-- For every form whose unknown names are no other spellings of its fields and for all data,
rendering to a writable file succeeds and gives the reference unless the data leads to an unknown
name.  The first such name is the failure, and the file holds what the reference shows before it. -/
theorem render_until_unknown {f : Form} (ws : f.WellSpelled) (apart : SpelledApart f.names)
    (source : bundle.get? resource = some (String.ofList f.source))
    (writable : Writable tree path) (d : FillData) (draws : Draws) :
    ∃ outcome final, Disk.on (render bundle resource path d.context draws) tree = (outcome, final) ∧
      match firstUnknown? (f.reached d) with
      | none =>
          outcome = .ok () ∧ final.readBytes path = .ok (String.ofList (f.reference d)).toUTF8
      | some name =>
          outcome = .error (.generation ⟨.executeTemplate, resource,
            .trouble (.missing (.name name))⟩) ∧
          final.readBytes path = .ok (String.ofList (shownBefore d (f.reached d))).toUTF8 := by
  obtain ⟨program, read, runs⟩ := Bundle.program_of_spelled ws apart source
  obtain ⟨final, rendered, content⟩ :=
    @render_on_writable bundle resource path tree program d.context draws read writable
  rw [runs d draws] at rendered content
  refine ⟨_, final, rendered, ?_⟩
  cases unknown : firstUnknown? (f.reached d) with
  | none =>
      rw [Form.shownBefore_reached d unknown] at content
      exact ⟨rfl, content⟩
  | some name => exact ⟨rfl, content⟩

/-- A form with an unknown field in one body of a choice, and an unknown condition behind it. -/
def riddle : Form where
  first := ⟨"in ".toList, [(⟨1, "domain", 1⟩, "\n".toList)]⟩
  rest := [
    (⟨"has_crud", ⟨"\nall ".toList, [(⟨1, "owner", 1⟩, "\n".toList)]⟩,
      some ⟨"\nsome\n".toList, []⟩⟩, ⟨"\nthen\n".toList, []⟩),
    (⟨"secret", ⟨"\nmore\n".toList, []⟩, none⟩, ⟨"\nend".toList, []⟩)]

theorem render_riddle :
    ∃ final, Disk.on (render ⟨[("t", String.ofList riddle.source)], "m"⟩ "t" "/f"
        (FillData.ofRequest ⟨.full, "a", "d", false⟩ "m").context fun _ => 0)
        ⟨[], [(["f"], .file "old".toUTF8)]⟩ =
          (.error (.generation ⟨.executeTemplate, "t", .trouble (.missing (.name "secret"))⟩),
            final) ∧
      final.readBytes "/f" = .ok "in d\nsome\nthen\n".toUTF8 := by
  have ws : riddle.WellSpelled := ⟨by decide +kernel, by decide +kernel⟩
  have source : Bundle.get? ⟨[("t", String.ofList riddle.source)], "m"⟩ "t" =
      some (String.ofList riddle.source) := rfl
  have writable : Writable ⟨[], [(["f"], .file "old".toUTF8)]⟩ "/f" :=
    ⟨["f"], ⟨[], [(["f"], .file .empty)]⟩, rfl, fun device => by cases device⟩
  have unknown : firstUnknown?
      (riddle.reached (FillData.ofRequest ⟨.full, "a", "d", false⟩ "m")) = some "secret" := by
    decide +kernel
  have shown : String.ofList (shownBefore (FillData.ofRequest ⟨.full, "a", "d", false⟩ "m")
      (riddle.reached (FillData.ofRequest ⟨.full, "a", "d", false⟩ "m"))) =
        "in d\nsome\nthen\n" := by
    decide +kernel
  obtain ⟨outcome, final, rendered, ended⟩ := render_until_unknown ws (by decide +kernel) source
    writable (FillData.ofRequest ⟨.full, "a", "d", false⟩ "m") fun _ => 0
  rw [unknown] at ended
  rw [← shown, rendered]
  exact ⟨final, by rw [ended.1], ended.2⟩

/-- A form with a field, and with another spelling of it behind. -/
def echo : Form where
  first := ⟨"A".toList, [(⟨1, "struct_name", 1⟩, "B".toList), (⟨1, "\u017ftruct_name", 1⟩, [])]⟩
  rest := []

/-- The other spelling takes its value from the field, and the output ends before the field. -/
theorem render_echo :
    echo.WellSpelled ∧
      firstUnknown? (echo.reached (FillData.ofRequest ⟨.dto, "order", "d", false⟩ "m")) =
        some "\u017ftruct_name" ∧
      shownBefore (FillData.ofRequest ⟨.dto, "order", "d", false⟩ "m")
        (echo.reached (FillData.ofRequest ⟨.dto, "order", "d", false⟩ "m")) = "AOrderB".toList ∧
      ∃ final, Disk.on (render ⟨[("t", String.ofList echo.source)], "m"⟩ "t" "/f"
          (FillData.ofRequest ⟨.dto, "order", "d", false⟩ "m").context fun _ => 0) ⟨[], []⟩ =
            (.error (.generation
              ⟨.executeTemplate, "t", .trouble (.missing (.name "struct_name"))⟩), final) ∧
        final.readBytes "/f" = .ok "A".toUTF8 := by
  refine ⟨⟨by decide +kernel, by decide +kernel⟩, by decide +kernel, by decide +kernel, ?_⟩
  have writable : Writable ⟨[], []⟩ "/f" :=
    ⟨["f"], ⟨[], [(["f"], .file .empty)]⟩, rfl, fun device => by cases device⟩
  have runs : ((Bundle.program ⟨[("t", String.ofList echo.source)], "m"⟩ "t").toOption.map
      fun program => program.run
        (FillData.ofRequest ⟨.dto, "order", "d", false⟩ "m").context fun _ => 0) =
        some ⟨"A", some (.missing (.name "struct_name"))⟩ := by
    decide +kernel
  cases read : Bundle.program ⟨[("t", String.ofList echo.source)], "m"⟩ "t" with
  | error failure =>
      rw [read] at runs
      cases runs
  | ok program =>
      rw [read] at runs
      have run : program.run (FillData.ofRequest ⟨.dto, "order", "d", false⟩ "m").context
          (fun _ => 0) = ⟨"A", some (.missing (.name "struct_name"))⟩ :=
        Option.some.inj runs
      obtain ⟨final, rendered, content⟩ := @render_on_writable _ _ _ _ program
        (FillData.ofRequest ⟨.dto, "order", "d", false⟩ "m").context (fun _ => 0) read writable
      rw [run] at rendered content
      exact ⟨final, rendered, content⟩

end Scaffold
