import Scaffold.Proofs.CommandLine.Configuration
import Scaffold.Proofs.Table

/-!
# Settings of named fields

Fields that hold the values of valid settings are read as these settings, whatever their order, and
fields that hold nothing may be left out.
-/

namespace Scaffold.Settings

variable {fields : Fields} {s : Settings}

theorem textFields_mapping (fields : Fields) :
    textFields (fields.map fun (name, value) => (.text name, value)) = fields := by
  induction fields with
  | nil => rfl
  | cons field rest ih => rw [List.map_cons, textFields, ih]

theorem surplus_mapping (known : ∀ field ∈ fields, field.1 ∈ fieldNames) :
    surplus (fields.map fun (name, value) => (.text name, value)) = [] := by
  rw [surplus, List.filterMap_map, List.filterMap_eq_nil_iff]
  intro field hf
  exact if_pos (List.contains_iff_mem.mpr (known field hf))

/-- Known fields are all that is to be read. -/
theorem ofDatum_mappingOf (known : ∀ field ∈ fields, field.1 ∈ fieldNames) :
    ofDatum (mappingOf fields) = ofFields fields [] := by
  rw [mappingOf, ofDatum, textFields_mapping, surplus_mapping known]

theorem readRoot_text {root : String} (filled : root ≠ "") : readRoot (.text root) = .ok root :=
  if_neg filled

theorem readOptional_optionalData (text? : Option String) :
    readOptional (optionalData text?) = .ok text? := by
  cases text? <;> rfl

/-- A field that holds nothing is read like one that is left out. -/
theorem optional_of_getD {name : String} {text? : Option String}
    (holds : (fields.lookup name).getD .null = optionalData text?) :
    fields.optional name readOptional none = .ok text? := by
  unfold Fields.optional
  cases found : fields.lookup name with
  | none =>
      rw [found] at holds
      cases text? with
      | none => rfl
      | some text => cases holds
  | some value =>
      rw [found, Option.getD_some] at holds
      simp only [holds, readOptional_optionalData]
      rfl

/-- Fields with the values of valid settings say these settings. -/
theorem ofFields_of_lookup (valid : s.Valid)
    (root : fields.lookup "output_root" = some (.text s.outputRoot))
    (module : (fields.lookup "module_path").getD .null = optionalData s.modulePath)
    (templates : (fields.lookup "templates_dir").getD .null = optionalData s.templatesDir) :
    ofFields fields [] = .ok s := by
  have hroot : fields.optional "output_root" readRoot "." = .ok s.outputRoot := by
    simp only [Fields.optional, root, readRoot_text valid]
    rfl
  simp only [ofFields, hroot, optional_of_getD module, optional_of_getD templates]

/-! ## Settings as fields -/

theorem names_dump (s : Settings) : s.dump.map (·.1) = fieldNames := rfl

theorem known_of_mem_dump {field : String × Datum} (h : field ∈ s.dump) : field.1 ∈ fieldNames :=
  names_dump s ▸ List.mem_map_of_mem h

theorem mem_dump_iff {field : String × Datum} :
    field ∈ s.dump ↔ s.dump.lookup field.1 = some field.2 := by
  have distinct : (s.dump.map Prod.fst).Nodup := names_dump s ▸ by decide
  exact (Table.lookup_eq_some_iff_mem distinct).symm

end Scaffold.Settings
