import ParticleTimeline.Proofs.Form.Field
/-!
# Forms as a normal form

A form over sound fields reads every field from a configuration, or takes its
default (`Field.loaded`), whatever was in the form before
(`Form.applyConfig_eq`). What it writes then has one member for each field, and
loading that changes nothing more: so every configuration has a normal form,
which depends on the fields alone (`Form.Normalised`).
-/

namespace ParticleTimeline

namespace Field

variable {f : Field} {c : Json}

/-- What a configuration has for a field. -/
def read (f : Field) (c : Json) : Except Fault FieldValue :=
  match c.member? f.name with
  | some v => (f.parse v).map (·.getD f.default)
  | none => .ok f.default

/-- What a configuration has for a field, or its default. -/
def loaded (f : Field) (c : Json) : FieldValue := (f.read c).toOption.getD f.default

/-- **A sound field reads something from every configuration**, and admits it. -/
theorem read_admits (hsound : f.kind.Sound) (h : ∀ n ∈ c.numbers, n.isFinite = true) :
    ∃ value, f.read c = .ok value ∧ f.Admits value := by
  rw [read]
  cases hmember : c.member? f.name with
  | none => exact ⟨f.default, rfl, admits_default hsound⟩
  | some v =>
    obtain ⟨value, hparse, hadmits⟩ :=
      parse_admits hsound fun n hn => h n (Json.mem_numbers_member? hmember hn)
    refine ⟨value.getD f.default, by simp only [hparse]; rfl, ?_⟩
    cases value with
    | none => exact admits_default hsound
    | some value => exact hadmits value rfl

theorem read_eq (hsound : f.kind.Sound) (h : ∀ n ∈ c.numbers, n.isFinite = true) :
    f.read c = .ok (f.loaded c) := by
  obtain ⟨value, hread, -⟩ := read_admits hsound h
  rw [loaded, hread]
  rfl

theorem admits_loaded (hsound : f.kind.Sound) (h : ∀ n ∈ c.numbers, n.isFinite = true) :
    f.Admits (f.loaded c) := by
  obtain ⟨value, hread, hadmits⟩ := read_admits hsound h
  rw [loaded, hread]
  exact hadmits

end Field

namespace Form

variable {fields : List Field} {c : Json}

/-- The fields with what a configuration has for them. -/
def entries (fields : List Field) (c : Json) : List (String × FieldValue) :=
  fields.map fun f => (f.name, f.loaded c)

theorem names_entries (fields : List Field) (c : Json) :
    Table.names (entries fields c) = fields.map Field.name := by
  rw [Table.names, entries, List.map_map]
  rfl

theorem loadValues_cons (f : Field) (fields : List Field) (c : Json) (values : Table FieldValue) :
    loadValues c (f :: fields) values =
      match f.read c with
      | .ok value => loadValues c fields (Table.insert f.name value values)
      | .error fault => (values, some fault) := by
  rw [loadValues, Field.read]
  cases c.member? f.name with
  | none => rfl
  | some v => cases hparse : f.parse v <;> simp only [hparse, Except.map]

/-- **Loading** sets every field to what the configuration has for it. -/
theorem loadValues_eq (hread : ∀ f ∈ fields, f.read c = .ok (f.loaded c))
    (values : Table FieldValue) :
    loadValues c fields values = (Table.insertAll (entries fields c) values, none) := by
  induction fields generalizing values with
  | nil => rfl
  | cons f fields ih =>
    rw [List.forall_mem_cons] at hread
    rw [loadValues_cons, hread.1]
    exact ih hread.2 (Table.insert f.name (f.loaded c) values)

theorem applyConfig_eq {form : Form} (hfields : form.fields = fields)
    (hread : ∀ f ∈ fields, f.read c = .ok (f.loaded c)) :
    form.applyConfig c =
      ({ fields, values := Table.insertAll (entries fields c) form.values, changed := false },
        none) := by
  subst hfields
  rw [applyConfig, loadValues_eq hread]

/-- A configuration with one member for each field. -/
def written (fields : List Field) (c : Json) : Table Json :=
  Table.ofList (fields.map fun f => (f.name, (f.loaded c).toJson))

theorem config_eq (form : Form) : form.config =
    .object (Table.ofList
      (form.fields.map fun f => (f.name, ((form.get? f.name).getD f.default).toJson))) := by
  rw [config, Table.ofList, List.foldl_map]
  rfl

section Names

variable (hnames : (fields.map Field.name).Nodup)
include hnames

/-- What was loaded is there. -/
theorem get?_loaded (c : Json) (values : Table FieldValue) {f : Field} (hf : f ∈ fields) :
    Table.get? (Table.insertAll (entries fields c) values) f.name = some (f.loaded c) := by
  have hnodup : (Table.names (entries fields c)).Nodup := by
    rwa [names_entries]
  exact Table.get?_insertAll hnodup (List.mem_map_of_mem hf)

/-- **The configuration of what was loaded** has nothing of what was there
before. -/
theorem config_loaded (c : Json) (values : Table FieldValue) (changed : Bool) :
    config { fields, values := Table.insertAll (entries fields c) values, changed }
      = .object (written fields c) := by
  have hsame : ∀ f ∈ fields,
      (f.name, ((Table.get? (Table.insertAll (entries fields c) values) f.name).getD
          f.default).toJson) = (f.name, (f.loaded c).toJson) := by
    intro f hf
    rw [get?_loaded hnames c values hf, Option.getD_some]
  rw [config_eq, written]
  exact congrArg (fun es => Json.object (Table.ofList es)) (List.map_congr_left hsame)

theorem nodup_names_written (c : Json) :
    (Table.names (fields.map fun f => (f.name, (f.loaded c).toJson))).Nodup := by
  rw [Table.names, List.map_map]
  exact hnames

/-- The members are the fields, each once. -/
theorem written_perm (c : Json) :
    (written fields c).Perm (fields.map fun f => (f.name, (f.loaded c).toJson)) :=
  Table.ofList_perm (nodup_names_written hnames c)

theorem names_written_perm (c : Json) :
    (Table.names (written fields c)).Perm (fields.map Field.name) := by
  have hperm := (written_perm hnames c).map Prod.fst
  rwa [List.map_map] at hperm

/-- Every field finds what was written of it. -/
theorem member?_written (c : Json) {f : Field} (hf : f ∈ fields) :
    (Json.object (written fields c)).member? f.name = some (f.loaded c).toJson :=
  Json.member?_ofList (nodup_names_written hnames c)
    (List.mem_map.2 ⟨f, hf, rfl⟩ : (f.name, (f.loaded c).toJson) ∈ _)

/-- **What was written of a field** is loaded again. -/
theorem read_written (hsound : ∀ f ∈ fields, f.kind.Sound) (h : ∀ n ∈ c.numbers, n.isFinite = true)
    {f : Field} (hf : f ∈ fields) : f.read (.object (written fields c)) = .ok (f.loaded c) := by
  rw [Field.read, member?_written hnames c hf]
  exact Field.parse_toJson (hsound f hf) (Field.admits_loaded (hsound f hf) h)

end Names

end Form

/-! ## Runs -/

/-- Something done to a form. -/
inductive FormOperation where
  | set (name : String) (value : FieldValue)
  | reset (name : String)
  | resetAll
  | apply (config : Json)

namespace FormOperation

/-- The form after an operation. -/
def after : FormOperation → Form → Form
  | set name value, form => form.set name value
  | reset name, form => form.reset name
  | resetAll, form => form.resetAll
  | apply config, form => (form.applyConfig config).1

/-- The form after some operations, one after the other. -/
def run (ops : List FormOperation) (form : Form) : Form :=
  ops.foldl (fun form op => op.after form) form

/-- A form over some fields, with its values in order. -/
structure Over (fields : List Field) (form : Form) : Prop where
  fields_eq : form.fields = fields
  sorted : Table.Sorted form.values

variable {fields : List Field} {form : Form}

theorem defaults_eq (fields : List Field) (values : Table FieldValue) :
    Form.defaults fields values
      = Table.insertAll (fields.map fun f => (f.name, f.default)) values := by
  rw [Form.defaults, Table.insertAll, List.foldl_map]

theorem over_ofFields (fields : List Field) : Over fields (Form.ofFields fields) where
  fields_eq := rfl
  sorted := by
    rw [Form.ofFields, defaults_eq]
    exact Table.sorted_insertAll List.Pairwise.nil _

theorem sorted_loadValues (config : Json) (fields : List Field) {values : Table FieldValue}
    (h : Table.Sorted values) : Table.Sorted (Form.loadValues config fields values).1 := by
  induction fields generalizing values with
  | nil => exact h
  | cons f fields ih =>
    rw [Form.loadValues_cons]
    cases f.read config with
    | error fault => exact h
    | ok value => exact ih (Table.sorted_insert h)

/-- **Nothing that is done to a form** changes its fields. -/
theorem Over.after (h : Over fields form) (op : FormOperation) : Over fields (op.after form) := by
  obtain ⟨rfl, hsorted⟩ := h
  cases op with
  | set name value => exact ⟨rfl, Table.sorted_insert hsorted⟩
  | reset name =>
    rw [FormOperation.after, Form.reset]
    split
    · exact ⟨rfl, Table.sorted_insert hsorted⟩
    · exact ⟨rfl, hsorted⟩
  | resetAll =>
    refine ⟨rfl, ?_⟩
    rw [FormOperation.after, Form.resetAll, defaults_eq]
    exact Table.sorted_insertAll hsorted _
  | apply config =>
    have hvalues := sorted_loadValues config form.fields hsorted
    rw [FormOperation.after, Form.applyConfig]
    split
    · rename_i hload
      rw [hload] at hvalues
      exact ⟨rfl, hvalues⟩
    · rename_i hload
      rw [hload] at hvalues
      exact ⟨rfl, hvalues⟩

theorem over_run (h : Over fields form) (ops : List FormOperation) :
    Over fields (run ops form) := by
  induction ops generalizing form with
  | nil => exact h
  | cons op ops ih => exact ih (h.after op)

end FormOperation

/-! ## The normal form -/

/-- What loading a configuration makes of a form over some fields. -/
structure Form.Normalised (fields : List Field) (c : Json) (form : Form) : Prop where
  /-- No field is at fault. -/
  accepted : (form.applyConfig c).2 = none
  /-- Every field has a value of its kind, within its bounds. -/
  admitted : ∀ f ∈ fields,
    ∃ value, (form.applyConfig c).1.get? f.name = some value ∧ f.Admits value
  /-- The configuration has one member for each field. -/
  members : ∃ entries, (form.applyConfig c).1.config = .object entries ∧
    (entries.map Prod.fst).Perm (fields.map Field.name)
  /-- The configuration is that of a fresh form. -/
  independent : (form.applyConfig c).1.config = ((Form.ofFields fields).applyConfig c).1.config
  /-- Loading it changes nothing. -/
  stable : (form.applyConfig c).1.applyConfig (form.applyConfig c).1.config
    = ((form.applyConfig c).1, none)

section Normalised

variable {fields : List Field} {c : Json} {form : Form}
variable (hnames : (fields.map Field.name).Nodup) (hsound : ∀ f ∈ fields, f.kind.Sound)
variable (h : ∀ n ∈ c.numbers, n.isFinite = true)
include hnames hsound h

/-- Loading what was written of a loaded form sets every field to what it has. -/
theorem Form.applyConfig_written {values : Table FieldValue} (hsorted : Table.Sorted values) :
    Form.applyConfig
        { fields, values := Table.insertAll (entries fields c) values, changed := false }
        (.object (written fields c))
      = ({ fields, values := Table.insertAll (entries fields c) values, changed := false },
        none) := by
  have hread : ∀ f ∈ fields, f.read (.object (written fields c)) = .ok (f.loaded c) :=
    fun f hf => read_written hnames hsound h hf
  have hloaded : ∀ f ∈ fields, f.loaded (.object (written fields c)) = f.loaded c := by
    intro f hf
    rw [Field.loaded, hread f hf]
    rfl
  have hentries : entries fields (.object (written fields c)) = entries fields c :=
    List.map_congr_left fun f hf => by rw [hloaded f hf]
  -- Every value that is inserted is there already.
  have hsame : Table.insertAll (entries fields c) (Table.insertAll (entries fields c) values)
      = Table.insertAll (entries fields c) values := by
    refine Table.insertAll_of_get? (Table.sorted_insertAll hsorted _) fun e he => ?_
    obtain ⟨f, hf, rfl⟩ := List.mem_map.1 he
    exact get?_loaded hnames c values hf
  have hagain : ∀ f ∈ fields, f.read (.object (written fields c))
      = .ok (f.loaded (.object (written fields c))) := by
    intro f hf
    rw [hread f hf, hloaded f hf]
  rw [applyConfig_eq rfl hagain, hentries, hsame]

/-- **Every configuration has a normal form**: whatever was done to a form before,
loading one is accepted, leaves every field with a value of its own, and writes
a configuration that depends on nothing else and is loaded without a change. -/
theorem FormOperation.run_normalised (ops : List FormOperation) :
    Form.Normalised fields c (run ops (.ofFields fields)) := by
  obtain ⟨hfields, hsorted⟩ := over_run (over_ofFields fields) ops
  have hread : ∀ f ∈ fields, f.read c = .ok (f.loaded c) :=
    fun f hf => Field.read_eq (hsound f hf) h
  have happly := Form.applyConfig_eq hfields hread
  have hfresh := Form.applyConfig_eq (over_ofFields fields).fields_eq hread
  constructor
  · rw [happly]
  · intro f hf
    rw [happly]
    exact ⟨f.loaded c, Form.get?_loaded hnames c _ hf, Field.admits_loaded (hsound f hf) h⟩
  · rw [happly, Form.config_loaded hnames]
    exact ⟨Form.written fields c, rfl, Form.names_written_perm hnames c⟩
  · rw [happly, hfresh, Form.config_loaded hnames, Form.config_loaded hnames]
  · rw [happly, Form.config_loaded hnames]
    exact Form.applyConfig_written hnames hsound h hsorted

end Normalised

/-- A field of every kind, some read, some not, in a form that held a value of
another kind and one under a name that is not its own. -/
theorem FormOperation.run_normalised_mixed :
    let fields : List Field := [
      ⟨"size", "Size", .float 1 0 2⟩, ⟨"glow", "Glow", .bool true⟩,
      ⟨"tint", "Tint", .color ⟨1, 0, 0.5⟩⟩, ⟨"at", "At", .point ⟨0, 0⟩ ⟨-1, -1⟩ ⟨1, 1⟩⟩,
      ⟨"mode", "Mode", .choice "off" ["slow", "fast"]⟩]
    Form.Normalised fields
      (.object [("size", .double 1e300), ("at", .array [.nat 3]), ("mode", .text "stop")])
      (run [.set "size" (.bool true), .apply (.nat 7), .set "other" (.choice "slow"), .reset "glow"]
        (.ofFields fields)) := by
  have hsize : (FieldKind.float 1 0 2).Sound :=
    ⟨⟨by decide +kernel, by decide +kernel, by decide +kernel⟩, by decide +kernel⟩
  have htint : (FieldKind.color ⟨1, 0, 0.5⟩).Sound :=
    ⟨by decide +kernel, by decide +kernel, by decide +kernel⟩
  have hspan : Span (-1) 1 := ⟨by decide +kernel, by decide +kernel, by decide +kernel⟩
  have hat : (FieldKind.point ⟨0, 0⟩ ⟨-1, -1⟩ ⟨1, 1⟩).Sound :=
    ⟨hspan, hspan, by decide +kernel, by decide +kernel⟩
  refine run_normalised (by decide) ?_ (by decide +kernel) _
  simp only [List.forall_mem_cons]
  exact ⟨hsize, trivial, htint, hat, trivial, nofun⟩

end ParticleTimeline
