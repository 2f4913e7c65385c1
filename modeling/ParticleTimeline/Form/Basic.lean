import ParticleTimeline.Form.Field
/-!
# Forms

A form edits the configuration of one effect: the fields, a value for each,
and whether anything was set since the values were last loaded. `config`
writes the values out with one member for each field, and `applyConfig`
loads them back, a field that is missing or does not fit taking its default.
-/

namespace ParticleTimeline

/-- The fields being edited and their values. -/
structure Form where
  fields : List Field
  values : Table FieldValue
  changed : Bool

namespace Form

/-- Every field at its default. -/
def defaults (fields : List Field) (values : Table FieldValue) : Table FieldValue :=
  fields.foldl (fun t f => Table.insert f.name f.default t) values

/-- A fresh form over the fields. -/
def ofFields (fields : List Field) : Form where
  fields
  values := defaults fields []
  changed := false

/-- Sets the value of a name; nothing is asked of either. -/
def set (form : Form) (name : String) (value : FieldValue) : Form :=
  { form with values := Table.insert name value form.values, changed := true }

def get? (form : Form) (name : String) : Option FieldValue := Table.get? form.values name

/-- Sets the field of a name back to its default, if there is one. -/
def reset (form : Form) (name : String) : Form :=
  match form.fields.find? (·.name = name) with
  | some f => { form with values := Table.insert name f.default form.values }
  | none => form

/-- Sets every field back to its default. -/
def resetAll (form : Form) : Form := { form with values := defaults form.fields form.values }

/-- The values of the fields read from a configuration, up to the first
field at fault. -/
def loadValues (config : Json) : List Field → Table FieldValue → Table FieldValue × Option Fault
  | [], values => (values, none)
  | f :: rest, values =>
    let read := match config.member? f.name with
      | some v => f.parse v
      | none => .ok none
    match read with
    | .ok value => loadValues config rest
        (Table.insert f.name (value.getD f.default) values)
    | .error fault => (values, some fault)

/-- Loads the fields from a configuration. A fault leaves the fields before
the one it struck loaded. -/
def applyConfig (form : Form) (config : Json) : Form × Option Fault :=
  match loadValues config form.fields form.values with
  | (values, none) => ({ form with values, changed := false }, none)
  | (values, some fault) => ({ form with values }, some fault)

/-- The values as a configuration. -/
def config (form : Form) : Json :=
  .object (form.fields.foldl
    (fun t f => Table.insert f.name ((Table.get? form.values f.name).getD f.default).toJson t) [])

/-- Sets every field to a random value. -/
def randomize {γ : Type} [RandomGen γ] : List Field → Form → γ → Except Fault Form
  | [], form, _ => .ok form
  | f :: rest, form, g => do
    let (value, g) ← f.random g
    randomize rest (form.set f.name value) g

end Form

end ParticleTimeline
