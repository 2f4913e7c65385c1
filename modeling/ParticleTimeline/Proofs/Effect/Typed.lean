import ParticleTimeline.Proofs.Effect.BuiltIn
import ParticleTimeline.Proofs.Form.Loading
/-!
# Two readings of one configuration

An effect describes its configuration twice: as a form with a field for each
entry, and as a type of its own with a decoder (`TypedEffect`). The two are in
step if the members of the type are the fields of the form, each member that a
field admits is taken as it is, and what the fields admit is enough for the
effect to be registered (`TypedEffect.Lawful`). Then whatever is loaded into the
form is decoded to just what the form holds, every configuration within the
bounds comes back from the form, and registering succeeds with what the form
writes (`TypedEffect.Lawful.agrees`).
-/

namespace ParticleTimeline

/-- A registration that makes all its moves, in any build, and succeeds. -/
def Registration.Succeeds (g : Registration) : Prop :=
  g.ending = .succeeds ∧ ∀ (patient : Bool) (stages : Stages) (number : Nat),
    ∃ c, Contribution.run patient g.moves (.start stages number) = .ended c

theorem Move.left?_map_act (patient : Bool) (as : List Action) :
    Move.left? patient (as.map .act) = none := by
  induction as with
  | nil => rfl
  | cons a as ih => exact ih

/-- Actions that bind no name twice, with no wait between them, succeed. -/
theorem Registration.Proper.succeeds {g : Registration} (h : g.Proper)
    (hg : ∃ as, g = .ofActions as) : g.Succeeds := by
  obtain ⟨as, rfl⟩ := hg
  refine ⟨rfl, fun patient stages number => ?_⟩
  have hmade : Move.made patient (as.map .act) = (Registration.ofActions as).actions :=
    Move.made_of_left?_eq_none (Move.left?_map_act patient as)
  have hbinds : Action.BindsOnce ([] ++ Move.made patient (as.map .act)) := hmade ▸ h.bindsOnce
  have huncut : (Workspace.new stages).Faultless (Move.made patient (as.map .act)) :=
    hmade ▸ (Workspace.after_of_appends h.appends _).2
  have hrun : Contribution.run patient (as.map .act) (.of (.new stages) number []) = _ :=
    Contribution.run_of hbinds huncut
  rw [Move.left?_map_act, Contribution.of_nil] at hrun
  exact ⟨_, hrun⟩

/-- An effect with the type of its configuration. -/
structure TypedEffect where
  effect : Effect
  Config : Type
  default : Config
  decode : Json.Decoder Config
  /-- Takes a member into a configuration. -/
  set : Config → String → Json → Except Json.Mismatch Config
  /-- The members that a configuration is written with. -/
  members : Config → List (String × FieldValue)
  /-- What has to be there for the effect to be registered. -/
  ready : Request → Prop := fun _ => True

namespace TypedEffect

/-- A configuration as JSON. -/
def toJson (t : TypedEffect) (config : t.Config) : Json :=
  .object (Table.ofList ((t.members config).map fun e => (e.1, e.2.toJson)))

/-- Whether every member of a configuration is within the bounds of its field,
or one of its options. -/
def Fits (t : TypedEffect) (config : t.Config) : Prop :=
  ∀ f ∈ t.effect.fields, ∀ e ∈ t.members config, e.1 = f.name → f.Admits e.2

/-- Sets the member of a name. -/
def replace (name : String) (value : FieldValue) (e : String × FieldValue) : String × FieldValue :=
  if e.1 = name then (name, value) else e

/-- The form of an effect and the type of its configuration are in step. -/
structure Lawful (t : TypedEffect) : Prop where
  distinct : (t.effect.fields.map Field.name).Nodup
  sound : ∀ f ∈ t.effect.fields, f.kind.Sound
  names : ∀ config, (t.members config).map Prod.fst = t.effect.fields.map Field.name
  /-- Every member may be left out, and then has its default. -/
  record : ∃ title, t.decode
    = Json.Decoder.record title (t.effect.fields.map Field.name) 0 t.set t.default
  /-- A value that a field admits is taken for the member of its name. -/
  set : ∀ config, ∀ f ∈ t.effect.fields, ∀ value, f.Admits value →
    ∃ config', t.set config f.name value.toJson = .ok config' ∧
      t.members config' = (t.members config).map (replace f.name value)
  /-- There is nothing more to a configuration than its members. -/
  determined : ∀ config config', t.members config = t.members config' → config = config'
  /-- What the fields admit is enough for the effect to be registered. -/
  succeeds : ∀ r, t.Fits (r.config t.decode t.default) → t.ready r → (t.effect.register r).Succeeds

section Decoding

variable {t : TypedEffect} {w : String → FieldValue}

/-- Members that are taken one after the other, in whatever order, all have
their new values. -/
theorem Lawful.foldlM_set (h : t.Lawful) (hw : ∀ f ∈ t.effect.fields, f.Admits (w f.name))
    {es : List (String × Json)}
    (hes : ∀ e ∈ es, ∃ f ∈ t.effect.fields, e = (f.name, (w f.name).toJson)) (config : t.Config) :
    ∃ config', es.foldlM (fun config e => t.set config e.1 e.2) config = .ok config' ∧
      t.members config'
        = (t.members config).map fun e => if e.1 ∈ es.map Prod.fst then (e.1, w e.1) else e := by
  -- A later member may have the name of an earlier one, and then its value as well.
  induction es generalizing config with
  | nil => exact ⟨config, rfl, by simp⟩
  | cons e es ih =>
    rw [List.forall_mem_cons] at hes
    obtain ⟨⟨f, hf, rfl⟩, hrest⟩ := hes
    obtain ⟨config₁, hset, hmembers⟩ := h.set config f hf (w f.name) (hw f hf)
    obtain ⟨config₂, hfold, hall⟩ := ih hrest config₁
    refine ⟨config₂, ?_, ?_⟩
    · rw [List.foldlM_cons, hset]
      exact hfold
    · rw [hall, hmembers, List.map_map]
      refine List.map_congr_left fun e _ => ?_
      simp only [Function.comp_apply, List.map_cons, List.mem_cons]
      by_cases hname : e.1 = f.name
      · have hreplace : replace f.name (w f.name) e = (f.name, w f.name) := if_pos hname
        simp only [hreplace, hname, true_or, if_true, ite_self]
      · have hreplace : replace f.name (w f.name) e = e := if_neg hname
        simp only [hreplace, hname, false_or]

/-- **An object with one member for each field** is decoded to its values. -/
theorem Lawful.decode_object (h : t.Lawful) (hw : ∀ f ∈ t.effect.fields, f.Admits (w f.name))
    {es : List (String × Json)}
    (hperm : es.Perm (t.effect.fields.map fun f => (f.name, (w f.name).toJson))) :
    ∃ config, t.decode (.object es) = .ok config ∧
      t.members config = t.effect.fields.map fun f => (f.name, w f.name) := by
  have hnames : (es.map Prod.fst).Perm (t.effect.fields.map Field.name) := by
    have hfst := hperm.map Prod.fst
    rwa [List.map_map] at hfst
  have hes : ∀ e ∈ es, ∃ f ∈ t.effect.fields, e = (f.name, (w f.name).toJson) := by
    intro e he
    obtain ⟨f, hf, rfl⟩ := List.mem_map.1 (hperm.mem_iff.1 he)
    exact ⟨f, hf, rfl⟩
  obtain ⟨config, hfold, hmembers⟩ := h.foldlM_set hw hes t.default
  obtain ⟨title, hrecord⟩ := h.record
  refine ⟨config, ?_, ?_⟩
  · rw [hrecord, Json.Decoder.record,
      Json.Decoder.members_eq_foldlM t.default (fun name hname => hnames.mem_iff.1 hname)
        (hnames.nodup_iff.2 h.distinct), hfold]
    rfl
  · have hevery : ∀ e ∈ t.members t.default,
        (if e.1 ∈ es.map Prod.fst then (e.1, w e.1) else e) = (e.1, w e.1) := by
      intro e he
      have hin : e.1 ∈ es.map Prod.fst :=
        hnames.mem_iff.2 (h.names t.default ▸ List.mem_map_of_mem he)
      rw [if_pos hin]
    have hfst : t.effect.fields.map (fun f => (f.name, w f.name))
        = (t.effect.fields.map Field.name).map fun name => (name, w name) := by
      rw [List.map_map]
      rfl
    rw [hmembers, List.map_congr_left hevery, hfst, ← h.names t.default, List.map_map]
    rfl

end Decoding

/-! ## Agreement -/

/-- The form of an effect once a configuration is loaded, whatever was done to
it before. -/
def loadedForm (t : TypedEffect) (ops : List FormOperation) (c : Json) : Form :=
  ((FormOperation.run ops t.effect.form).applyConfig c).1

/-- The form of an effect and the type of its configuration agree. -/
structure Agrees (t : TypedEffect) : Prop where
  /-- What the form writes is decoded, to the values of the form, and so it is
  what an instance is registered with. -/
  decoded : ∀ (ops : List FormOperation) (c : Json), (∀ n ∈ c.numbers, n.isFinite = true) →
    ∃ config, t.decode (t.loadedForm ops c).config = .ok config ∧
      (t.members config).map Prod.fst = t.effect.fields.map Field.name ∧
      (∀ e ∈ t.members config, (t.loadedForm ops c).get? e.1 = some e.2) ∧
      ∀ r : Request, r.subject.config = (t.loadedForm ops c).config →
        r.config t.decode t.default = config
  /-- A configuration within the bounds comes back from the form. -/
  restored : ∀ (ops : List FormOperation) (config : t.Config), t.Fits config →
    t.decode (t.loadedForm ops (t.toJson config)).config = .ok config
  /-- What the form writes can be registered with. -/
  registered : ∀ (ops : List FormOperation) (c : Json), (∀ n ∈ c.numbers, n.isFinite = true) →
    ∀ r : Request, r.subject.config = (t.loadedForm ops c).config → t.ready r →
      (t.effect.register r).Succeeds

section Agreement

variable {t : TypedEffect} {c : Json}

/-- What a form holds of a loaded configuration is decoded from what it writes. -/
theorem Lawful.decode_written (h : t.Lawful)
    (hadmits : ∀ f ∈ t.effect.fields, f.Admits (f.loaded c)) :
    ∃ config, t.decode (.object (Form.written t.effect.fields c)) = .ok config ∧
      t.members config = Form.entries t.effect.fields c := by
  -- The names are distinct, so each of them has one value.
  let w : String → FieldValue := fun name =>
    (Table.get? (Table.insertAll (Form.entries t.effect.fields c) []) name).getD (.bool false)
  have hw : ∀ f ∈ t.effect.fields, w f.name = f.loaded c := by
    intro f hf
    simp only [w, Form.get?_loaded h.distinct c [] hf, Option.getD_some]
  have hperm : (Form.written t.effect.fields c).Perm
      (t.effect.fields.map fun f => (f.name, (w f.name).toJson)) := by
    rw [List.map_congr_left fun f hf => by rw [hw f hf]]
    exact Form.written_perm h.distinct c
  obtain ⟨config, hdecode, hmembers⟩ :=
    h.decode_object (fun f hf => (hw f hf).symm ▸ hadmits f hf) hperm
  refine ⟨config, hdecode, ?_⟩
  rw [hmembers, Form.entries]
  exact List.map_congr_left fun f hf => by rw [hw f hf]

/-- A form has every field of a configuration that it has loaded, whatever was
done to it before. -/
theorem loadedForm_eq (ops : List FormOperation)
    (hread : ∀ f ∈ t.effect.fields, f.read c = .ok (f.loaded c)) :
    t.loadedForm ops c =
      { fields := t.effect.fields
        values := Table.insertAll (Form.entries t.effect.fields c)
          (FormOperation.run ops t.effect.form).values
        changed := false } := by
  have hover : FormOperation.Over t.effect.fields (FormOperation.run ops t.effect.form) :=
    FormOperation.over_run (FormOperation.over_ofFields t.effect.fields) ops
  rw [loadedForm, Form.applyConfig_eq hover.fields_eq hread]

/-- What such a form writes. -/
theorem config_loadedForm (h : t.Lawful) (ops : List FormOperation)
    (hread : ∀ f ∈ t.effect.fields, f.read c = .ok (f.loaded c)) :
    (t.loadedForm ops c).config = .object (Form.written t.effect.fields c) := by
  rw [loadedForm_eq ops hread, Form.config_loaded h.distinct]

theorem get?_loadedForm (h : t.Lawful) (ops : List FormOperation)
    (hread : ∀ f ∈ t.effect.fields, f.read c = .ok (f.loaded c)) {f : Field}
    (hf : f ∈ t.effect.fields) : (t.loadedForm ops c).get? f.name = some (f.loaded c) := by
  rw [loadedForm_eq ops hread]
  exact Form.get?_loaded h.distinct c _ hf

/-- An instance that holds an object is registered with what it is decoded to. -/
theorem config_of_decode {config : t.Config} {es : List (String × Json)} {r : Request}
    (hr : r.subject.config = .object es) (hdecode : t.decode (.object es) = .ok config) :
    r.config t.decode t.default = config := by
  rw [Request.config, hr]
  simp only [hdecode]
  rfl

/-- What a field has is read from the JSON of a configuration that fits. -/
theorem Lawful.read_toJson (h : t.Lawful) {config : t.Config} (hfits : t.Fits config) {f : Field}
    (hf : f ∈ t.effect.fields) {value : FieldValue} (hvalue : (f.name, value) ∈ t.members config) :
    f.read (t.toJson config) = .ok value := by
  have hnodup : (Table.names ((t.members config).map fun e => (e.1, e.2.toJson))).Nodup := by
    rw [Table.names, List.map_map]
    exact (h.names config).symm ▸ h.distinct
  have hmember : (t.toJson config).member? f.name = some value.toJson :=
    Json.member?_ofList hnodup (List.mem_map.2 ⟨(f.name, value), hvalue, rfl⟩)
  rw [Field.read, hmember]
  exact Field.parse_toJson (h.sound f hf) (hfits f hf _ hvalue rfl)

/-- Members that have the names and the values of the fields are those. -/
theorem members_eq_entries {ms : List (String × FieldValue)} {fields : List Field}
    (hnames : ms.map Prod.fst = fields.map Field.name)
    (hvalues : ∀ f ∈ fields, ∀ value, (f.name, value) ∈ ms → value = f.loaded c) :
    ms = Form.entries fields c := by
  induction ms generalizing fields with
  | nil =>
    obtain rfl := List.map_eq_nil_iff.1 hnames.symm
    rfl
  | cons e ms ih =>
    cases fields with
    | nil => cases hnames
    | cons f fields =>
      obtain ⟨name, value⟩ := e
      obtain ⟨rfl, hrest⟩ := List.cons.inj hnames
      obtain rfl := hvalues f List.mem_cons_self value List.mem_cons_self
      rw [ih hrest fun g hg value hvalue =>
        hvalues g (List.mem_cons_of_mem _ hg) value (List.mem_cons_of_mem _ hvalue)]
      rfl

/-- What the form holds of a loaded configuration fits. -/
theorem Lawful.fits_entries (h : t.Lawful) {config : t.Config}
    (hadmits : ∀ f ∈ t.effect.fields, f.Admits (f.loaded c))
    (hmembers : t.members config = Form.entries t.effect.fields c) : t.Fits config := by
  intro f hf e he hname
  rw [hmembers] at he
  obtain ⟨g, hg, rfl⟩ := List.mem_map.1 he
  obtain rfl := List.inj_on_of_nodup_map h.distinct hg hf hname
  exact hadmits g hg

/-- A type with the defaults of the form fits by default. -/
theorem Lawful.fits_default (h : t.Lawful)
    (hdefault : t.members t.default = t.effect.fields.map fun f => (f.name, f.default)) :
    t.Fits t.default := by
  intro f hf e he hname
  rw [hdefault] at he
  obtain ⟨g, hg, rfl⟩ := List.mem_map.1 he
  obtain rfl := List.inj_on_of_nodup_map h.distinct hg hf hname
  exact Field.admits_default (h.sound g hg)

/-- Every value that is loaded is read, and admitted by its field. -/
theorem Lawful.loaded (h : t.Lawful) (hc : ∀ n ∈ c.numbers, n.isFinite = true) :
    ∀ f ∈ t.effect.fields, f.read c = .ok (f.loaded c) ∧ f.Admits (f.loaded c) :=
  fun f hf => ⟨Field.read_eq (h.sound f hf) hc, Field.admits_loaded (h.sound f hf) hc⟩

/-- A configuration that fits has a value for every field, and it is what is
loaded of its JSON. -/
theorem Lawful.members_loaded (h : t.Lawful) {config : t.Config} (hfits : t.Fits config) :
    ∀ f ∈ t.effect.fields, (f.name, f.loaded (t.toJson config)) ∈ t.members config ∧
      f.read (t.toJson config) = .ok (f.loaded (t.toJson config)) := by
  intro f hf
  have hname : f.name ∈ (t.members config).map Prod.fst :=
    h.names config ▸ List.mem_map_of_mem hf
  obtain ⟨⟨name, value⟩, hmem, rfl⟩ := List.mem_map.1 hname
  have hread := h.read_toJson hfits hf hmem
  have hloaded : f.loaded (t.toJson config) = value := by
    rw [Field.loaded, hread]
    rfl
  rw [hloaded]
  exact ⟨hmem, hread⟩

/-- A configuration that fits comes back from the form. -/
theorem Lawful.decode_loadedForm (h : t.Lawful) (ops : List FormOperation) {config : t.Config}
    (hfits : t.Fits config) :
    t.decode (t.loadedForm ops (t.toJson config)).config = .ok config := by
  have hloaded := h.members_loaded hfits
  obtain ⟨config', hdecode, hmembers⟩ :=
    h.decode_written fun f hf => hfits f hf _ (hloaded f hf).1 rfl
  -- The names are distinct, so there is one value for each.
  have hnodup : ((t.members config).map Prod.fst).Nodup := h.names config ▸ h.distinct
  have hentries : t.members config = Form.entries t.effect.fields (t.toJson config) :=
    members_eq_entries (h.names config) fun f hf value hmem =>
      congrArg Prod.snd (List.inj_on_of_nodup_map hnodup hmem (hloaded f hf).1 rfl)
  rw [config_loadedForm h ops fun f hf => (hloaded f hf).2, hdecode,
    h.determined config' config (hmembers.trans hentries.symm)]

/-- **An effect whose form and type are in step**: they agree on everything
that is loaded. -/
theorem Lawful.agrees (h : t.Lawful) : t.Agrees where
  decoded ops c hc := by
    have hread : ∀ f ∈ t.effect.fields, f.read c = .ok (f.loaded c) :=
      fun f hf => (h.loaded hc f hf).1
    obtain ⟨config, hdecode, hmembers⟩ := h.decode_written fun f hf => (h.loaded hc f hf).2
    rw [config_loadedForm h ops hread]
    refine ⟨config, hdecode, h.names config, fun e he => ?_,
      fun r hr => config_of_decode hr hdecode⟩
    rw [hmembers] at he
    obtain ⟨f, hf, rfl⟩ := List.mem_map.1 he
    exact get?_loadedForm h ops hread hf
  restored ops config hfits := h.decode_loadedForm ops hfits
  registered ops c hc r hr hready := by
    have hadmits : ∀ f ∈ t.effect.fields, f.Admits (f.loaded c) :=
      fun f hf => (h.loaded hc f hf).2
    obtain ⟨config, hdecode, hmembers⟩ := h.decode_written hadmits
    rw [config_loadedForm h ops fun f hf => (h.loaded hc f hf).1] at hr
    have hconfig := config_of_decode hr hdecode
    exact h.succeeds r (hconfig ▸ h.fits_entries hadmits hmembers) hready

end Agreement

end TypedEffect

end ParticleTimeline
