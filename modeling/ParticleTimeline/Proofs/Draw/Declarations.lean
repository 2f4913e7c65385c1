import ParticleTimeline.Proofs.Draw.Command
/-!
# Declarations and tables

Effects that leave the declarations of uniforms and attributes to their
allocators cannot bring declarations and tables apart. The sections for
declarations are written by flushed allocators only, so both of them are given
by the same list of entries: the shared ones and those of the registrations
that stand (`Build.source_uniforms`, `Build.source_attributes`). Identifiers of
different registrations differ, and none of them is a shared name, so nothing
collides and the table lists the same entries
(`Build.declarations_agree`). Effects that take back what is not their own, or
whose names have a line break, keep no such rule
(`Build.declarations_disagree`).
-/

namespace ParticleTimeline

namespace Enrolment

variable {e : Enrolment}

/-- The uniforms of a block are those of its registration in both stages. -/
theorem block_uniforms (h : ∀ a ∈ e.actions, a.KeepsToAllocators) (stage : ShaderStage) :
    (e.block stage).get .uniforms = Allocator.declarations .uniform e.uniforms := by
  have htexts := Action.texts_of_keepsToAllocators h (.inl rfl) stage
  cases hstands : e.stands with
  | true => cases stage <;> simp [block, inside, hstands, htexts]
  | false => simp [block, inside, hstands, uniforms]

/-- The attributes of a block are those of its registration in the vertex
stage. -/
theorem block_attributes (h : ∀ a ∈ e.actions, a.KeepsToAllocators) (stage : ShaderStage) :
    (e.block stage).get .attributes
      = if stage = .vertex then Allocator.declarations .attr e.attributes else "" := by
  have htexts := Action.texts_of_keepsToAllocators h (.inr rfl) stage
  cases hstands : e.stands with
  | true => cases stage <;> simp [block, inside, hstands, htexts]
  | false => simp [block, inside, hstands, attributes]

/-- What a failed registration leaves is one comment in the body. -/
theorem block_of_failed (h : e.stands = false) {k : Section} (hk : k ≠ .body)
    (stage : ShaderStage) : (e.block stage).get k = "" := by
  simp [block, inside, h, hk]

theorem nodup_names_uniforms (h : Action.BindsOnce e.actions) : (Table.names e.uniforms).Nodup := by
  unfold uniforms
  split
  · have := Allocator.nodup_identifiers (n := e.number) h.uniforms
    simpa [Table.names, Allocator.entries, Function.comp_def] using this
  · simp [Table.names]

theorem nodup_names_attributes (h : Action.BindsOnce e.actions) :
    (Table.names e.attributes).Nodup := by
  unfold attributes
  split
  · have := Allocator.nodup_identifiers (n := e.number) h.attributes
    simpa [Table.names, Allocator.entries, Function.comp_def] using this
  · simp [Table.names]

/-- Entries under different numbers have different names. -/
theorem nodup_names_flatMap {α : Type} {f : Enrolment → List (String × Entry α)}
    {roll : List Enrolment} (hpair : roll.Pairwise fun e e' => e.number ≠ e'.number)
    (hnodup : ∀ e ∈ roll, (Table.names (f e)).Nodup)
    (hname : ∀ e, ∀ name ∈ Table.names (f e), ∃ x, name = identifier (some e.number) x) :
    (Table.names (roll.flatMap f)).Nodup := by
  rw [Table.names, List.map_flatMap, List.Nodup, List.pairwise_flatMap]
  refine ⟨hnodup, hpair.imp fun {e e'} hne name hin name' hin' heq => ?_⟩
  obtain ⟨x, rfl⟩ := hname e name hin
  obtain ⟨x', rfl⟩ := hname e' name' hin'
  exact hne (identifier_injective heq).1

end Enrolment

/-! ## Lines -/

/-- A line `<keyword> <type> <name>;` for every entry. -/
def declaring {α : Type} (keyword : String) (es : List (String × Entry α)) : String :=
  String.join (es.map fun e => keyword ++ " " ++ e.2.type.name ++ " " ++ e.1 ++ ";\n")

/-- **One line for every entry**, when no name has a line break of its own. -/
theorem count_declaring {α : Type} {keyword : String} {es : List (String × Entry α)}
    (hkeyword : '\n' ∉ keyword.toList) (h : ∀ name ∈ Table.names es, '\n' ∉ name.toList) :
    (declaring keyword es).toList.count '\n' = es.length := by
  induction es with
  | nil => rfl
  | cons e es ih =>
    obtain ⟨hname, hrest⟩ := List.forall_mem_cons.1 h
    have htype : ∀ type : GlslType, '\n' ∉ type.name.toList := by
      intro type
      cases type <;> decide
    have hcons : declaring keyword (e :: es)
        = keyword ++ " " ++ e.2.type.name ++ " " ++ e.1 ++ ";\n" ++ declaring keyword es := by
      rw [declaring, List.map_cons, String.join_cons]
      rfl
    have hend : ";\n".toList.count '\n' = 1 := by decide
    have hblank : " ".toList.count '\n' = 0 := by decide
    rw [hcons]
    simp only [String.toList_append, List.count_append, ih hrest, hend, hblank,
      List.count_eq_zero.2 hkeyword, List.count_eq_zero.2 (htype _), List.count_eq_zero.2 hname,
      List.length_cons]
    omega

namespace Build

variable {c : TimelineConfig} {grid : ParticleGrid Float32} {moment : FrameContext}
variable {queue : List Queued} {rl : List Enrolment}

/-! ## The tables -/

/-- The uniforms of a roll: those that are shared, and those that standing
registrations have bound, each with the number of its registration behind its
name. -/
def uniformEntries (c : TimelineConfig) (roll : List Enrolment) : List (String × Entry Uniform) :=
  (sharedUniforms c).entries ++ (roll.filter Enrolment.stands).flatMap fun e =>
    (e.actions.filterMap Action.uniform?).map fun b =>
      (b.name ++ "_" ++ toString e.number, { type := b.type, value := b.value })

/-- The attributes of a roll. -/
def attributeEntries (grid : ParticleGrid Float32) (roll : List Enrolment) :
    List (String × Entry Attribute) :=
  (sharedAttributes grid).entries ++ (roll.filter Enrolment.stands).flatMap fun e =>
    (e.actions.filterMap Action.attribute?).map fun b =>
      (b.name ++ "_" ++ toString e.number, { type := b.type, value := b.value })

theorem flatMap_of_stands {α : Type} {f g : Enrolment → List α}
    (hstands : ∀ e, e.stands = true → f e = g e) (hfailed : ∀ e, e.stands = false → f e = [])
    (rl : List Enrolment) : rl.flatMap f = (rl.filter Enrolment.stands).flatMap g := by
  induction rl with
  | nil => rfl
  | cons e rl ih =>
    cases he : e.stands with
    | true =>
      rw [List.flatMap_cons, ih, List.filter_cons_of_pos he, List.flatMap_cons, hstands e he]
    | false =>
      rw [List.flatMap_cons, ih, List.filter_cons_of_neg (by simp [he]), hfailed e he,
        List.nil_append]

theorem uniformEntries_eq (c : TimelineConfig) (rl : List Enrolment) :
    uniformEntries c rl = (sharedUniforms c).entries ++ rl.flatMap Enrolment.uniforms := by
  refine congrArg _ (flatMap_of_stands (fun e he => ?_) (fun e he => ?_) rl).symm
  · rw [Enrolment.uniforms, if_pos he]
    rfl
  · rw [Enrolment.uniforms, if_neg (by simp [he])]

theorem attributeEntries_eq (grid : ParticleGrid Float32) (rl : List Enrolment) :
    attributeEntries grid rl = (sharedAttributes grid).entries
      ++ rl.flatMap Enrolment.attributes := by
  refine congrArg _ (flatMap_of_stands (fun e he => ?_) (fun e he => ?_) rl).symm
  · rw [Enrolment.attributes, if_pos he]
    rfl
  · rw [Enrolment.attributes, if_neg (by simp [he])]

/-- Shared entries beside those of a roll whose numbers differ. -/
theorem ofList_shared_perm {α : Type} {shared : List (String × Entry α)}
    {f : Enrolment → List (String × Entry α)} (hshared : (Table.names shared).Nodup)
    (hplain : ∀ name ∈ Table.names shared, Unnumbered name)
    (hroll : (Table.names (rl.flatMap f)).Nodup)
    (hname : ∀ e, ∀ name ∈ Table.names (f e), ∃ x, name = identifier (some e.number) x) :
    (Table.ofList (shared ++ rl.flatMap f)).Perm (shared ++ rl.flatMap f) ∧
      (Table.names (shared ++ rl.flatMap f)).Nodup := by
  have hnodup : (Table.names (shared ++ rl.flatMap f)).Nodup := by
    rw [Table.names, List.map_append, List.nodup_append]
    refine ⟨hshared, hroll, fun name hin name' hin' heq => ?_⟩
    rw [List.map_flatMap, List.mem_flatMap] at hin'
    obtain ⟨e, -, he⟩ := hin'
    obtain ⟨x, rfl⟩ := hname e name' he
    exact identifier_ne_of_unnumbered (hplain name hin) heq.symm
  have hperm := Table.insertAll_perm (t := []) hnodup (by simp [Table.names])
  rw [Table.insertAll_eq_ofList] at hperm
  exact ⟨hperm, hnodup⟩

/-! ## The sections -/

theorem local_of_keepsToAllocators (hkeeps : ∀ e ∈ rl, ∀ a ∈ e.actions, a.KeepsToAllocators) :
    ∀ e ∈ rl, ∀ a ∈ e.actions, a.Local := fun e he a ha => (hkeeps e he a ha).local

/-- **Both stages declare the uniforms of the roll**, and nothing else as a
uniform. -/
theorem source_uniforms (hkeeps : ∀ e ∈ rl, ∀ a ∈ e.actions, a.KeepsToAllocators)
    (stage : ShaderStage) :
    (source c grid rl stage).sections.get .uniforms = Allocator.declarations .uniform
      ((sharedUniforms c).entries ++ rl.flatMap Enrolment.uniforms) := by
  have hblocks : rl.map ((·.get .uniforms) ∘ fun e : Enrolment => e.block stage)
      = rl.map fun e => Allocator.declarations .uniform e.uniforms :=
    List.map_congr_left fun e he => e.block_uniforms (hkeeps e he) stage
  rw [Allocator.declarations_append, Allocator.declarations_flatMap, ← hblocks,
    source_sections (local_of_keepsToAllocators hkeeps)]
  cases stage <;> simp [sharedTexts, Shell.before, Shell.behind]

/-- **The vertex stage declares the attributes of the roll**, and the fragment
stage declares none. -/
theorem source_attributes (hkeeps : ∀ e ∈ rl, ∀ a ∈ e.actions, a.KeepsToAllocators)
    (stage : ShaderStage) :
    (source c grid rl stage).sections.get .attributes = if stage = .vertex then
      Allocator.declarations .attr
        ((sharedAttributes grid).entries ++ rl.flatMap Enrolment.attributes) else "" := by
  have hblocks : rl.map ((·.get .attributes) ∘ fun e : Enrolment => e.block stage)
      = rl.map fun e => if stage = .vertex then Allocator.declarations .attr e.attributes else "" :=
    List.map_congr_left fun e he => e.block_attributes (hkeeps e he) stage
  rw [source_sections (local_of_keepsToAllocators hkeeps)]
  cases stage with
  | vertex =>
    rw [if_pos rfl, Allocator.declarations_append, Allocator.declarations_flatMap]
    simp only [if_true] at hblocks
    rw [← hblocks]
    simp [sharedTexts, Shell.before, Shell.behind]
  | fragment =>
    have hnone : ∀ es : List Enrolment, String.join (es.map fun _ => "") = "" := by
      intro es
      induction es with
      | nil => rfl
      | cons e es ih => simpa using ih
    simp only [reduceCtorEq, if_false] at hblocks ⊢
    have hjoin := hnone rl
    rw [← hblocks] at hjoin
    simp [sharedTexts, Shell.before, Shell.behind, hjoin]

/-- Outside the bodies a roll with failures leaves what it would leave without
them. -/
theorem source_of_standing (hkeeps : ∀ e ∈ rl, ∀ a ∈ e.actions, a.KeepsToAllocators) {k : Section}
    (hk : k ≠ .body) (stage : ShaderStage) :
    (source c grid rl stage).sections.get k
      = (source c grid (rl.filter Enrolment.stands) stage).sections.get k := by
  have hblocks : ∀ rl : List Enrolment,
      String.join (rl.map ((·.get k) ∘ fun e : Enrolment => e.block stage))
        = String.join
          ((rl.filter Enrolment.stands).map ((·.get k) ∘ fun e : Enrolment => e.block stage)) := by
    intro rl
    induction rl with
    | nil => rfl
    | cons e rl ih =>
      cases hstands : e.stands with
      | true => simp [hstands, ih]
      | false => simp [hstands, ih, e.block_of_failed hstands hk]
  have hlocal := local_of_keepsToAllocators hkeeps
  have hlocal' : ∀ e ∈ rl.filter Enrolment.stands, ∀ a ∈ e.actions, a.Local :=
    fun e he => hlocal e (List.mem_filter.1 he).1
  simp only [source_sections hlocal, source_sections hlocal', Sections.get_append,
    Sections.get_concat, List.map_map, hblocks rl]

/-! ## Agreement -/

/-- The entries of a roll are the tables of its command, each under a name of
its own. -/
theorem perm_tables (honce : ∀ e ∈ roll c grid moment queue, Action.BindsOnce e.actions) :
    ((ofRoll c grid (roll c grid moment queue)).uniforms.Perm
        ((sharedUniforms c).entries ++ (roll c grid moment queue).flatMap Enrolment.uniforms) ∧
      (Table.names (ofRoll c grid (roll c grid moment queue)).uniforms).Nodup) ∧
    (ofRoll c grid (roll c grid moment queue)).attributes.Perm
        ((sharedAttributes grid).entries
          ++ (roll c grid moment queue).flatMap Enrolment.attributes) ∧
      (Table.names (ofRoll c grid (roll c grid moment queue)).attributes).Nodup := by
  -- Every number is given out once, so identifiers of two registrations differ.
  have hpair : (roll c grid moment queue).Pairwise fun e e' => e.number ≠ e'.number :=
    Draft.pairwise_enrol _ _ _
  obtain ⟨huniforms, hunames⟩ := ofList_shared_perm (nodup_shared c grid).1
    (unnumbered_shared c grid).1
    (Enrolment.nodup_names_flatMap hpair (fun e he => e.nodup_names_uniforms (honce e he))
      fun _ _ => Enrolment.mem_names_uniforms)
    fun _ _ => Enrolment.mem_names_uniforms
  obtain ⟨hattributes, hanames⟩ := ofList_shared_perm (nodup_shared c grid).2
    (unnumbered_shared c grid).2
    (Enrolment.nodup_names_flatMap hpair (fun e he => e.nodup_names_attributes (honce e he))
      fun _ _ => Enrolment.mem_names_attributes)
    fun _ _ => Enrolment.mem_names_attributes
  exact ⟨⟨huniforms, (huniforms.map Prod.fst).nodup_iff.2 hunames⟩, hattributes,
    (hattributes.map Prod.fst).nodup_iff.2 hanames⟩

/-- Declarations and tables agree in the command of a roll: the tables list what
is shared and what the standing registrations bound, and the two stages declare
what the tables list, each entry in one line and with its type. -/
structure Agrees (c : TimelineConfig) (grid : ParticleGrid Float32) (roll : List Enrolment)
    (command : DrawCommand) : Prop where
  shared : Table.names (sharedUniforms c).entries
    = ["globalTime", "viewport", "particleSize", "invScreenAspectRatio", "background_color"]
  uniforms : command.uniforms.Perm (uniformEntries c roll)
  attributes : command.attributes.Perm (attributeEntries grid roll)
  names : (Table.names command.uniforms).Nodup ∧ (Table.names command.attributes).Nodup
  vertex : command.vert = declaring "attribute" (attributeEntries grid roll)
    ++ declaring "uniform" (uniformEntries c roll)
    ++ (source c grid roll .vertex).sections.varyings
    ++ (source c grid roll .vertex).sections.globals ++ "void main() \x7b\n"
    ++ (source c grid roll .vertex).sections.body ++ "\x7d\n"
  /-- The lines for the uniforms are the same text again, and there is none for
  an attribute. -/
  fragment : command.frag = "precision highp float;\n"
    ++ declaring "uniform" (uniformEntries c roll)
    ++ (source c grid roll .fragment).sections.varyings
    ++ (source c grid roll .fragment).sections.globals ++ "void main() \x7b\n"
    ++ (source c grid roll .fragment).sections.body ++ "\x7d\n"
  uniformLines : (∀ name ∈ Table.names command.uniforms, '\n' ∉ name.toList) →
    (declaring "uniform" (uniformEntries c roll)).toList.count '\n' = command.uniforms.length
  attributeLines : (∀ name ∈ Table.names command.attributes, '\n' ∉ name.toList) →
    (declaring "attribute" (attributeEntries grid roll)).toList.count '\n'
      = command.attributes.length
  /-- Outside the bodies nothing has come from the registrations that failed. -/
  failed : ∀ stage k, k ≠ .body → (source c grid roll stage).sections.get k
    = (source c grid (roll.filter Enrolment.stands) stage).sections.get k

theorem ofRoll_agrees (honce : ∀ e ∈ roll c grid moment queue, Action.BindsOnce e.actions)
    (hkeeps : ∀ e ∈ roll c grid moment queue, ∀ a ∈ e.actions, a.KeepsToAllocators) :
    Agrees c grid (roll c grid moment queue) (ofRoll c grid (roll c grid moment queue)) := by
  obtain ⟨⟨huniforms, hunames⟩, hattributes, hanames⟩ := perm_tables honce
  rw [← uniformEntries_eq] at huniforms
  rw [← attributeEntries_eq] at hattributes
  have hlocal := local_of_keepsToAllocators hkeeps
  refine {
    shared := (names_shared c grid).1
    uniforms := huniforms
    attributes := hattributes
    names := ⟨hunames, hanames⟩
    vertex := ?_
    fragment := ?_
    uniformLines := fun hnames => ?_
    attributeLines := fun hnames => ?_
    failed := fun stage k hk => source_of_standing hkeeps hk stage }
  · have htext : textOf (ofRoll c grid (roll c grid moment queue)) .vertex = _ :=
      textOf_ofRoll hlocal .vertex
    have hu : (source c grid (roll c grid moment queue) .vertex).sections.uniforms = _ :=
      source_uniforms hkeeps .vertex
    have ha : (source c grid (roll c grid moment queue) .vertex).sections.attributes = _ :=
      source_attributes hkeeps .vertex
    rw [if_pos rfl] at ha
    rw [hu, ha, if_neg nofun, String.empty_append, ← uniformEntries_eq, ← attributeEntries_eq]
      at htext
    exact htext
  · have htext : textOf (ofRoll c grid (roll c grid moment queue)) .fragment = _ :=
      textOf_ofRoll hlocal .fragment
    have hu : (source c grid (roll c grid moment queue) .fragment).sections.uniforms = _ :=
      source_uniforms hkeeps .fragment
    have ha : (source c grid (roll c grid moment queue) .fragment).sections.attributes = _ :=
      source_attributes hkeeps .fragment
    rw [if_neg nofun] at ha
    rw [hu, ha, if_pos rfl, String.append_empty, ← uniformEntries_eq] at htext
    exact htext
  · rw [huniforms.length_eq]
    exact count_declaring (by decide) fun name hname =>
      hnames name ((huniforms.map Prod.fst).mem_iff.2 hname)
  · rw [hattributes.length_eq]
    exact count_declaring (by decide) fun name hname =>
      hnames name ((hattributes.map Prod.fst).mem_iff.2 hname)

/-- **Declarations agree with the tables, and names never collide.** Let the
effects leave the declarations of what they bind to their allocators. A build of
any timeline, with any of its registrations failing and however it was polled,
declares in its command what it binds. It can be kept from a command only by a
registration that waits for ever, or by one that takes back so much of its own
text that it cuts a character. -/
theorem declarations_agree (patient : Bool) (grid : ParticleGrid Float32) (moment : FrameContext)
    {r : Registry} (hqueue : Build.queue c r = .ok queue) (honce : r.BindsOnce)
    (hkeeps : r.KeepsToAllocators) {left : Build}
    (hleft : Left (start c grid moment queue) left) :
    (∀ fault, (left.advance patient).outcome = .crashed fault →
        patient = true ∧ fault = .endless ∨ fault = .splitCharacter) ∧
      (∀ command, (left.advance patient).outcome = .finished command →
        Agrees c grid (roll c grid moment queue) command) ∧
      ((∃ command, left.finish.outcome = .finished command) ↔
        ∀ e ∈ roll c grid moment queue, e.Ends ∧ (Workspace.new .empty).Faultless e.actions) := by
  have honce' : ∀ e ∈ roll c grid moment queue, Action.BindsOnce e.registration.actions :=
    fun e he => forall_enrol hqueue (P := fun g => Action.BindsOnce g.actions) honce he
  have hkeeps' : ∀ e ∈ roll c grid moment queue, ∀ a ∈ e.actions, a.KeepsToAllocators :=
    fun e he => forall_enrol hqueue (P := fun g => ∀ a ∈ g.actions, a.KeepsToAllocators) hkeeps he
  refine ⟨fun fault hcrashed => ?_, fun command hfinished => ?_, ?_⟩
  · have hregisters := hleft.registers
      (registers_start (P := fun g => Action.BindsOnce g.actions) honce') fun _ honce => honce
    have hcomes := hregisters.advance (fun _ honce => honce) patient
    rw [hcrashed] at hcomes
    exact hcomes.imp id And.left
  · rw [hleft.finished hfinished]
    exact ofRoll_agrees honce' hkeeps'
  · rw [← hleft.finish_outcome, finished_iff,
      Stages.safe_iff_of_local (local_of_keepsToAllocators hkeeps') honce']
    exact ⟨fun h e he => ⟨h.2 e he, h.1 e he⟩,
      fun h => ⟨fun e he => (h e he).2, fun e he => (h e he).1⟩⟩

end Build

/-- Effects that bind names of their own: one writes a statement, takes it back
and writes another one, one fails, and one has uniforms of several types. -/
def Registry.redrafting : Registry := .always [
  ("Redraft", .ofActions [.mark .vertex, .addMain .vertex "float draft;",
    .bindUniform "x_1" .float (.constant (.float 1)), .rollback .vertex (.own .vertex 0),
    .addMain .vertex "float copy;"]),
  ("Failing", { Registration.ofActions [.bindUniform "x" .vec4 (.constant (.bool true)),
    .bindAttribute "y" .vec2 ⟨#[]⟩] with ending := .fails ⟨"Failing", "halfway"⟩ }),
  ("Plain", .ofActions [.bindUniform "x" .int (.constant (.bool true)),
    .bindUniform "flag" .bool (.constant (.bool true)),
    .bindUniform "tint" .vec4 (.constant (.bool true)), .bindAttribute "y" .float ⟨#[]⟩])]

/-- A timeline with an instance of each, and another one of the first. -/
def TimelineConfig.redrafted : TimelineConfig where
  tracks := [["Redraft", "Failing", "Plain", "Redraft"].map fun effectId =>
    { effectId, timeBegin := 0, timeEnd := 1 }]
  gridWidth := 1
  gridHeight := 1

namespace Build

theorem declarations_agree_redrafted :
    Registry.redrafting.BindsOnce ∧ Registry.redrafting.KeepsToAllocators ∧
      ∃ queue command, Build.queue .redrafted .redrafting = .ok queue ∧
        (start .redrafted .speck .first queue).finish.outcome = .finished command ∧
        Agrees .redrafted .speck (roll .redrafted .speck .first queue) command ∧
        declaring "uniform" (uniformEntries .redrafted (roll .redrafted .speck .first queue))
          = "uniform float globalTime;\nuniform vec2 viewport;\nuniform float particleSize;\n"
            ++ "uniform float invScreenAspectRatio;\nuniform vec3 background_color;\n"
            ++ "uniform float x_1_0;\nuniform int x_2;\nuniform bool flag_2;\n"
            ++ "uniform vec4 tint_2;\nuniform float x_1_3;\n" ∧
        declaring "attribute" (attributeEntries .speck (roll .redrafted .speck .first queue))
          = "attribute vec2 texcoord;\nattribute vec3 rgb;\nattribute vec3 hsv;\n"
            ++ "attribute float y_2;\n" := by
  have honce : Registry.redrafting.BindsOnce := Registry.bindsOnce_always (by decide)
  have hkeeps : Registry.redrafting.KeepsToAllocators :=
    Registry.keepsToAllocators_always (by decide)
  obtain ⟨queue, hqueue, hcomputed⟩ := exists_queue (c := .redrafted) (r := .redrafting)
    (P := fun queue =>
      let roll := Build.roll .redrafted .speck .first queue
      decide ((∀ e ∈ roll, e.Ends ∧ (Workspace.new .empty).Faultless e.actions) ∧
        declaring "uniform" (uniformEntries .redrafted roll)
          = "uniform float globalTime;\nuniform vec2 viewport;\nuniform float particleSize;\n"
            ++ "uniform float invScreenAspectRatio;\nuniform vec3 background_color;\n"
            ++ "uniform float x_1_0;\nuniform int x_2;\nuniform bool flag_2;\n"
            ++ "uniform vec4 tint_2;\nuniform float x_1_3;\n" ∧
        declaring "attribute" (attributeEntries .speck roll)
          = "attribute vec2 texcoord;\nattribute vec3 rgb;\nattribute vec3 hsv;\n"
            ++ "attribute float y_2;\n"))
    (by decide +kernel)
  obtain ⟨hends, htexts⟩ := of_decide_eq_true hcomputed
  obtain ⟨-, hagrees, hfinishes⟩ :=
    declarations_agree true .speck .first hqueue honce hkeeps .here
  obtain ⟨command, hfinished⟩ := hfinishes.2 hends
  exact ⟨honce, hkeeps, queue, command, hqueue, hfinished, hagrees command hfinished, htexts⟩

end Build

/-! ## Effects that keep no such rule -/

/-- An effect that takes back all there is in the vertex source. -/
def Registration.wiping : Registration :=
  .ofActions [.rollback .vertex (.foreign ⟨0, 0, 0, 0, 0⟩)]

/-- An effect that binds a name with a line break. -/
def Registration.breaking : Registration :=
  .ofActions [.bindUniform "a\nb" .float (.constant (.float 1))]

namespace Build

/-- What the first of them leaves is what comes after it. -/
theorem vertex_wiping : source (.only "W") .speck [.brief "W" .wiping] .vertex =
    { stage := .vertex
      sections := .only .body ("\x7d\n"
        ++ "gl_Position = vec4(position.x * invScreenAspectRatio, position.y, position.z, 1.0);\n"
        ++ "gl_PointSize = max(pointSize, 0.0);\nv_color = color;\n") } := by
  have hact : ∀ s : Stages, ((Workspace.new s).after Registration.wiping.actions).stages
      = s.change .vertex fun v => { v with sections := .blank } := by
    intro s
    have hone : ((Workspace.new s).after Registration.wiping.actions).stages
        = s.change .vertex fun v => (v.rollback ⟨0, 0, 0, 0, 0⟩).1 := rfl
    simp only [hone, ShaderSource.rollback_zero]
  have hchange : ∀ s : Stages, ((Enrolment.brief "W" .wiping).change s).vertex
      = { s.vertex with sections := .blank ++ .only .body "\x7d\n" } := by
    intro s
    have hstands : (Enrolment.brief "W" .wiping).stands = true := rfl
    have hactions : (Enrolment.brief "W" .wiping).actions = Registration.wiping.actions := rfl
    have huniforms : (Enrolment.brief "W" .wiping).uniforms = [] := rfl
    have hattributes : (Enrolment.brief "W" .wiping).attributes = [] := rfl
    rw [Enrolment.change, Enrolment.close, if_pos hstands, hactions, hact, huniforms,
      hattributes, Allocator.declarations_nil, Allocator.declarations_nil, Sections.only_empty,
      Sections.only_empty, Stages.extend_blank, Stages.extend_blank, Stages.addMain_eq_extend]
    rfl
  rw [source, Stages.after_cons, Stages.after_nil, Shell.epilogue_eq_extend, Stages.get,
    Stages.extend_vertex, hchange]
  decide +kernel

theorem faultless_wiping : Registration.wiping.Faultless := by
  intro s
  have hone : ((Workspace.new s).act (.rollback .vertex (.foreign ⟨0, 0, 0, 0, 0⟩))).2
      = (s.vertex.rollback ⟨0, 0, 0, 0, 0⟩).2 := rfl
  rw [ShaderSource.rollback_zero] at hone
  exact ⟨by decide, ⟨hone, trivial⟩, nofun⟩

theorem local_breaking : ∀ a ∈ (Enrolment.brief "B" .breaking).actions, a.Local := by
  decide

theorem faultless_breaking : Registration.breaking.Faultless :=
  Registration.faultless_of_appends (by decide) (by decide)

/-- The second one keeps to its allocators, so its command declares what it
binds. -/
theorem agrees_breaking : Agrees (.only "B") .speck [.brief "B" .breaking]
    (ofRoll (.only "B") .speck [.brief "B" .breaking]) := by
  have hagrees : Agrees (.only "B") .speck
      (roll (.only "B") .speck .first [⟨.brief "B", .always "B" .breaking⟩]) _ :=
    ofRoll_agrees (List.forall_mem_singleton.2 (by decide))
      (List.forall_mem_singleton.2 (by decide))
  exact hagrees

/-- Two effects that declare all they declare through their allocators, and no
name twice: one leaves five uniforms in the table and none in the vertex stage,
and of the other six uniforms take seven lines. -/
theorem declarations_disagree :
    (∀ g ∈ [Registration.wiping, .breaking], Action.BindsOnce g.actions ∧
      ∀ stage qualifier type name, .declare stage qualifier type name ∉ g.actions) ∧
    (∃ command, Build.queue (.only "W") (.always [("W", .wiping)])
        = .ok [⟨.brief "W", .always "W" .wiping⟩] ∧
      (single "W" .wiping).finish.outcome = .finished command ∧ command.uniforms.length = 5 ∧
      command.vert = "void main() \x7b\n\x7d\n"
        ++ "gl_Position = vec4(position.x * invScreenAspectRatio, position.y, position.z, 1.0);\n"
        ++ "gl_PointSize = max(pointSize, 0.0);\nv_color = color;\n\x7d\n") ∧
    ∃ command, Build.queue (.only "B") (.always [("B", .breaking)])
        = .ok [⟨.brief "B", .always "B" .breaking⟩] ∧
      (single "B" .breaking).finish.outcome = .finished command ∧ command.uniforms.length = 6 ∧
      ∃ rest, command.frag = "precision highp float;\n"
        ++ ("uniform float globalTime;\nuniform vec2 viewport;\nuniform float particleSize;\n"
          ++ "uniform float invScreenAspectRatio;\nuniform vec3 background_color;\n"
          ++ "uniform float a\nb_0;\n") ++ "varying vec3 v_color;\n" ++ rest := by
  have honce : ∀ g ∈ [Registration.wiping, .breaking], Action.BindsOnce g.actions := by decide
  have hdeclares : ∀ g ∈ [Registration.wiping, .breaking],
      ∀ stage qualifier type name, .declare stage qualifier type name ∉ g.actions := by
    simp [Registration.wiping, Registration.breaking]
  refine ⟨fun g hg => ⟨honce g hg, hdeclares g hg⟩,
    ⟨_, queue_only rfl, finish_single (faultless_wiping _) nofun, by decide +kernel, ?_⟩,
    ⟨_, queue_only rfl, finish_single (faultless_breaking _) nofun, by decide +kernel,
      (source (.only "B") .speck [.brief "B" .breaking] .fragment).sections.globals
        ++ "void main() \x7b\n"
        ++ (source (.only "B") .speck [.brief "B" .breaking] .fragment).sections.body ++ "\x7d\n",
      ?_⟩⟩
  · have hvert : (ofRoll (.only "W") .speck [.brief "W" .wiping]).vert = _ :=
      congrArg ShaderSource.compile vertex_wiping
    rw [hvert]
    decide +kernel
  · have hlines : declaring "uniform" (uniformEntries (.only "B") [.brief "B" .breaking])
        = "uniform float globalTime;\nuniform vec2 viewport;\nuniform float particleSize;\n"
          ++ "uniform float invScreenAspectRatio;\nuniform vec3 background_color;\n"
          ++ "uniform float a\nb_0;\n" := by
      decide +kernel
    have hvaryings : (source (.only "B") .speck [.brief "B" .breaking]
        .fragment).sections.varyings = "varying vec3 v_color;\n" := by
      rw [source_sections (List.forall_mem_singleton.2 local_breaking)]
      decide +kernel
    have hfrag := agrees_breaking.fragment
    rw [hlines, hvaryings] at hfrag
    simp only [String.append_assoc] at hfrag ⊢
    exact hfrag

end Build

end ParticleTimeline
