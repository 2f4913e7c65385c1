import Mathlib.Logic.Relation
import ParticleTimeline.Proofs.Timeline.Entries
/-!
# Spellings of a document

There are many ways to spell a document. Entries may come in another order, there
may be more of them that are not known, and what is a default may be written out
or left out, in the object of the document and in that of every instance
(`TimelineDocument.Respelled`). One such step does not change what the entries
say, and so any number of steps in either direction does not change what the text
is parsed to, be it a document or what is wrong with it, as long as the other text
can be read (`TimelineDocument.parse_respelled`). Not every value can: members that
are not known are read like all others before they are passed over
(`TimelineDocument.unreadable_refused`).
-/

namespace ParticleTimeline

namespace TimelineDocument

open Json (Decoder Reader)

/-! ## Steps -/

/-- The names that a document knows. -/
def known : List String := "schemaVersion" :: TimelineConfig.fields

/-- What is written out in place of a member: what it is without the member. -/
inductive IsDefault : String → Json → Prop
  | version {v : Json} (h : Decoder.word v = .ok schemaVersion) : IsDefault "schemaVersion" v
  | config {name : String} {v : Json}
      (h : Decoder.IsDefault TimelineConfig.fields 0 TimelineConfig.setField {} name v) :
      IsDefault name v

/-- One thing about the entries of a document that does not matter: about its
own object, or about that of one of its instances. -/
inductive Respelled : List (String × Json) → List (String × Json) → Prop
  | document {es fs : List (String × Json)} (h : Json.Respelled known IsDefault es fs) :
      Respelled es fs
  | atInstance {es fs gs hs : List (String × Json)} {before after front behind : List Json}
      (h : Json.Respelled EffectInstance.fields
        (Decoder.IsDefault EffectInstance.fields 3 EffectInstance.setField EffectInstance.unread)
        gs hs) :
      Respelled
        (es ++ ("tracks", .array (before ++ .array (front ++ .object gs :: behind) :: after)) :: fs)
        (es ++ ("tracks", .array (before ++ .array (front ++ .object hs :: behind) :: after)) :: fs)

/-- **One step of another spelling**: the entries say the same of the document. -/
theorem Respelled.reads_iff {d : TimelineDocument} {es fs : List (String × Json)}
    (h : Respelled es fs) : d.Reads es ↔ d.Reads fs := by
  cases h with
  | document h =>
    refine reads_congr (h.reads_iff List.mem_cons_self fun v hv => ?_) fun m hm =>
      h.reads_iff (List.mem_cons_of_mem _ (List.mem_map_of_mem hm)) fun v hv => ?_
    · cases hv with
      | version hword => exact hword
      | config hdefault => exact absurd hdefault.1 (by decide)
    · generalize hname : m.name = name at hv
      cases hv with
      | version => exact absurd hname (name_ne_version m hm)
      | config hdefault =>
        subst hname
        exact TimelineConfig.separate.decode_of_default hm hdefault.2
  | @atInstance es fs gs hs before after front behind h =>
    have hinstance : Json.Alike EffectInstance.decode (.object gs) (.object hs) :=
      h.alike EffectInstance.separate
    have halike := (hinstance.list front behind).list before after
    refine reads_congr (Json.Alike.reads_iff nofun) fun m hm => Json.Alike.reads_iff fun hname => ?_
    -- Only the tracks hold instances.
    obtain rfl := List.inj_on_of_nodup_map TimelineConfig.separate.distinct
      List.mem_cons_self hm hname
    exact halike

/-- **Another spelling of a document** is another way to write the same. -/
theorem reads_respelled {d : TimelineDocument} {es fs : List (String × Json)}
    (h : Relation.EqvGen Respelled es fs) : d.Reads es ↔ d.Reads fs := by
  induction h with
  | rel es fs h => exact h.reads_iff
  | refl es => rfl
  | symm es fs _ ih => exact ih.symm
  | trans es fs gs _ _ ihes ihfs => exact ihes.trans ihfs

/-! ## Texts -/

/-- A text that is spelled otherwise is decoded to the same. -/
theorem decode_respelled {text text' : String} {es es' : List (String × Json)}
    {d : TimelineDocument} (hread : Json.read text = .ok (.object es))
    (hread' : Json.read text' = .ok (.object es')) (hspelled : Relation.EqvGen Respelled es es')
    (hdecode : decode text.toList = .ok d) : decode text'.toList = .ok d := by
  obtain ⟨fs, hwhole, hreads⟩ := decode_eq_ok_iff.1 hdecode
  obtain rfl := Json.object.inj (Except.ok.inj (hread.symm.trans hwhole))
  exact decode_eq_ok_iff.2 ⟨es', hread', (reads_respelled hspelled).1 hreads⟩

/-- Parsing only looks at what is decoded, where anything is. -/
theorem parse_eq_of_decode {text : String} {d : TimelineDocument}
    (h : decode text.toList = .ok d) : parse text = d.config.validate.map fun _ => d := by
  simp only [parse, h]
  cases d.config.validate with
  | error e => rfl
  | ok u => rfl

/-- **Another text of a document is parsed to the same**, or refused for the same
reason: the first text is decoded, and the objects of both are spellings of each
other. What is not known may be any value that can be read: one that is nested
within the limit of the reader, with numbers within the range of the doubles and
with no half of a surrogate pair in a string. -/
theorem parse_respelled {text text' : String} {es es' : List (String × Json)}
    {d : TimelineDocument} (hread : Json.read text = .ok (.object es))
    (hread' : Json.read text' = .ok (.object es')) (hspelled : Relation.EqvGen Respelled es es')
    (hdecode : decode text.toList = .ok d) :
    decode text'.toList = .ok d ∧ parse text' = parse text := by
  have hdecode' := decode_respelled hread hread' hspelled hdecode
  exact ⟨hdecode', (parse_eq_of_decode hdecode').trans (parse_eq_of_decode hdecode).symm⟩

/-- A short document, with a default written out. -/
def brief : String :=
  "\x7b\"particleFading\":false,\"particleSize\":4,
    \"tracks\":[[\x7b\"effectId\":\"Wave\",\"timeBegin\":0,\"timeEnd\":1\x7d]]\x7d"

/-- The same with another default written out, in another order, and with members
that are not known, one of them twice. -/
def wordy : String :=
  "\x7b\"later\":[1],\"schemaVersion\":1,
    \"tracks\":[[\x7b\"timeEnd\":1,\"repetitions\":1,\"note\":null,\"timeBegin\":0,
      \"effectId\":\"Wave\"\x7d]],\"later\":2,\"particleSize\":4\x7d"

/-- The one instance of the short document. -/
def briefInstance : List (String × Json) :=
  [("effectId", .text "Wave"), ("timeBegin", .nat 0), ("timeEnd", .nat 1)]

def wordyInstance : List (String × Json) :=
  [("timeEnd", .nat 1), ("repetitions", .nat 1), ("note", .null), ("timeBegin", .nat 0),
    ("effectId", .text "Wave")]

/-- One track with one instance. -/
def onlyTrack (gs : List (String × Json)) : String × Json :=
  ("tracks", .array [.array [.object gs]])

def briefEntries : List (String × Json) :=
  [("particleFading", .bool false), ("particleSize", .nat 4), onlyTrack briefInstance]

def wordyEntries : List (String × Json) :=
  [("later", .array [.nat 1]), ("schemaVersion", .nat 1), onlyTrack wordyInstance,
    ("later", .nat 2), ("particleSize", .nat 4)]

/-- From the short instance to the other one. -/
theorem wordyInstance_respelled (before : List (String × Json)) :
    Relation.EqvGen Respelled (before ++ [onlyTrack briefInstance])
      (before ++ [onlyTrack wordyInstance]) := by
  have hstep : ∀ {gs hs}, Json.Respelled EffectInstance.fields
      (Decoder.IsDefault EffectInstance.fields 3 EffectInstance.setField EffectInstance.unread)
      gs hs → Relation.EqvGen Respelled (before ++ [onlyTrack gs]) (before ++ [onlyTrack hs]) :=
    fun h => .rel _ _ (@Respelled.atInstance before [] _ _ [] [] [] [] h)
  have hturned := hstep (.permuted (List.reverse_perm briefInstance).symm)
  have hwritten := hstep (@Json.Respelled.writtenOut _ _ [("timeEnd", .nat 1)]
    [("timeBegin", .nat 0), ("effectId", .text "Wave")] "repetitions" (.nat 1)
    ⟨by decide, rfl⟩ (by decide))
  have hnoted := hstep (@Json.Respelled.unknown _ _ [("timeEnd", .nat 1), ("repetitions", .nat 1)]
    [("timeBegin", .nat 0), ("effectId", .text "Wave")] "note" .null (by decide))
  exact .trans _ _ _ hturned (.trans _ _ _ hwritten hnoted)

theorem wordy_respelled : Relation.EqvGen Respelled briefEntries wordyEntries := by
  have hstep : ∀ {es fs}, Json.Respelled known IsDefault es fs → Relation.EqvGen Respelled es fs :=
    fun h => .rel _ _ (.document h)
  have hleft := hstep (@Json.Respelled.writtenOut _ _ []
    [("particleSize", .nat 4), onlyTrack briefInstance] "particleFading" (.bool false)
    (.config ⟨by decide, rfl⟩) (by decide))
  have hinstance := wordyInstance_respelled [("particleSize", .nat 4)]
  have hswapped := hstep (.permuted (.swap (onlyTrack wordyInstance) ("particleSize", .nat 4) []))
  have hlater := hstep (@Json.Respelled.unknown _ _ [onlyTrack wordyInstance]
    [("particleSize", .nat 4)] "later" (.nat 2) (by decide))
  have hversion := hstep (@Json.Respelled.writtenOut _ _ []
    [onlyTrack wordyInstance, ("later", .nat 2), ("particleSize", .nat 4)] "schemaVersion" (.nat 1)
    (.version rfl) (by decide))
  have hagain := hstep (@Json.Respelled.unknown _ _ []
    [("schemaVersion", .nat 1), onlyTrack wordyInstance, ("later", .nat 2),
      ("particleSize", .nat 4)] "later" (.array [.nat 1]) (by decide))
  exact .trans _ _ _ (.symm _ _ hleft) (.trans _ _ _ hinstance (.trans _ _ _ hswapped
    (.trans _ _ _ hlater (.trans _ _ _ hversion hagain))))

theorem parse_wordy : ∃ d, decode brief.toList = .ok d ∧ decode wordy.toList = .ok d ∧
    parse wordy = parse brief := by
  have hread : Json.read brief = .ok (.object briefEntries) := by cbv
  have hread' : Json.read wordy = .ok (.object wordyEntries) := by cbv
  have hok : (decode brief.toList).isOk = true := by decide +kernel
  cases hdecode : decode brief.toList with
  | error f =>
    rw [hdecode] at hok
    cases hok
  | ok d => exact ⟨d, rfl, parse_respelled hread hread' wordy_respelled hdecode⟩

/-- An empty document with a member that is not known, and a value for it. -/
def withLater (value : String) : String := "\x7b\"later\":" ++ value ++ "\x7d"

/-- What a text is refused for, if it is. -/
def refusal? (text : String) : Option ConfigError :=
  match parse text with
  | .ok _ => none
  | .error e => some e

/-- **What is not known has to be read too.** An empty document is refused once it
holds a number beyond the doubles, or half of a surrogate pair, in a member that
it does not know. -/
theorem unreadable_refused : "later" ∉ known ∧ refusal? "\x7b\x7d" = none ∧
    refusal? (withLater "1e99") = none ∧
    refusal? (withLater "1e999")
      = some (.malformedDocument "number out of range at line 1 column 14") ∧
    refusal? (withLater "\"\\udc00\"") = some
      (.malformedDocument "lone leading surrogate in hex escape at line 1 column 16") := by
  decide +kernel

/-- **Every spelling has a text** that is parsed to the same, as long as its values
are plain and nested within the limit; supposed is that the finite numbers in it
are read back. -/
theorem parse_pretty_respelled {text : String} {es es' : List (String × Json)}
    {d : TimelineDocument} (hread : Json.read text = .ok (.object es))
    (hspelled : Relation.EqvGen Respelled es es') (hdecode : decode text.toList = .ok d)
    (hplain : (Json.object es').Plain (Reader.maxDepth - 1))
    (hnumbers : ∀ n ∈ (Json.object es').numbers, n.isFinite = true → n.ReadsBack) :
    parse (Json.object es').pretty = parse text := by
  have hread' := hplain.read_pretty hnumbers
  have hdecode' := decode_respelled hread hread' hspelled hdecode
  exact (parse_eq_of_decode hdecode').trans (parse_eq_of_decode hdecode).symm

end TimelineDocument

end ParticleTimeline
