import ParticleTimeline.Proofs.Json.Reading
import ParticleTimeline.Proofs.Timeline.Document
/-!
# Documents that are saved and loaded again

What is read is plain, and decoding keeps it so: a window is finite and a
configuration is free-form, whatever members a record has and in which shape
it is given (`EffectInstance.writable_of_decode`). A document that is accepted
is therefore valid and can be written (`TimelineDocument.accepted`). What it
is written as is accepted again, with the same outcome, if and only if its
singles are finite; they need not be, since a number beyond their range is
rounded to an infinity when it is read.
-/

namespace ParticleTimeline

open Json.Reader (ok_of_bind)

namespace Json.Decoder

/-- A double that is decoded is finite. -/
theorem isFinite_of_double {k : Nat} {v : Json} {x : Float} (hv : v.Plain k)
    (h : double v = .ok x) : x.isFinite = true := by
  cases hv with
  | null => cases h
  | bool => cases h
  | text => cases h
  | array => cases h
  | object => cases h
  | number k hn =>
    obtain rfl := Except.ok.inj h
    cases hn with
    | natural n => exact Binary.isFinite_of_within (Binary.within_toFloat n)
    | negative hn =>
      exact Binary.isFinite_neg (Binary.isFinite_of_within (Binary.within_toFloat _))
    | double hx => exact hx

end Json.Decoder

namespace EffectInstance

/-- One member keeps an instance such that it can be written. -/
theorem setField_keeps {i i' : EffectInstance} {name : String} {v : Json}
    (hv : v.Plain configDepth) (hi : i.Writable) (h : i.setField name v = .ok i') :
    i'.Writable := by
  obtain ⟨hbegin, hend, hconfig⟩ := hi
  unfold setField at h
  split at h
  · obtain ⟨s, -, h⟩ := ok_of_bind h
    obtain rfl := Except.ok.inj h
    exact ⟨hbegin, hend, hconfig⟩
  · obtain ⟨x, hx, h⟩ := ok_of_bind h
    obtain rfl := Except.ok.inj h
    exact ⟨Json.Decoder.isFinite_of_double hv hx, hend, hconfig⟩
  · obtain ⟨x, hx, h⟩ := ok_of_bind h
    obtain rfl := Except.ok.inj h
    exact ⟨hbegin, Json.Decoder.isFinite_of_double hv hx, hconfig⟩
  · obtain ⟨n, -, h⟩ := ok_of_bind h
    obtain rfl := Except.ok.inj h
    exact ⟨hbegin, hend, hconfig⟩
  · obtain rfl := Except.ok.inj h
    exact ⟨hbegin, hend, hv.freeForm⟩
  · obtain rfl := Except.ok.inj h
    exact ⟨hbegin, hend, hconfig⟩

/-- **An instance that is decoded can be written.** -/
theorem writable_of_decode {v : Json} {i : EffectInstance} (hv : v.Plain (configDepth + 1))
    (h : decode v = .ok i) : i.Writable := by
  refine Json.Decoder.record_keeps (fun i name v i' hv hi hset => setField_keeps hv hi hset) ?_ hv h
  exact ⟨by decide, by decide, ⟨.null _, rfl⟩⟩

end EffectInstance

namespace TimelineConfig

open EffectInstance (configDepth)

/-- One member keeps a timeline such that its instances can be written. -/
theorem setField_keeps {c c' : TimelineConfig} {name : String} {v : Json}
    (hv : v.Plain (configDepth + 3)) (hc : ∀ i ∈ c.instances, i.Writable)
    (h : c.setField name v = .ok c') : ∀ i ∈ c'.instances, i.Writable := by
  unfold setField at h
  split at h
  · obtain ⟨ts, htracks, h⟩ := ok_of_bind h
    obtain rfl := Except.ok.inj h
    intro i hi
    obtain ⟨t, ht, hi⟩ := List.mem_flatten.1 hi
    obtain ⟨w, hw, htrack⟩ := Json.Decoder.mem_of_list hv htracks t ht
    obtain ⟨u, hu, hinstance⟩ := Json.Decoder.mem_of_list hw htrack i hi
    exact EffectInstance.writable_of_decode hu hinstance
  -- Every other member leaves the tracks alone.
  all_goals
    first
    | obtain ⟨x, -, h⟩ := ok_of_bind h
      obtain rfl := Except.ok.inj h
      exact hc
    | obtain rfl := Except.ok.inj h
      exact hc

end TimelineConfig

namespace TimelineDocument

open EffectInstance (configDepth)

theorem scanMember_keeps (s : Scan) (name : String) (cs : List Char) (s' : Scan)
    (rest : List Char) (hs : ∀ e ∈ s.others, e.2.Plain (configDepth + 3))
    (h : scanMember s name cs = .ok (s', rest)) : ∀ e ∈ s'.others, e.2.Plain (configDepth + 3) := by
  unfold scanMember at h
  split at h
  · split at h
    · cases h
    · obtain ⟨read, -, h⟩ := ok_of_bind h
      obtain ⟨rfl, -⟩ := Prod.mk.inj (Except.ok.inj h)
      exact hs
  · obtain ⟨read, hread, h⟩ := ok_of_bind h
    obtain ⟨rfl, -⟩ := Prod.mk.inj (Except.ok.inj h)
    exact List.forall_mem_cons.2 ⟨Json.Reader.value_plain hread, hs⟩

/-- **A document that is accepted** is valid, and its instances can be written. -/
theorem accepted {text : String} {d : TimelineDocument} (h : parse text = .ok d) :
    d.config.validate = .ok () ∧ ∀ i ∈ d.config.instances, i.Writable := by
  unfold parse at h
  split at h
  · cases h
  · rename_i d' hdecode
    obtain ⟨u, hvalid, h⟩ := ok_of_bind h
    obtain rfl := Except.ok.inj h
    refine ⟨hvalid, ?_⟩
    unfold decode at hdecode
    split at hdecode
    · obtain ⟨⟨s, rest⟩, hread, hdecode⟩ := ok_of_bind hdecode
      have hothers : ∀ e ∈ s.others, e.2.Plain (configDepth + 3) :=
        Json.Reader.membersSteps_keeps scanMember_keeps (by simp) hread
      dsimp only at hdecode
      split at hdecode
      · rename_i config hconfig
        obtain ⟨u, -, hdecode⟩ := ok_of_bind hdecode
        obtain rfl := Except.ok.inj hdecode
        refine Json.Decoder.members_keeps (P := fun c => ∀ i ∈ c.instances, i.Writable)
          (fun c e he c' hc hset => ?_) (by simp [TimelineConfig.instances]) hconfig
        exact TimelineConfig.setField_keeps (hothers e (List.mem_reverse.1 he)) hc hset
      · cases hdecode
    · cases hdecode
    · obtain ⟨read, -, hdecode⟩ := ok_of_bind hdecode
      cases hdecode

/-- **A document that is accepted can be saved and loaded again, with the same
outcome, if its singles are finite**; otherwise what it is written as is
refused, since an infinite single is written as null. Supposed is that the
finite numbers in it are read back. -/
theorem parse_render_of_parse {text : String} {d : TimelineDocument} (h : parse text = .ok d)
    (hnumbers : ∀ n ∈ d.toJson.numbers, n.isFinite = true → n.ReadsBack) :
    parse d.render = if d.config.singles.all Float32.isFinite then .ok d
      else .error (.malformedDocument (nullForSingle.message d.render)) :=
  parse_render_eq (accepted h).1 (accepted h).2 hnumbers

/-- A document of a later version: an instance given as an array, names that are
not known and come twice, and numbers of other kinds than are wanted. -/
def lenient : String :=
  "\x7b\"later\":1,\"tracks\":[[[\"\",0,1e3,2,\x7b\"b\":1,\"a\":-0.5,\"b\":null\x7d]]],
    \"later\":[],\"schemaVersion\":3,\"particleSize\":4\x7d"

/-- Whether a text is accepted, and its document has a property. -/
def acceptedAnd (text : String) (p : TimelineDocument → Bool) : Bool :=
  match parse text with
  | .ok d => p d
  | .error _ => false

theorem exists_of_acceptedAnd {text : String} {p : TimelineDocument → Bool}
    (h : acceptedAnd text p = true) : ∃ d, parse text = .ok d ∧ p d = true := by
  unfold acceptedAnd at h
  split at h
  · rename_i d hd
    exact ⟨d, hd, h⟩
  · cases h

theorem parse_render_lenient :
    ∃ d, parse lenient = .ok d ∧ d.version = 3 ∧ parse d.render = .ok d := by
  have hcheck : acceptedAnd lenient (fun d => decide (d.version = 3)
      && decide (∀ n ∈ d.toJson.numbers, n.isFinite = true → n.ReadsBack)
      && d.config.singles.all Float32.isFinite) = true := by decide +kernel
  obtain ⟨d, hd, hall⟩ := exists_of_acceptedAnd hcheck
  simp only [Bool.and_eq_true, decide_eq_true_eq] at hall
  obtain ⟨⟨hversion, hnumbers⟩, hfinite⟩ := hall
  exact ⟨d, hd, hversion, by rw [parse_render_of_parse hd hnumbers, if_pos hfinite]⟩

/-- A document with a size beyond the singles. -/
def oversized : String := "\x7b\"particleSize\":1e39\x7d"

/-- **An accepted document need not be accepted again**, though every finite
number in it is read back. -/
theorem oversized_refused : ∃ d, parse oversized = .ok d ∧
    (∀ n ∈ d.toJson.numbers, n.isFinite = true → n.ReadsBack) ∧
    ∃ complaint, parse d.render = .error (.malformedDocument complaint) := by
  have hcheck : acceptedAnd oversized (fun d =>
      decide (∀ n ∈ d.toJson.numbers, n.isFinite = true → n.ReadsBack)
        && !d.config.singles.all Float32.isFinite) = true := by decide +kernel
  obtain ⟨d, hd, hall⟩ := exists_of_acceptedAnd hcheck
  simp only [Bool.and_eq_true, decide_eq_true_eq, Bool.not_eq_true'] at hall
  obtain ⟨hnumbers, hinfinite⟩ := hall
  obtain ⟨hvalid, hwritable⟩ := accepted hd
  have hrefused := parse_render_eq hvalid hwritable hnumbers
  rw [hinfinite] at hrefused
  exact ⟨d, hd, hnumbers, _, hrefused⟩

end TimelineDocument

end ParticleTimeline
