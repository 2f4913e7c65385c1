/-!
# Logs

A log is a list of what happened, oldest first. What is asked of one is often
whether some entry is followed only by entries that let it stand: the last
command that was installed, say. Whether that is so is read off a log that
grows at its end, entry by entry (`Log.split_concat`), and the entry is
determined by the log if none lets an earlier one stand (`Log.split_unique`).
-/

namespace ParticleTimeline.Log

variable {α : Type} {log : List α} {x : α}

/-- An entry of a longer log is the last one, or it is one of the shorter log. -/
theorem split_concat {holds : List α → α → List α → Prop} :
    (∃ earlier y later, log ++ [x] = earlier ++ y :: later ∧ holds earlier y later) ↔
      holds log x [] ∨
        ∃ earlier y later, log = earlier ++ y :: later ∧ holds earlier y (later ++ [x]) := by
  constructor
  · rintro ⟨earlier, y, later, hsplit, hholds⟩
    rcases List.eq_nil_or_concat later with rfl | ⟨between, last, rfl⟩
    · obtain ⟨rfl, hlast⟩ := List.append_inj' hsplit rfl
      obtain rfl : x = y := by simpa using hlast
      exact .inl hholds
    · have hsplit' : log ++ [x] = (earlier ++ y :: between) ++ [last] := by simpa using hsplit
      obtain ⟨rfl, hlast⟩ := List.append_inj' hsplit' rfl
      obtain rfl : x = last := by simpa using hlast
      rw [List.concat_eq_append] at hholds
      exact .inr ⟨earlier, y, between, rfl, hholds⟩
  · rintro (hholds | ⟨earlier, y, later, rfl, hholds⟩)
    · exact ⟨log, x, [], rfl, hholds⟩
    · exact ⟨earlier, y, later ++ [x], by simp, hholds⟩

/-- The same for what goes on until something else happens. -/
theorem split_concat_iff {begins : List α → α → Prop} {goesOn : α → Prop} :
    (∃ earlier y later, log ++ [x] = earlier ++ y :: later ∧ begins earlier y ∧
        ∀ z ∈ later, goesOn z) ↔
      begins log x ∨ goesOn x ∧ ∃ earlier y later, log = earlier ++ y :: later ∧
        begins earlier y ∧ ∀ z ∈ later, goesOn z := by
  rw [split_concat]
  refine or_congr (and_iff_left nofun) ?_
  constructor
  · rintro ⟨earlier, y, later, hlog, hbegins, hlater⟩
    exact ⟨hlater x (List.mem_append_right _ List.mem_cons_self), earlier, y, later, hlog, hbegins,
      fun z hz => hlater z (List.mem_append_left _ hz)⟩
  · rintro ⟨hx, earlier, y, later, hlog, hbegins, hlater⟩
    refine ⟨earlier, y, later, hlog, hbegins, fun z hz => ?_⟩
    rcases List.mem_append.1 hz with hz | hz
    · exact hlater z hz
    · obtain rfl := List.mem_singleton.1 hz
      exact hx

/-- There is one last entry of a kind. -/
theorem split_unique (ends : α → Prop) {earlier earlier' later later' : List α} {y y' : α}
    (h : earlier ++ y :: later = earlier' ++ y' :: later') (hy : ends y) (hy' : ends y')
    (hlater : ∀ z ∈ later, ¬ ends z) (hlater' : ∀ z ∈ later', ¬ ends z) :
    earlier = earlier' ∧ y = y' ∧ later = later' := by
  rcases List.append_eq_append_iff.1 h with ⟨between, rfl, hbetween⟩ | ⟨between, rfl, hbetween⟩
  · cases between with
    | nil =>
      obtain ⟨rfl, rfl⟩ := List.cons.inj hbetween
      exact ⟨(List.append_nil earlier).symm, rfl, rfl⟩
    | cons z between =>
      obtain ⟨rfl, rfl⟩ := List.cons.inj hbetween
      exact absurd hy' (hlater y' (by simp))
  · cases between with
    | nil =>
      obtain ⟨rfl, rfl⟩ := List.cons.inj hbetween
      exact ⟨List.append_nil earlier', rfl, rfl⟩
    | cons z between =>
      obtain ⟨rfl, rfl⟩ := List.cons.inj hbetween
      exact absurd hy (hlater' y (by simp))

end ParticleTimeline.Log
