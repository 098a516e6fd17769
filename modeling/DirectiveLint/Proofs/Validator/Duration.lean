import DirectiveLint.Proofs.Steps
import DirectiveLint.Proofs.Text.Pieces
import DirectiveLint.Proofs.Validator.Numeral

/-!
# Time limits

`TimeLimit` is the grammar of time limits, one constructor for each form.  The builtin validator
for durations accepts exactly its texts (`Builtin.accepts_duration_iff`).
-/

namespace DirectiveLint

/-- A time without a number of days: `M`, `M:S` or `H:M:S`.  The leading number has no bound but
that of all numbers. -/
inductive Clock : Text → Prop where
  /-- Minutes. -/
  | minutes {M : Text} {m : Nat} (hM : BoundedNumeral M m) : Clock M
  /-- Minutes and seconds. -/
  | minutesSeconds {M S : Text} {m s : Nat} (hM : BoundedNumeral M m) (hS : BoundedNumeral S s)
      (hs : s < 60) :
    Clock (M ++ ':' :: S)
  /-- Hours, minutes and seconds. -/
  | hoursMinutesSeconds {H M S : Text} {h m s : Nat} (hH : BoundedNumeral H h)
      (hM : BoundedNumeral M m) (hS : BoundedNumeral S s) (hm : m < 60) (hs : s < 60) :
    Clock (H ++ ':' :: (M ++ ':' :: S))

/-- A time behind a number of days: `H`, `H:M` or `H:M:S`. -/
inductive ClockOfDay : Text → Prop where
  /-- Hours. -/
  | hours {H : Text} {h : Nat} (hH : BoundedNumeral H h) (hh : h < 24) : ClockOfDay H
  /-- Hours and minutes. -/
  | hoursMinutes {H M : Text} {h m : Nat} (hH : BoundedNumeral H h) (hM : BoundedNumeral M m)
      (hh : h < 24) (hm : m < 60) :
    ClockOfDay (H ++ ':' :: M)
  /-- Hours, minutes and seconds. -/
  | hoursMinutesSeconds {H M S : Text} {h m s : Nat} (hH : BoundedNumeral H h)
      (hM : BoundedNumeral M m) (hS : BoundedNumeral S s) (hh : h < 24) (hm : m < 60)
      (hs : s < 60) :
    ClockOfDay (H ++ ':' :: (M ++ ':' :: S))

/-- A time limit. -/
inductive TimeLimit : Text → Prop where
  /-- No limit. -/
  | unlimited {t : Text}
      (h : t ∈ ["INFINITE".toList, "UNLIMITED".toList, "infinite".toList, "unlimited".toList]) :
    TimeLimit t
  /-- A time without a number of days. -/
  | clock {t : Text} (h : Clock t) : TimeLimit t
  /-- A number of days and a time of day. -/
  | days {D t : Text} {d : Nat} (hD : BoundedNumeral D d) (h : ClockOfDay t) :
    TimeLimit (D ++ '-' :: t)

/-! ### Clocks -/

/-- The numbers that are read from a clock are those of the numerals that it is joined from. -/
theorem clockFields?_eq_some_iff {t : Text} {ns : List Nat} :
  clockFields? t = some ns
    ↔ ∃ fields, fields ≠ [] ∧ List.Forall₂ BoundedNumeral fields ns ∧ t = joinWith [':'] fields
  := by
  unfold clockFields?
  simp only [mapM_eq_some_iff, boundedNumber?_eq_some_iff]
  constructor
  · intro h
    exact ⟨pieces ':' t, pieces_ne_nil ':' t, h, (intercalate_pieces ':' t).symm⟩
  · rintro ⟨fields, hne, h, rfl⟩
    have hmarked : List.Forall₂ (fun p n => ':' ∉ p ∧ BoundedNumeral p n) fields ns := by
      apply h.imp
      intro p n hp
      exact ⟨hp.numeral.not_mem rfl, hp⟩
    rw [pieces_joinWith hne ((List.forall₂_and_left fields ns).mp hmarked).1]
    apply h

theorem clockFields?_eq_some_one_iff {t : Text} {m : Nat} :
  clockFields? t = some [m] ↔ BoundedNumeral t m
  := by
  rw [clockFields?_eq_some_iff]
  simp [List.forall₂_cons_right_iff, joinWith]

/-- A clock with several fields is the first one and, behind a colon, a clock with the others. -/
theorem clockFields?_eq_some_cons_iff {t : Text} {m n : Nat} {ns : List Nat} :
  clockFields? t = some (m :: n :: ns)
    ↔ ∃ M rest, BoundedNumeral M m ∧ clockFields? rest = some (n :: ns) ∧ t = M ++ ':' :: rest
  := by
  simp only [clockFields?_eq_some_iff, List.forall₂_cons_right_iff]
  constructor
  · rintro ⟨_, -, ⟨M, _, hM, ⟨N, fields, hN, hfields, rfl⟩, rfl⟩, rfl⟩
    refine ⟨M, joinWith [':'] (N :: fields), hM, ?_, ?_⟩
    · exact ⟨N :: fields, List.cons_ne_nil N fields, ⟨N, fields, hN, hfields, rfl⟩, rfl⟩
    · simp [joinWith, List.intercalate_cons_cons]
  · rintro ⟨M, _, hM, ⟨_, -, ⟨N, fields, hN, hfields, rfl⟩, rfl⟩, rfl⟩
    refine ⟨M :: N :: fields, List.cons_ne_nil M _, ?_, ?_⟩
    · exact ⟨M, N :: fields, hM, ⟨N, fields, hN, hfields, rfl⟩, rfl⟩
    · simp [joinWith, List.intercalate_cons_cons]

theorem clockFields?_eq_some_two_iff {t : Text} {m s : Nat} :
  clockFields? t = some [m, s]
    ↔ ∃ M S, BoundedNumeral M m ∧ BoundedNumeral S s ∧ t = M ++ ':' :: S
  := by
  rw [clockFields?_eq_some_cons_iff]
  simp only [clockFields?_eq_some_one_iff]

theorem clockFields?_eq_some_three_iff {t : Text} {h m s : Nat} :
  clockFields? t = some [h, m, s]
    ↔ ∃ H M S, BoundedNumeral H h ∧ BoundedNumeral M m ∧ BoundedNumeral S s
      ∧ t = H ++ ':' :: (M ++ ':' :: S)
  := by
  rw [clockFields?_eq_some_cons_iff]
  simp only [clockFields?_eq_some_two_iff]
  constructor
  · rintro ⟨H, _, hH, ⟨M, S, hM, hS, rfl⟩, rfl⟩
    exact ⟨H, M, S, hH, hM, hS, rfl⟩
  · rintro ⟨H, M, S, hH, hM, hS, rfl⟩
    exact ⟨H, M ++ ':' :: S, hH, ⟨M, S, hM, hS, rfl⟩, rfl⟩

theorem any_clockFits_false_iff {t : Text} :
  (clockFields? t).any (clockFits false) = true ↔ Clock t
  := by
  rw [Option.any_eq_true]
  constructor
  · rintro ⟨fields, hread, hfits⟩
    match fields, hfits with
    | [m], _ => exact .minutes (clockFields?_eq_some_one_iff.mp hread)
    | [m, s], hfits =>
      obtain ⟨M, S, hM, hS, rfl⟩ := clockFields?_eq_some_two_iff.mp hread
      exact .minutesSeconds hM hS (of_decide_eq_true hfits)
    | [h, m, s], hfits =>
      obtain ⟨H, M, S, hH, hM, hS, rfl⟩ := clockFields?_eq_some_three_iff.mp hread
      obtain ⟨hm, hs⟩ : m < 60 ∧ s < 60 := by simpa [clockFits] using hfits
      exact .hoursMinutesSeconds hH hM hS hm hs
    | [], hfits | _ :: _ :: _ :: _ :: _, hfits => contradiction
  · intro h
    cases h with
    | minutes hM => exact ⟨_, clockFields?_eq_some_one_iff.mpr hM, rfl⟩
    | minutesSeconds hM hS hs =>
      refine ⟨_, clockFields?_eq_some_two_iff.mpr ⟨_, _, hM, hS, rfl⟩, ?_⟩
      simp [clockFits, hs]
    | hoursMinutesSeconds hH hM hS hm hs =>
      refine ⟨_, clockFields?_eq_some_three_iff.mpr ⟨_, _, _, hH, hM, hS, rfl⟩, ?_⟩
      simp [clockFits, hm, hs]

theorem any_clockFits_true_iff {t : Text} :
  (clockFields? t).any (clockFits true) = true ↔ ClockOfDay t
  := by
  rw [Option.any_eq_true]
  constructor
  · rintro ⟨fields, hread, hfits⟩
    match fields, hfits with
    | [h], hfits =>
      exact .hours (clockFields?_eq_some_one_iff.mp hread) (of_decide_eq_true hfits)
    | [h, m], hfits =>
      obtain ⟨H, M, hH, hM, rfl⟩ := clockFields?_eq_some_two_iff.mp hread
      obtain ⟨hh, hm⟩ : h < 24 ∧ m < 60 := by simpa [clockFits] using hfits
      exact .hoursMinutes hH hM hh hm
    | [h, m, s], hfits =>
      obtain ⟨H, M, S, hH, hM, hS, rfl⟩ := clockFields?_eq_some_three_iff.mp hread
      obtain ⟨⟨hh, hm⟩, hs⟩ : (h < 24 ∧ m < 60) ∧ s < 60 := by simpa [clockFits] using hfits
      exact .hoursMinutesSeconds hH hM hS hh hm hs
    | [], hfits | _ :: _ :: _ :: _ :: _, hfits => contradiction
  · intro h
    cases h with
    | hours hH hh =>
      refine ⟨_, clockFields?_eq_some_one_iff.mpr hH, ?_⟩
      simp [clockFits, hh]
    | hoursMinutes hH hM hh hm =>
      refine ⟨_, clockFields?_eq_some_two_iff.mpr ⟨_, _, hH, hM, rfl⟩, ?_⟩
      simp [clockFits, hh, hm]
    | hoursMinutesSeconds hH hM hS hh hm hs =>
      refine ⟨_, clockFields?_eq_some_three_iff.mpr ⟨_, _, _, hH, hM, hS, rfl⟩, ?_⟩
      simp [clockFits, hh, hm, hs]

/-! ### Limits -/

/-- A text with a dash is no time without a number of days. -/
theorem Clock.not_mem {t : Text} (h : Clock t) :
  '-' ∉ t
  := by
  cases h with
  | minutes hM => apply hM.numeral.not_mem rfl
  | @minutesSeconds M S m s hM hS hs =>
    have hM' : '-' ∉ M := hM.numeral.not_mem rfl
    have hS' : '-' ∉ S := hS.numeral.not_mem rfl
    simp [hM', hS']
  | @hoursMinutesSeconds H M S h m s hH hM hS hm hs =>
    have hH' : '-' ∉ H := hH.numeral.not_mem rfl
    have hM' : '-' ∉ M := hM.numeral.not_mem rfl
    have hS' : '-' ∉ S := hS.numeral.not_mem rfl
    simp [hH', hM', hS']

/-- The builtin validator for durations accepts the time limits and nothing else. -/
theorem Builtin.accepts_duration_iff (t : Text) :
  Builtin.duration.accepts t = true ↔ TimeLimit t
  := by
  rw [Builtin.accepts, isDuration, Bool.or_eq_true]
  constructor
  · rintro (hword | hform)
    · exact .unlimited (by simpa using hword)
    · split at hform
      · next D rest hcut =>
        obtain ⟨rfl, -⟩ := cutAt_eq_some_iff.mp hcut
        obtain ⟨hdays, hclock⟩ := Bool.and_eq_true_iff.mp hform
        obtain ⟨d, hd⟩ := Option.isSome_iff_exists.mp hdays
        exact .days (boundedNumber?_eq_some_iff.mp hd) (any_clockFits_true_iff.mp hclock)
      · exact .clock (any_clockFits_false_iff.mp hform)
  · intro h
    cases h with
    | unlimited h => exact .inl (by simpa using h)
    | clock h =>
      have hcut : cutAt '-' t = none := cutAt_eq_none_iff.mpr h.not_mem
      rw [hcut]
      exact .inr (any_clockFits_false_iff.mpr h)
    | @days D t d hD h =>
      have hcut : cutAt '-' (D ++ '-' :: t) = some (D, t) :=
        cutAt_eq_some_iff.mpr ⟨rfl, hD.numeral.not_mem rfl⟩
      have hdays : boundedNumber? D = some d := boundedNumber?_eq_some_iff.mpr hD
      have hclock := any_clockFits_true_iff.mpr h
      simp [hcut, hdays, hclock]

/-- Days are counted without a bound but hours behind them are not. -/
example : Builtin.duration.accepts "4294967295-23:59".toList = true
    ∧ Builtin.duration.accepts "1-24".toList = false := by decide

end DirectiveLint
