import DirectiveLint.Proofs.Validator.TimeFormat
import DirectiveLint.Validator.Builtin
import Mathlib.Tactic.IntervalCases

/-!
# Points in time

`PointInTime` is the grammar of dates and times in their fixed-width forms, over the days of the
calendar (`IsDay`).  The builtin validator for points in time accepts exactly its texts
(`Builtin.accepts_dateTime_iff`).
-/

namespace DirectiveLint

/-! ### The calendar -/

/-- A year with a 29th of February: every fourth one, but of the full centuries only every
fourth. -/
def IsLeap (year : Nat) : Prop := 4 ∣ year ∧ (100 ∣ year → 400 ∣ year)

instance (year : Nat) : Decidable (IsLeap year) :=
  inferInstanceAs (Decidable (_ ∧ _))

/-- The lengths of the months from January to December. -/
def monthLengths (year : Nat) : List Nat :=
  [31, if IsLeap year then 29 else 28, 31, 30, 31, 30, 31, 31, 30, 31, 30, 31]

/-- A day of the Gregorian calendar, which is continued to the time before it was introduced. -/
structure IsDay (year month day : Nat) : Prop where
  /-- The months are counted from 1. -/
  one_le_month : 1 ≤ month
  /-- There are twelve months. -/
  month_le : month ≤ 12
  /-- The days are counted from 1. -/
  one_le_day : 1 ≤ day
  /-- The month is that long. -/
  day_le : ∃ length, (monthLengths year)[month - 1]? = some length ∧ day ≤ length

theorem isLeapYear_iff (year : Nat) :
  isLeapYear year = true ↔ IsLeap year
  := by
  simp only [isLeapYear, IsLeap, Bool.and_eq_true, Bool.or_eq_true, beq_iff_eq, bne_iff_ne]
  omega

theorem getElem?_monthLengths (year : Nat) {month : Nat} (hpos : 1 ≤ month) (hle : month ≤ 12) :
  (monthLengths year)[month - 1]? = some (daysInMonth year month)
  := by
  interval_cases month
  all_goals simp [monthLengths, daysInMonth, isLeapYear_iff]

theorem daysInMonth_eq_zero (year : Nat) {month : Nat} (h : ¬ (1 ≤ month ∧ month ≤ 12)) :
  daysInMonth year month = 0
  := by
  unfold daysInMonth
  split
  all_goals omega

theorem isDate_iff {year month day : Nat} :
  isDate year month day = true ↔ IsDay year month day
  := by
  rw [isDate, Bool.and_eq_true, decide_eq_true_iff, decide_eq_true_iff]
  constructor
  · rintro ⟨hpos, hle⟩
    have hmonth : 1 ≤ month ∧ month ≤ 12 := by
      by_contra hmonth
      rw [daysInMonth_eq_zero year hmonth] at hle
      omega
    exact ⟨hmonth.1, hmonth.2, hpos, _, getElem?_monthLengths year hmonth.1 hmonth.2, hle⟩
  · rintro ⟨hpos, hmonth, hday, length, hlength, hle⟩
    rw [getElem?_monthLengths year hpos hmonth] at hlength
    obtain rfl := Option.some.inj hlength
    exact ⟨hday, hle⟩

theorem Date.isSome_of?_iff {year month day : Nat} :
  (Date.of? year month day).isSome = true ↔ IsDay year month day
  := by
  rw [← isDate_iff, Date.of?]
  split
  all_goals simp_all

/-- A time is whole if it is no part of a leap second. -/
theorem Time.any_of?_iff {hour minute second nanosecond : Nat} :
  (Time.of? hour minute second nanosecond).any Time.isWholeSecond = true
    ↔ hour < 24 ∧ minute < 60 ∧ second < 60 ∧ nanosecond < nanosecondsPerSecond
  := by
  unfold Time.of?
  split
  · next h =>
    have hvalid : (hour < 24 ∧ minute < 60) ∧ second < 60 := by
      simp only [isTime, Bool.and_eq_true, decide_eq_true_iff] at h
      exact h.1
    simp [Time.isWholeSecond, hvalid]
  · next h =>
    simp only [isTime, Bool.and_eq_true, Bool.or_eq_true, decide_eq_true_iff] at h
    simp only [Option.any_none, Bool.false_eq_true, false_iff]
    rintro ⟨hhour, hminute, hsecond, hwhole⟩
    exact h ⟨⟨⟨hhour, hminute⟩, hsecond⟩, .inl hwhole⟩

/-! ### The written forms -/

/-- A date with the full year: `YYYY-MM-DD`. -/
inductive LongDate : Text → Prop where
  /-- Year, month and day. -/
  | mk {Y M D : Text} {y m d : Nat} (hY : FixedNumeral 4 Y y) (hM : FixedNumeral 2 M m)
      (hD : FixedNumeral 2 D d) (h : IsDay y m d) :
    LongDate (Y ++ '-' :: (M ++ '-' :: D))

/-- A date with two digits of the year: `MMDDYY` or `MM/DD/YY`.  The digits stand for a year from
1970 to 2069. -/
inductive ShortDate : Text → Prop where
  /-- Month, day and year without marks. -/
  | plain {M D Y : Text} {m d y : Nat} (hM : FixedNumeral 2 M m) (hD : FixedNumeral 2 D d)
      (hY : FixedNumeral 2 Y y) (h : IsDay (if y < 70 then 2000 + y else 1900 + y) m d) :
    ShortDate (M ++ (D ++ Y))
  /-- Month, day and year with marks. -/
  | marked {M D Y : Text} {m d y : Nat} (hM : FixedNumeral 2 M m) (hD : FixedNumeral 2 D d)
      (hY : FixedNumeral 2 Y y) (h : IsDay (if y < 70 then 2000 + y else 1900 + y) m d) :
    ShortDate (M ++ '/' :: (D ++ '/' :: Y))

/-- A time of day: `HH:MM` or `HH:MM:SS`. -/
inductive TimeOfDay : Text → Prop where
  /-- Hours and minutes. -/
  | minutes {H M : Text} {h m : Nat} (hH : FixedNumeral 2 H h) (hM : FixedNumeral 2 M m)
      (hh : h < 24) (hm : m < 60) :
    TimeOfDay (H ++ ':' :: M)
  /-- Hours, minutes and seconds. -/
  | seconds {H M S : Text} {h m s : Nat} (hH : FixedNumeral 2 H h) (hM : FixedNumeral 2 M m)
      (hS : FixedNumeral 2 S s) (hh : h < 24) (hm : m < 60) (hs : s < 60) :
    TimeOfDay (H ++ ':' :: (M ++ ':' :: S))

/-- A point in time. -/
inductive PointInTime : Text → Prop where
  /-- A date with the full year. -/
  | longDate {t : Text} (h : LongDate t) : PointInTime t
  /-- A date with two digits of the year. -/
  | shortDate {t : Text} (h : ShortDate t) : PointInTime t
  /-- A time of day. -/
  | time {t : Text} (h : TimeOfDay t) : PointInTime t
  /-- A date with the full year and a time of day. -/
  | dateAndTime {D T : Text} (hD : LongDate D) (hT : TimeOfDay T) : PointInTime (D ++ 'T' :: T)

/-! ### Reading the forms -/

theorem isSome_dateOf?_iff {values : FieldValues} {year month day : Nat}
    (hyear : yearOf? values = some year) (hmonth : values.lookup .month = some month)
    (hday : values.lookup .day = some day) :
  (dateOf? values).isSome = true ↔ IsDay year month day
  := by
  rw [← Date.isSome_of?_iff]
  simp [dateOf?, hyear, hmonth, hday]

/-- A 61st second is read, but not as a whole second. -/
theorem any_timeOf?_iff {values : FieldValues} {hour minute : Nat}
    (hhour : values.lookup .hour = some hour) (hminute : values.lookup .minute = some minute) :
  (timeOf? values).any Time.isWholeSecond = true
    ↔ hour < 24 ∧ minute < 60 ∧ (values.lookup .second).getD 0 < 60
  := by
  have hpos : 0 < nanosecondsPerSecond := by decide
  unfold timeOf?
  rw [hhour, hminute]
  generalize (values.lookup .second).getD 0 = second
  by_cases hleap : second = 60
  · simp [hleap, Time.any_of?_iff]
  · simp [hleap, Time.any_of?_iff, hpos]

/-- The parts of `YYYY-MM-DD`. -/
def longDateItems : List FormatItem :=
  [.field .year, .mark '-', .field .month, .mark '-', .field .day]

/-- The parts of `MMDDYY`. -/
def plainDateItems : List FormatItem := [.field .month, .field .day, .field .yearOfCentury]

/-- The parts of `MM/DD/YY`. -/
def markedDateItems : List FormatItem :=
  [.field .month, .mark '/', .field .day, .mark '/', .field .yearOfCentury]

/-- The parts of `HH:MM`. -/
def minuteItems : List FormatItem := [.field .hour, .mark ':', .field .minute]

/-- The parts of `HH:MM:SS`. -/
def secondItems : List FormatItem :=
  [.field .hour, .mark ':', .field .minute, .mark ':', .field .second]

theorem pins_dateFormats :
  List.Forall₂ (fun p items => Pins p.1 p.2 items) dateFormats
    [longDateItems, plainDateItems, markedDateItems]
  := by
  refine .cons ⟨rfl, rfl, ?_⟩ (.cons ⟨rfl, rfl, ?_⟩ (.cons ⟨rfl, rfl, ?_⟩ .nil))
  all_goals simp [longDateItems, plainDateItems, markedDateItems]

theorem pins_timeFormats :
  List.Forall₂ (fun p items => Pins p.1 p.2 items) timeFormats [minuteItems, secondItems]
  := by
  refine .cons ⟨rfl, rfl, ?_⟩ (.cons ⟨rfl, rfl, ?_⟩ .nil)
  all_goals simp [minuteItems, secondItems]

theorem pins_dateTimeFormats :
  List.Forall₂ (fun p items => Pins p.1 p.2 items) dateTimeFormats
    ([minuteItems, secondItems].map fun items => longDateItems ++ .mark 'T' :: items)
  := by
  refine .cons ⟨rfl, rfl, ?_⟩ (.cons ⟨rfl, rfl, ?_⟩ .nil)
  all_goals simp [longDateItems, minuteItems, secondItems]

/-! ### Points in time -/

theorem exists_written_longDateItems_iff {t : Text} :
  (∃ values, Written longDateItems t values ∧ (dateOf? values).isSome = true) ↔ LongDate t
  := by
  constructor
  · rintro ⟨values, h, hdate⟩
    obtain ⟨Y, y, _, _, hY, hrest, rfl, rfl⟩ := written_field_mark_iff.mp h
    obtain ⟨M, m, _, _, hM, hlast, rfl, rfl⟩ := written_field_mark_iff.mp hrest
    obtain ⟨d, hD, rfl⟩ := written_last_iff.mp hlast
    exact .mk hY hM hD ((isSome_dateOf?_iff rfl rfl rfl).mp hdate)
  · rintro ⟨hY, hM, hD, h⟩
    exact ⟨_, .field hY (.mark (.field hM (.mark (.last hD)))),
      (isSome_dateOf?_iff rfl rfl rfl).mpr h⟩

theorem exists_written_shortDateItems_iff {t : Text} :
  (∃ items ∈ [plainDateItems, markedDateItems],
      ∃ values, Written items t values ∧ (dateOf? values).isSome = true)
    ↔ ShortDate t
  := by
  rw [List.exists_mem_cons_iff, List.exists_mem_cons_iff]
  constructor
  · rintro (⟨values, h, hdate⟩ | ⟨values, h, hdate⟩ | ⟨_, hmem, -⟩)
    · obtain ⟨M, m, _, _, hM, hrest, rfl, rfl⟩ := written_field_iff.mp h
      obtain ⟨D, d, _, _, hD, hlast, rfl, rfl⟩ := written_field_iff.mp hrest
      obtain ⟨y, hY, rfl⟩ := written_last_iff.mp hlast
      exact .plain hM hD hY ((isSome_dateOf?_iff rfl rfl rfl).mp hdate)
    · obtain ⟨M, m, _, _, hM, hrest, rfl, rfl⟩ := written_field_mark_iff.mp h
      obtain ⟨D, d, _, _, hD, hlast, rfl, rfl⟩ := written_field_mark_iff.mp hrest
      obtain ⟨y, hY, rfl⟩ := written_last_iff.mp hlast
      exact .marked hM hD hY ((isSome_dateOf?_iff rfl rfl rfl).mp hdate)
    · contradiction
  · rintro (⟨hM, hD, hY, h⟩ | ⟨hM, hD, hY, h⟩)
    · exact .inl ⟨_, .field hM (.field hD (.last hY)), (isSome_dateOf?_iff rfl rfl rfl).mpr h⟩
    · exact .inr (.inl ⟨_, .field hM (.mark (.field hD (.mark (.last hY)))),
        (isSome_dateOf?_iff rfl rfl rfl).mpr h⟩)

theorem exists_written_timeItems_iff {t : Text} :
  (∃ items ∈ [minuteItems, secondItems],
      ∃ values, Written items t values ∧ (timeOf? values).any Time.isWholeSecond = true)
    ↔ TimeOfDay t
  := by
  rw [List.exists_mem_cons_iff, List.exists_mem_cons_iff]
  constructor
  · rintro (⟨values, h, htime⟩ | ⟨values, h, htime⟩ | ⟨_, hmem, -⟩)
    · obtain ⟨H, h, _, _, hH, hlast, rfl, rfl⟩ := written_field_mark_iff.mp h
      obtain ⟨m, hM, rfl⟩ := written_last_iff.mp hlast
      obtain ⟨hh, hm, -⟩ := (any_timeOf?_iff rfl rfl).mp htime
      exact .minutes hH hM hh hm
    · obtain ⟨H, h, _, _, hH, hrest, rfl, rfl⟩ := written_field_mark_iff.mp h
      obtain ⟨M, m, _, _, hM, hlast, rfl, rfl⟩ := written_field_mark_iff.mp hrest
      obtain ⟨s, hS, rfl⟩ := written_last_iff.mp hlast
      obtain ⟨hh, hm, hs⟩ := (any_timeOf?_iff rfl rfl).mp htime
      exact .seconds hH hM hS hh hm hs
    · contradiction
  · rintro (⟨hH, hM, hh, hm⟩ | ⟨hH, hM, hS, hh, hm, hs⟩)
    · exact .inl ⟨_, .field hH (.mark (.last hM)),
        (any_timeOf?_iff rfl rfl).mpr ⟨hh, hm, Nat.succ_pos 59⟩⟩
    · exact .inr (.inl ⟨_, .field hH (.mark (.field hM (.mark (.last hS)))),
        (any_timeOf?_iff rfl rfl).mpr ⟨hh, hm, hs⟩⟩)

/-- What is written behind a date with the full year says nothing about the date, and the date
nothing about the time. -/
theorem dateOf?_timeOf?_append {D : Text} {values : FieldValues}
    (h : Written longDateItems D values) (others : FieldValues) :
  dateOf? (values ++ others) = dateOf? values ∧ timeOf? (values ++ others) = timeOf? others
  := by
  obtain ⟨Y, y, _, _, -, hrest, rfl, rfl⟩ := written_field_mark_iff.mp h
  obtain ⟨M, m, _, _, -, hlast, rfl, rfl⟩ := written_field_mark_iff.mp hrest
  obtain ⟨d, -, rfl⟩ := written_last_iff.mp hlast
  exact ⟨rfl, rfl⟩

theorem exists_written_dateTimeItems_iff {items : List FormatItem} {t : Text} :
  (∃ values, Written (longDateItems ++ .mark 'T' :: items) t values
      ∧ ((dateOf? values).isSome && (timeOf? values).any Time.isWholeSecond) = true)
    ↔ ∃ D T, LongDate D
      ∧ (∃ values, Written items T values ∧ (timeOf? values).any Time.isWholeSecond = true)
      ∧ t = D ++ 'T' :: T
  := by
  simp only [written_append_iff, written_mark_iff, Bool.and_eq_true,
    ← exists_written_longDateItems_iff]
  constructor
  · rintro ⟨_, ⟨D, _, values, others, hD, ⟨T, hT, rfl⟩, rfl, rfl⟩, hdate, htime⟩
    obtain ⟨hdates, htimes⟩ := dateOf?_timeOf?_append hD others
    rw [hdates] at hdate
    rw [htimes] at htime
    exact ⟨D, T, ⟨values, hD, hdate⟩, ⟨others, hT, htime⟩, rfl⟩
  · rintro ⟨D, T, ⟨values, hD, hdate⟩, ⟨others, hT, htime⟩, rfl⟩
    obtain ⟨hdates, htimes⟩ := dateOf?_timeOf?_append hD others
    refine ⟨values ++ others, ⟨D, _, values, others, hD, ⟨T, hT, rfl⟩, rfl, rfl⟩, ?_⟩
    rw [hdates, htimes]
    exact ⟨hdate, htime⟩

theorem any_dateFormats_iff {t : Text} :
  ((matchingFormats t dateFormats).any fun format => (readDate? format t).isSome) = true
    ↔ LongDate t ∨ ShortDate t
  := by
  have hread (format : Text) : (readDate? format t).isSome
      = (readValues? format t).any fun values => (dateOf? values).isSome := by
    rw [readDate?]
    cases readValues? format t <;> rfl
  simp only [hread]
  rw [any_matchingFormats_iff pins_dateFormats, List.exists_mem_cons_iff,
    exists_written_longDateItems_iff, exists_written_shortDateItems_iff]

theorem any_timeFormats_iff {t : Text} :
  ((matchingFormats t timeFormats).any fun format =>
      (readTime? format t).any Time.isWholeSecond) = true
    ↔ TimeOfDay t
  := by
  have hread (format : Text) : (readTime? format t).any Time.isWholeSecond
      = (readValues? format t).any fun values => (timeOf? values).any Time.isWholeSecond := by
    rw [readTime?]
    cases readValues? format t <;> rfl
  simp only [hread]
  rw [any_matchingFormats_iff pins_timeFormats, exists_written_timeItems_iff]

theorem any_dateTimeFormats_iff {t : Text} :
  ((matchingFormats t dateTimeFormats).any fun format =>
      (readDateTime? format t).any fun (_, time) => time.isWholeSecond) = true
    ↔ ∃ D T, LongDate D ∧ TimeOfDay T ∧ t = D ++ 'T' :: T
  := by
  have hread (format : Text) : ((readDateTime? format t).any fun (_, time) => time.isWholeSecond)
      = (readValues? format t).any fun values =>
        (dateOf? values).isSome && (timeOf? values).any Time.isWholeSecond := by
    rw [readDateTime?]
    cases readValues? format t with
    | none => rfl
    | some values =>
      cases hdate : dateOf? values <;> cases htime : timeOf? values <;> simp [hdate, htime]
  simp only [hread]
  rw [any_matchingFormats_iff pins_dateTimeFormats]
  simp only [List.mem_map, exists_exists_and_eq_and, exists_written_dateTimeItems_iff]
  constructor
  · rintro ⟨items, hitems, D, T, hD, hT, rfl⟩
    exact ⟨D, T, hD, exists_written_timeItems_iff.mp ⟨items, hitems, hT⟩, rfl⟩
  · rintro ⟨D, T, hD, hT, rfl⟩
    obtain ⟨items, hitems, hT⟩ := exists_written_timeItems_iff.mpr hT
    exact ⟨items, hitems, D, T, hD, hT, rfl⟩

/-- The builtin validator for points in time accepts the points in time in the written forms and
nothing else. -/
theorem Builtin.accepts_dateTime_iff (t : Text) :
  Builtin.dateTime.accepts t = true ↔ PointInTime t
  := by
  rw [Builtin.accepts, isDateTime, Bool.or_eq_true, Bool.or_eq_true, any_dateFormats_iff,
    any_timeFormats_iff, any_dateTimeFormats_iff]
  constructor
  · rintro (((h | h) | h) | ⟨D, T, hD, hT, rfl⟩)
    · exact .longDate h
    · exact .shortDate h
    · exact .time h
    · exact .dateAndTime hD hT
  · intro h
    cases h with
    | longDate h => exact .inl (.inl (.inl h))
    | shortDate h => exact .inl (.inl (.inr h))
    | time h => exact .inl (.inr h)
    | dateAndTime hD hT => exact .inr ⟨_, _, hD, hT, rfl⟩

/-- A leap second is read but not accepted. -/
example : (readTime? "%H:%M:%S".toList "23:59:60".toList).isSome = true
    ∧ Builtin.dateTime.accepts "23:59:60".toList = false := by decide

end DirectiveLint
