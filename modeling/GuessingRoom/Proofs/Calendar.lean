import Mathlib.Order.Monotone.Basic
import GuessingRoom.Time.Calendar

/-!
# Days and dates

A count of days and the date it leads to determine each other (`Date.toDays_ofDays`), every date so
found is a real one (`Date.isReal_ofDays`), and days come in the order of years, months and days of
the month (`Date.toDays_lt_toDays_iff`).
-/

namespace GuessingRoom.Time

/-! ## Years -/

/-- A year is as long as its twelve months. -/
theorem daysBeforeYear_succ (year : Int) :
    daysBeforeYear (year + 1) = daysBeforeYear year + daysBeforeMonth (isLeapYear year) 13 := by
  have leap : isLeapYear year = true ↔ year % 4 = 0 ∧ (year % 100 ≠ 0 ∨ year % 400 = 0) := by
    simp [isLeapYear]
  have long : daysBeforeMonth true 13 = 366 := rfl
  have short : daysBeforeMonth false 13 = 365 := rfl
  cases h : isLeapYear year
  · have := leap.not.1 (Bool.not_eq_true _ ▸ h)
    simp only [daysBeforeYear, short]
    omega
  · have := leap.1 h
    simp only [daysBeforeYear, long]
    omega

/-- An earlier year is over when the later one begins. -/
theorem daysBeforeYear_succ_le {year year' : Int} (h : year < year') :
    daysBeforeYear (year + 1) ≤ daysBeforeYear year' := by
  unfold daysBeforeYear
  omega

theorem daysBeforeYear_cycle (n : Int) (year : Int) :
    daysBeforeYear (400 * n + year) = daysPerCycle * n + daysBeforeYear year := by
  unfold daysBeforeYear daysPerCycle
  omega

/-- The year of a day has begun and is not over. -/
theorem yearOfDay_spec (day : Int) :
    daysBeforeYear (yearOfDay day) ≤ day ∧ day < daysBeforeYear (yearOfDay day + 1) := by
  have split : day = daysPerCycle * (day / daysPerCycle) + day % daysPerCycle :=
    (Int.mul_ediv_add_emod day daysPerCycle).symm
  have low : 0 ≤ day % daysPerCycle := Int.emod_nonneg _ (by decide)
  have high : day % daysPerCycle < 146097 := Int.emod_lt_of_pos _ (by decide)
  unfold yearOfDay
  generalize day / daysPerCycle = cycle at *
  generalize day % daysPerCycle = rest at *
  have first : daysBeforeYear (rest / 366) ≤ rest := by
    unfold daysBeforeYear
    omega
  have last : rest < daysBeforeYear (rest / 366 + 2) := by
    unfold daysBeforeYear
    omega
  have e₀ := daysBeforeYear_cycle cycle (rest / 366)
  have e₂ := daysBeforeYear_cycle cycle (rest / 366 + 2)
  dsimp only
  split
  · rename_i h
    refine ⟨h, ?_⟩
    rw [show 400 * cycle + rest / 366 + 1 + 1 = 400 * cycle + (rest / 366 + 2) by omega]
    omega
  · rename_i h
    omega

/-! ## Months -/

theorem daysBeforeMonth_succ (leap : Bool) {month : Nat} (h : 1 ≤ month) :
    daysBeforeMonth leap (month + 1) = daysBeforeMonth leap month + daysInMonth leap month := by
  obtain ⟨m, rfl⟩ := Nat.exists_eq_add_of_le' h
  rfl

/-- The month found is one of those in question, and the day is one of its days. -/
theorem monthOfDay_spec (leap : Bool) (left month day : Nat) (h : 1 ≤ month)
    (within : daysBeforeMonth leap month + day < daysBeforeMonth leap (month + left + 1)) :
    month ≤ (monthOfDay leap left month day).1 ∧
    (monthOfDay leap left month day).1 ≤ month + left ∧
    1 ≤ (monthOfDay leap left month day).2 ∧
    (monthOfDay leap left month day).2 ≤ daysInMonth leap (monthOfDay leap left month day).1 ∧
    daysBeforeMonth leap (monthOfDay leap left month day).1 + (monthOfDay leap left month day).2 =
      daysBeforeMonth leap month + day + 1 := by
  induction left generalizing month day with
  | zero =>
    rw [Nat.add_zero, daysBeforeMonth_succ leap h] at within
    simp only [monthOfDay]
    omega
  | succ left ih =>
    unfold monthOfDay
    split
    · dsimp only
      omega
    · rename_i late
      have next := daysBeforeMonth_succ leap h
      have := ih (month + 1) (day - daysInMonth leap month) (by omega)
        (by rw [show month + 1 + left + 1 = month + (left + 1) + 1 by omega]; omega)
      omega

theorem daysBeforeMonth_mono (leap : Bool) : Monotone (daysBeforeMonth leap) := by
  apply monotone_nat_of_le_succ
  intro month
  cases month with
  | zero => exact Nat.le_refl 0
  | succ month =>
    rw [daysBeforeMonth_succ leap (Nat.le_add_left 1 month)]
    exact Nat.le_add_right _ _

/-! ## Dates -/

namespace Date

theorem ofDays_spec (days : Int) : (ofDays days).isReal = true ∧ (ofDays days).toDays = days := by
  obtain ⟨begun, ends⟩ := yearOfDay_spec (days + epochDay)
  rw [daysBeforeYear_succ] at ends
  have none_yet : daysBeforeMonth (isLeapYear (yearOfDay (days + epochDay))) 1 = 0 := rfl
  have month := monthOfDay_spec (isLeapYear (yearOfDay (days + epochDay))) 11 1
    (days + epochDay - daysBeforeYear (yearOfDay (days + epochDay))).toNat (Nat.le_refl 1)
    (by rw [none_yet, show 1 + 11 + 1 = 13 from rfl]; omega)
  rw [none_yet] at month
  unfold ofDays
  simp only [isReal, toDays, Bool.and_eq_true, decide_eq_true_eq]
  omega

theorem toDays_ofDays (days : Int) : (ofDays days).toDays = days := (ofDays_spec days).2

theorem isReal_ofDays (days : Int) : (ofDays days).isReal = true := (ofDays_spec days).1

/-- A date lies within its month, and that within its year. -/
theorem toDays_within {d : Date} (h : d.isReal = true) :
    1 ≤ d.day ∧
      daysBeforeMonth (isLeapYear d.year) d.month + d.day ≤
        daysBeforeMonth (isLeapYear d.year) (d.month + 1) ∧
      daysBeforeYear d.year ≤ d.toDays + epochDay ∧
      d.toDays + epochDay < daysBeforeYear (d.year + 1) := by
  simp only [isReal, Bool.and_eq_true, decide_eq_true_eq] at h
  obtain ⟨⟨⟨first, last⟩, begun⟩, ends⟩ := h
  have next := daysBeforeMonth_succ (isLeapYear d.year) first
  have whole := daysBeforeMonth_mono (isLeapYear d.year) (show d.month + 1 ≤ 13 by omega)
  have year := daysBeforeYear_succ d.year
  refine ⟨begun, ?_, ?_, ?_⟩
  · omega
  · unfold toDays
    omega
  · unfold toDays
    omega

/-- The year has begun on the days of which it is the year or an earlier one. -/
theorem le_year_iff {d : Date} (h : d.isReal = true) {year : Int} :
    year ≤ d.year ↔ daysBeforeYear year ≤ d.toDays + epochDay := by
  obtain ⟨-, -, begun, ends⟩ := toDays_within h
  constructor
  · intro le
    rcases eq_or_lt_of_le le with rfl | lt
    · exact begun
    · have := daysBeforeYear_succ_le lt
      have : daysBeforeYear year ≤ daysBeforeYear (year + 1) := by
        unfold daysBeforeYear
        omega
      omega
  · intro le
    by_contra later
    have := daysBeforeYear_succ_le (not_le.1 later)
    omega

theorem month_le {d : Date} (h : d.isReal = true) : d.month ≤ 12 := by
  simp only [isReal, Bool.and_eq_true, decide_eq_true_eq] at h
  exact h.1.1.2

theorem day_le {d : Date} (h : d.isReal = true) : d.day ≤ 31 := by
  have longest : daysInMonth (isLeapYear d.year) d.month ≤ 31 := by
    unfold daysInMonth
    split <;> (try split) <;> decide
  simp only [isReal, Bool.and_eq_true, decide_eq_true_eq] at h
  exact h.2.trans longest

/-- Days come in the order of years, of months and of days of a month. -/
theorem toDays_lt_toDays {d e : Date} (hd : d.isReal = true) (he : e.isReal = true)
    (h : d.year < e.year ∨ d.year = e.year ∧ (d.month < e.month ∨ d.month = e.month ∧ d.day < e.day)) :
    d.toDays < e.toDays := by
  obtain ⟨first, month, begun, ends⟩ := toDays_within hd
  obtain ⟨first', month', begun', ends'⟩ := toDays_within he
  rcases h with h | ⟨same, h | ⟨same', h⟩⟩
  · have := daysBeforeYear_succ_le h
    omega
  · have := daysBeforeMonth_mono (isLeapYear d.year) (show d.month + 1 ≤ e.month from h)
    unfold toDays
    rw [← same]
    omega
  · unfold toDays
    rw [← same, ← same']
    omega

theorem eq_iff {d e : Date} :
    d = e ↔ d.year = e.year ∧ d.month = e.month ∧ d.day = e.day := by
  cases d
  cases e
  simp only [mk.injEq]

theorem toDays_lt_toDays_iff {d e : Date} (hd : d.isReal = true) (he : e.isReal = true) :
    d.toDays < e.toDays ↔
      d.year < e.year ∨ d.year = e.year ∧ (d.month < e.month ∨ d.month = e.month ∧ d.day < e.day) := by
  refine ⟨fun h => ?_, toDays_lt_toDays hd he⟩
  by_contra late
  by_cases same : d = e
  · rw [same] at h
    exact lt_irrefl _ h
  · rw [eq_iff] at same
    have := toDays_lt_toDays he hd (by omega)
    omega

end Date

end GuessingRoom.Time
