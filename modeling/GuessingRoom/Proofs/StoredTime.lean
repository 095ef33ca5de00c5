import GuessingRoom.Proofs.ClockTexts
import GuessingRoom.Store.Supply

/-!
# Stored times

A time in a year of four digits is read back as the instant it was written of, up to the microsecond
(`Time.readStored_stored`), and the order of stored times as texts is the order of their instants
(`Time.Instant.stored_lt_iff`), leap seconds included.
-/

namespace GuessingRoom.Time

open Text.Decimal

namespace Instant

variable {t u : Instant}

/-! ## Years of four digits -/

def InFourDigits (t : Instant) : Prop := 0 ≤ t.date.year ∧ t.date.year ≤ 9999

theorem date_clockAt (t : Instant) : (t.clockAt 0).date = t.date := by rw [clockAt_zero]

theorem isReal_date (t : Instant) : t.date.isReal = true := Date.isReal_ofDays _

theorem toDays_date (t : Instant) : t.date.toDays = t.second / 86400 := Date.toDays_ofDays _

theorem inFourDigits_of_isStorable (h : isStorable t) : t.InFourDigits := by
  have first : Date.toDays ⟨0, 1, 1⟩ + epochDay = daysBeforeYear 0 := by decide
  have last : Date.toDays ⟨10000, 1, 1⟩ + epochDay = daysBeforeYear 10000 := by decide
  have days := t.toDays_date
  obtain ⟨early, late, -⟩ := h
  constructor
  · rw [Date.le_year_iff t.isReal_date]
    omega
  · by_contra later
    have := (Date.le_year_iff t.isReal_date).1 (show 10000 ≤ t.date.year by omega)
    omega

/-! ## Stored times read back -/

theorem stored_eq (t : Instant) : t.stored = t.writeAt 0 6 ['Z'] := by
  rw [stored, writeWith_eq]
  rfl

/-- Six decimals tell the microsecond. -/
theorem floor_clockAt_six (t : Instant) (offset : Int) :
    (t.clockAt offset).floor 6 = t.floorMicro.clockAt offset := by
  have leap : t.nano / 1000 * 1000 / 1000000000 = t.nano / 1000000000 := by omega
  have fraction : t.nano / 1000 * 1000 % 1000000000 = t.nano % 1000000000 / 10 ^ (9 - 6) * 10 ^ (9 - 6) := by
    omega
  simp only [LocalTime.floor, clockAt, LocalTime.ofParts, floorMicro, leap, fraction]

/-- What is stored of an instant is what is stored of its last full microsecond. -/
theorem stored_floorMicro (t : Instant) : t.floorMicro.stored = t.stored := by
  have same : (t.nano % 1000000000 / 10 ^ (9 - 6) * 10 ^ (9 - 6)) / 10 ^ (9 - 6) =
      t.nano % 1000000000 / 10 ^ (9 - 6) := by omega
  rw [stored_eq, stored_eq, writeAt, writeAt, ← floor_clockAt_six]
  simp only [LocalTime.write, LocalTime.floor, LocalTime.writeDecimals, clockAt, LocalTime.ofParts, same]

end Instant

/-- A stored time tells its instant up to the microsecond. -/
theorem readStored_stored {t : Instant} (h : t.InFourDigits) : readStored t.stored = .ok t.floorMicro := by
  rw [t.stored_eq]
  refine readStored_of_floor (t.floor_clockAt_six 0) (by decide) (by decide) ?_ (by decide)
    (by simp [offsetTexts])
  rw [t.date_clockAt]
  exact h

/-! ## The order of stored times -/

/-- A mark that two texts have in common does not matter. -/
theorem cons_lt_cons_self_iff {c : Char} {a b : List Char} : c :: a < c :: b ↔ a < b := by
  simp only [List.cons_lt_cons_iff, lt_irrefl, true_and, false_or]

namespace Instant

variable {t u : Instant}

theorem date_lt_iff {P : Prop} :
    (t.date.year < u.date.year ∨ t.date.year = u.date.year ∧ (t.date.month < u.date.month ∨
      t.date.month = u.date.month ∧ (t.date.day < u.date.day ∨ t.date.day = u.date.day ∧ P))) ↔
      t.second / 86400 < u.second / 86400 ∨ t.second / 86400 = u.second / 86400 ∧ P := by
  have before := Date.toDays_lt_toDays_iff t.isReal_date u.isReal_date
  have same : t.second / 86400 = u.second / 86400 ↔ t.date = u.date :=
    ⟨congrArg Date.ofDays, fun h => by rw [← t.toDays_date, ← u.toDays_date, h]⟩
  rw [t.toDays_date, u.toDays_date] at before
  rw [before, same, Date.eq_iff]
  by_cases p : P
  · simp only [p, and_true]
    omega
  · simp only [p, and_false, or_false]

/-- Times of day come in the order of hours, minutes, seconds and decimals, also in the longer last second
of a minute. -/
theorem clock_lt_iff :
    (t.hour < u.hour ∨ t.hour = u.hour ∧ (t.minute < u.minute ∨ t.minute = u.minute ∧
      (t.secondOfMinute < u.secondOfMinute ∨ t.secondOfMinute = u.secondOfMinute ∧
        t.fraction / 1000 < u.fraction / 1000))) ↔
      t.second % 86400 < u.second % 86400 ∨
        t.second % 86400 = u.second % 86400 ∧ t.nano / 1000 < u.nano / 1000 := by
  have ht := t.in_second
  have hu := u.in_second
  unfold hour minute secondOfMinute fraction secondOfDay
  omega

/-- The parts of an instant are small enough for the places they are given. -/
theorem parts_lt (t : Instant) : t.date.month < 100 ∧ t.date.day < 100 ∧ t.hour < 100 ∧ t.minute < 100 ∧
    t.secondOfMinute < 100 ∧ t.fraction / 1000 < 1000000 := by
  have month := Date.month_le t.isReal_date
  have day := Date.day_le t.isReal_date
  have second := t.in_second
  unfold hour minute secondOfMinute fraction secondOfDay
  omega

/-- The texts are compared part by part. -/
theorem stored_lt_iff_parts (ht : t.InFourDigits) (hu : u.InFourDigits) :
    t.stored < u.stored ↔
      t.date.year < u.date.year ∨ t.date.year = u.date.year ∧ (t.date.month < u.date.month ∨
        t.date.month = u.date.month ∧ (t.date.day < u.date.day ∨ t.date.day = u.date.day ∧
          (t.hour < u.hour ∨ t.hour = u.hour ∧ (t.minute < u.minute ∨ t.minute = u.minute ∧
            (t.secondOfMinute < u.secondOfMinute ∨ t.secondOfMinute = u.secondOfMinute ∧
              t.fraction / 1000 < u.fraction / 1000))))) := by
  have lengths : ∀ w m n : Nat, (writeFixed w m).length = (writeFixed w n).length := by
    intro w m n
    rw [length_writeFixed, length_writeFixed]
  have part : ∀ w, ∀ m < 10 ^ w, ∀ n < 10 ^ w,
      (writeFixed w m < writeFixed w n ↔ m < n) ∧ (writeFixed w m = writeFixed w n ↔ m = n) :=
    fun w m hm n hn => ⟨writeFixed_lt_writeFixed hm hn, writeFixed_inj hm hn⟩
  obtain ⟨month, day, hour, minute, second, micro⟩ := t.parts_lt
  obtain ⟨month', day', hour', minute', second', micro'⟩ := u.parts_lt
  have year : writeYear t.date.year = writeFixed 4 t.date.year.toNat := if_pos ht
  have year' : writeYear u.date.year = writeFixed 4 u.date.year.toNat := if_pos hu
  obtain ⟨first, last⟩ := ht
  obtain ⟨first', last'⟩ := hu
  have years := part 4 t.date.year.toNat (by omega) u.date.year.toNat (by omega)
  have months := part 2 t.date.month month u.date.month month'
  have days := part 2 t.date.day day u.date.day day'
  have hours := part 2 t.hour hour u.hour hour'
  have minutes := part 2 t.minute minute u.minute minute'
  have seconds := part 2 t.secondOfMinute second u.secondOfMinute second'
  have micros := part 6 (t.fraction / 1000) micro (u.fraction / 1000) micro'
  have natural : (t.date.year.toNat < u.date.year.toNat ↔ t.date.year < u.date.year) ∧
      (t.date.year.toNat = u.date.year.toNat ↔ t.date.year = u.date.year) := by omega
  have text (t : Instant) : t.writeFraction 6 = '.' :: writeFixed 6 (t.fraction / 1000) := rfl
  rw [String.lt_iff_toList_lt, stored, stored, String.toList_ofList, String.toList_ofList]
  simp only [writeWith, Date.write, year, year', text, List.append_assoc, List.cons_append,
    append_lt_append_iff (lengths _ _ _), cons_lt_cons_self_iff]
  rw [years.1, years.2, months.1, months.2, days.1, days.2, hours.1, hours.2, minutes.1, minutes.2,
    seconds.1, seconds.2, micros.1, natural.1, natural.2]
  simp only [lt_irrefl, and_false, or_false]

/-- Stored texts come in the order of their instants, of which they tell the microseconds. -/
theorem stored_lt_iff (ht : t.InFourDigits) (hu : u.InFourDigits) :
    t.stored < u.stored ↔
      t.second < u.second ∨ t.second = u.second ∧ t.nano / 1000 < u.nano / 1000 := by
  rw [stored_lt_iff_parts ht hu, clock_lt_iff, date_lt_iff]
  omega

/-- Text order is time order as long as the clock does not go back. -/
theorem not_stored_lt (ht : t.InFourDigits) (hu : u.InFourDigits) (h : t.le u = true) :
    ¬ u.stored < t.stored := by
  rw [stored_lt_iff hu ht]
  simp only [le, Bool.or_eq_true, Bool.and_eq_true, decide_eq_true_eq, beq_iff_eq] at h
  omega

end Instant

end GuessingRoom.Time
