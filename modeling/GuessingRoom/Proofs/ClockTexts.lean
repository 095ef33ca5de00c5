import GuessingRoom.Proofs.Calendar
import GuessingRoom.Proofs.Digits
import GuessingRoom.Proofs.Outcomes
import GuessingRoom.Time.Lenient
import GuessingRoom.Time.Stored
import GuessingRoom.Time.Written

/-!
# What a clock shows, as text

At an instant a clock so many minutes ahead of Greenwich shows a local time (`Time.Instant.clockAt`),
which leads back to the instant (`Time.Instant.at?_clockAt`), also in a leap second. Its text is read by
both readers, whatever follows it, as what was written: by the strict one in years of four digits
(`Time.readStoredLocal_write`), by the lenient one in all (`Time.takeLocal_write`). So an instant is found
again in its text in a message (`Time.readLenient?_write`), and in its text with any offset
(`Time.readStored_writeAt`).
-/

namespace GuessingRoom.Time

open Text.Decimal

/-! ## Local times -/

namespace LocalTime

/-- What a clock shows that counts so many seconds from the beginning of 1970 on, the last of them gone on
for so many nanoseconds. -/
def ofParts (second : Int) (nano : Nat) : LocalTime where
  date := Date.ofDays (second / 86400)
  hour := (second % 86400).toNat / 3600
  minute := (second % 86400).toNat / 60 % 60
  second := (second % 86400).toNat % 60 + nano / 1000000000
  fraction := nano % 1000000000

variable {l : LocalTime}

theorem isClockTime_iff :
    l.isClockTime = true ↔ l.hour < 24 ∧ l.minute < 60 ∧ l.second ≤ 60 ∧ l.fraction < 1000000000 := by
  simp only [isClockTime, Bool.and_eq_true, decide_eq_true_eq, and_assoc]

section Parts

variable {second : Int} {nano : Nat}

theorem isClockTime_ofParts (h : nano < 1000000000 ∨ nano < 2000000000 ∧ second % 60 = 59) :
    (ofParts second nano).isClockTime = true := by
  rw [isClockTime_iff]
  simp only [ofParts]
  omega

theorem toSeconds_ofParts (h : nano < 1000000000 ∨ nano < 2000000000 ∧ second % 60 = 59) :
    (ofParts second nano).toSeconds = second := by
  simp only [toSeconds, ofParts, Date.toDays_ofDays]
  omega

theorem nano_ofParts (h : nano < 1000000000 ∨ nano < 2000000000 ∧ second % 60 = 59) :
    (ofParts second nano).nano = nano := by
  have shown : (ofParts second nano).second = (second % 86400).toNat % 60 + nano / 1000000000 := rfl
  have begun : (ofParts second nano).fraction = nano % 1000000000 := rfl
  rw [LocalTime.nano, begun]
  split
  · rename_i leap
    rw [shown] at leap
    omega
  · rename_i usual
    rw [shown] at usual
    omega

end Parts

/-- The first decimals of the second, after a point; none of them without the point. -/
def writeDecimals (places fraction : Nat) : List Char :=
  if places = 0 then [] else '.' :: writeFixed places (fraction / 10 ^ (9 - places))

/-- Date and time of day with a `T` between them, and so many decimals of the second. -/
def write (places : Nat) (l : LocalTime) : List Char :=
  l.date.write ++ 'T' :: (writeFixed 2 l.hour ++ ':' :: (writeFixed 2 l.minute ++ ':' ::
    (writeFixed 2 l.second ++ writeDecimals places l.fraction)))

/-- The local time at its last full decimal. -/
def floor (places : Nat) (l : LocalTime) : LocalTime :=
  { l with fraction := l.fraction / 10 ^ (9 - places) * 10 ^ (9 - places) }

theorem isClockTime_floor (places : Nat) (h : l.isClockTime = true) :
    (l.floor places).isClockTime = true := by
  rw [isClockTime_iff] at h ⊢
  have := Nat.div_mul_le_self l.fraction (10 ^ (9 - places))
  exact ⟨h.1, h.2.1, h.2.2.1, lt_of_le_of_lt this h.2.2.2⟩

end LocalTime

/-! ## Offsets -/

/-- A sign, two digits of hours and two of minutes. -/
def writeOffset (offset : Int) : List Char :=
  (if offset < 0 then '-' else '+') ::
    (writeFixed 2 (offset.natAbs / 60) ++ ':' :: writeFixed 2 (offset.natAbs % 60))

/-- The ways to write an offset: in numbers, and for Greenwich time also as a `Z`. -/
def offsetTexts (offset : Int) : List (List Char) :=
  if offset = 0 then [writeOffset 0, ['Z']] else [writeOffset offset]

/-! ## The clock at an instant -/

namespace Instant

/-- What a clock so many minutes ahead of Greenwich shows at the instant. -/
def clockAt (t : Instant) (offset : Int) : LocalTime := .ofParts (t.second + offset * 60) t.nano

/-- The instant in the text of such a clock, with the given decimals and the offset in the given form. -/
def writeAt (t : Instant) (offset : Int) (places : Nat) (zone : List Char) : String :=
  String.ofList ((t.clockAt offset).write places ++ zone)

/-- Whether so many decimals lose nothing of the instant. -/
def FitsIn (t : Instant) (places : Nat) : Prop := places ≤ 9 ∧ 10 ^ (9 - places) ∣ t.fraction

variable {t : Instant} {offset : Int}

theorem in_clock (t : Instant) (offset : Int) :
    t.nano < 1000000000 ∨ t.nano < 2000000000 ∧ (t.second + offset * 60) % 60 = 59 := by
  have := t.in_second
  omega

theorem isReal_clockAt (t : Instant) (offset : Int) : (t.clockAt offset).date.isReal = true :=
  Date.isReal_ofDays _

theorem isClockTime_clockAt (t : Instant) (offset : Int) : (t.clockAt offset).isClockTime = true :=
  LocalTime.isClockTime_ofParts (t.in_clock offset)

/-- The clock leads back to the instant. -/
theorem at?_clockAt (h : -262143 ≤ (t.clockAt offset).date.year ∧ (t.clockAt offset).date.year ≤ 262142) :
    (t.clockAt offset).at? offset = some t := by
  have back : t.second + offset * 60 - offset * 60 = t.second := by omega
  rw [LocalTime.at?, if_pos h, clockAt, LocalTime.toSeconds_ofParts (t.in_clock offset),
    LocalTime.nano_ofParts (t.in_clock offset), back, ofParts?_self]

/-- Greenwich time shows the parts of the written form. -/
theorem clockAt_zero (t : Instant) :
    t.clockAt 0 = ⟨t.date, t.hour, t.minute, t.secondOfMinute, t.fraction⟩ := by
  simp only [clockAt, LocalTime.ofParts, Int.zero_mul, Int.add_zero]
  rfl

theorem writeWith_eq (t : Instant) (places : Nat) :
    t.writeWith places = (t.clockAt 0).write places ++ ['Z'] := by
  have decimals : t.writeFraction places = LocalTime.writeDecimals places t.fraction := rfl
  simp only [clockAt_zero, writeWith, LocalTime.write, decimals, List.append_assoc, List.cons_append]

theorem year_in_range (t : Instant) :
    -262143 ≤ (t.clockAt 0).date.year ∧ (t.clockAt 0).date.year ≤ 262142 := by
  have first : Date.toDays ⟨-262143, 1, 1⟩ + epochDay = daysBeforeYear (-262143) := by decide
  have last : Date.toDays ⟨262142, 12, 31⟩ + 1 + epochDay = daysBeforeYear 262143 := by decide
  have days : (t.clockAt 0).date.toDays = t.second / 86400 := by
    rw [clockAt_zero]
    exact Date.toDays_ofDays _
  obtain ⟨early, late⟩ := t.in_years
  unfold firstSecond at early
  unfold lastSecond at late
  have real := t.isReal_clockAt 0
  constructor
  · rw [Date.le_year_iff real]
    omega
  · by_contra later
    have := (Date.le_year_iff real).1 (show 262143 ≤ (t.clockAt 0).date.year by omega)
    omega

theorem floor_clockAt {places : Nat} (h : t.FitsIn places) :
    (t.clockAt offset).floor places = t.clockAt offset := by
  have whole : 10 ^ (9 - places) ∣ t.nano % 1000000000 := h.2
  simp only [LocalTime.floor, clockAt, LocalTime.ofParts, Nat.div_mul_cancel whole]

theorem fitsIn_neededPlaces (t : Instant) : t.FitsIn t.neededPlaces := by
  unfold FitsIn neededPlaces
  split_ifs with none three six
  · rw [none]
    exact ⟨by decide, Nat.dvd_zero _⟩
  · exact ⟨by decide, Nat.dvd_of_mod_eq_zero three⟩
  · exact ⟨by decide, Nat.dvd_of_mod_eq_zero six⟩
  · exact ⟨by decide, Nat.one_dvd _⟩

end Instant

/-! ## Reading what was written -/

theorem readDecimals_writeFixed {places : Nat} (some_ : places ≠ 0) (most : places ≤ 9) (n : Nat)
    {rest : List Char} (stop : NoDigit rest) :
    readDecimals (writeFixed places n ++ rest) = .ok (n % 10 ^ places * 10 ^ (9 - places), rest) := by
  have digits : ∀ c ∈ writeFixed places n, isDigit c = true := fun c => isDigit_of_mem_writeFixed
  unfold readDecimals
  rw [takeWhile_isDigit digits stop, dropWhile_isDigit digits stop]
  split
  · rename_i none
    have := congrArg List.length none
    rw [length_writeFixed] at this
    exact absurd this some_
  · have whole : (writeFixed places n).take 9 = writeFixed places n :=
      List.take_of_length_le (by rw [length_writeFixed]; exact most)
    simp only [whole, value_writeFixed, length_writeFixed]
    rfl

/-- The text goes on with the form of an offset. -/
def BeginsZone (rest : List Char) : Prop := ∃ c ∈ rest.head?, c = 'Z' ∨ c = '+' ∨ c = '-'

namespace BeginsZone

variable {rest : List Char}

theorem of_mem_offsetTexts {offset : Int} (h : rest ∈ offsetTexts offset) : BeginsZone rest := by
  have signed (offset : Int) : BeginsZone (writeOffset offset) := by
    unfold writeOffset
    split
    · exact ⟨'-', rfl, by decide⟩
    · exact ⟨'+', rfl, by decide⟩
  unfold offsetTexts at h
  split at h
  · simp only [List.mem_cons, List.not_mem_nil, or_false] at h
    rcases h with rfl | rfl
    · exact signed 0
    · exact ⟨'Z', rfl, .inl rfl⟩
  · rw [List.mem_singleton.1 h]
    exact signed offset

theorem exists_cons (h : BeginsZone rest) :
    ∃ c more, rest = c :: more ∧ isDigit c = false ∧ c ≠ '.' := by
  obtain ⟨c, head, which⟩ := h
  cases rest with
  | nil => cases head
  | cons d more =>
    obtain rfl : d = c := by simpa using head
    exact ⟨d, more, rfl, by rcases which with rfl | rfl | rfl <;> decide⟩

theorem noDigit (h : BeginsZone rest) : NoDigit rest := by
  obtain ⟨c, more, rfl, plain, -⟩ := h.exists_cons
  exact noDigit_cons plain

end BeginsZone

/-- The decimals that are written tell the fraction up to the last of them. -/
theorem fraction_floor {fraction places : Nat} (most : places ≤ 9) (h : fraction < 1000000000) :
    fraction / 10 ^ (9 - places) % 10 ^ places * 10 ^ (9 - places) =
      fraction / 10 ^ (9 - places) * 10 ^ (9 - places) := by
  have all : 10 ^ (9 - places) * 10 ^ places = 1000000000 := by
    rw [← Nat.pow_add, Nat.sub_add_cancel most]
  rw [Nat.mod_eq_of_lt (Nat.div_lt_of_lt_mul (by rw [all]; exact h))]

section Parts

variable {rest : List Char} {l : LocalTime} {places : Nat}

theorem write_append (l : LocalTime) (places : Nat) (rest : List Char) :
    l.write places ++ rest = l.date.write ++ 'T' :: (writeFixed 2 l.hour ++ ':' ::
      (writeFixed 2 l.minute ++ ':' :: (writeFixed 2 l.second ++
        (LocalTime.writeDecimals places l.fraction ++ rest)))) := by
  simp only [LocalTime.write, List.append_assoc, List.cons_append]

theorem writeDecimals_append (places fraction : Nat) (rest : List Char) :
    LocalTime.writeDecimals places fraction ++ rest =
      if places = 0 then rest
      else '.' :: (writeFixed places (fraction / 10 ^ (9 - places)) ++ rest) := by
  unfold LocalTime.writeDecimals
  split <;> rfl

theorem floor_zero (h : l.isClockTime = true) : l.floor 0 = { l with fraction := 0 } := by
  have small := (LocalTime.isClockTime_iff.1 h).2.2.2
  have none : l.fraction / 10 ^ 9 * 10 ^ 9 = 0 := by omega
  show ({ l with fraction := l.fraction / 10 ^ 9 * 10 ^ 9 } : LocalTime) = _
  rw [none]

/-! ### The strict reader -/

theorem expectOne_cons {allowed : List Char} {c : Char} (h : allowed.contains c = true)
    (rest : List Char) : expectOne allowed (c :: rest) = .ok rest := if_pos h

theorem readPair_writeFixed (n : Nat) (rest : List Char) :
    readPair (writeFixed 2 n ++ rest) = .ok (n % 100, rest) := by
  have two : writeFixed 2 n = [digitChar (n / 10), digitChar n] := rfl
  rw [two]
  simp only [List.cons_append, List.nil_append, readPair, isDigit_digitChar, digitValue_digitChar,
    Bool.and_self, if_true]
  congr 2
  omega

theorem readStoredDate_write {d : Date} (real : d.isReal = true) (year : 0 ≤ d.year ∧ d.year ≤ 9999)
    (rest : List Char) : readStoredDate (d.write ++ 'T' :: rest) = .ok (d, rest) := by
  obtain ⟨y, m, day⟩ := d
  obtain ⟨y, rfl⟩ := Int.eq_ofNat_of_zero_le year.1
  have written : writeYear y = writeFixed 4 y := if_pos year
  have bound : (y : Int) ≤ 9999 := year.2
  have century : ((100 * (y / 10 ^ 2 % 100 : Nat) + (y % 100 : Nat) : Int)) = y := by omega
  have month : m ≤ 12 := Date.month_le real
  have days : day ≤ 31 := Date.day_le real
  unfold readStoredDate Date.write
  simp only [written, writeFixed_append 2 2, List.append_assoc, List.cons_append, readPair_writeFixed,
    ok_bind, century, expectOne_cons (show ['-'].contains '-' = true by decide),
    Nat.mod_eq_of_lt (show m < 100 by omega), Nat.mod_eq_of_lt (show day < 100 by omega), real,
    Bool.not_true, Bool.false_eq_true, if_false,
    expectOne_cons (show ['T', 't', ' '].contains 'T' = true by decide)]

/-- A local time is read as it was written, up to the decimals that were left out. -/
theorem readStoredLocal_write (real : l.date.isReal = true) (shows : l.isClockTime = true)
    (year : 0 ≤ l.date.year ∧ l.date.year ≤ 9999) (most : places ≤ 9) (zone : BeginsZone rest) :
    readStoredLocal (l.write places ++ rest) = .ok (l.floor places, rest) := by
  obtain ⟨hour, minute, second, fraction⟩ := LocalTime.isClockTime_iff.1 shows
  have floored := LocalTime.isClockTime_floor places shows
  have colon (rest : List Char) : expectOne [':'] (':' :: rest) = .ok rest :=
    expectOne_cons (by decide) rest
  unfold readStoredLocal
  simp only [write_append, readStoredDate_write real year, readPair_writeFixed, ok_bind, colon,
    Nat.mod_eq_of_lt (show l.hour < 100 by omega), Nat.mod_eq_of_lt (show l.minute < 100 by omega),
    Nat.mod_eq_of_lt (show l.second < 100 by omega), writeDecimals_append]
  by_cases whole : places = 0
  · subst whole
    obtain ⟨c, more, rfl, -, point⟩ := zone.exists_cons
    rw [if_pos rfl]
    split
    · rename_i eq
      exact absurd (List.cons.inj eq).1 point
    · rw [floor_zero shows] at floored ⊢
      exact if_pos floored
  · rw [if_neg whole]
    simp only [readDecimals_writeFixed whole most _ zone.noDigit, fraction_floor most fraction, ok_bind]
    exact if_pos floored

/-! ### The lenient reader -/

theorem trimStart_cons {c : Char} (h : Text.isBlank c = false) (rest : List Char) :
    Text.trimStart (c :: rest) = c :: rest := by
  simp [Text.trimStart, h]

theorem isBlank_of_isDigit {c : Char} (h : isDigit c = true) : Text.isBlank c = false := by
  rw [isDigit_iff] at h
  simp only [Text.isBlank, Text.inSpans, Text.blankSpans, Text.Span.covers, List.any_cons, List.any_nil,
    Bool.or_false, Bool.or_eq_false_iff, Bool.and_eq_false_iff, decide_eq_false_iff_not]
  omega

/-- A number at the front of a text has no space before it, nor a sign. -/
theorem exists_digit_cons {ds : List Char} (digits : ∀ c ∈ ds, isDigit c = true) (ne : ds ≠ [])
    (rest : List Char) : ∃ c more, ds ++ rest = c :: more ∧ isDigit c = true := by
  obtain ⟨c, more, rfl⟩ := List.exists_cons_of_ne_nil ne
  exact ⟨c, more ++ rest, rfl, digits c List.mem_cons_self⟩

theorem trimStart_digits {ds : List Char} (digits : ∀ c ∈ ds, isDigit c = true) (ne : ds ≠ [])
    (rest : List Char) : Text.trimStart (ds ++ rest) = ds ++ rest := by
  obtain ⟨c, more, eq, digit⟩ := exists_digit_cons digits ne rest
  rw [eq, trimStart_cons (isBlank_of_isDigit digit)]

/-- A number ends where the digits do, or where there may be no more of them. -/
theorem takeNumber_digits {ds : List Char} {width : Nat} (digits : ∀ c ∈ ds, isDigit c = true)
    (ne : ds ≠ []) (fits : ds.length ≤ width) (ends : ds.length = width ∨ NoDigit rest) :
    takeNumber width (ds ++ rest) = some (value ds, rest) := by
  have stop : NoDigit (rest.take (width - ds.length)) := by
    rcases ends with full | stop
    · rw [full, Nat.sub_self]
      exact noDigit_nil
    · intro c mem
      rw [List.head?_take] at mem
      split at mem
      · cases mem
      · exact stop c mem
  unfold takeNumber
  rw [List.take_append, List.take_of_length_le fits, takeWhile_isDigit digits stop]
  cases ds with
  | nil => exact absurd rfl ne
  | cons c ds =>
    dsimp only
    rw [List.drop_left]

theorem writeFixed_ne_nil {width : Nat} (h : width ≠ 0) (n : Nat) : writeFixed width n ≠ [] := by
  intro none
  have := congrArg List.length none
  rw [length_writeFixed] at this
  exact h this

theorem takePart_writeFixed (n : Nat) (rest : List Char) :
    takePart (writeFixed 2 n ++ rest) = some (n % 100, rest) := by
  have digits : ∀ c ∈ writeFixed 2 n, isDigit c = true := fun c => isDigit_of_mem_writeFixed
  have ne : writeFixed 2 n ≠ [] := writeFixed_ne_nil (by decide) n
  have length := length_writeFixed 2 n
  rw [takePart, trimStart_digits digits ne, takeNumber_digits digits ne (by omega) (.inl length),
    value_writeFixed]
  rfl

theorem takeMark_cons {mark : Char} (h : Text.isBlank mark = false) (rest : List Char) :
    takeMark mark (mark :: rest) = some rest := by
  rw [takeMark, trimStart_cons h]
  exact if_pos rfl

/-- A year that is written with a sign has its digits up to the next mark. -/
theorem takeNumber_signed (n : Nat) (rest : List Char) :
    let ds := (if n < 10000 then writeFixed 4 n else write n) ++ '-' :: rest
    takeNumber ds.length ds = some (n, '-' :: rest) := by
  have number : ∀ ds : List Char, (∀ c ∈ ds, isDigit c = true) → ds ≠ [] → value ds = n →
      takeNumber (ds ++ '-' :: rest).length (ds ++ '-' :: rest) = some (n, '-' :: rest) := by
    intro ds digits ne val
    rw [takeNumber_digits digits ne (by simp) (.inr (noDigit_cons (by decide))), val]
  split
  · rename_i small
    refine number _ (fun c => isDigit_of_mem_writeFixed) (writeFixed_ne_nil (by decide) n) ?_
    rw [value_writeFixed]
    exact Nat.mod_eq_of_lt small
  · exact number _ (fun c => isDigit_of_mem_write) (write_ne_nil n) (value_write n)

theorem takeYear_write (year : Int) (rest : List Char) :
    takeYear (writeYear year ++ '-' :: rest) = some (year, '-' :: rest) := by
  unfold writeYear
  split
  · rename_i plain
    have digits : ∀ c ∈ writeFixed 4 year.toNat, isDigit c = true := fun c => isDigit_of_mem_writeFixed
    have ne : writeFixed 4 year.toNat ≠ [] := writeFixed_ne_nil (by decide) _
    have length := length_writeFixed 4 year.toNat
    have number : takeNumber 4 (writeFixed 4 year.toNat ++ '-' :: rest) = some (year.toNat, '-' :: rest) := by
      rw [takeNumber_digits digits ne (by omega) (.inl length), value_writeFixed,
        Nat.mod_eq_of_lt (by omega)]
    obtain ⟨c, more, eq, digit⟩ := exists_digit_cons digits ne ('-' :: rest)
    rw [takeYear, trimStart_digits digits ne]
    split
    · rename_i minus
      rw [eq, List.cons.injEq] at minus
      exact absurd (minus.1 ▸ digit) (by decide)
    · rename_i plus
      rw [eq, List.cons.injEq] at plus
      exact absurd (plus.1 ▸ digit) (by decide)
    · rw [number, Option.map_some]
      dsimp only
      rw [Int.toNat_of_nonneg plain.1]
  · have number := takeNumber_signed year.natAbs rest
    split
    · rename_i before
      rw [List.cons_append, takeYear, trimStart_cons (by decide)]
      simp only [number, Option.map_some]
      rw [show -(year.natAbs : Int) = year by omega]
    · rename_i after
      rw [List.cons_append, takeYear, trimStart_cons (by decide)]
      simp only [number, Option.map_some]
      rw [show (year.natAbs : Int) = year by omega]

theorem takeDate_write {d : Date} (real : d.isReal = true) (rest : List Char) :
    takeDate (d.write ++ 'T' :: rest) = some (d, 'T' :: rest) := by
  have month := Date.month_le real
  have day := Date.day_le real
  have dash (rest : List Char) : takeMark '-' ('-' :: rest) = some rest := takeMark_cons (by decide) rest
  simp only [takeDate, Date.write, List.append_assoc, List.cons_append, takeYear_write, dash,
    takePart_writeFixed, Option.bind_eq_bind, Option.bind_some,
    Nat.mod_eq_of_lt (show d.month < 100 by omega), Nat.mod_eq_of_lt (show d.day < 100 by omega)]

theorem takeFraction_write (most : places ≤ 9) {fraction : Nat} (h : fraction < 1000000000)
    (zone : BeginsZone rest) :
    takeFraction (LocalTime.writeDecimals places fraction ++ rest) =
      some (fraction / 10 ^ (9 - places) * 10 ^ (9 - places), rest) := by
  rw [writeDecimals_append]
  by_cases whole : places = 0
  · subst whole
    obtain ⟨c, more, rfl, -, point⟩ := zone.exists_cons
    have none : fraction / 10 ^ (9 - 0) * 10 ^ (9 - 0) = 0 := by omega
    rw [if_pos rfl, none, takeFraction]
    exact fun rest eq => point (List.cons.inj eq).1
  · rw [if_neg whole, takeFraction, readDecimals_writeFixed whole most _ zone.noDigit,
      fraction_floor most h]
    rfl

/-- The lenient reader takes all years. -/
theorem takeLocal_write (real : l.date.isReal = true) (shows : l.isClockTime = true)
    (most : places ≤ 9) (zone : BeginsZone rest) :
    takeLocal (l.write places ++ rest) = some (l.floor places, rest) := by
  obtain ⟨hour, minute, second, fraction⟩ := LocalTime.isClockTime_iff.1 shows
  have colon (rest : List Char) : takeMark ':' (':' :: rest) = some rest := takeMark_cons (by decide) rest
  simp only [takeLocal, write_append, takeDate_write real, Option.bind_eq_bind, Option.bind_some, true_or,
    if_true, takePart_writeFixed, colon, takeFraction_write most fraction zone,
    Nat.mod_eq_of_lt (show l.hour < 100 by omega), Nat.mod_eq_of_lt (show l.minute < 100 by omega),
    Nat.mod_eq_of_lt (show l.second < 100 by omega)]
  rfl

end Parts

/-! ## Instants found again -/

variable {t : Instant} {offset : Int} {places : Nat} {zone : List Char}

/-- An instant is found again in its text in a message, in any year. -/
theorem readLenient?_write (t : Instant) : readLenient? t.write = some t := by
  have greenwich : BeginsZone ['Z'] := ⟨'Z', rfl, .inl rfl⟩
  have offset : takeOffset ['Z'] = some (0, []) := by decide
  have taken := takeLocal_write (t.isReal_clockAt 0) (t.isClockTime_clockAt 0)
    t.fitsIn_neededPlaces.1 greenwich
  rw [Instant.floor_clockAt t.fitsIn_neededPlaces] at taken
  have real := t.isReal_clockAt 0
  have shows := t.isClockTime_clockAt 0
  have told := Instant.at?_clockAt t.year_in_range
  have near : isOffset 0 = true := by decide
  simp only [readLenient?, Instant.write, String.toList_ofList, Instant.writeWith_eq, taken, offset,
    Option.bind_eq_bind, Option.bind_some, real, shows, near, told]
  rfl

theorem readOffsetMinutes_writeFixed {n : Nat} (h : n < 60) :
    readOffsetMinutes (writeFixed 2 n) = .ok (n, []) := by
  have pair := readPair_writeFixed n []
  rw [List.append_nil, Nat.mod_eq_of_lt (by omega)] at pair
  rw [readOffsetMinutes, pair]
  exact if_pos h

theorem readOffset_writeOffset (low : -1440 < offset) (high : offset < 1440) :
    readOffset (expectOne [':']) (writeOffset offset) = .ok (offset, []) := by
  have colon (rest : List Char) : expectOne [':'] (':' :: rest) = .ok rest :=
    expectOne_cons (by decide) rest
  have minutes := readOffsetMinutes_writeFixed (Nat.mod_lt offset.natAbs (show 0 < 60 by decide))
  have hours : offset.natAbs / 60 % 100 = offset.natAbs / 60 := by omega
  have whole : 60 * ((offset.natAbs / 60 : Nat) : Int) + ((offset.natAbs % 60 : Nat) : Int) =
      offset.natAbs := by omega
  unfold writeOffset
  split
  · simp only [readOffset, readPair_writeFixed, colon, minutes, ok_bind, hours, whole]
    rw [if_neg (by decide), if_pos (by decide), if_neg (by decide)]
    congr 2
    omega
  · simp only [readOffset, readPair_writeFixed, colon, minutes, ok_bind, hours, whole]
    rw [if_neg (by decide), if_pos (by decide), if_pos trivial]
    congr 2
    omega

theorem readOffset_of_mem (low : -1440 < offset) (high : offset < 1440) (h : zone ∈ offsetTexts offset) :
    readOffset (expectOne [':']) zone = .ok (offset, []) := by
  unfold offsetTexts at h
  split at h
  · rename_i greenwich
    subst greenwich
    simp only [List.mem_cons, List.not_mem_nil, or_false] at h
    rcases h with rfl | rfl
    · exact readOffset_writeOffset (by decide) (by decide)
    · rfl
  · rw [List.mem_singleton.1 h]
    exact readOffset_writeOffset low high

theorem length_le_utf8Len (cs : List Char) : cs.length ≤ String.utf8Len cs := by
  induction cs with
  | nil => exact Nat.le_refl 0
  | cons c cs ih =>
    have := c.utf8Size_pos
    rw [List.length_cons, String.utf8Len_cons]
    omega

theorem length_write {l : LocalTime} (year : 0 ≤ l.date.year ∧ l.date.year ≤ 9999) (places : Nat) :
    19 ≤ (l.write places).length := by
  simp only [LocalTime.write, Date.write, writeYear, if_pos year, List.length_append, List.length_cons,
    length_writeFixed]
  omega

/-- The strict reader finds the instant that the written decimals tell. -/
theorem readStored_of_floor {u : Instant} (told : (t.clockAt offset).floor places = u.clockAt offset)
    (low : -1440 < offset) (high : offset < 1440)
    (year : 0 ≤ (t.clockAt offset).date.year ∧ (t.clockAt offset).date.year ≤ 9999)
    (most : places ≤ 9) (h : zone ∈ offsetTexts offset) :
    readStored (t.writeAt offset places zone) = .ok u := by
  have long : ¬ (t.writeAt offset places zone).utf8ByteSize < 19 := by
    have bytes := length_le_utf8Len ((t.clockAt offset).write places ++ zone)
    have chars := length_write year places
    rw [List.length_append] at bytes
    rw [Instant.writeAt, String.utf8ByteSize_ofList]
    omega
  have clock := readStoredLocal_write (t.isReal_clockAt offset) (t.isClockTime_clockAt offset) year most
    (BeginsZone.of_mem_offsetTexts h)
  have near : isOffset offset = true := by
    simp only [isOffset, Bool.and_eq_true, decide_eq_true_eq]
    exact ⟨low, high⟩
  have same : (u.clockAt offset).date = (t.clockAt offset).date := by
    rw [← told]
    rfl
  have back : (u.clockAt offset).at? offset = some u := Instant.at?_clockAt (by rw [same]; omega)
  rw [told] at clock
  unfold readStored
  rw [if_neg long, Instant.writeAt, String.toList_ofList]
  simp only [clock, ok_bind, readOffset_of_mem low high h, near, back]
  rfl

/-- An instant is found again in its text with any offset, if no decimals are left out. -/
theorem readStored_writeAt (low : -1440 < offset) (high : offset < 1440)
    (year : 0 ≤ (t.clockAt offset).date.year ∧ (t.clockAt offset).date.year ≤ 9999)
    (fits : t.FitsIn places) (h : zone ∈ offsetTexts offset) :
    readStored (t.writeAt offset places zone) = .ok t :=
  readStored_of_floor (Instant.floor_clockAt fits) low high year fits.1 h

end GuessingRoom.Time
