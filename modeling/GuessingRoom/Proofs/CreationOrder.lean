import GuessingRoom.Proofs.StoredTime
import GuessingRoom.Proofs.Tidiness

/-!
# The order of creation

Stored times are compared as texts, which is to compare the instants they tell. So rows that were put in
one after another, by a clock that did not go back, are read in the order in which they were put in
(`Chronological.orderedBy_filter`). With the times read back as they were written, at Greenwich and at any
offset, this is `stored_times_sort`.
-/

namespace GuessingRoom

open Time (Instant readStored offsetTexts readStored_stored readStored_writeAt)

namespace Time.Instant

variable {t u : Instant}

theorem le_iff : t.le u = true ↔ t.second < u.second ∨ t.second = u.second ∧ t.nano ≤ u.nano := by
  simp only [le, Bool.or_eq_true, Bool.and_eq_true, decide_eq_true_eq, beq_iff_eq]

/-- The texts are alike if and only if the instants are, up to the microsecond. -/
theorem stored_eq_iff (ht : t.InFourDigits) (hu : u.InFourDigits) :
    t.stored = u.stored ↔ t.floorMicro = u.floorMicro := by
  refine ⟨fun same => ?_, fun same => ?_⟩
  · have told := readStored_stored ht
    rw [same, readStored_stored hu] at told
    exact (Except.ok.inj told).symm
  · rw [← t.stored_floorMicro, same, u.stored_floorMicro]

theorem stored_lt_iff_le (ht : t.InFourDigits) (hu : u.InFourDigits) :
    t.stored < u.stored ↔ u.floorMicro.le t.floorMicro = false := by
  have second (t : Instant) : t.floorMicro.second = t.second := rfl
  have nano (t : Instant) : t.floorMicro.nano = t.nano / 1000 * 1000 := rfl
  rw [stored_lt_iff ht hu, ← Bool.not_eq_true, le_iff, second, second, nano, nano]
  omega

end Time.Instant

/-- Stored times of instants in years of four digits, each of them no earlier than those before. -/
def Chronological (times : List String) : Prop :=
  ∃ instants : List Instant, instants.map Instant.stored = times ∧
    (∀ t ∈ instants, t.InFourDigits) ∧ instants.Pairwise fun t u => t.le u = true

/-- In chronological rows the order of times is the order in which they were put in, and so it is among
those of them that are looked for. -/
theorem Chronological.orderedBy_filter {α : Type} {key : α → String} {rows : List α}
    (h : Chronological (rows.map key)) (p : α → Bool) :
    orderedBy key (rows.filter p) = rows.filter p := by
  obtain ⟨instants, told, inYears, runs⟩ := h
  have texts : (instants.map Instant.stored).Pairwise fun a b => ¬ b < a := by
    rw [List.pairwise_map]
    exact runs.imp_of_mem fun ht hu le => Instant.not_stored_lt (inYears _ ht) (inYears _ hu) le
  rw [told, List.pairwise_map] at texts
  exact orderedBy_eq_self (texts.filter p)

/-- In years of four digits a stored time is read back up to the microsecond, and of two of them the one
that comes first as a text tells the earlier instant. A time with an offset from Greenwich is read back as
it was written, with as many decimals as lose nothing, wherever the local year has four digits. So the
latest turn of a game is the one that was put in last and its messages stand in the order in which they
were put in, if the clock did not go back. -/
theorem stored_times_sort :
    (∀ t u : Instant, t.InFourDigits → u.InFourDigits →
      readStored t.stored = .ok t.floorMicro ∧
      (t.stored < u.stored ↔ u.floorMicro.le t.floorMicro = false) ∧
      (t.stored = u.stored ↔ t.floorMicro = u.floorMicro) ∧
      (u.stored < t.stored ↔ t.floorMicro.le u.floorMicro = false)) ∧
    (∀ (t : Instant) (offset : Int) (places : Nat), -1440 < offset → offset < 1440 →
      0 ≤ (t.clockAt offset).date.year ∧ (t.clockAt offset).date.year ≤ 9999 → t.FitsIn places →
      ∀ zone ∈ offsetTexts offset, readStored (t.writeAt offset places zone) = .ok t) ∧
    ∀ (tables : RelationalTables) (game : Id),
      (Chronological (tables.turns.map (·.createdAt)) →
        ∀ r, (tables.turns.filter (·.gameId == game)).getLast? = some r →
          tables.latestTurn game = r.toTurn.map some) ∧
      (Chronological (tables.messages.map (·.createdAt)) →
        tables.messagesOf game =
          (tables.messages.filter (·.gameId == game)).mapM MessageRow.toMessage) := by
  refine ⟨fun t u ht hu => ⟨readStored_stored ht, Instant.stored_lt_iff_le ht hu,
    Instant.stored_eq_iff ht hu, Instant.stored_lt_iff_le hu ht⟩,
    fun t offset places low high year fits zone form => readStored_writeAt low high year fits form,
    fun tables game => ⟨fun h r last => ?_, fun h => ?_⟩⟩
  · unfold RelationalTables.latestTurn
    rw [h.orderedBy_filter, last]
  · unfold RelationalTables.messagesOf
    rw [h.orderedBy_filter]

/-- A leap second comes before the second after it, and is found again in the text of an Indian clock, on
which the new year has begun. Of three turns the second and the third have one stored time, as they began
in one microsecond, and the third is the latest. -/
theorem stored_times_sort_at_new_year :
    let leap : Instant := ⟨1483228799, 1500000000, by decide, by decide⟩
    let midnight : Instant := ⟨1483228800, 7001, by decide, by decide⟩
    let later : Instant := ⟨1483228800, 7999, by decide, by decide⟩
    let turn (id : Id) (t : Instant) : TurnRow := ⟨id, "g", "w", t.stored⟩
    let tables : RelationalTables :=
      { turns := [turn "a" leap, turn "b" midnight, turn "c" later] }
    leap.stored = "2016-12-31T23:59:60.500000Z" ∧ readStored leap.stored = .ok leap ∧
    leap.stored < midnight.stored ∧ midnight.stored = later.stored ∧
    leap.writeAt 330 1 (Time.writeOffset 330) = "2017-01-01T05:29:60.5+05:30" ∧
    readStored "2017-01-01T05:29:60.5+05:30" = .ok leap ∧
    tables.latestTurn "g" = (turn "c" later).toTurn.map some := by
  intro leap midnight later turn tables
  have leapYear : leap.InFourDigits := ⟨by decide, by decide⟩
  have newYear : midnight.InFourDigits := ⟨by decide, by decide⟩
  have newYear' : later.InFourDigits := ⟨by decide, by decide⟩
  have order := stored_times_sort.1 leap midnight leapYear newYear
  have twins := stored_times_sort.1 midnight later newYear newYear'
  have india := stored_times_sort.2.1 leap 330 1 (by decide) (by decide) ⟨by decide, by decide⟩
    ⟨by decide, by decide⟩ (Time.writeOffset 330) (by decide)
  have text : leap.writeAt 330 1 (Time.writeOffset 330) = "2017-01-01T05:29:60.5+05:30" := by decide +kernel
  have whole : leap.floorMicro = leap := by decide
  have runs : Chronological (tables.turns.map (·.createdAt)) := by
    refine ⟨[leap, midnight, later], rfl, ?_, by decide +kernel⟩
    simp only [List.forall_mem_cons]
    exact ⟨leapYear, newYear, newYear', List.forall_mem_nil _⟩
  exact ⟨by decide +kernel, order.1.trans (congrArg Except.ok whole), order.2.1.2 (by decide),
    twins.2.2.1.2 (by decide), text, by rw [← text]; exact india,
    (stored_times_sort.2.2 tables "g").1 runs _ rfl⟩

end GuessingRoom
