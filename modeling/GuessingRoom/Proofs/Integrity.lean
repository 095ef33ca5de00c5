import Mathlib.Data.List.Nodup
import GuessingRoom.Proofs.Bookkeeping

/-!
# Ledgers with integrity

The invariant behind the scores: turns and messages have identifiers of their own, and every award
is backed by a message of its own in which the player spelled out the word of the turn. Whatever is
put down of turns, messages and awards keeps it (`Ledger.Integrity.addRound`, …).
-/

namespace GuessingRoom

namespace Ledger

/-- Every player has at most one award for a turn, and every award is backed by a message of its own
in which the player spelled out the word of the turn. -/
structure ScoresHold (l : Ledger) : Prop where
  one_each : (l.awards.map fun a => (a.turnId, a.playerId)).Nodup
  own_message : (l.awards.map (·.messageId)).Nodup
  backed : ∀ a ∈ l.awards, ∃ line ∈ l.lines, ∃ round ∈ l.rounds, ∃ word,
    line.id = a.messageId ∧ line.gameId = a.gameId ∧ line.turnId = a.turnId ∧
      line.playerId = a.playerId ∧ round.id = a.turnId ∧ round.gameId = a.gameId ∧
      l.words.find? (·.id == round.wordId) = some word ∧
      Secret.sameWord line.content word.word = true

/-- The scores hold, and turns and messages are told apart by identifiers that were drawn. -/
structure Integrity (id : Nat → Id) (drawn : Nat) (l : Ledger) : Prop where
  injective : Function.Injective id
  rounds_drawn : ∀ r ∈ l.rounds, ∃ n < drawn, r.id = id n
  lines_drawn : ∀ line ∈ l.lines, ∃ n < drawn, line.id = id n
  rounds_nodup : (l.rounds.map (·.id)).Nodup
  lines_nodup : (l.lines.map (·.id)).Nodup
  scores : l.ScoresHold

namespace Integrity

variable {id : Nat → Id} {drawn : Nat} {l : Ledger}

/-! ## Identifiers -/

/-- An identifier not drawn so far names no row. -/
theorem fresh_ne (h : l.Integrity id drawn) {i : Id} (old : ∃ n < drawn, i = id n) :
    i ≠ id drawn := by
  obtain ⟨n, lt, rfl⟩ := old
  intro e
  have := h.injective e
  omega

theorem fresh_not_mem_rounds (h : l.Integrity id drawn) : id drawn ∉ l.rounds.map (·.id) := by
  intro mem
  obtain ⟨r, hr, e⟩ := List.mem_map.1 mem
  exact h.fresh_ne (h.rounds_drawn r hr) e

theorem fresh_not_mem_lines (h : l.Integrity id drawn) : id drawn ∉ l.lines.map (·.id) := by
  intro mem
  obtain ⟨line, hl, e⟩ := List.mem_map.1 mem
  exact h.fresh_ne (h.lines_drawn line hl) e

theorem fresh_not_mem_awards (h : l.Integrity id drawn) :
    id drawn ∉ l.awards.map (·.messageId) := by
  intro mem
  obtain ⟨a, ha, e⟩ := List.mem_map.1 mem
  obtain ⟨line, hl, -, -, -, named, -⟩ := h.scores.backed a ha
  exact h.fresh_ne (h.lines_drawn line hl) (named.trans e)

/-- Two turns with one identifier are the same. -/
theorem round_eq (h : l.Integrity id drawn) {r r' : Round} (hr : r ∈ l.rounds)
    (hr' : r' ∈ l.rounds) (e : r.id = r'.id) : r = r' :=
  List.inj_on_of_nodup_map h.rounds_nodup hr hr' e

/-! ## What keeps the integrity -/

/-- Drawing, and whatever becomes of users, games and seats, has no part in it. -/
theorem of_eq (h : l.Integrity id drawn) {l' : Ledger} {drawn' : Nat} (later : drawn ≤ drawn')
    (words : l'.words = l.words) (rounds : l'.rounds = l.rounds) (lines : l'.lines = l.lines)
    (awards : l'.awards = l.awards) : l'.Integrity id drawn' where
  injective := h.injective
  rounds_drawn r hr := by
    obtain ⟨n, lt, e⟩ := h.rounds_drawn r (rounds ▸ hr)
    exact ⟨n, lt.trans_le later, e⟩
  lines_drawn line hl := by
    obtain ⟨n, lt, e⟩ := h.lines_drawn line (lines ▸ hl)
    exact ⟨n, lt.trans_le later, e⟩
  rounds_nodup := by rw [rounds]; exact h.rounds_nodup
  lines_nodup := by rw [lines]; exact h.lines_nodup
  scores := by
    refine ⟨?_, ?_, ?_⟩ <;> rw [awards]
    · exact h.scores.one_each
    · exact h.scores.own_message
    · rw [lines, rounds, words]
      exact h.scores.backed

theorem addRound (h : l.Integrity id drawn) (game word : Id) :
    Integrity id (drawn + 1) { l with rounds := l.rounds ++ [⟨id drawn, game, word⟩] } where
  injective := h.injective
  rounds_drawn r hr := by
    rcases List.mem_append.1 hr with old | new
    · obtain ⟨n, lt, e⟩ := h.rounds_drawn r old
      exact ⟨n, by omega, e⟩
    · rw [List.mem_singleton] at new
      exact ⟨drawn, by omega, by rw [new]⟩
  lines_drawn line hl := by
    obtain ⟨n, lt, e⟩ := h.lines_drawn line hl
    exact ⟨n, by omega, e⟩
  rounds_nodup := by
    rw [← List.concat_eq_append, List.map_concat, List.nodup_concat]
    exact ⟨h.fresh_not_mem_rounds, h.rounds_nodup⟩
  lines_nodup := h.lines_nodup
  scores := by
    refine ⟨h.scores.one_each, h.scores.own_message, fun a ha => ?_⟩
    obtain ⟨line, hl, round, hr, rest⟩ := h.scores.backed a ha
    exact ⟨line, hl, round, List.mem_append_left _ hr, rest⟩

theorem addLine (h : l.Integrity id drawn) {line : Line} (fresh : line.id = id drawn) :
    Integrity id (drawn + 1) { l with lines := l.lines ++ [line] } where
  injective := h.injective
  rounds_drawn r hr := by
    obtain ⟨n, lt, e⟩ := h.rounds_drawn r hr
    exact ⟨n, by omega, e⟩
  lines_drawn line' hl := by
    rcases List.mem_append.1 hl with old | new
    · obtain ⟨n, lt, e⟩ := h.lines_drawn line' old
      exact ⟨n, by omega, e⟩
    · rw [List.mem_singleton] at new
      exact ⟨drawn, by omega, by rw [new, fresh]⟩
  rounds_nodup := h.rounds_nodup
  lines_nodup := by
    rw [← List.concat_eq_append, List.map_concat, List.nodup_concat, fresh]
    exact ⟨h.fresh_not_mem_lines, h.lines_nodup⟩
  scores := by
    refine ⟨h.scores.one_each, h.scores.own_message, fun a ha => ?_⟩
    obtain ⟨line, hl, rest⟩ := h.scores.backed a ha
    exact ⟨line, List.mem_append_left _ hl, rest⟩

/-- An award for a message that backs it and no other, to a player without one for the turn. -/
theorem addAward (h : l.Integrity id drawn) {line : Line} {round : Round} {word : Word}
    (put : line ∈ l.lines) (own : line.id ∉ l.awards.map (·.messageId)) (begun : round ∈ l.rounds)
    (turn : round.id = line.turnId) (game : round.gameId = line.gameId)
    (looked : l.words.find? (·.id == round.wordId) = some word)
    (same : Secret.sameWord line.content word.word = true)
    (lacks : l.hasFound line.gameId line.playerId line.turnId = false) (points : Int) :
    Integrity id drawn { l with
      awards := l.awards ++ [⟨line.gameId, line.turnId, line.playerId, line.id, points⟩] } where
  injective := h.injective
  rounds_drawn := h.rounds_drawn
  lines_drawn := h.lines_drawn
  rounds_nodup := h.rounds_nodup
  lines_nodup := h.lines_nodup
  scores := by
    refine ⟨?_, ?_, fun a ha => ?_⟩
    · rw [← List.concat_eq_append, List.map_concat, List.nodup_concat]
      refine ⟨fun mem => ?_, h.scores.one_each⟩
      obtain ⟨a, ha, e⟩ := List.mem_map.1 mem
      rw [Prod.mk.injEq] at e
      -- an earlier award of the player for a turn of this identifier belongs to the same game
      obtain ⟨-, -, r, hr, -, -, -, -, -, rt, rg, -⟩ := h.scores.backed a ha
      have one : r = round := h.round_eq hr begun (by rw [rt, e.1, turn])
      have found : l.hasFound line.gameId line.playerId line.turnId = true :=
        hasFound_iff.2 ⟨a, ha, by rw [← rg, one, game], e.2, e.1⟩
      rw [lacks] at found
      exact absurd found Bool.false_ne_true
    · rw [← List.concat_eq_append, List.map_concat, List.nodup_concat]
      exact ⟨own, h.scores.own_message⟩
    · rcases List.mem_append.1 ha with old | new
      · exact h.scores.backed a old
      · rw [List.mem_singleton] at new
        subst new
        exact ⟨line, put, round, begun, word, rfl, rfl, rfl, rfl, turn, game, looked, same⟩

/-- The verdict on a guess for a turn and a word that were looked up at any time before. -/
theorem judged (h : l.Integrity id drawn) {basePoints : Int} {word : Word} {active : List Player}
    {line : Line} {verdict : Verdict} {l' : Ledger} {drawn' : Nat} {round : Round}
    (later : drawn < drawn') (fresh : line.id = id drawn) (begun : round ∈ l.rounds)
    (turn : round.id = line.turnId) (game : round.gameId = line.gameId)
    (looked : l.words.find? (·.id == round.wordId) = some word)
    (judged : Judged basePoints word active line l verdict l') : l'.Integrity id drawn' := by
  have written := h.addLine fresh
  cases judged with
  | miss other => exact written.of_eq later rfl rfl rfl rfl
  | again same found => exact written.of_eq later rfl rfl rfl rfl
  | scored points turnOver same lacks worth ends =>
    have awarded := written.addAward (List.mem_append_right _ (List.mem_singleton_self line))
      (fresh ▸ h.fresh_not_mem_awards) begun turn game looked same lacks points
    exact awarded.of_eq later rfl rfl rfl rfl

end Integrity

end Ledger

/-- In the books at the beginning there are no turns, messages and scores. -/
structure Books.Fresh (b : Books) : Prop where
  rounds : b.ledger.rounds = []
  lines : b.ledger.lines = []
  awards : b.ledger.awards = []

theorem Books.Fresh.integrity {b : Books} (h : b.Fresh)
    (injective : Function.Injective b.supply.id) :
    b.ledger.Integrity b.supply.id b.drawn where
  injective := injective
  rounds_drawn := by simp [h.rounds]
  lines_drawn := by simp [h.lines]
  rounds_nodup := by simp [h.rounds]
  lines_nodup := by simp [h.lines]
  scores := by constructor <;> simp [h.awards]

end GuessingRoom
