import GuessingRoom.Proofs.Effects
import GuessingRoom.Proofs.Integrity

/-!
# Orderly ledgers

The invariant that every request keeps when it is carried out in one go: besides the integrity of
scores, turns and seats belong to games that were opened, no user has two seats in one game, and a
game can only have begun if there are words.
-/

namespace GuessingRoom

namespace Ledger

/-- Games are told apart by identifiers that were drawn, and turns and seats belong to games. -/
structure Orderly (id : Nat → Id) (drawn : Nat) (l : Ledger) : Prop extends
    Integrity id drawn l where
  games_drawn : ∀ g ∈ l.games, ∃ n < drawn, g = id n
  rounds_there : ∀ r ∈ l.rounds, r.gameId ∈ l.games
  seats_there : ∀ seat ∈ l.seats, seat.gameId ∈ l.games
  one_seat : (l.seats.map fun seat => (seat.gameId, seat.userId)).Nodup
  worded : l.rounds ≠ [] → l.words ≠ []

namespace Orderly

variable {id : Nat → Id} {drawn k : Nat} {l : Ledger}

/-! ## Seats -/

theorem map_withTaken (game user : Id) (taken : Bool) (seats : List Seat) :
    ((seats.map (Seat.withTaken game user taken)).map fun seat => (seat.gameId, seat.userId)) =
      seats.map fun seat => (seat.gameId, seat.userId) := by
  rw [List.map_map]
  apply List.map_congr_left
  intro seat _
  simp only [Function.comp_apply, Seat.withTaken]
  split <;> rfl

theorem gameId_withTaken (game user : Id) (taken : Bool) (seat : Seat) :
    (seat.withTaken game user taken).gameId = seat.gameId := by
  unfold Seat.withTaken
  split <;> rfl

/-! ## What keeps the order -/

/-- Drawing, and whatever becomes of users, lines and awards, has no part in it. -/
theorem of_eq (h : l.Orderly id drawn) {l' : Ledger} (later : drawn ≤ k) (kept : l'.Integrity id k)
    (words : l'.words = l.words) (games : l'.games = l.games) (seats : l'.seats = l.seats)
    (rounds : l'.rounds = l.rounds) : l'.Orderly id k where
  toIntegrity := kept
  games_drawn g hg := by
    obtain ⟨n, lt, e⟩ := h.games_drawn g (games ▸ hg)
    exact ⟨n, lt.trans_le later, e⟩
  rounds_there r hr := games ▸ h.rounds_there r (rounds ▸ hr)
  seats_there seat hs := games ▸ h.seats_there seat (seats ▸ hs)
  one_seat := seats ▸ h.one_seat
  worded some_round := words ▸ h.worded (rounds ▸ some_round)

theorem later (h : l.Orderly id drawn) (le : drawn ≤ k) : l.Orderly id k :=
  h.of_eq le (h.toIntegrity.of_eq le rfl rfl rfl rfl) rfl rfl rfl rfl

theorem addRound (h : l.Orderly id drawn) (game : Id) (word : Word) (there : game ∈ l.games)
    (listed : word ∈ l.words) :
    Orderly id (drawn + 1) { l with rounds := l.rounds ++ [⟨id drawn, game, word.id⟩] } where
  toIntegrity := h.toIntegrity.addRound game word.id
  games_drawn g hg := (h.later (Nat.le_succ _)).games_drawn g hg
  rounds_there r hr := by
    rcases List.mem_append.1 hr with old | new
    · exact h.rounds_there r old
    · rw [List.mem_singleton.1 new]
      exact there
  seats_there := h.seats_there
  one_seat := h.one_seat
  worded _ := List.ne_nil_of_mem listed

theorem addGame (h : l.Orderly id drawn) :
    Orderly id (drawn + 1) { l with games := l.games ++ [id drawn] } where
  toIntegrity := h.toIntegrity.of_eq (Nat.le_succ _) rfl rfl rfl rfl
  games_drawn g hg := by
    rcases List.mem_append.1 hg with old | new
    · exact (h.later (Nat.le_succ _)).games_drawn g old
    · exact ⟨drawn, Nat.lt_succ_self _, List.mem_singleton.1 new⟩
  rounds_there r hr := List.mem_append_left _ (h.rounds_there r hr)
  seats_there seat hs := List.mem_append_left _ (h.seats_there seat hs)
  one_seat := h.one_seat
  worded := h.worded

theorem addSeat (h : l.Orderly id drawn) (game user : Id) (there : game ∈ l.games)
    (free : ∀ seat ∈ l.seats, seat.gameId = game → seat.userId ≠ user) :
    Orderly id drawn { l with seats := l.seats ++ [⟨game, user, true⟩] } where
  toIntegrity := h.toIntegrity.of_eq le_rfl rfl rfl rfl rfl
  games_drawn := h.games_drawn
  rounds_there := h.rounds_there
  seats_there seat hs := by
    rcases List.mem_append.1 hs with old | new
    · exact h.seats_there seat old
    · rw [List.mem_singleton.1 new]
      exact there
  one_seat := by
    rw [← List.concat_eq_append, List.map_concat, List.nodup_concat]
    refine ⟨fun mem => ?_, h.one_seat⟩
    obtain ⟨seat, hs, e⟩ := List.mem_map.1 mem
    rw [Prod.mk.injEq] at e
    exact free seat hs e.1 e.2
  worded := h.worded

theorem setSeat (h : l.Orderly id drawn) (game user : Id) (taken : Bool) :
    Orderly id drawn { l with seats := l.seats.map (Seat.withTaken game user taken) } where
  toIntegrity := h.toIntegrity.of_eq le_rfl rfl rfl rfl rfl
  games_drawn := h.games_drawn
  rounds_there := h.rounds_there
  seats_there seat hs := by
    obtain ⟨seat₀, hs₀, rfl⟩ := List.mem_map.1 hs
    rw [gameId_withTaken]
    exact h.seats_there seat₀ hs₀
  one_seat := by
    rw [map_withTaken]
    exact h.one_seat
  worded := h.worded

/-- The game that comes next is not yet among those that were opened. -/
theorem fresh_not_mem_games (h : l.Orderly id drawn) : id drawn ∉ l.games := by
  intro mem
  exact h.fresh_ne (h.games_drawn _ mem) rfl

/-- Every effect of a request keeps a ledger orderly. -/
theorem effect (h : l.Orderly id drawn) {ended : Option Id} {l' : Ledger} (le : drawn ≤ k)
    (effect : Effect id drawn k l ended l') : l'.Orderly id k := by
  cases effect with
  | idle => exact h.later le
  | named users kept =>
    exact h.of_eq le (h.toIntegrity.of_eq le rfl rfl rfl rfl) rfl rfl rfl rfl
  | opened m n user word first next last listed =>
    have there : id m ∈ l.games ++ [id m] := List.mem_append_right _ (List.mem_singleton_self _)
    have game := (h.later first).addGame
    have seat := game.addSeat (id m) user there fun seat hs here =>
      absurd (here ▸ h.seats_there seat hs) (h.later first).fresh_not_mem_games
    have round := (seat.later next).addRound (id m) word there listed
    exact round.later last
  | joined game user there free => exact (h.addSeat game user there free).later le
  | rejoined game user was => exact (h.setSeat game user true).later le
  | left game user was => exact (h.setSeat game user false).later le
  | said line n first last drew =>
    have kept := ((h.toIntegrity.of_eq first rfl rfl rfl rfl).addLine drew).of_eq last rfl rfl rfl rfl
    exact h.of_eq le kept rfl rfl rfl rfl
  | found line round word points turnOver n first last drew latest turn looked same seated lacks ends =>
    have before := h.toIntegrity.of_eq first rfl rfl rfl rfl
    have begun := List.mem_filter.1 (List.mem_of_getLast? latest)
    have own : line.id ∉ l.awards.map (·.messageId) := drew ▸ before.fresh_not_mem_awards
    have written := before.addLine drew
    have awarded := written.addAward (List.mem_append_right _ (List.mem_singleton_self line)) own
      begun.1 turn.symm (by simpa using begun.2) looked same lacks points
    exact h.of_eq le (awarded.of_eq last rfl rfl rfl rfl) rfl rfl rfl rfl

end Orderly

end Ledger

end GuessingRoom
