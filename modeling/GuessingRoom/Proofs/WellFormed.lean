import GuessingRoom.Proofs.Orderly

/-!
# Well-formed ledgers

In a well-formed ledger every game has begun and has a player, and whatever a row names is there and
belongs to the same game. No tables in memory look after this. It is kept by what the entries of the
game add (`WellFormed.open_`, `WellFormed.addSeat`, …), each of which asks for what the new row names.
-/

namespace GuessingRoom

namespace Ledger

/-! ## What a row may name -/

def HasWord (l : Ledger) (word : Id) : Prop := ∃ w ∈ l.words, w.id = word

/-- The user has a seat in the game, be it taken or given up. -/
def HasSeat (l : Ledger) (game user : Id) : Prop :=
  ∃ seat ∈ l.seats, seat.gameId = game ∧ seat.userId = user

def HasTurn (l : Ledger) (game turn : Id) : Prop := ∃ r ∈ l.rounds, r.id = turn ∧ r.gameId = game

def HasLine (l : Ledger) (game message : Id) : Prop :=
  ∃ line ∈ l.lines, line.id = message ∧ line.gameId = game

structure WellFormed (l : Ledger) : Prop where
  begun : ∀ g ∈ l.games, ∃ turn, l.HasTurn g turn
  peopled : ∀ g ∈ l.games, ∃ user, l.HasSeat g user
  rounds : ∀ r ∈ l.rounds, r.gameId ∈ l.games ∧ l.HasWord r.wordId
  one_seat : (l.seats.map fun seat => (seat.gameId, seat.userId)).Nodup
  seats : ∀ seat ∈ l.seats, seat.gameId ∈ l.games ∧ seat.userId ∈ l.users
  lines : ∀ line ∈ l.lines, l.HasTurn line.gameId line.turnId ∧ l.HasSeat line.gameId line.playerId
  awards : ∀ a ∈ l.awards, l.HasTurn a.gameId a.turnId ∧ l.HasLine a.gameId a.messageId ∧
    l.HasSeat a.gameId a.playerId

/-- Of users, games and seats nothing is taken away. -/
structure Within (l l' : Ledger) : Prop where
  users : ∀ u ∈ l.users, u ∈ l'.users
  games : ∀ g ∈ l.games, g ∈ l'.games
  seats : ∀ game user, l.HasSeat game user → l'.HasSeat game user

variable {l l' l'' : Ledger} {game user turn message : Id}

namespace Within

theorem refl (l : Ledger) : l.Within l := ⟨fun _ => id, fun _ => id, fun _ _ => id⟩

theorem trans (h : l.Within l') (h' : l'.Within l'') : l.Within l'' :=
  ⟨fun u hu => h'.users u (h.users u hu), fun g hg => h'.games g (h.games g hg),
    fun game user hs => h'.seats game user (h.seats game user hs)⟩

end Within

theorem HasSeat.append (h : l.HasSeat game user) (seats : List Seat) :
    HasSeat { l with seats := l.seats ++ seats } game user := by
  obtain ⟨seat, mem, named⟩ := h
  exact ⟨seat, List.mem_append_left _ mem, named⟩

theorem HasTurn.append (h : l.HasTurn game turn) (rounds : List Round) :
    HasTurn { l with rounds := l.rounds ++ rounds } game turn := by
  obtain ⟨r, mem, named⟩ := h
  exact ⟨r, List.mem_append_left _ mem, named⟩

theorem HasLine.append (h : l.HasLine game message) (lines : List Line) :
    HasLine { l with lines := l.lines ++ lines } game message := by
  obtain ⟨line, mem, named⟩ := h
  exact ⟨line, List.mem_append_left _ mem, named⟩

theorem hasSeat_iff :
    l.HasSeat game user ↔ (game, user) ∈ l.seats.map fun seat => (seat.gameId, seat.userId) := by
  simp [HasSeat]

/-- A seat stays the same user's in the same game, whether it is given up or taken again. -/
theorem hasSeat_map_withTaken {g u : Id} {taken : Bool} :
    HasSeat { l with seats := l.seats.map (Seat.withTaken game user taken) } g u ↔ l.HasSeat g u := by
  rw [hasSeat_iff, hasSeat_iff, Orderly.map_withTaken]

/-! ## What keeps ledgers well-formed -/

namespace WellFormed

variable (h : l.WellFormed)
include h

theorem addUsers {users : List Id} (kept : ∀ u ∈ l.users, u ∈ users) :
    WellFormed { l with users } :=
  { h with seats := fun seat hs => ⟨(h.seats seat hs).1, kept _ (h.seats seat hs).2⟩ }

theorem one_seat_append (free : ¬ l.HasSeat game user) :
    ((l.seats ++ [(⟨game, user, true⟩ : Seat)]).map fun s => (s.gameId, s.userId)).Nodup := by
  rw [← List.concat_eq_append, List.map_concat, List.nodup_concat]
  exact ⟨mt hasSeat_iff.2 free, h.one_seat⟩

theorem addSeat (there : game ∈ l.games) (known : user ∈ l.users) (free : ¬ l.HasSeat game user) :
    WellFormed { l with seats := l.seats ++ [⟨game, user, true⟩] } where
  begun := h.begun
  peopled g hg := (h.peopled g hg).imp fun _ named => named.append _
  rounds := h.rounds
  one_seat := h.one_seat_append free
  seats seat hs := by
    rcases List.mem_append.1 hs with old | new
    · exact h.seats seat old
    · rw [List.mem_singleton.1 new]
      exact ⟨there, known⟩
  lines line hl := ⟨(h.lines line hl).1, (h.lines line hl).2.append _⟩
  awards a ha := ⟨(h.awards a ha).1, (h.awards a ha).2.1, (h.awards a ha).2.2.append _⟩

theorem setSeat (game user : Id) (taken : Bool) :
    WellFormed { l with seats := l.seats.map (Seat.withTaken game user taken) } where
  begun := h.begun
  peopled g hg := (h.peopled g hg).imp fun _ => hasSeat_map_withTaken.2
  rounds := h.rounds
  one_seat := by
    rw [Orderly.map_withTaken]
    exact h.one_seat
  seats seat hs := by
    obtain ⟨old, mem, sameGame, sameUser⟩ := hasSeat_map_withTaken.1 ⟨seat, hs, rfl, rfl⟩
    rw [← sameGame, ← sameUser]
    exact h.seats old mem
  lines line hl := ⟨(h.lines line hl).1, hasSeat_map_withTaken.2 (h.lines line hl).2⟩
  awards a ha :=
    ⟨(h.awards a ha).1, (h.awards a ha).2.1, hasSeat_map_withTaken.2 (h.awards a ha).2.2⟩

theorem addRound {word : Id} (there : game ∈ l.games) (listed : l.HasWord word) :
    WellFormed { l with rounds := l.rounds ++ [⟨turn, game, word⟩] } where
  begun g hg := (h.begun g hg).imp fun _ named => named.append _
  peopled := h.peopled
  rounds r hr := by
    rcases List.mem_append.1 hr with old | new
    · exact h.rounds r old
    · rw [List.mem_singleton.1 new]
      exact ⟨there, listed⟩
  one_seat := h.one_seat
  seats := h.seats
  lines line hl := ⟨(h.lines line hl).1.append _, (h.lines line hl).2⟩
  awards a ha := ⟨(h.awards a ha).1.append _, (h.awards a ha).2⟩

theorem addLine {line : Line} (begun : l.HasTurn line.gameId line.turnId)
    (seated : l.HasSeat line.gameId line.playerId) :
    WellFormed { l with lines := l.lines ++ [line] } where
  begun := h.begun
  peopled := h.peopled
  rounds := h.rounds
  one_seat := h.one_seat
  seats := h.seats
  lines line' hl := by
    rcases List.mem_append.1 hl with old | new
    · exact h.lines line' old
    · rw [List.mem_singleton.1 new]
      exact ⟨begun, seated⟩
  awards a ha := ⟨(h.awards a ha).1, (h.awards a ha).2.1.append _, (h.awards a ha).2.2⟩

theorem addAward {award : Award} (begun : l.HasTurn award.gameId award.turnId)
    (said : l.HasLine award.gameId award.messageId) (seated : l.HasSeat award.gameId award.playerId) :
    WellFormed { l with awards := l.awards ++ [award] } where
  begun := h.begun
  peopled := h.peopled
  rounds := h.rounds
  one_seat := h.one_seat
  seats := h.seats
  lines := h.lines
  awards a ha := by
    rcases List.mem_append.1 ha with old | new
    · exact h.awards a old
    · rw [List.mem_singleton.1 new]
      exact ⟨begun, said, seated⟩

/-- A game is opened together with its first seat and its first turn. -/
theorem open_ {word : Id} (known : user ∈ l.users) (listed : l.HasWord word) (fresh : game ∉ l.games) :
    WellFormed { l with
      games := l.games ++ [game]
      seats := l.seats ++ [⟨game, user, true⟩]
      rounds := l.rounds ++ [⟨turn, game, word⟩] } where
  begun g hg := by
    rcases List.mem_append.1 hg with old | new
    · exact (h.begun g old).imp fun _ named => named.append _
    · rw [List.mem_singleton.1 new]
      exact ⟨turn, _, List.mem_append_right _ (List.mem_singleton_self _), rfl, rfl⟩
  peopled g hg := by
    rcases List.mem_append.1 hg with old | new
    · exact (h.peopled g old).imp fun _ named => named.append _
    · rw [List.mem_singleton.1 new]
      exact ⟨user, _, List.mem_append_right _ (List.mem_singleton_self _), rfl, rfl⟩
  rounds r hr := by
    rcases List.mem_append.1 hr with old | new
    · exact ⟨List.mem_append_left _ (h.rounds r old).1, (h.rounds r old).2⟩
    · rw [List.mem_singleton.1 new]
      exact ⟨List.mem_append_right _ (List.mem_singleton_self _), listed⟩
  one_seat := by
    refine h.one_seat_append ?_
    rintro ⟨seat, hs, rfl, -⟩
    exact fresh (h.seats seat hs).1
  seats seat hs := by
    rcases List.mem_append.1 hs with old | new
    · exact ⟨List.mem_append_left _ (h.seats seat old).1, (h.seats seat old).2⟩
    · rw [List.mem_singleton.1 new]
      exact ⟨List.mem_append_right _ (List.mem_singleton_self _), known⟩
  lines line hl := ⟨(h.lines line hl).1.append _, (h.lines line hl).2.append _⟩
  awards a ha := ⟨(h.awards a ha).1.append _, (h.awards a ha).2.1, (h.awards a ha).2.2.append _⟩

/-- The verdict on a guess for a turn of the game, by a user with a seat in it. -/
theorem judged {basePoints : Int} {word : Word} {active : List Player} {line : Line}
    {verdict : Verdict} (begun : l.HasTurn line.gameId line.turnId)
    (seated : l.HasSeat line.gameId line.playerId)
    (judged : Judged basePoints word active line l verdict l') : l'.WellFormed := by
  have written := h.addLine begun seated
  cases judged with
  | miss other => exact written
  | again same found => exact written
  | scored points turnOver same lacks worth ends =>
    exact written.addAward begun
      ⟨line, List.mem_append_right _ (List.mem_singleton_self line), rfl, rfl⟩ seated

end WellFormed

theorem WellFormed.empty {words : List Word} : WellFormed ⟨words, [], [], [], [], [], []⟩ where
  begun := by simp
  peopled := by simp
  rounds := by simp
  one_seat := .nil
  seats := by simp
  lines := by simp
  awards := by simp

end Ledger

end GuessingRoom
