import Mathlib.Data.List.Perm.Subperm
import GuessingRoom.Proofs.HealthyStores
import GuessingRoom.Proofs.Rooms
import GuessingRoom.Proofs.WellFormed

/-!
# Seats in order

The seats of a store are in order if their rows can be read, each is the only one of a known user in
a game that was opened, and games go by identifiers that were drawn. Every entry of the game keeps
them in order and takes no row away (`Books.KeepsSeating`). Then nothing but the seats themselves
decides how it ends to take one (`Entry.takeSeat_turnsOut`), and the store has no part in it.
-/

namespace GuessingRoom

/-! ## Seats of a ledger -/

namespace Ledger

/-- Each seat is a known user's, in a game that was opened, and the only one of that user there. -/
structure Settled (l : Ledger) : Prop where
  known : ∀ seat ∈ l.seats, seat.gameId ∈ l.games ∧ seat.userId ∈ l.users
  one_seat : (l.seats.map fun seat => (seat.gameId, seat.userId)).Nodup

namespace Settled

variable {l l' : Ledger} {game user : Id}

theorem of_within (h : l.Settled) (within : l.Within l') (seats : l'.seats = l.seats) :
    l'.Settled where
  known seat hs := by
    rw [seats] at hs
    exact ⟨within.games _ (h.known seat hs).1, within.users _ (h.known seat hs).2⟩
  one_seat := seats ▸ h.one_seat

theorem addSeat (h : l.Settled) (there : game ∈ l.games) (known : user ∈ l.users)
    (free : ∀ seat ∈ l.seats, seat.gameId = game → seat.userId ≠ user) :
    Settled { l with seats := l.seats ++ [⟨game, user, true⟩] } where
  known seat hs := by
    rcases List.mem_append.1 hs with old | new
    · exact h.known seat old
    · rw [List.mem_singleton.1 new]
      exact ⟨there, known⟩
  one_seat := by
    rw [← List.concat_eq_append, List.map_concat, List.nodup_concat]
    refine ⟨fun mem => ?_, h.one_seat⟩
    obtain ⟨seat, hs, here, its⟩ := hasSeat_iff.2 mem
    exact free seat hs here its

theorem setSeat (h : l.Settled) (game user : Id) (taken : Bool) :
    Settled { l with seats := l.seats.map (Seat.withTaken game user taken) } where
  known seat hs := by
    obtain ⟨old, mem, sameGame, sameUser⟩ := hasSeat_map_withTaken.1 ⟨seat, hs, rfl, rfl⟩
    rw [← sameGame, ← sameUser]
    exact h.known old mem
  one_seat := by
    rw [Orderly.map_withTaken]
    exact h.one_seat

end Settled

end Ledger

/-! ## Books whose seats are in order -/

namespace Books

open Entry

structure Seating (b : Books) : Prop where
  holds : ∃ t, b.store.Holds b.supply b.drawn t
  settled : b.ledger.Settled
  games_drawn : ∀ g ∈ b.ledger.games, ∃ n < b.drawn, g = b.supply.id n

/-- Between the first books and the second ones users, games and rows of seats were at most added,
and seats in order have stayed so. -/
structure KeepsSeating (b b' : Books) : Prop where
  supply : b'.supply = b.supply
  drawn : b.drawn ≤ b'.drawn
  within : b.ledger.Within b'.ledger
  seating : b.Seating → b'.Seating

namespace Seating

variable {b : Books}

theorem legible (h : b.Seating) : b.store.Legible := by
  obtain ⟨t, holds⟩ := h.holds
  exact holds.legible fun seat hs => (h.settled.known seat hs).2

/-- The next game to be opened has no seats yet. -/
theorem seated_fresh (h : b.Seating) (injective : Function.Injective b.supply.id) {n : Nat}
    (fresh : b.drawn ≤ n) : b.ledger.seated (b.supply.id n) = [] := by
  apply List.eq_nil_iff_forall_not_mem.2
  intro user mem
  obtain ⟨k, lt, e⟩ := h.games_drawn _ (h.settled.known _ (Ledger.mem_seated.1 mem)).1
  exact (lt.trans_le fresh).ne (injective e.symm)

/-- A blank store has no seats. -/
theorem of_isBlank (blank : b.store.IsBlank) : b.Seating := by
  have none : b.ledger = ⟨_, [], [], [], [], [], []⟩ := blank.ledger
  refine ⟨⟨{}, .of_isBlank blank⟩, ⟨?_, ?_⟩, ?_⟩ <;> rw [none]
  · simp
  · exact .nil
  · simp

end Seating

namespace KeepsSeating

variable {b b' : Books}

theorem isCourse : IsCourse KeepsSeating where
  refl b := ⟨rfl, le_rfl, .refl _, id⟩
  trans h h' := ⟨h'.supply.trans h.supply, h.drawn.trans h'.drawn, h.within.trans h'.within,
    h'.seating ∘ h.seating⟩
  draw b := by
    refine ⟨rfl, Nat.le_succ _, .refl _, fun h => ⟨?_, h.settled, fun g hg => ?_⟩⟩
    · exact h.holds.imp fun _ holds => holds.later (Nat.le_succ _)
    · exact (h.games_drawn g hg).imp fun _ drew => ⟨drew.1.trans (Nat.lt_succ_self _), drew.2⟩
  commit b after h := by
    refine ⟨h.supply, h.drawn, ?_, fun seating => ?_⟩
    · rw [ledger_committed]
      exact h.within
    · obtain ⟨⟨t, holds⟩, settled, games⟩ := h.seating seating
      refine ⟨⟨t, holds.of_rows (WorkUnit.rows_commit _)⟩, ?_, ?_⟩ <;> rw [ledger_committed]
      exacts [settled, games]
  abandon b after h := by
    refine ⟨h.supply, h.drawn, ?_, fun seating => ?_⟩
    · rw [ledger_abandoned]
      exact .refl _
    · obtain ⟨⟨t, holds⟩, settled, games⟩ := seating
      have later := (holds.later h.drawn).of_rows (WorkUnit.rows_abandon ⟨b.store, after.store⟩)
      rw [← h.supply] at later
      refine ⟨⟨t, later⟩, ?_, ?_⟩ <;> rw [ledger_abandoned]
      · exact settled
      · intro g hg
        obtain ⟨n, lt, e⟩ := games g hg
        exact ⟨n, lt.trans_le h.drawn, h.supply ▸ e⟩

/-- A write with a stamp, by what it does to the ledger. -/
theorem of_write {w : Write} {made : Made} {store : Store}
    (put : w.make (b.supply.stamp b.drawn) b.store = .ok (made, store))
    (within : b.ledger.Within store.ledger)
    (settled : b.ledger.Settled → store.ledger.Settled)
    (games : ∀ g ∈ store.ledger.games, g ∈ b.ledger.games ∨ g = b.freshId) :
    b.KeepsSeating { b with store, drawn := b.drawn + 1 } where
  supply := rfl
  drawn := Nat.le_succ _
  within := within
  seating := by
    rintro ⟨⟨t, holds⟩, old, drew⟩
    refine ⟨?_, settled old, fun g hg => ?_⟩
    · exact (Write.make_holds holds put).imp fun _ kept => kept.1
    · rcases games g hg with known | rfl
      · exact (drew g known).imp fun _ drew => ⟨drew.1.trans (Nat.lt_succ_self _), drew.2⟩
      · exact ⟨b.drawn, Nat.lt_succ_self _, rfl⟩

/-- A write that has nothing to do with games and seats. -/
theorem of_other_write {w : Write} {made : Made} {store : Store}
    (put : w.make (b.supply.stamp b.drawn) b.store = .ok (made, store))
    (users : ∀ u ∈ b.ledger.users, u ∈ store.ledger.users)
    (games : store.ledger.games = b.ledger.games) (seats : store.ledger.seats = b.ledger.seats) :
    b.KeepsSeating { b with store, drawn := b.drawn + 1 } := by
  have within : b.ledger.Within store.ledger := by
    refine ⟨users, fun g hg => games ▸ hg, fun game user hs => ?_⟩
    rw [Ledger.hasSeat_iff] at hs ⊢
    exact seats ▸ hs
  exact of_write put within (fun h => h.of_within within seats) fun g hg => .inl (games ▸ hg)

theorem carries : Carries KeepsSeating where
  toIsCourse := isCourse
  upsertUser id nickname := by
    apply along_stamped isCourse
    intro b u b' h
    obtain ⟨_, e, users, -, kept, ledger⟩ := upsertUser_yields h
    obtain ⟨rfl, put⟩ := upsertUser_makes h
    obtain rfl := congrArg Books.store e
    refine of_other_write put ?_ ?_ ?_ <;> rw [ledger]
    exact kept
  createGame := by
    apply along_stamped isCourse
    intro b game b' h
    obtain ⟨-, store, rfl, e⟩ := createGame_yields h
    have within : b.ledger.Within store.ledger := by
      rw [e]
      exact ⟨fun _ => id, fun g hg => List.mem_append_left _ hg, fun _ _ => id⟩
    refine of_write (createGame_makes h) within (fun s => s.of_within within ?_) fun g hg => ?_
    · rw [e]
    · rw [e] at hg
      exact (List.mem_append.1 hg).imp id List.mem_singleton.1
  addPlayer game user := by
    apply along_stamped isCourse
    intro b u b' h
    obtain ⟨free, store, rfl, e⟩ := addPlayer_yields h
    have made := addPlayer_makes h
    obtain ⟨_, put, same⟩ := map_eq_ok_iff.1 made
    cases same
    obtain ⟨-, known, there, -⟩ := Store.ledger_addPlayer put
    refine of_write made ?_ ?_ ?_ <;> rw [e]
    · exact ⟨fun _ => id, fun _ => id, fun _ _ hs => hs.append _⟩
    · exact fun s => s.addSeat there known free
    · exact fun g hg => .inl hg
  setState game user state := by
    apply along_write isCourse
    intro b u b' h
    obtain ⟨store, rfl, e⟩ := setState_yields h
    obtain ⟨set, -⟩ := setState_makes h
    refine ⟨rfl, le_rfl, ?_, ?_⟩
    · show b.ledger.Within store.ledger
      rw [e]
      exact ⟨fun _ => id, fun _ => id, fun _ _ => Ledger.hasSeat_map_withTaken.2⟩
    · rintro ⟨⟨t, holds⟩, settled, games⟩
      refine ⟨(holds.setState set).imp fun _ kept => kept.2, ?_, ?_⟩
      · show store.ledger.Settled
        rw [e]
        exact settled.setSeat game user _
      · show ∀ g ∈ store.ledger.games, _
        rw [e]
        exact games
  addTurn game word := by
    apply along_stamped isCourse
    intro b turn b' h
    obtain ⟨-, store, rfl, e⟩ := addTurn_yields h
    refine of_other_write (addTurn_makes h) ?_ ?_ ?_ <;> rw [e]
    exact fun _ => id
  addMessage game turn player content := by
    apply along_stamped isCourse
    intro b message b' h
    obtain ⟨-, store, rfl, e⟩ := addMessage_yields h
    refine of_other_write (addMessage_makes h) ?_ ?_ ?_ <;> rw [e]
    exact fun _ => id

theorem along_addScore (award : Award) : (addScore award).Along KeepsSeating := by
  apply along_stamped isCourse
  intro b u b' h
  obtain ⟨store, rfl, e⟩ := addScore_yields h
  refine of_other_write (addScore_makes h) ?_ ?_ ?_ <;> rw [e]
  exact fun _ => id

end KeepsSeating

end Books

/-! ## Taking a seat -/

/-- How it turns out for a user to take a seat, with the error if there is one, and what becomes of
the ledger. -/
inductive TurnsOut (capacity : Nat) (game user : Id) (l : Ledger) :
    Except GameError Unit → Ledger → Prop where
  | seated (is : user ∈ l.seated game) : TurnsOut capacity game user l (.error .alreadyJoined) l
  | full (away : user ∉ l.seated game) (full : capacity ≤ (l.seated game).length) :
      TurnsOut capacity game user l (.error .roomFull) l
  | returns (was : ⟨game, user, false⟩ ∈ l.seats) (away : user ∉ l.seated game)
      (room : (l.seated game).length < capacity) :
      TurnsOut capacity game user l (.ok ())
        { l with seats := l.seats.map (Seat.withTaken game user true) }
  | enters (free : ¬ l.HasSeat game user) (room : (l.seated game).length < capacity) :
      TurnsOut capacity game user l (.ok ()) { l with seats := l.seats ++ [⟨game, user, true⟩] }

namespace TurnsOut

variable {capacity : Nat} {game user : Id} {l l' : Ledger} {r : Except GameError Unit}

theorem not_mem_seated (free : ¬ l.HasSeat game user) : user ∉ l.seated game :=
  fun mem => free ⟨_, Ledger.mem_seated.1 mem, rfl, rfl⟩

theorem eq_ok_iff (h : TurnsOut capacity game user l r l') :
    r = .ok () ↔ user ∉ l.seated game ∧ (l.seated game).length < capacity := by
  cases h with
  | seated is => simp [is]
  | full away full => simpa using fun _ => full
  | returns _ away room => exact iff_of_true rfl ⟨away, room⟩
  | enters free room => exact iff_of_true rfl ⟨not_mem_seated free, room⟩

theorem eq_alreadyJoined_iff (h : TurnsOut capacity game user l r l') :
    r = .error .alreadyJoined ↔ user ∈ l.seated game := by
  cases h with
  | seated is => simpa using is
  | full away => simpa using away
  | returns _ away => simpa using away
  | enters free => simpa using not_mem_seated free

theorem eq_roomFull_iff (h : TurnsOut capacity game user l r l') :
    r = .error .roomFull ↔ user ∉ l.seated game ∧ capacity ≤ (l.seated game).length := by
  cases h with
  | seated is => simp [is]
  | full away full => simpa using ⟨away, full⟩
  | returns _ _ room => simpa using fun _ => room
  | enters _ room => simpa using fun _ => room

/-- A user who has a row of old gets the same one again, and nobody else's is touched. -/
theorem seats_eq (h : TurnsOut capacity game user l r l') : l'.seats =
    if r = .ok () then
      if (game, user) ∈ l.seats.map fun seat => (seat.gameId, seat.userId) then
        l.seats.map (Seat.withTaken game user true)
      else l.seats ++ [⟨game, user, true⟩]
    else l.seats := by
  cases h with
  | seated | full => rw [if_neg (by simp)]
  | returns was =>
    rw [if_pos rfl, if_pos (Ledger.hasSeat_iff.1 ⟨_, was, rfl, rfl⟩)]
  | enters free => rw [if_pos rfl, if_neg (mt Ledger.hasSeat_iff.2 free)]

end TurnsOut

namespace Entry

variable {b : Books} {game : Id} {user : User}

variable (user) in
/-- Whether a player is active who is found among those that are read. -/
theorem active_iff_mem_seated (seating : b.Seating) {players : List Player}
    (read : b.store.players game = .ok players) :
    ((players.find? (·.id == user.id)).any Player.isActive) = true ↔
      user.id ∈ b.ledger.seated game := by
  rw [Ledger.mem_seated]
  cases found : players.find? (·.id == user.id) with
  | none =>
    refine iff_of_false Bool.false_ne_true fun mem => ?_
    exact seating.legible.no_seat read found _ mem rfl rfl
  | some p =>
    have shown := seating.legible.mem_seats read found
    constructor
    · intro active
      rw [show p.isActive = true from active] at shown
      exact shown
    · intro mem
      exact Ledger.seat_eq seating.settled.one_seat shown mem

/-- How many of the players that are read are active. -/
theorem length_active (seating : b.Seating) {players : List Player}
    (read : b.store.players game = .ok players) :
    (players.filter Player.isActive).length = (b.ledger.seated game).length := by
  obtain ⟨active, read', shown⟩ := seating.legible.activePlayers game
  rw [Store.activePlayers, read] at read'
  obtain rfl := Except.ok.inj read'
  have count := shown.length_eq
  rwa [List.length_map] at count

variable (user) in
/-- Once the players have been read, what is left of taking a seat is one write or an error. -/
theorem takeSeat_apply (settings : RoomSettings) {players : List Player}
    (read : b.store.players game = .ok players) :
    Operation.takeSeat settings game user b =
      if (players.find? (·.id == user.id)).any Player.isActive then (.error .alreadyJoined, b)
      else if settings.capacity ≤ (players.filter Player.isActive).length then (.error .roomFull, b)
      else if (players.find? (·.id == user.id)).isSome then put (·.setState game user.id .active) b
      else addPlayer game user.id b := by
  have looked : look (·.players game) b = (.ok players, b) := yields_look.2 ⟨read, rfl⟩
  rw [Operation.takeSeat, bind_apply, looked]
  dsimp only
  split
  · rfl
  · split
    · rfl
    · cases players.find? (·.id == user.id) <;> rfl

/-- A user who is known takes a seat in a game that is there, or is told why not. -/
theorem takeSeat_turnsOut (seating : b.Seating) (settings : RoomSettings)
    (known : user.id ∈ b.ledger.users) (there : game ∈ b.ledger.games) :
    TurnsOut settings.capacity game user.id b.ledger
      (inUnit (Operation.takeSeat settings game user) b).1
      (inUnit (Operation.takeSeat settings game user) b).2.ledger := by
  obtain ⟨players, read, -⟩ := seating.legible.players game
  have applied := takeSeat_apply user settings read
  have active := active_iff_mem_seated user seating read
  rw [length_active seating read] at applied
  by_cases is : user.id ∈ b.ledger.seated game
  · rw [if_pos (active.2 is)] at applied
    have unit := fails_inUnit.2 ⟨b, applied, rfl⟩
    rw [unit, ledger_abandoned]
    exact .seated is
  rw [if_neg (mt active.1 is)] at applied
  by_cases full : settings.capacity ≤ (b.ledger.seated game).length
  · rw [if_pos full] at applied
    have unit := fails_inUnit.2 ⟨b, applied, rfl⟩
    rw [unit, ledger_abandoned]
    exact .full is full
  rw [if_neg full] at applied
  cases found : players.find? (·.id == user.id) with
  | some p =>
    have was : ⟨game, user.id, false⟩ ∈ b.ledger.seats := by
      have away := mt active.1 is
      rw [found] at away
      have shown := seating.legible.mem_seats read found
      rwa [show p.isActive = false by simpa using away] at shown
    obtain ⟨store, set⟩ :=
      Store.Healthy.exists_setState (s := b.store) .active ⟨_, was, rfl, rfl⟩
    have taken : (put (·.setState game user.id .active)).Yields b () { b with store } :=
      yields_put.2 ⟨store, set, rfl⟩
    rw [found, if_pos Option.isSome_some, taken] at applied
    have unit := yields_inUnit.2 ⟨_, applied, rfl⟩
    have e : store.ledger = _ := Store.ledger_setState set
    rw [unit, ledger_committed]
    show TurnsOut _ _ _ _ _ store.ledger
    rw [e]
    exact .returns was is (not_le.1 full)
  | none =>
    have free : ¬ b.ledger.HasSeat game user.id := by
      rintro ⟨seat, mem, here, its⟩
      exact seating.legible.no_seat read found seat mem here its
    obtain ⟨t, holds⟩ := seating.holds
    obtain ⟨store, add⟩ := holds.exists_addPlayer b.drawn known there free
    have taken : (addPlayer game user.id).Yields b () { b with store, drawn := b.drawn + 1 } :=
      yields_bind.2 ⟨_, _, yields_stamp.2 ⟨rfl, rfl⟩, yields_put.2 ⟨store, add, rfl⟩⟩
    rw [found, if_neg (by simp), taken] at applied
    have unit := yields_inUnit.2 ⟨_, applied, rfl⟩
    have e : store.ledger = _ := (Store.ledger_addPlayer add).2.2.2
    rw [unit, ledger_committed]
    show TurnsOut _ _ _ _ _ store.ledger
    rw [e]
    exact .enters free (not_le.1 full)

end Entry

end GuessingRoom
