import GuessingRoom.Proofs.Awards
import GuessingRoom.Proofs.ViewsAgree

/-!
# Totals and places

In a game players are only ever added, behind all others, and so are awards. Whoever is kicked and
joins again is back at the old place and has the old total (`totals_and_places_survive`). Every
entry of the game keeps the places that were taken (`Books.KeepsPlaces`), the players that are read
of a game are those of its places in their order (`Books.Seating.exists_board`), and of all moves
only the step of a guess changes a total (`Service.Gains`).
-/

namespace GuessingRoom

open Time (Instant)

/-! ## What is shown of seats in order -/

namespace MemoryTables

variable {t : MemoryTables}

/-- The tables with all players under the present nicknames of their users. -/
def renamed (t : MemoryTables) : MemoryTables :=
  { t with memberships := t.memberships.map fun m =>
      { m with player := { m.player with
        nickname := ((t.findUser m.player.id).map (·.nickname)).getD m.player.nickname } } }

theorem named_renamed (known : ∀ m ∈ t.memberships, (t.findUser m.player.id).isSome = true) :
    t.renamed.Named := by
  intro m mem
  obtain ⟨old, there, rfl⟩ := List.mem_map.1 mem
  obtain ⟨u, found⟩ := Option.isSome_iff_exists.1 (known old there)
  refine ⟨u, found, ?_⟩
  simp only [found]
  rfl

/-- Rows do not tell the nicknames of players. -/
theorem inRows_renamed (words : List Word) : t.renamed.inRows words = t.inRows words := by
  simp only [inRows, renamed, List.map_map]
  rfl

theorem Chronicled.renamed {supply : Supply} {drawn : Nat} (h : t.Chronicled supply drawn) :
    t.renamed.Chronicled supply drawn := by
  refine { h with memberships := ?_ }
  simp only [MemoryTables.renamed, List.map_map]
  exact h.memberships

end MemoryTables

namespace Store

variable {supply : Supply} {drawn : Nat} {t : MemoryTables} {s : Store}

/-- A store in which seats belong to users shows the models that it holds, if in tables the clock
does not go back. -/
theorem Holds.exists_shows (h : s.Holds supply drawn t)
    (known : ∀ seat ∈ s.ledger.seats, seat.userId ∈ s.ledger.users)
    (clock : (∃ r, s = .relational r) → supply.RunsOn) :
    ∃ t', s.Holds supply drawn t' ∧ s.Shows t' := by
  have found : ∀ m ∈ t.memberships, (t.findUser m.player.id).isSome = true := by
    intro m mem
    have listed := known m.seat (h.seats ▸ List.mem_map_of_mem mem)
    rw [h.users] at listed
    exact MemoryTables.isSome_findUser_iff.2 listed
  cases s with
  | memory m =>
    obtain rfl := h
    exact ⟨m.tables, rfl, fun _ => rfl, fun _ => rfl, fun _ => rfl, fun _ => rfl, fun _ => rfl,
      fun _ => rfl⟩
  | relational r =>
    obtain ⟨⟨words, rfl⟩, chronicled⟩ := h
    have holds : (relational (t.inRows words)).Holds supply drawn t.renamed :=
      ⟨⟨words, (t.inRows_renamed words).symm⟩, chronicled.renamed⟩
    exact ⟨t.renamed, holds, holds.shows (MemoryTables.named_renamed found) fun r e => clock ⟨r, e⟩⟩

end Store

/-! ## Places and totals -/

namespace Ledger

variable {l l' : Ledger} {game user : Id}

/-- Who has a place in which game, be it taken or given up, in the order in which places were first
taken. -/
def places (l : Ledger) : List (Id × Id) := l.seats.map fun seat => (seat.gameId, seat.userId)

/-- The users who have a place in the game. -/
def order (l : Ledger) (game : Id) : List Id := (l.places.filter (·.1 == game)).map Prod.snd

/-- All points that were ever awarded to the user in the game. -/
def total (l : Ledger) (game user : Id) : Int :=
  ((l.awards.filter fun a => a.gameId == game && a.playerId == user).map (·.points)).sum

theorem Settled.order_nodup (h : l.Settled) (game : Id) : (l.order game).Nodup := by
  have once : l.places.Nodup := h.one_seat
  refine List.Nodup.map_on ?_ (once.filter _)
  rintro ⟨g, u⟩ mem ⟨g', u'⟩ mem' rfl
  obtain rfl : g = game := by simpa using (List.mem_filter.1 mem).2
  obtain rfl : g' = g := by simpa using (List.mem_filter.1 mem').2
  rfl

theorem order_prefix (h : l.places <+: l'.places) (game : Id) : l.order game <+: l'.order game :=
  (h.filter _).map _

theorem total_append {gained : List Award} (awards : l'.awards = l.awards ++ gained) :
    l'.total game user = l.total game user +
      ((gained.filter fun a => a.gameId == game && a.playerId == user).map (·.points)).sum := by
  unfold total
  rw [awards, List.filter_append, List.map_append, List.sum_append]

end Ledger

/-- What is told of a player by the scores of a game is what the player was awarded there. -/
theorem Board.totalScore_eq_total {l : Ledger} {game : Id} {scores : List Score}
    (perm : (scores.map (·.toAward)).Perm (l.awards.filter (·.gameId == game))) (user : Id) :
    totalScore scores user = l.total game user := by
  have own : ((scores.filter (·.playerId == user)).map (·.toAward)).Perm
      (l.awards.filter fun a => a.gameId == game && a.playerId == user) := by
    have chosen := perm.filter (·.playerId == user)
    rw [List.filter_map, List.filter_filter] at chosen
    simp only [Bool.and_comm] at chosen
    exact chosen
  rw [totalScore_eq_sum]
  have sums := (own.map (·.points)).sum_eq
  rwa [List.map_map] at sums

/-- The players of a game stand in the order of their places. -/
theorem MemoryTables.order_players {t : MemoryTables} {l : Ledger}
    (seats : l.seats = t.memberships.map Membership.seat) (game : Id) :
    (t.players game).map (·.id) = l.order game := by
  simp only [Ledger.order, Ledger.places, players, seats, List.filter_map, List.map_map]
  rfl

/-! ## What keeps places -/

namespace Books

open Entry

/-- Between the first books and the second ones places were at most added, behind all others. Tables
in memory have stayed in memory. -/
structure KeepsPlaces (b b' : Books) : Prop where
  relational : (∃ r, b'.store = .relational r) → ∃ r, b.store = .relational r
  places : b.ledger.places <+: b'.ledger.places

namespace KeepsPlaces

variable {b b' : Books}

theorem isCourse : IsCourse KeepsPlaces where
  refl b := ⟨id, List.prefix_refl _⟩
  trans h h' := ⟨h.relational ∘ h'.relational, h.places.trans h'.places⟩
  draw b := ⟨id, List.prefix_refl _⟩
  commit b after h := by
    refine ⟨h.relational ∘ relational_of_committed, ?_⟩
    rw [ledger_committed]
    exact h.places
  abandon b after h := by
    refine ⟨relational_of_abandoned, ?_⟩
    rw [ledger_abandoned]

/-- A write with a stamp, by what it does to the seats. -/
theorem of_write {w : Write} {made : Made} {store : Store} {seats : List Seat}
    (put : w.make (b.supply.stamp b.drawn) b.store = .ok (made, store))
    (added : store.ledger.seats = b.ledger.seats ++ seats) :
    b.KeepsPlaces { b with store, drawn := b.drawn + 1 } where
  relational := Write.relational_of_make put
  places := by
    show b.ledger.places <+: store.ledger.places
    unfold Ledger.places
    rw [added, List.map_append]
    exact List.prefix_append _ _

/-- A write that has nothing to do with seats. -/
theorem of_other_write {w : Write} {made : Made} {store : Store}
    (put : w.make (b.supply.stamp b.drawn) b.store = .ok (made, store))
    (seats : store.ledger.seats = b.ledger.seats) :
    b.KeepsPlaces { b with store, drawn := b.drawn + 1 } :=
  of_write put (seats.trans (List.append_nil _).symm)

theorem carries : Carries KeepsPlaces where
  toIsCourse := isCourse
  upsertUser id nickname := by
    apply along_stamped isCourse
    intro b u b' h
    obtain ⟨_, e, users, -, -, ledger⟩ := upsertUser_yields h
    obtain ⟨rfl, put⟩ := upsertUser_makes h
    obtain rfl := congrArg Books.store e
    exact of_other_write put (by rw [ledger])
  createGame := by
    apply along_stamped isCourse
    intro b game b' h
    obtain ⟨-, store, rfl, e⟩ := createGame_yields h
    exact of_other_write (createGame_makes h) (by rw [e])
  addPlayer game user := by
    apply along_stamped isCourse
    intro b u b' h
    obtain ⟨-, store, rfl, e⟩ := addPlayer_yields h
    exact of_write (addPlayer_makes h) (by rw [e])
  setState game user state := by
    apply along_write isCourse
    intro b u b' h
    obtain ⟨store, rfl, e⟩ := setState_yields h
    refine ⟨Write.relational_of_make (setState_makes h).2, ?_⟩
    show b.ledger.places <+: store.ledger.places
    unfold Ledger.places
    rw [e, Ledger.Orderly.map_withTaken]
  addTurn game word := by
    apply along_stamped isCourse
    intro b turn b' h
    obtain ⟨-, store, rfl, e⟩ := addTurn_yields h
    exact of_other_write (addTurn_makes h) (by rw [e])
  addMessage game turn player content := by
    apply along_stamped isCourse
    intro b message b' h
    obtain ⟨-, store, rfl, e⟩ := addMessage_yields h
    exact of_other_write (addMessage_makes h) (by rw [e])

theorem along_addScore (award : Award) : (addScore award).Along KeepsPlaces := by
  apply along_stamped isCourse
  intro b u b' h
  obtain ⟨store, rfl, e⟩ := addScore_yields h
  exact of_other_write (addScore_makes h) (by rw [e])

end KeepsPlaces

end Books

/-! ## The board -/

/-- The players and the scores of a game as they are at present, and what is shown of them: whoever
looks finds all active players, in their order and with their totals, and so can they all. -/
structure Service.HasBoard (s : Service) (game : Id) (players : List Player) (scores : List Score) :
    Prop where
  read : s.books.store.players game = .ok players
  earned : s.books.store.scores game = .ok scores
  distinct : (players.map (·.id)).Nodup
  shown : ∀ viewer v, ((Operation.view game viewer).run s).1 = .ok v →
    v.leaderboard = Board.leaderboard (Board.activePlayers players) scores v.turnId viewer
  seen : ∀ viewer turn word, Board.isSeated players viewer = true →
    s.books.store.latestTurn game = .ok (some turn) →
    s.books.store.findWord turn.wordId = some word →
    ∃ v, ((Operation.view game viewer).run s).1 = .ok v

namespace Books.Seating

/-- A game whose seats are in order has a board, with the players in the order of their places. -/
theorem exists_board {s : Service} (h : s.books.Seating)
    (clock : (∃ r, s.books.store = .relational r) → s.books.supply.RunsOn) (game : Id) :
    ∃ players scores, s.HasBoard game players scores ∧
      players.map (·.id) = s.books.ledger.order game ∧
      ∀ user, Board.totalScore scores user = s.books.ledger.total game user := by
  obtain ⟨t, holds⟩ := h.holds
  obtain ⟨t, holds, shows⟩ :=
    holds.exists_shows (fun seat mem => (h.settled.known seat mem).2) clock
  have order : (t.players game).map (·.id) = s.books.ledger.order game :=
    MemoryTables.order_players holds.seats game
  refine ⟨t.players game, t.scoresOf game, ⟨shows.players game, shows.scores game, ?_, ?_, ?_⟩,
    order, Board.totalScore_eq_total (Store.perm_scores (shows.scores game))⟩
  · rw [order]
    exact h.settled.order_nodup game
  · intro viewer v viewed
    obtain ⟨rows, rfl, there, derived⟩ := Operation.view_derived s game viewer v viewed
    have players := Except.ok.inj ((shows.players rows.gameId).symm.trans there.players)
    have scores := Except.ok.inj ((shows.scores rows.gameId).symm.trans there.scores)
    rw [(View.derive_eq_ok_iff.1 derived).2, players, scores]
  · intro viewer turn word seated latest found
    have there : (t.findGame game).isSome = true := by
      obtain ⟨p, mem, -⟩ := List.any_eq_true.1 seated
      obtain ⟨m, listed, rfl⟩ := List.mem_map.1 mem
      obtain ⟨listed, here⟩ := List.mem_filter.1 listed
      have opened := (h.settled.known m.seat (holds.seats ▸ List.mem_map_of_mem listed)).1
      rw [show s.books.ledger.games = t.games.map (·.id) from holds.games,
        show m.seat.gameId = game from beq_iff_eq.1 here] at opened
      exact MemoryTables.isSome_findGame_iff.2 opened
    have last := Except.ok.inj ((shows.latestTurn game).symm.trans latest)
    obtain ⟨v, viewed, -⟩ := Operation.exists_view shows there last found seated
    exact ⟨v, viewed⟩

end Books.Seating

/-! ## Moves one after another -/

namespace Service

/-- A call begins, a step of a call is taken, or something happens that is neither to the books nor
to the settings. -/
abbrev GameMove := Interleaving.Move Service Call IsApart

/-- The awards that are made in the course of the moves: each comes of a step of its player's guess,
who has earned it, and no other move makes any. -/
inductive Gains : Calls → List GameMove → List Award → Prop where
  | none (w : Calls) : Gains w [] []
  | quiet {w : Calls} {m : GameMove} {moves : List GameMove} {gained : List Award}
      (same : (w.move Call.operation m).state.books.ledger.awards = w.state.books.ledger.awards)
      (rest : Gains (w.move Call.operation m) moves gained) : Gains w (m :: moves) gained
  | guess {w : Calls} {m : GameMove} {moves : List GameMove} {gained : List Award} {i : Nat}
      {e : Errand Service Call (Except GameError Reply)} {a : Award} {active : List Player}
      (step : m = .step i) (here : w.errands[i]? = some e)
      (asked : e.task.Guesses a.gameId a.playerId)
      (earned : w.state.books.Earned w.state.settings.basePoints active a)
      (adds : (w.move Call.operation m).state.books.ledger.awards =
        w.state.books.ledger.awards ++ [a])
      (rest : Gains (w.move Call.operation m) moves gained) : Gains w (m :: moves) (a :: gained)

theorem Gains.awards {w : Calls} {moves : List GameMove} {gained : List Award}
    (h : Gains w moves gained) : (w.play Call.operation moves).state.books.ledger.awards =
      w.state.books.ledger.awards ++ gained := by
  induction h with
  | none w => exact (List.append_nil _).symm
  | quiet same rest ih => exact ih.trans (by rw [same])
  | guess step here asked earned adds rest ih =>
    exact ih.trans (by rw [adds, List.append_assoc, List.singleton_append])

theorem exists_gains (s : Service) (before after : List GameMove) :
    ∃ gained, Gains ((⟨s, []⟩ : Calls).play Call.operation before) after gained := by
  induction after generalizing before with
  | nil => exact ⟨[], .none _⟩
  | cons m after ih =>
    obtain ⟨gained, rest⟩ := ih (before ++ [m])
    rw [Interleaving.play_append] at rest
    obtain same | ⟨i, e, a, active, step, here, asked, earned, adds⟩ :=
      award_change_of_move (Interleaving.traced_play Call.operation s before) m
    · exact ⟨gained, .quiet same rest⟩
    · exact ⟨a :: gained, .guess step here asked earned adds rest⟩

end Service

/-! ## Whole runs -/

/-- From one state to a later one places were at most added, and seats have stayed in order. -/
theorem Service.keeps_places (s : Service) (before after : List GameMove) :
    let w := (⟨s, []⟩ : Calls).play Call.operation before
    let w' := w.play Call.operation after
    w.state.books.KeepsSeating w'.state.books ∧ w.state.books.KeepsPlaces w'.state.books := by
  intro w w'
  have seating := Books.KeepsSeating.isCourse
  have places := Books.KeepsPlaces.isCourse
  have whole := Interleaving.along_play
    (R := fun s t : Service => s.books.KeepsSeating t.books ∧ s.books.KeepsPlaces t.books)
    (fun s => ⟨seating.refl _, places.refl _⟩)
    (fun h h' => ⟨seating.trans h.1 h'.1, places.trans h.2 h'.2⟩)
    (fun c : Call => c.along_keepsSeating.and
      (c.along_operation Books.KeepsPlaces.carries Books.KeepsPlaces.along_addScore))
    (fun change (apart : IsApart change) s => by
      rw [(apart s).1]
      exact ⟨seating.refl _, places.refl _⟩) s before after
  rw [Interleaving.play_append] at whole
  exact whole

/-- However the steps of calls fall, from a blank store on, and whenever one looks: the players of a
game are the same and in the same order as before, but for new ones behind them, and everyone's
total is what it was before and what was awarded for the user's own guesses meanwhile. What is shown
of a game are the active players, in this order and with these totals. So whoever has left and come
back is at the old place with the old total. -/
theorem totals_and_places_survive (s : Service) (blank : s.books.store.IsBlank)
    (clock : (∃ r, s.books.store = .relational r) → s.books.supply.RunsOn)
    (before after : List Service.GameMove) :
    let w := (⟨s, []⟩ : Service.Calls).play Call.operation before
    let w' := w.play Call.operation after
    ∃ gained, Service.Gains w after gained ∧
      ∀ game, ∃ players scores players' scores',
        w.state.HasBoard game players scores ∧ w'.state.HasBoard game players' scores' ∧
        players.map (·.id) <+: players'.map (·.id) ∧
        ∀ user, Board.totalScore scores' user = Board.totalScore scores user +
          ((gained.filter fun a => a.gameId == game && a.playerId == user).map (·.points)).sum := by
  intro w w'
  obtain ⟨seating, places⟩ := Service.keeps_places s [] before
  obtain ⟨seating', places'⟩ := Service.keeps_places s before after
  have ordered : w.state.books.Seating := seating.seating (.of_isBlank blank)
  have ordered' : w'.state.books.Seating := seating'.seating ordered
  have runs : (∃ r, w.state.books.store = .relational r) → w.state.books.supply.RunsOn :=
    fun rows => seating.supply ▸ clock (places.relational rows)
  have runs' : (∃ r, w'.state.books.store = .relational r) → w'.state.books.supply.RunsOn :=
    fun rows => seating'.supply ▸ runs (places'.relational rows)
  obtain ⟨gained, gains⟩ := Service.exists_gains s before after
  refine ⟨gained, gains, fun game => ?_⟩
  obtain ⟨players, scores, board, order, totals⟩ := ordered.exists_board runs game
  obtain ⟨players', scores', board', order', totals'⟩ := ordered'.exists_board runs' game
  refine ⟨players, scores, players', scores', board, board', ?_, fun user => ?_⟩
  · rw [order, order']
    exact Ledger.order_prefix places'.places game
  · rw [totals, totals']
    exact Ledger.total_append gains.awards

/-! ## A player who comes back -/

/-- A request whose number among all errands is known begins and takes its steps. -/
def Service.ask (errand steps : Nat) (r : Request) : List GameMove :=
  .begin (.request r) :: List.replicate steps (.step errand)

/-- Two users sit at a table. The first one finds the word and leaves. -/
def Service.leavesAsFinder : List GameMove :=
  let game := "||||||||||"
  ask 0 5 .initUser ++ ask 1 5 .initUser ++ ask 2 3 (.initGame "|") ++
    ask 3 4 (.join game "|||||") ++ ask 4 7 (.guess game "|" "apple") ++ ask 5 4 (.kick game "|")

/-- The first user comes back, and the second one finds the word at last. -/
def Service.comesBack : List GameMove :=
  let game := "||||||||||"
  ask 6 4 (.join game "|") ++ ask 7 6 (.guess game "|||||" "pear") ++
    ask 8 7 (.guess game "|||||" "apple")

theorem totals_and_places_survive_a_kick :
    let game := "||||||||||"
    let s := Service.inMemory {} [⟨"w", "apple", "🍎"⟩] .counting
    let w := (⟨s, []⟩ : Service.Calls).play Call.operation Service.leavesAsFinder
    let w' := w.play Call.operation Service.comesBack
    s.books.store.IsBlank ∧ s.books.supply.RunsOn ∧
      ((Operation.view game "|||||").run w.state).1.map View.leaderboard =
        .ok [⟨"SillyCat", true, false, 0⟩] ∧
      ((Operation.view game "|||||").run w'.state).1.map View.leaderboard =
        .ok [⟨"SillyCat", false, true, 20⟩, ⟨"SillyCat", true, true, 10⟩] ∧
      ∃ gained players scores players' scores', Service.Gains w Service.comesBack gained ∧
        w.state.HasBoard game players scores ∧ w'.state.HasBoard game players' scores' ∧
        players.map (·.id) <+: players'.map (·.id) ∧
        ∀ user, Board.totalScore scores' user = Board.totalScore scores user +
          ((gained.filter fun a => a.gameId == game && a.playerId == user).map (·.points)).sum := by
  have blank : (Service.inMemory {} [⟨"w", "apple", "🍎"⟩] .counting).books.store.IsBlank := rfl
  obtain ⟨gained, gains, boards⟩ := totals_and_places_survive _ blank
    (fun _ => Supply.counting_runsOn) Service.leavesAsFinder Service.comesBack
  obtain ⟨players, scores, players', scores', survive⟩ := boards "||||||||||"
  exact ⟨blank, Supply.counting_runsOn, by decide +kernel, by decide +kernel, gained, players,
    scores, players', scores', gains, survive⟩

end GuessingRoom
