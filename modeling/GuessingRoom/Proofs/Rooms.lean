import GuessingRoom.Proofs.Course

/-!
# What happens in a room

Of one game, only the latest turn, the seated users and those who have found the word matter to how
turns end. `RoomStep` lists all that can become of these in one moment (`Moment.Answers.roomStep`,
`Moment.Turns.roomStep`), as long as the service is sound. A service that has just begun is, and
stays so (`Moment.Happens.sound`).
-/

namespace GuessingRoom

namespace Ledger

variable {l l' : Ledger} {game : Id}

/-- The user has found the word of the latest turn. -/
def Found (l : Ledger) (game user : Id) : Prop :=
  ∃ round, l.latest game = some round ∧ l.hasFound game user round.id = true

theorem mem_seated {user : Id} : user ∈ l.seated game ↔ ⟨game, user, true⟩ ∈ l.seats := by
  unfold seated
  rw [List.mem_map]
  constructor
  · rintro ⟨⟨g, u, taken⟩, mem, rfl⟩
    obtain ⟨there, here⟩ := List.mem_filter.1 mem
    simp only [Bool.and_eq_true, beq_iff_eq] at here
    obtain ⟨rfl, rfl⟩ := here
    exact there
  · exact fun mem => ⟨_, List.mem_filter.2 ⟨mem, by simp⟩, rfl⟩

theorem mem_lacking {user : Id} :
    user ∈ l.lacking game ↔ user ∈ l.seated game ∧ ¬ l.Found game user := by
  unfold lacking Found
  cases l.latest game with
  | none => simp
  | some round => simp [List.mem_filter]

theorem lacking_eq_nil_iff : l.lacking game = [] ↔ ∀ u ∈ l.seated game, l.Found game u := by
  rw [List.eq_nil_iff_forall_not_mem]
  apply forall_congr'
  intro u
  rw [mem_lacking, not_and, not_not]

theorem mem_of_latest {round : Round} (h : l.latest game = some round) :
    round ∈ l.rounds ∧ round.gameId = game := by
  have mem := List.mem_filter.1 (List.mem_of_getLast? h)
  exact ⟨mem.1, by simpa using mem.2⟩

/-! ## New turns and awards -/

theorem latest_addRound (l : Ledger) (round : Round) :
    Ledger.latest { l with rounds := l.rounds ++ [round] } round.gameId = some round := by
  simp [latest, List.filter_append]

theorem latest_addRound_of_ne (l : Ledger) (round : Round) (h : round.gameId ≠ game) :
    Ledger.latest { l with rounds := l.rounds ++ [round] } game = l.latest game := by
  simp [latest, List.filter_append, h]

theorem hasFound_append (l : Ledger) (a : Award) (game user turn : Id) :
    Ledger.hasFound { l with awards := l.awards ++ [a] } game user turn =
      (l.hasFound game user turn || (a.gameId == game && (a.playerId == user && a.turnId == turn))) := by
  simp [hasFound, List.any_append]

/-! ## Seats -/

theorem seated_append (l : Ledger) (game g user : Id) :
    Ledger.seated { l with seats := l.seats ++ [⟨g, user, true⟩] } game =
      l.seated game ++ if g = game then [user] else [] := by
  by_cases h : g = game <;> simp [seated, List.filter_append, h]

theorem withTaken_of_ne {g user : Id} {taken : Bool} {seat : Seat}
    (h : ¬ (seat.gameId = g ∧ seat.userId = user)) : seat.withTaken g user taken = seat := if_neg h

theorem seated_map_of_ne (l : Ledger) {g user : Id} (taken : Bool) (h : g ≠ game) :
    Ledger.seated { l with seats := l.seats.map (Seat.withTaken g user taken) } game =
      l.seated game := by
  have kept : ∀ seat : Seat, (Seat.withTaken g user taken seat).gameId = seat.gameId :=
    Orderly.gameId_withTaken g user taken
  have other : ∀ seat : Seat, seat.gameId = game → Seat.withTaken g user taken seat = seat :=
    fun seat here => withTaken_of_ne fun both => h (both.1.symm.trans here)
  unfold seated
  dsimp only
  induction l.seats with
  | nil => rfl
  | cons seat seats ih =>
    rw [List.map_cons]
    by_cases here : seat.gameId = game
    · rw [other seat here, List.filter_cons, List.filter_cons]
      split
      · rw [List.map_cons, List.map_cons, ih]
      · exact ih
    · rw [List.filter_cons_of_neg (by simp [kept, here]), List.filter_cons_of_neg (by simp [here]), ih]

theorem mem_seats_map {g user : Id} {taken : Bool} {u : Id} (seats : List Seat) :
    ⟨game, u, true⟩ ∈ seats.map (Seat.withTaken g user taken) ↔
      (game = g ∧ u = user) ∧ taken = true ∧ (∃ b, ⟨game, u, b⟩ ∈ seats) ∨
        ¬ (game = g ∧ u = user) ∧ ⟨game, u, true⟩ ∈ seats := by
  rw [List.mem_map]
  constructor
  · rintro ⟨⟨g', u', b⟩, mem, e⟩
    unfold Seat.withTaken at e
    dsimp only at e
    split at e
    · rename_i here
      simp only [Seat.mk.injEq] at e
      obtain ⟨rfl, rfl, rfl⟩ := e
      exact .inl ⟨here, rfl, b, mem⟩
    · rename_i here
      simp only [Seat.mk.injEq] at e
      obtain ⟨rfl, rfl, rfl⟩ := e
      exact .inr ⟨here, mem⟩
  · rintro (⟨here, rfl, b, mem⟩ | ⟨here, mem⟩)
    · exact ⟨_, mem, by rw [Seat.withTaken, if_pos here]⟩
    · exact ⟨_, mem, by rw [Seat.withTaken, if_neg here]⟩

section OneSeat

variable (one_seat : (l.seats.map fun seat => (seat.gameId, seat.userId)).Nodup)
include one_seat

theorem nodup_seated (game : Id) : (l.seated game).Nodup := by
  have part : ((l.seats.filter fun seat => seat.gameId == game && seat.taken).map
      fun seat => (seat.gameId, seat.userId)).Nodup :=
    one_seat.sublist (List.filter_sublist.map _)
  have own : ((l.seats.filter fun seat => seat.gameId == game && seat.taken).map
      fun seat => (seat.gameId, seat.userId)) = (l.seated game).map fun u => (game, u) := by
    rw [seated, List.map_map]
    apply List.map_congr_left
    intro seat mem
    have here := (List.mem_filter.1 mem).2
    simp only [Bool.and_eq_true, beq_iff_eq] at here
    rw [Function.comp_apply, here.1]
  rw [own] at part
  exact part.of_map

/-- Two seats of a user in one game are the same. -/
theorem seat_eq {user : Id} {a b : Bool} (ha : ⟨game, user, a⟩ ∈ l.seats)
    (hb : ⟨game, user, b⟩ ∈ l.seats) : a = b := by
  have := List.inj_on_of_nodup_map one_seat ha hb rfl
  simpa using this

end OneSeat

namespace Orderly

variable {id : Nat → Id} {drawn : Nat}

/-- One user alone lacks the word if all others who are seated have found it. -/
theorem lacking_eq_singleton_iff (h : l.Orderly id drawn) {user : Id} : l.lacking game = [user] ↔
      user ∈ l.seated game ∧ ¬ l.Found game user ∧ ∀ u ∈ l.seated game, u ≠ user → l.Found game u := by
  have nodup : (l.lacking game).Nodup := by
    unfold lacking
    split
    · exact (nodup_seated h.one_seat game).filter _
    · exact nodup_seated h.one_seat game
  constructor
  · intro e
    have mem : ∀ u, u ∈ l.lacking game ↔ u = user := fun u => by rw [e, List.mem_singleton]
    obtain ⟨seated, lacks⟩ := mem_lacking.1 ((mem user).2 rfl)
    refine ⟨seated, lacks, fun u hu other => ?_⟩
    by_contra lacks
    exact other ((mem u).1 (mem_lacking.2 ⟨hu, lacks⟩))
  · rintro ⟨seated, lacks, others⟩
    refine List.perm_singleton.1 ((List.perm_ext_iff_of_nodup nodup (List.nodup_singleton _)).2 ?_)
    intro u
    rw [mem_lacking, List.mem_singleton]
    constructor
    · rintro ⟨hu, lacks⟩
      by_contra other
      exact lacks (others u hu other)
    · rintro rfl
      exact ⟨seated, lacks⟩

/-- A turn that has just been put down has been found by nobody. -/
theorem not_hasFound_fresh (h : l.Orderly id drawn) (game user : Id) {n : Nat} (fresh : drawn ≤ n) :
    l.hasFound game user (id n) = false := by
  rw [Bool.eq_false_iff]
  intro found
  obtain ⟨a, ha, -, -, turn⟩ := hasFound_iff.1 found
  obtain ⟨-, -, round, hr, -, -, -, -, -, named, -⟩ := h.scores.backed a ha
  exact (h.later fresh).fresh_ne ((h.later fresh).rounds_drawn round hr) (named.trans turn)

/-- Nobody has found the word of a turn that begins. -/
theorem not_found_addRound (h : l.Orderly id drawn) {n : Nat} (fresh : drawn ≤ n)
    (game word user : Id) :
    ¬ Ledger.Found { l with rounds := l.rounds ++ [⟨id n, game, word⟩] } game user := by
  rintro ⟨round, last, found⟩
  obtain rfl := Option.some.inj (last.symm.trans (l.latest_addRound ⟨id n, game, word⟩))
  exact Bool.false_ne_true ((h.not_hasFound_fresh game user fresh).symm.trans found)

theorem latest_eq_none_of_fresh (h : l.Orderly id drawn) {n : Nat} (fresh : drawn ≤ n) :
    l.latest (id n) = none := by
  by_contra some_round
  obtain ⟨round, e⟩ := Option.ne_none_iff_exists'.1 some_round
  obtain ⟨mem, here⟩ := mem_of_latest e
  exact (h.later fresh).fresh_not_mem_games (here ▸ h.rounds_there round mem)

theorem seated_eq_nil_of_fresh (h : l.Orderly id drawn) {n : Nat} (fresh : drawn ≤ n) :
    l.seated (id n) = [] := by
  apply List.eq_nil_iff_forall_not_mem.2
  intro user mem
  exact (h.later fresh).fresh_not_mem_games (h.seats_there _ (mem_seated.1 mem))

end Orderly

end Ledger

/-! ## Steps of a room -/

/-- What becomes of a room in one moment, and whether that ends its turn. -/
inductive RoomStep (game : Id) (l l' : Ledger) : Bool → Prop where
  | still (latest : l'.latest game = l.latest game) (seated : l'.seated game = l.seated game)
      (found : ∀ u, l'.Found game u ↔ l.Found game u) : RoomStep game l l' false
  | opens (user : Id) (empty : l.seated game = []) (unbegun : l.latest game = none)
      (begun : l'.latest game ≠ none) (seated : l'.seated game = [user])
      (found : ∀ u, ¬ l'.Found game u) : RoomStep game l l' false
  | enters (user : Id) (latest : l'.latest game = l.latest game) (new : user ∉ l.seated game)
      (seated : ∀ u, u ∈ l'.seated game ↔ u ∈ l.seated game ∨ u = user)
      (found : ∀ u, l'.Found game u ↔ l.Found game u) : RoomStep game l l' false
  | leaves (user : Id) (latest : l'.latest game = l.latest game) (was : user ∈ l.seated game)
      (seated : ∀ u, u ∈ l'.seated game ↔ u ∈ l.seated game ∧ u ≠ user)
      (found : ∀ u, l'.Found game u ↔ l.Found game u) : RoomStep game l l' false
  | finds (user : Id) (ended : Bool) (latest : l'.latest game = l.latest game)
      (begun : l.latest game ≠ none) (seated : l'.seated game = l.seated game)
      (was : user ∈ l.seated game) (lacked : ¬ l.Found game user)
      (found : ∀ u, l'.Found game u ↔ l.Found game u ∨ u = user)
      (ends : ended = true ↔ ∀ u ∈ l.seated game, u ≠ user → l.Found game u) :
      RoomStep game l l' ended
  | turns (begun : l'.latest game ≠ none) (seated : l'.seated game = l.seated game)
      (found : ∀ u, ¬ l'.Found game u) : RoomStep game l l' false

namespace RoomStep

variable {game : Id} {l l' : Ledger} {ended : Bool}

/-- Nothing has happened to turns, seats and awards of the game. -/
theorem of_eq (rounds : l'.latest game = l.latest game) (seats : l'.seated game = l.seated game)
    (awards : l'.awards = l.awards) : RoomStep game l l' false := by
  refine .still rounds seats fun u => ?_
  unfold Ledger.Found Ledger.hasFound
  rw [rounds, awards]

/-- Enough have found the word exactly if all others have. -/
theorem count_eq_length_iff {users : List Id} (nodup : users.Nodup) {user : Id} (mem : user ∈ users)
    (p : Id → Bool) :
    (1 + (users.filter fun u => u != user && p u).length == users.length) = true ↔
      ∀ u ∈ users, u ≠ user → p u = true := by
  have others : users.filter (fun u => u != user && p u) = (users.erase user).filter p := by
    rw [nodup.erase_eq_filter, List.filter_filter]
    simp only [Bool.and_comm]
  have count := List.length_erase_of_mem mem
  have some_user := List.length_pos_of_mem mem
  have all := List.length_filter_eq_length_iff (p := p) (l := users.erase user)
  have most := List.length_filter_le p (users.erase user)
  rw [others, beq_iff_eq]
  constructor
  · intro e u hu ne
    exact all.1 (by omega) u ((List.mem_erase_of_ne ne).2 hu)
  · intro h
    have := all.2 fun u hu => h u (List.mem_of_mem_erase hu) (nodup.mem_erase_iff.1 hu).1
    omega

theorem begun (h : RoomStep game l l' ended) (was : l.latest game ≠ none) :
    l'.latest game ≠ none := by
  cases h with
  | still latest | enters _ latest | leaves _ latest | finds _ _ latest => rwa [latest]
  | opens _ _ _ begun | turns begun => exact begun

/-- Only a turn that is the latest one comes to its end, and it stays so. -/
theorem begun_of_ended (h : RoomStep game l l' true) :
    l.latest game ≠ none ∧ l'.latest game = l.latest game := by
  cases h with
  | finds _ _ latest begun => exact ⟨begun, latest⟩

end RoomStep

namespace Effect

variable {id : Nat → Id} {drawn k : Nat} {l l' : Ledger} {ended : Option Id}

theorem roomStep_opened (h : l.Orderly id drawn) {m n : Nat} (first : drawn ≤ m) (next : m < n)
    (user word game : Id) :
    RoomStep game l { l with
      games := l.games ++ [id m]
      seats := l.seats ++ [⟨id m, user, true⟩]
      rounds := l.rounds ++ [⟨id n, id m, word⟩] } false := by
  have seated := l.seated_append game (id m) user
  by_cases here : id m = game
  · subst here
    refine .opens user (h.seated_eq_nil_of_fresh first) (h.latest_eq_none_of_fresh first) ?_ ?_ ?_
    · exact ne_of_eq_of_ne (l.latest_addRound ⟨id n, id m, word⟩) (Option.some_ne_none _)
    · rw [if_pos rfl, h.seated_eq_nil_of_fresh first] at seated
      exact seated
    · exact h.not_found_addRound (first.trans next.le) (id m) word
  · rw [if_neg here, List.append_nil] at seated
    exact .of_eq (l.latest_addRound_of_ne ⟨id n, id m, word⟩ here) seated rfl

theorem roomStep_joined {g user : Id} (free : ∀ seat ∈ l.seats, seat.gameId = g → seat.userId ≠ user)
    (game : Id) : RoomStep game l { l with seats := l.seats ++ [⟨g, user, true⟩] } false := by
  have seated := l.seated_append game g user
  by_cases here : g = game
  · subst here
    rw [if_pos rfl] at seated
    refine .enters user rfl ?_ (fun u => ?_) fun u => Iff.rfl
    · exact fun mem => free _ (Ledger.mem_seated.1 mem) rfl rfl
    · rw [seated, List.mem_append, List.mem_singleton]
  · rw [if_neg here, List.append_nil] at seated
    exact .of_eq rfl seated rfl

theorem roomStep_rejoined (h : l.Orderly id drawn) {g user : Id} (was : ⟨g, user, false⟩ ∈ l.seats)
    (game : Id) :
    RoomStep game l { l with seats := l.seats.map (Seat.withTaken g user true) } false := by
  by_cases here : g = game
  · subst here
    refine .enters user rfl (fun mem => ?_) (fun u => ?_) fun u => Iff.rfl
    · exact Bool.false_ne_true (Ledger.seat_eq h.one_seat was (Ledger.mem_seated.1 mem))
    · rw [Ledger.mem_seated, Ledger.mem_seated, Ledger.mem_seats_map]
      by_cases same : u = user
      · subst same
        exact ⟨fun _ => .inr rfl, fun _ => .inl ⟨⟨rfl, rfl⟩, rfl, false, was⟩⟩
      · simp [same]
  · exact .of_eq rfl (l.seated_map_of_ne true here) rfl

theorem roomStep_left {g user : Id} (was : ⟨g, user, true⟩ ∈ l.seats) (game : Id) :
    RoomStep game l { l with seats := l.seats.map (Seat.withTaken g user false) } false := by
  by_cases here : g = game
  · subst here
    refine .leaves user rfl (Ledger.mem_seated.2 was) (fun u => ?_) fun u => Iff.rfl
    rw [Ledger.mem_seated, Ledger.mem_seated, Ledger.mem_seats_map]
    by_cases same : u = user <;> simp [same]
  · exact .of_eq rfl (l.seated_map_of_ne false here) rfl

/-- What a guess that scores does to its room. -/
theorem roomStep_found (h : l.Orderly id drawn) {line : Line} {round : Round} (points : Int)
    {turnOver : Bool} (latest : l.latest line.gameId = some round) (turn : line.turnId = round.id)
    (seated : line.playerId ∈ l.seated line.gameId)
    (lacks : l.hasFound line.gameId line.playerId line.turnId = false)
    (ends : turnOver = (1 + ((l.seated line.gameId).filter fun u =>
      u != line.playerId && l.hasFound line.gameId u line.turnId).length ==
        (l.seated line.gameId).length)) :
    RoomStep line.gameId l { l with
      lines := l.lines ++ [line]
      awards := l.awards ++ [⟨line.gameId, line.turnId, line.playerId, line.id, points⟩] }
      turnOver := by
  have found : ∀ u, l.Found line.gameId u ↔ l.hasFound line.gameId u line.turnId = true := by
    intro u
    unfold Ledger.Found
    rw [latest, turn]
    simp
  refine .finds line.playerId turnOver rfl (by rw [latest]; exact Option.some_ne_none _) rfl seated
    ?_ (fun u => ?_) ?_
  · rw [found, lacks]
    exact Bool.false_ne_true
  · rw [found]
    unfold Ledger.Found
    show (∃ r, l.latest line.gameId = some r ∧ _) ↔ _
    rw [latest]
    simp only [Option.some.injEq, exists_eq_left']
    rw [← turn]
    have added := l.hasFound_append
      ⟨line.gameId, line.turnId, line.playerId, line.id, points⟩ line.gameId u line.turnId
    apply Iff.trans (Bool.eq_iff_iff.1 added)
    simp only [beq_self_eq_true, Bool.true_and, Bool.and_true, Bool.or_eq_true, beq_iff_eq]
    exact or_congr_right eq_comm
  · rw [ends, RoomStep.count_eq_length_iff (Ledger.nodup_seated h.one_seat _) seated]
    simp only [found]

theorem roomStep_found_of_ne {line : Line} {game : Id} (other : line.gameId ≠ game) (points : Int) :
    RoomStep game l { l with
      lines := l.lines ++ [line]
      awards := l.awards ++ [⟨line.gameId, line.turnId, line.playerId, line.id, points⟩] }
      false := by
  refine .still rfl rfl fun u => ?_
  have none_here : ∀ turn, Ledger.hasFound { l with
      lines := l.lines ++ [line]
      awards := l.awards ++ [⟨line.gameId, line.turnId, line.playerId, line.id, points⟩] }
        game u turn = l.hasFound game u turn := by
    intro turn
    apply (l.hasFound_append _ _ _ _).trans
    simp [other]
  unfold Ledger.Found
  simp only [none_here]
  exact Iff.rfl

/-- An effect is a step of every room. -/
theorem roomStep (h : l.Orderly id drawn) (e : Effect id drawn k l ended l') (game : Id) :
    RoomStep game l l' (ended == some game) := by
  cases e with
  | idle => exact .of_eq rfl rfl rfl
  | named users kept => exact .of_eq rfl rfl rfl
  | said line n first last drew => exact .of_eq rfl rfl rfl
  | opened m n user word first next last listed => exact roomStep_opened h first next user word.id game
  | joined g user there free => exact roomStep_joined free game
  | rejoined g user was => exact roomStep_rejoined h was game
  | left g user was => exact roomStep_left was game
  | found line round word points turnOver n first last drew latest turn looked same seated lacks ends =>
    by_cases here : line.gameId = game
    · subst here
      have step := roomStep_found h points latest turn seated lacks ends
      cases turnOver
      · exact step
      · rw [if_pos rfl, beq_self_eq_true]
        exact step
    · have other : ((if turnOver then some line.gameId else none) == some game) = false := by
        cases turnOver <;> simp [here]
      rw [other]
      exact roomStep_found_of_ne here points

end Effect

namespace Ledger.Orderly

variable {id : Nat → Id} {drawn n : Nat} {l : Ledger}

/-- A turn that begins is a step of every room. -/
theorem roomStep_addRound (h : l.Orderly id drawn) (fresh : drawn ≤ n) (g word game : Id) :
    RoomStep game l { l with rounds := l.rounds ++ [⟨id n, g, word⟩] } false := by
  by_cases here : g = game
  · subst here
    have latest := l.latest_addRound ⟨id n, g, word⟩
    exact .turns (ne_of_eq_of_ne latest (Option.some_ne_none _)) rfl (h.not_found_addRound fresh g word)
  · exact .of_eq (l.latest_addRound_of_ne ⟨id n, g, word⟩ here) rfl rfl

end Ledger.Orderly

/-! ## Sound services -/

namespace Service

/-- In the books of a sound service rows can be read and belong together, and turns that are to be
replaced have begun. -/
structure Sound (s : Service) : Prop where
  clock : s.books.supply.RunsOn
  tidy : s.books.Tidy
  orderly : s.books.ledger.Orderly s.books.supply.id s.books.drawn
  begun : ∀ game, s.IsAdvancing game → s.books.ledger.latest game ≠ none

/-- At its beginning a service has nobody in its rooms, and has nothing to do. -/
structure Fresh (s : Service) : Prop where
  books : s.books.Fresh
  games : s.books.ledger.games = []
  seats : s.books.ledger.seats = []
  jobs : s.jobs = []

theorem Fresh.tidy {s : Service} (h : s.Fresh) : s.books.Tidy := by
  obtain ⟨⟨rounds, -, awards⟩, -, seats, -⟩ := h
  unfold Books.Tidy
  unfold Books.ledger at rounds awards seats
  cases store : s.books.store with
  | memory m => trivial
  | relational t =>
    rw [store] at rounds awards seats
    have turns : t.turns = [] := List.map_eq_nil_iff.1 rounds
    have scores : t.scores = [] := List.map_eq_nil_iff.1 awards
    have members : t.members = [] := List.map_eq_nil_iff.1 seats
    constructor <;> simp [turns, scores, members]

theorem Fresh.sound {s : Service} (h : s.Fresh) (injective : Function.Injective s.books.supply.id)
    (clock : s.books.supply.RunsOn) : s.Sound where
  clock := clock
  tidy := h.tidy
  orderly := {
    toIntegrity := h.books.integrity injective
    games_drawn := by simp [h.games]
    rounds_there := by simp [h.books.rounds]
    seats_there := by simp [h.seats]
    one_seat := by simp [h.seats]
    worded := fun begun => absurd h.books.rounds begun }
  begun := by simp [IsAdvancing, h.jobs]

namespace Sound

variable {s : Service} {game : Id}

theorem mem_games (h : s.Sound) (pending : s.IsAdvancing game) : game ∈ s.books.ledger.games := by
  obtain ⟨round, latest⟩ := Option.ne_none_iff_exists'.1 (h.begun game pending)
  obtain ⟨mem, rfl⟩ := Ledger.mem_of_latest latest
  exact h.orderly.rounds_there round mem

/-- There is a word for the next turn. -/
theorem words_ne_nil (h : s.Sound) (pending : s.IsAdvancing game) : s.books.ledger.words ≠ [] := by
  obtain ⟨round, latest⟩ := Option.ne_none_iff_exists'.1 (h.begun game pending)
  exact h.orderly.worded (List.ne_nil_of_mem (Ledger.mem_of_latest latest).1)

end Sound

end Service

namespace Moment

variable {m : Moment}

open Service

theorem Happens.staysTidy (h : m.Happens) : m.before.books.StaysTidy m.after.books := by
  have c := Books.StaysTidy.carries
  unfold Happens at h
  split at h
  · rename_i r _
    rw [h.2]
    exact (Operation.along_operation c Books.StaysTidy.along_addScore r).run c.toIsCourse m.before
  · rename_i time e _
    obtain ⟨-, -, -, -, after⟩ := h
    rw [after]
    exact (Operation.along_ofEvent c.toCarriesRooms e).run c.toIsCourse (m.before.without (.timer time e))
  · rw [h.books]
    exact c.refl _

/-- In a sound service there is a word for every turn. -/
theorem Happens.answers_or_turns (h : m.Happens) (sound : m.before.Sound) :
    (∃ ended, m.Answers ended) ∨ ∃ time game n word, m.Turns time game n word := by
  obtain ⟨ended, answers⟩ | ⟨time, game, n, word, turns⟩ | ⟨time, game, pending, words⟩ :=
    h.outcome sound.tidy
  · exact .inl ⟨ended, answers⟩
  · exact .inr ⟨time, game, n, word, turns⟩
  · exact absurd words (sound.words_ne_nil ⟨time, mem_advances.1 pending⟩)

/-! ## Requests -/

variable {ended : Option Id}

theorem Answers.roomStep (h : m.Answers ended) (sound : m.before.Sound) (game : Id) :
    RoomStep game m.before.books.ledger m.after.books.ledger (ended == some game) :=
  h.effect.roomStep sound.orderly game

/-- The game of a turn that has come to its end is to go on. -/
theorem Answers.isAdvancing_iff (h : m.Answers ended) (game : Id) :
    m.after.IsAdvancing game ↔ m.before.IsAdvancing game ∨ ended = some game := by
  rw [Service.isAdvancing_iff, Service.isAdvancing_iff, h.advances, h.scheduled]
  cases ended <;> simp [eq_comm]

theorem Answers.sound (h : m.Answers ended) (sound : m.before.Sound)
    (stays : m.before.books.StaysTidy m.after.books) : m.after.Sound where
  clock := stays.supply ▸ sound.clock
  tidy := stays.tidy sound.clock sound.tidy
  orderly := stays.supply ▸ sound.orderly.effect stays.drawn h.effect
  begun game pending := by
    have step := h.roomStep sound game
    rcases (h.isAdvancing_iff game).1 pending with before | rfl
    · exact step.begun (sound.begun game before)
    · rw [beq_self_eq_true] at step
      rw [step.begun_of_ended.2]
      exact step.begun_of_ended.1

/-! ## Turns that begin -/

variable {time n : Nat} {game : Id} {word : Word}

theorem Turns.roomStep (h : m.Turns time game n word) (sound : m.before.Sound) (g : Id) :
    RoomStep g m.before.books.ledger m.after.books.ledger false := by
  rw [h.ledger]
  exact sound.orderly.roomStep_addRound h.first game word.id g

theorem Turns.not_found (h : m.Turns time game n word) (sound : m.before.Sound) (user : Id) :
    ¬ m.after.books.ledger.Found game user := by
  rw [h.ledger]
  exact sound.orderly.not_found_addRound h.first game word.id user

theorem Turns.isAdvancing_before (h : m.Turns time game n word) {g : Id}
    (pending : m.after.IsAdvancing g) : m.before.IsAdvancing g := by
  obtain ⟨due, mem⟩ := pending
  have mem := mem_advances.2 mem
  rw [h.advances] at mem
  exact ⟨due, mem_advances.1 (List.mem_of_mem_erase mem)⟩

/-- The advances of other games are still to come. -/
theorem Turns.isAdvancing_after (h : m.Turns time game n word) {g : Id} (other : g ≠ game)
    (pending : m.before.IsAdvancing g) : m.after.IsAdvancing g := by
  obtain ⟨due, mem⟩ := pending
  refine ⟨due, mem_advances.1 ?_⟩
  rw [h.advances]
  exact (List.mem_erase_of_ne fun e => other (Prod.ext_iff.1 e).2).2 (mem_advances.2 mem)

theorem Turns.sound (h : m.Turns time game n word) (sound : m.before.Sound)
    (stays : m.before.books.StaysTidy m.after.books) : m.after.Sound where
  clock := stays.supply ▸ sound.clock
  tidy := stays.tidy sound.clock sound.tidy
  orderly := by
    have there := sound.mem_games ⟨time, mem_advances.1 h.pending⟩
    rw [stays.supply, h.ledger]
    exact ((sound.orderly.later h.first).addRound game word there h.listed).later h.last
  begun g pending := (h.roomStep sound g).begun (sound.begun g (h.isAdvancing_before pending))

/-- A sound service stays sound. -/
theorem Happens.sound (h : m.Happens) (sound : m.before.Sound) : m.after.Sound := by
  rcases h.answers_or_turns sound with ⟨ended, answers⟩ | ⟨time, game, n, word, turns⟩
  · exact answers.sound sound h.staysTidy
  · exact turns.sound sound h.staysTidy

end Moment

end GuessingRoom
