import GuessingRoom.Proofs.FaultlessCalls
import GuessingRoom.Store.Relational.Edit

/-!
# The store stays well-formed

Calls of any number are carried out side by side on a service that began with a blank store, and
advances fire when their time has come. At any time the ledger is well-formed, relational tables pass
their own check, no call has ended with a fault of the program, and every message in a view that is
taken then has its author's nickname (`store_stays_well_formed`).
-/

namespace GuessingRoom

/-! ## Rules of the tables -/

namespace Books.WellKept

variable {b : Books} {t : RelationalTables}

theorem sharedKey (kept : b.WellKept) (rows : b.store = .relational t) : t.sharedKey? = none := by
  have keyed := kept.keyed
  have formed := kept.wellFormed
  have apart := kept.integrity
  have distinct := kept.distinct
  unfold Books.Integrity at apart
  unfold Books.ledger at keyed formed apart distinct
  rw [rows] at keyed formed apart distinct
  have seats : (t.members.map fun r => (r.gameId, r.userId)).Nodup := by
    have one_seat := formed.one_seat
    simp only [Store.ledger, RelationalTables.ledger, List.map_map] at one_seat
    exact one_seat
  have rounds : (t.turns.map (·.id)).Nodup := by
    have nodup := apart.rounds_nodup
    simp only [Store.ledger, RelationalTables.ledger, List.map_map] at nodup
    exact nodup
  have lines : (t.messages.map (·.id)).Nodup := by
    have nodup := apart.lines_nodup
    simp only [Store.ledger, RelationalTables.ledger, List.map_map] at nodup
    exact nodup
  have users : (t.users.map (·.id)).Nodup := keyed.users_nodup
  have games : (t.games.map (·.id)).Nodup := keyed.games_nodup
  have words : (t.words.map (·.id)).Nodup := distinct
  unfold RelationalTables.sharedKey?
  rw [if_neg (not_not_intro users), if_neg (not_not_intro games), if_neg (not_not_intro seats),
    if_neg (not_not_intro words), if_neg (not_not_intro rounds), if_neg (not_not_intro lines)]

theorem referencesHold (kept : b.WellKept) (rows : b.store = .relational t) :
    t.referencesHold = true := by
  have formed := kept.wellFormed
  unfold Books.ledger at formed
  rw [rows] at formed
  have user_of_seat {game user : Id} (seated : t.ledger.HasSeat game user) :
      t.hasGame game = true ∧ t.hasUser user = true := by
    obtain ⟨seat, hs, rfl, rfl⟩ := seated
    have ⟨there, known⟩ := formed.seats seat hs
    exact ⟨RelationalTables.hasGame_iff.2 there, RelationalTables.hasUser_iff.2 known⟩
  have begun {game turn : Id} (h : t.ledger.HasTurn game turn) : t.hasTurn turn = true := by
    obtain ⟨r, hr, e, -⟩ := h
    exact RelationalTables.hasTurn_iff.2 ⟨r, hr, e⟩
  simp only [RelationalTables.referencesHold, Bool.and_eq_true, List.all_eq_true]
  refine ⟨⟨⟨fun r hr => ?_, fun r hr => ?_⟩, fun r hr => ?_⟩, fun r hr => ?_⟩
  · exact Bool.and_eq_true_iff.2 (user_of_seat ⟨_, List.mem_map_of_mem hr, rfl, rfl⟩)
  · obtain ⟨there, listed⟩ := formed.rounds _ (List.mem_map_of_mem hr)
    exact Bool.and_eq_true_iff.2
      ⟨RelationalTables.hasGame_iff.2 there, RelationalTables.hasWord_iff.2 listed⟩
  · obtain ⟨turn, seat⟩ := formed.lines _ (List.mem_map_of_mem hr)
    have ⟨there, known⟩ := user_of_seat seat
    simp only [RelationalTables.messageHolds, Bool.and_eq_true]
    exact ⟨⟨there, begun turn⟩, known⟩
  · obtain ⟨turn, ⟨line, hl, e, -⟩, seat⟩ := formed.awards _ (List.mem_map_of_mem hr)
    have ⟨there, known⟩ := user_of_seat seat
    simp only [RelationalTables.scoreHolds, Bool.and_eq_true]
    exact ⟨⟨⟨there, begun turn⟩, known⟩, RelationalTables.hasMessage_iff.2 ⟨line, hl, e⟩⟩

/-- The tables pass the check that every edit of a column has to pass. -/
theorem checked (kept : b.WellKept) (rows : b.store = .relational t) : t.checked = .ok t := by
  have known : t.statesKnown = true := by
    obtain ⟨models, holds⟩ := kept.healthy.holds
    rw [rows] at holds
    obtain ⟨⟨words, rfl⟩, -⟩ := holds
    refine List.all_eq_true.2 fun r hr => ?_
    obtain ⟨m, -, rfl⟩ := List.mem_map.1 hr
    exact congrArg Option.isSome (PlayerState.ofName?_name m.player.state)
  unfold RelationalTables.checked
  rw [known, kept.sharedKey rows, kept.referencesHold rows]
  rfl

end Books.WellKept

/-! ## Nicknames in views -/

/-- The author of every message is among the players, and none of these goes without a nickname. -/
theorem View.nickname_ne_empty {b : Books} (kept : b.WellKept) {game : Id} {players : List Player}
    {messages : List Message} (read : b.store.players game = .ok players)
    (said : b.store.messages game = .ok messages) {m : Message} (mem : m ∈ messages) :
    nicknameOf players m.playerId ≠ "" := by
  have put := (Store.perm_messages said).mem_iff.1 (List.mem_map_of_mem mem)
  obtain ⟨put, here⟩ := List.mem_filter.1 put
  have seat := (kept.wellFormed.lines _ put).2
  rw [beq_iff_eq.1 here] at seat
  unfold nicknameOf
  split
  · rename_i p found
    have listed := List.mem_reverse.1 (List.mem_of_find?_eq_some found)
    exact kept.healthy.nicknamed.players read listed
  · rename_i absent
    refine absurd seat (Entry.not_hasSeat kept read (List.find?_eq_none.2 fun p hp => ?_))
    exact List.find?_eq_none.1 absent p (List.mem_reverse.2 hp)

/-- The rows of one game as they are in the store. -/
structure Snapshot.IsOf (rows : Snapshot) (s : Store) : Prop where
  players : s.players rows.gameId = .ok rows.players
  turn : s.latestTurn rows.gameId = .ok (some rows.turn)
  word : s.findWord rows.turn.wordId = some rows.word
  messages : s.messages rows.gameId = .ok rows.messages
  scores : s.scores rows.gameId = .ok rows.scores

/-- A view that is taken in one go is derived from the rows that are there. -/
theorem Operation.view_derived (s : Service) (game viewer : Id) :
    (view game viewer).Ends s fun r _ => ∀ v, r = .ok v → ∃ rows : Snapshot, rows.gameId = game ∧
      rows.IsOf s.books.store ∧ View.derive rows viewer = .ok v := by
  have failed (x : GameError) : ∀ v, (.error x : Except GameError View) = .ok v →
      ∃ rows : Snapshot, rows.gameId = game ∧ rows.IsOf s.books.store ∧
        View.derive rows viewer = .ok v := by
    rintro v ⟨⟩
  refine ends_looks (Entry.looks_requireGame game) failed fun _ _ => ?_
  refine ends_looks (Entry.looks_look _) failed fun players read => ?_
  refine ends_check (failed _) fun _ => ?_
  refine ends_looks (Entry.looks_requireTurn game) failed fun turn latest => ?_
  refine ends_looks (Entry.looks_requireWord _) failed fun word found => ?_
  refine ends_looks (Entry.looks_look _) failed fun messages said => ?_
  refine ends_looks (Entry.looks_look _) failed fun scores earned => ?_
  refine fun v derived => ⟨⟨game, players, turn, word, messages, scores⟩, rfl, ?_, derived⟩
  exact ⟨(Entry.yields_look.1 read).1, (Entry.yields_requireTurn.1 latest).1,
    (Entry.yields_requireWord.1 found).1, (Entry.yields_look.1 said).1,
    (Entry.yields_look.1 earned).1⟩

theorem Operation.view_named {s : Service} (kept : s.books.WellKept) (game viewer : Id) :
    (view game viewer).Ends s fun r _ => ∀ v, r = .ok v → ∀ p ∈ v.messages, p.nickname ≠ "" := by
  intro v viewed p mem
  obtain ⟨rows, -, there, derived⟩ := view_derived s game viewer v viewed
  unfold View.derive at derived
  dsimp only at derived
  split at derived <;> cases derived
  obtain ⟨m, hm, rfl⟩ := List.mem_map.1 mem
  exact View.nickname_ne_empty kept there.players there.messages (List.mem_reverse.1 hm)

/-! ## Calls side by side -/

/-- What may be asked of the service, or happens by itself. -/
inductive Call where
  | request (r : Request)
  | leaderboard (game viewer : Id)
  | word (game viewer : Id)
deriving DecidableEq, Repr

def Call.operation : Call → Operation Reply
  | request r => Reply.answer <$> r.operation
  | leaderboard game viewer => Reply.standings <$> Operation.leaderboard game viewer
  | word game viewer => Reply.word <$> Operation.word game viewer

namespace Operation

variable {α β : Type} {s : Service}

theorem Serves.map {x : Operation α} {f : α → β} (h : x.Serves s fun _ _ => True) :
    (f <$> x).Serves s fun _ _ => True := by
  have whole : (x >>= fun a => pure (f a)).Serves s fun _ _ => True :=
    h.bind fun _ _ _ => serves_pure trivial
  exact whole

theorem serves_request {r : Request}
    (there : ∀ game, r = .event (.nextTurn game) → game ∈ s.books.ledger.games) :
    r.operation.Serves s fun _ _ => True := by
  cases r with
  | initUser => exact serves_initUser.map
  | initGame user => exact (serves_initGame user).map
  | join game user => exact (serves_join game user).map
  | kick game user => exact (serves_kick game user).map
  | guess game user content => exact (serves_guess game user content).map
  | say game user content => exact (serves_say game user content).map
  | view game viewer => exact (serves_view game viewer).map
  | event e =>
    cases e with
    | nextTurn game => exact (serves_nextTurn (there game rfl)).map
    | kick game user => exact (serves_kick game user).map.map

end Operation

namespace Service

/-- An event may begin once its time has come; whatever else is asked may begin at any time. -/
def allowsCall (s : Service) : Call → Bool
  | .request (.event e) => s.jobs.any fun
    | .timer due e' => e' == e && decide (due ≤ s.now)
    | _ => false
  | _ => true

/-- Calls of any number, whose steps are taken in any order, while hub, queue, jobs and clock change
as they like. -/
abbrev CallMove := Interleaving.Move Service Call IsBackground

abbrev Calls := Interleaving Service Call (Except GameError Reply)

/-- Whether every call is allowed at the time at which it begins. -/
def allowsCalls (w : Calls) : List CallMove → Bool
  | [] => true
  | m :: ms =>
    (match m with
      | .begin c => w.state.allowsCall c
      | _ => true) && allowsCalls (w.move Call.operation m) ms

end Service

/-! ## Every interleaving -/

/-- Every step adds rows at most and leaves well-kept books, and no call ends with a fault. -/
def faultless (words : List Word) : Discipline Service Call (Except GameError Reply) where
  inv s := s.WellKept ∧ s.books.ledger.words = words
  rely s t := s.books.Extends t.books
  post _ _ r _ := ∀ x, r = .error x → x.isFault = false
  refl s := .refl s.books
  trans h h' := h.trans h'
  stable _ post := post

namespace faultless

variable {words : List Word} {s : Service}

theorem secures_of_script {task : Call} {script : Script Service (Except GameError Reply)}
    {P : Except GameError Reply → Service → Prop} {found : List Service} (h : script.Serves P s)
    (ends : ∀ r t, P r t → ∀ x, r = .error x → x.isFault = false) :
    (faultless words).Secures task found script s := by
  induction script generalizing found s with
  | done r => exact ends r s h
  | step effect next ih =>
    intro t further inv
    obtain ⟨further', kept, rest⟩ := h t further inv.1
    exact ⟨⟨further', fun inv => ⟨kept, further'.words.trans inv.2⟩⟩, ih t rest⟩

theorem secures_of_serves {task : Call} {op : Operation Reply} (h : op.Serves s fun _ _ => True) :
    (faultless words).Secures task [] op s := by
  refine secures_of_script h ?_
  rintro (x | a) t post y ⟨⟩
  exact post

theorem secures (kept : s.WellKept) {c : Call} (allowed : s.allowsCall c = true) :
    (faultless words).Secures c [] c.operation s := by
  cases c with
  | request r =>
    refine secures_of_serves (Operation.serves_request fun game e => ?_).map
    subst e
    obtain ⟨j, mem, fires⟩ := List.any_eq_true.1 allowed
    split at fires
    · rename_i due e'
      obtain rfl : e' = .nextTurn game := by simpa using (Bool.and_eq_true_iff.1 fires).1
      exact kept.advances _ (Service.mem_advances.2 mem)
    · cases fires
  | leaderboard game viewer =>
    exact secures_of_serves (Operation.serves_view game viewer).map.map
  | word game viewer =>
    exact secures_of_serves (Operation.serves_view game viewer).map.map

theorem allows_background {change : Service → Service} (idle : Service.IsBackground change) :
    (faultless words).Allows s (change s) := by
  have books : (change s).books = s.books := (congrArg Service.books (idle.books s s.books) :)
  refine ⟨?_, fun inv => ⟨⟨?_, ?_⟩, ?_⟩⟩
  · show s.books.Extends (change s).books
    rw [books]
    exact .refl _
  · rw [books]
    exact inv.1.books
  · rw [books]
    exact fun p hp => inv.1.advances p (idle.advances s hp)
  · rw [books]
    exact inv.2

theorem play {w : Service.Calls} (h : (faultless words).Sound w) {moves : List Service.CallMove}
    (allowed : Service.allowsCalls w moves = true) :
    (faultless words).Sound (w.play Call.operation moves) := by
  induction moves generalizing w with
  | nil => exact h
  | cons m moves ih =>
    obtain ⟨first, rest⟩ := Bool.and_eq_true_iff.1 allowed
    refine ih ?_ rest
    cases m with
    | begin c => exact h.begin (secures h.inv.1 first)
    | step i => exact h.step i
    | elsewhere change idle => exact h.elsewhere idle (allows_background idle)

end faultless

/-! ## The beginning -/

/-- On a blank store with words nothing is out of order. -/
theorem Service.WellKept.of_isBlank {s : Service} (blank : s.books.store.IsBlank)
    (accepts : s.books.store.refusing false = s.books.store) (corpus : s.books.ledger.words ≠ [])
    (distinct : (s.books.ledger.words.map (·.id)).Nodup)
    (injective : Function.Injective s.books.supply.id) (idle : s.advances = []) : s.WellKept := by
  have empty : s.books.ledger = ⟨s.books.ledger.words, [], [], [], [], [], []⟩ := blank.ledger
  refine ⟨⟨?_, .of_isBlank blank accepts, ?_, ?_, corpus, distinct⟩, ?_⟩
  · rw [empty]
    exact .empty
  · rw [empty]
    exact ⟨injective, .nil, .nil, by simp⟩
  · refine Books.Fresh.integrity ⟨?_, ?_, ?_⟩ injective <;> rw [empty]
  · rw [idle]
    simp

/-- However the steps of calls fall, from a blank store with words on: at any time the ledger is
well-formed over the same words, relational tables pass their check, no call has ended with a fault,
and in a view taken then no message goes without a nickname. -/
theorem store_stays_well_formed (s : Service) (blank : s.books.store.IsBlank)
    (accepts : s.books.store.refusing false = s.books.store) (corpus : s.books.ledger.words ≠ [])
    (distinct : (s.books.ledger.words.map (·.id)).Nodup)
    (injective : Function.Injective s.books.supply.id) (idle : s.advances = [])
    (moves : List Service.CallMove) (allowed : Service.allowsCalls ⟨s, []⟩ moves = true) :
    let w := (⟨s, []⟩ : Service.Calls).play Call.operation moves
    w.state.books.ledger.WellFormed ∧ w.state.books.ledger.words = s.books.ledger.words ∧
      (∀ t, w.state.books.store = .relational t → t.checked = .ok t) ∧
      (∀ e ∈ w.errands, ∀ x, e.result? = some (.error x) → x.isFault = false) ∧
      ∀ game viewer v, ((Operation.view game viewer).run w.state).1 = .ok v →
        ∀ p ∈ v.messages, p.nickname ≠ "" := by
  have start : (faultless s.books.ledger.words).Sound (⟨s, []⟩ : Service.Calls) :=
    .start ⟨.of_isBlank blank accepts corpus distinct injective idle, rfl⟩
  have sound := faultless.play start allowed
  have kept := sound.inv.1.books
  refine ⟨kept.wellFormed, sound.inv.2, fun t => kept.checked, fun e mem x ended => ?_,
    fun game viewer => Operation.view_named kept game viewer⟩
  exact sound.ended mem ended x rfl

def Service.wait (ms : Nat) (s : Service) : Service := { s with now := s.now + ms }

theorem Service.isBackground_wait (ms : Nat) : IsBackground (wait ms) :=
  ⟨fun _ _ => rfl, fun _ => List.Subset.refl _⟩

/-- A player alone in a game finds the word while the same player is chatting, and the next turn
begins. -/
def Service.chatAndGuess : List Service.CallMove :=
  [.begin (.request .initUser)] ++ List.replicate 5 (.step 0) ++
    [.begin (.request (.initGame "|"))] ++ List.replicate 3 (.step 1) ++
    [.begin (.request (.guess "||||||" "|" "Apple")), .begin (.request (.say "||||||" "|" "hm"))] ++
    List.flatten (List.replicate 7 [.step 2, .step 3]) ++
    [.elsewhere (wait 5000) (isBackground_wait 5000),
      .begin (.request (.event (.nextTurn "||||||"))), .step 4, .step 4]

theorem store_stays_well_formed_in_rows :
    let words : List Word := [⟨"w", "apple", "🍎"⟩]
    let s := Service.inRows {} words .counting
    let w := (⟨s, []⟩ : Service.Calls).play Call.operation Service.chatAndGuess
    s.books.store.IsBlank ∧ s.books.store.refusing false = s.books.store ∧
      s.books.ledger.words ≠ [] ∧ (s.books.ledger.words.map (·.id)).Nodup ∧
      Function.Injective s.books.supply.id ∧ s.advances = [] ∧
      Service.allowsCalls ⟨s, []⟩ Service.chatAndGuess = true ∧
      w.errands.map (·.result?) = [some (.ok (.answer (.user ⟨"|", "SillyCat",
          (Supply.tick 3).floorMicro, (Supply.tick 3).floorMicro⟩))),
        some (.ok (.answer (.game ⟨"||||||", (Supply.tick 5).floorMicro,
          (Supply.tick 5).floorMicro⟩))),
        some (.ok (.answer (.post ⟨true, "SillyCat", "Apple"⟩))),
        some (.ok (.answer (.post ⟨true, "SillyCat", "hm"⟩))), some (.ok (.answer .done))] ∧
      w.state.books.ledger.WellFormed ∧ w.state.books.ledger.words = s.books.ledger.words ∧
      (∀ t, w.state.books.store = .relational t → t.checked = .ok t) ∧
      (∀ e ∈ w.errands, ∀ x, e.result? = some (.error x) → x.isFault = false) ∧
      ∀ game viewer v, ((Operation.view game viewer).run w.state).1 = .ok v →
        ∀ p ∈ v.messages, p.nickname ≠ "" := by
  have blank : (Service.inRows {} [⟨"w", "apple", "🍎"⟩] .counting).books.store.IsBlank := rfl
  have allowed : Service.allowsCalls ⟨Service.inRows {} [⟨"w", "apple", "🍎"⟩] .counting, []⟩
      Service.chatAndGuess = true := by decide +kernel
  exact ⟨blank, rfl, by decide, by decide, Supply.counting_injective, rfl, allowed,
    by decide +kernel, store_stays_well_formed _ blank rfl (by decide) (by decide)
      Supply.counting_injective rfl Service.chatAndGuess allowed⟩

end GuessingRoom
