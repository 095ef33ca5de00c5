import GuessingRoom.Proofs.StoredModels

/-!
# Which models a store holds

A write that succeeds changes the models that a store holds as it would change tables in memory,
whichever kind of store it is; relational tables only cut times to the microsecond
(`Holds.upsertUser`, …, `Holds.addScore`). What a store shows is told by its models, as long as
players go by the nicknames of their users and, in relational tables, the clock does not go back
(`Holds.shows`).
-/

namespace GuessingRoom

open Time (Instant)

namespace Store

variable {supply : Supply} {drawn : Nat} {t : MemoryTables} {s s' : Store} {game user : Id}

/-! ## Writes -/

namespace Holds

theorem upsertUser (h : s.Holds supply drawn t) (id : Id) (nickname : String) :
    ∃ time, (s.upsertUser id nickname (supply.time drawn)).Holds supply (drawn + 1)
      (t.upsertUser id nickname time) := by
  cases s with
  | memory m =>
    obtain rfl := h
    exact ⟨supply.time drawn, rfl⟩
  | relational r =>
    obtain ⟨⟨words, rfl⟩, chronicled⟩ := h
    refine ⟨(supply.time drawn).floorMicro, ⟨words, ?_⟩, chronicled.upsertUser id nickname⟩
    exact MemoryTables.upsertUser_inRows words id nickname

theorem createGame (h : s.Holds supply drawn t) {g : Game}
    (put : s.createGame (supply.stamp drawn) = .ok (g, s')) :
    s'.Holds supply (drawn + 1) { t with games := t.games ++ [g] } ∧ g.id = supply.id drawn := by
  cases s with
  | memory m =>
    obtain rfl := h
    cases put
    exact ⟨rfl, rfl⟩
  | relational r =>
    obtain ⟨⟨words, rfl⟩, chronicled⟩ := h
    simp only [Store.createGame, Supply.stamp, map_eq_ok_iff,
      MemoryTables.createGame_inRows words (supply.storable drawn)] at put
    obtain ⟨_, put, e⟩ := put
    split at put <;> cases put
    cases e
    exact ⟨⟨⟨words, rfl⟩, chronicled.createGame _⟩, rfl⟩

/-- A player takes the nickname of the user. -/
theorem addPlayer (h : s.Holds supply drawn t)
    (put : s.addPlayer game user (supply.time drawn) = .ok s') :
    ∃ u time, t.findUser user = some u ∧ s'.Holds supply (drawn + 1) { t with
      memberships := t.memberships ++ [⟨game, ⟨user, u.nickname, .active, time⟩⟩] } := by
  cases s with
  | memory m =>
    obtain rfl := h
    simp only [Store.addPlayer, MemoryTables.addPlayer, map_eq_ok_iff] at put
    obtain ⟨tables, put, rfl⟩ := put
    split at put
    · cases put
    · split at put
      · cases put
      · rename_i u found
        split at put <;> cases put
        exact ⟨u, _, found, rfl⟩
  | relational r =>
    obtain ⟨⟨words, rfl⟩, chronicled⟩ := h
    have known : (t.inRows words).hasUser user = true := by
      simp only [Store.addPlayer, RelationalTables.addPlayer, map_eq_ok_iff, ite_throw_eq_ok_iff,
        RelationalTables.memberHolds, Bool.not_eq_true', Bool.not_eq_false, Bool.and_eq_true] at put
      exact put.choose_spec.1.2.1.2
    rw [MemoryTables.hasUser_inRows, ← List.isSome_find?] at known
    obtain ⟨u, found⟩ := Option.isSome_iff_exists.1 known
    simp only [Store.addPlayer, map_eq_ok_iff,
      MemoryTables.addPlayer_inRows words game user u.nickname] at put
    obtain ⟨_, put, rfl⟩ := put
    split at put
    · cases put
    · split at put <;> cases put
      exact ⟨u, _, found, ⟨words, rfl⟩, chronicled.addMembership _ _ _ _⟩

/-- A change of a seat is no draw. -/
theorem setState {state : PlayerState} (h : s.Holds supply drawn t)
    (put : s.setState game user state = .ok s') :
    ∃ t', t.setState game user state = .ok t' ∧ s'.Holds supply drawn t' := by
  cases s with
  | memory m =>
    obtain rfl := h
    simp only [Store.setState, map_eq_ok_iff] at put
    obtain ⟨tables, put, rfl⟩ := put
    exact ⟨tables, put, rfl⟩
  | relational r =>
    obtain ⟨⟨words, rfl⟩, chronicled⟩ := h
    simp only [Store.setState, MemoryTables.setState_inRows, map_eq_ok_iff] at put
    obtain ⟨_, ⟨t', put, rfl⟩, rfl⟩ := put
    exact ⟨t', put, ⟨words, rfl⟩, chronicled.setState put⟩

theorem addTurn (h : s.Holds supply drawn t) {word : Id} {turn : Turn}
    (put : s.addTurn game word (supply.stamp drawn) = .ok (turn, s')) :
    s'.Holds supply (drawn + 1) { t with turns := t.turns ++ [turn] } := by
  cases s with
  | memory m =>
    obtain rfl := h
    cases put
    rfl
  | relational r =>
    obtain ⟨⟨words, rfl⟩, chronicled⟩ := h
    simp only [Store.addTurn, Supply.stamp, map_eq_ok_iff,
      MemoryTables.addTurn_inRows words (supply.storable drawn)] at put
    obtain ⟨_, put, e⟩ := put
    split at put
    · cases put
    · split at put <;> cases put
      cases e
      exact ⟨⟨words, rfl⟩, chronicled.addTurn _ _ _⟩

theorem addMessage (h : s.Holds supply drawn t) {turn : Id} {content : String} {m : Message}
    (put : s.addMessage game turn user content (supply.stamp drawn) = .ok (m, s')) :
    s'.Holds supply (drawn + 1) { t with messages := t.messages ++ [m] } := by
  cases s with
  | memory m =>
    obtain rfl := h
    cases put
    rfl
  | relational r =>
    obtain ⟨⟨words, rfl⟩, chronicled⟩ := h
    simp only [Store.addMessage, Supply.stamp, map_eq_ok_iff,
      MemoryTables.addMessage_inRows words (supply.storable drawn)] at put
    obtain ⟨_, put, e⟩ := put
    split at put
    · cases put
    · split at put <;> cases put
      cases e
      exact ⟨⟨words, rfl⟩, chronicled.addMessage _ _ _ _ _⟩

theorem addScore (h : s.Holds supply drawn t) {award : Award}
    (put : s.addScore award (supply.time drawn) = .ok s') :
    ∃ time, s'.Holds supply (drawn + 1) (t.addScore award time) := by
  cases s with
  | memory m =>
    obtain rfl := h
    simp only [Store.addScore] at put
    split at put <;> cases put
    exact ⟨_, rfl⟩
  | relational r =>
    obtain ⟨⟨words, rfl⟩, chronicled⟩ := h
    simp only [Store.addScore, map_eq_ok_iff,
      MemoryTables.addScore_inRows words] at put
    obtain ⟨_, put, rfl⟩ := put
    split at put <;> cases put
    exact ⟨_, ⟨words, rfl⟩, chronicled.addScore award⟩

end Holds

/-! ## Looks -/

/-- Every look at the store shows the models. -/
structure Shows (s : Store) (t : MemoryTables) : Prop where
  findUser : ∀ id, s.findUser id = .ok (t.findUser id)
  findGame : ∀ id, s.findGame id = .ok (t.findGame id)
  players : ∀ game, s.players game = .ok (t.players game)
  latestTurn : ∀ game, s.latestTurn game = .ok (t.latestTurn game)
  messages : ∀ game, s.messages game = .ok (t.messagesOf game)
  scores : ∀ game, s.scores game = .ok (t.scoresOf game)

theorem Holds.shows (h : s.Holds supply drawn t) (named : t.Named)
    (clock : ∀ r, s = .relational r → supply.RunsOn) : s.Shows t := by
  cases s with
  | memory m =>
    obtain rfl := h
    exact ⟨fun _ => rfl, fun _ => rfl, fun _ => rfl, fun _ => rfl, fun _ => rfl, fun _ => rfl⟩
  | relational r =>
    replace clock : supply.RunsOn := clock r rfl
    refine ⟨h.findUser, h.findGame, fun game => ?_, h.latestTurn clock, h.messages clock, fun game => ?_⟩
    · obtain ⟨⟨words, rfl⟩, chronicled⟩ := h
      exact MemoryTables.players_inRows words chronicled named clock game
    · obtain ⟨⟨words, rfl⟩, chronicled⟩ := h
      exact MemoryTables.scoresOf_inRows words chronicled clock game

theorem Shows.activePlayers (h : s.Shows t) (game : Id) :
    s.activePlayers game = .ok (Board.activePlayers (t.players game)) := by
  rw [Store.activePlayers, h.players game]
  rfl

end Store

end GuessingRoom
