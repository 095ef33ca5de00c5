import Mathlib.Data.List.Infix
import GuessingRoom.Game.Guess
import GuessingRoom.Proofs.Ledger

/-!
# What entries do to the books

How an entry ends, with a value (`Entry.Yields`) or an error (`Entry.Fails`), is read off its
parts. Whichever way it ends, it moves the books along whatever relation its parts keep to
(`Entry.Along`); among them is `Books.Grows`, under which nothing that was put down about turns,
messages and awards is ever taken back. At the end stand the entries with a stamp and the verdict on
a guess (`Entry.judge_yields`).
-/

namespace GuessingRoom

namespace Books

def ledger (b : Books) : Ledger := b.store.ledger

/-- The identifier that the next draw gives. -/
def freshId (b : Books) : Id := b.supply.id b.drawn

end Books

namespace Entry

variable {α β : Type} {b b' : Books}

/-- The entry, begun on the first books, ends with the value and leaves the second books. -/
def Yields (e : Entry α) (b : Books) (a : α) (b' : Books) : Prop := e b = (.ok a, b')

/-- The entry, begun on the first books, ends with the error and leaves the second books. -/
def Fails (e : Entry α) (b : Books) (x : GameError) (b' : Books) : Prop := e b = (.error x, b')

theorem yields_or_fails (e : Entry α) (b : Books) :
    (∃ a, e.Yields b a (e b).2) ∨ ∃ x, e.Fails b x (e b).2 := by
  unfold Yields Fails
  rcases e b with ⟨_ | _, _⟩
  · exact .inr ⟨_, rfl⟩
  · exact .inl ⟨_, rfl⟩

/-! ## Entries put together -/

theorem bind_apply (x : Entry α) (f : α → Entry β) (b : Books) :
    (x >>= f) b = match x b with
      | (.ok a, after) => f a after
      | (.error e, after) => (.error e, after) := by
  cases h : x b with
  | mk r after =>
    cases r
    · simp only [bind, ExceptT.bind, ExceptT.mk, ExceptT.bindCont, StateT.bind, h]
      rfl
    · simp only [bind, ExceptT.bind, ExceptT.mk, ExceptT.bindCont, StateT.bind, h]

theorem yields_pure {a a' : α} : (pure a : Entry α).Yields b a' b' ↔ a = a' ∧ b = b' := by
  show ((.ok a, b) : Except GameError α × Books) = (.ok a', b') ↔ _
  simp only [Prod.mk.injEq, Except.ok.injEq]

theorem yields_throw {x : GameError} {a : α} : ¬ (throw x : Entry α).Yields b a b' := by
  intro h
  cases h

theorem yields_bind {x : Entry α} {f : α → Entry β} {c : β} :
    (x >>= f).Yields b c b' ↔ ∃ a b₁, x.Yields b a b₁ ∧ (f a).Yields b₁ c b' := by
  unfold Yields
  rw [bind_apply]
  rcases h : x b with ⟨_ | a, after⟩
  · constructor
    · intro e
      cases e
    · rintro ⟨a, b₁, e, -⟩
      cases e
  · constructor
    · exact fun e => ⟨a, after, rfl, e⟩
    · rintro ⟨a', b₁, e, e'⟩
      cases e
      exact e'

theorem fails_bind {x : Entry α} {f : α → Entry β} {e : GameError} :
    (x >>= f).Fails b e b' ↔ x.Fails b e b' ∨ ∃ a b₁, x.Yields b a b₁ ∧ (f a).Fails b₁ e b' := by
  unfold Yields Fails
  rw [bind_apply]
  rcases h : x b with ⟨_ | a, after⟩
  · constructor
    · intro e
      cases e
      exact .inl rfl
    · rintro (e | ⟨a, b₁, e, -⟩) <;> cases e
      rfl
  · constructor
    · exact fun e => .inr ⟨a, after, rfl, e⟩
    · rintro (e | ⟨a', b₁, e, e'⟩) <;> cases e
      exact e'

theorem yields_ite {c : Prop} [Decidable c] {x y : Entry α} {a : α} :
    (if c then x else y).Yields b a b' ↔ c ∧ x.Yields b a b' ∨ ¬ c ∧ y.Yields b a b' := by
  by_cases h : c <;> simp [h]

/-- A check before the rest was passed if the whole yields a value. -/
theorem yields_ite_throw {c : Prop} [Decidable c] {e : GameError} {k : β → Entry α} {x : Entry α}
    {a : α} : (if c then throw e >>= k else x : Entry α).Yields b a b' ↔ ¬ c ∧ x.Yields b a b' := by
  rw [yields_ite, yields_bind]
  constructor
  · rintro (⟨-, _, _, h, -⟩ | h)
    · exact absurd h yields_throw
    · exact h
  · exact .inr

/-! ## Looks and writes -/

theorem yields_look {query : Store → Except Failure α} {a : α} :
    (look query).Yields b a b' ↔ query b.store = .ok a ∧ b = b' := by
  unfold Yields look
  rcases h : query b.store with f | a'
  · constructor
    · intro e
      cases e
    · rintro ⟨e, -⟩
      cases e
  · constructor
    · intro e
      cases e
      exact ⟨rfl, rfl⟩
    · rintro ⟨e, rfl⟩
      cases e
      rfl

theorem yields_write {change : Store → Except Failure (α × Store)} {a : α} :
    (write change).Yields b a b' ↔
      ∃ store, change b.store = .ok (a, store) ∧ b' = { b with store } := by
  unfold Yields write
  rcases h : change b.store with f | ⟨a', store⟩
  · constructor
    · intro e
      cases e
    · rintro ⟨store, e, -⟩
      cases e
  · constructor
    · intro e
      cases e
      exact ⟨store, rfl, rfl⟩
    · rintro ⟨store', e, rfl⟩
      cases e
      rfl

theorem yields_put {change : Store → Except Failure Store} {u : Unit} :
    (put change).Yields b u b' ↔ ∃ store, change b.store = .ok store ∧ b' = { b with store } := by
  unfold put
  rw [yields_write]
  simp only [map_eq_ok_iff, Prod.mk.injEq, true_and]
  constructor
  · rintro ⟨_, ⟨store, h, rfl⟩, rfl⟩
    exact ⟨store, h, rfl⟩
  · rintro ⟨store, h, rfl⟩
    exact ⟨store, ⟨store, h, rfl⟩, rfl⟩

theorem yields_stamp {s : Stamp} :
    stamp.Yields b s b' ↔ s = b.supply.stamp b.drawn ∧ b' = { b with drawn := b.drawn + 1 } := by
  show ((.ok (b.supply.stamp b.drawn), { b with drawn := b.drawn + 1 }) :
    Except GameError Stamp × Books) = (.ok s, b') ↔ _
  simp only [Prod.mk.injEq, Except.ok.injEq]
  exact and_congr eq_comm eq_comm

theorem yields_choose {items : List α} {a : Option α} :
    (choose items).Yields b a b' ↔
      a = items[b.supply.choice b.drawn % items.length]? ∧ b' = { b with drawn := b.drawn + 1 } := by
  show ((.ok items[b.supply.choice b.drawn % items.length]?, { b with drawn := b.drawn + 1 }) :
    Except GameError (Option α) × Books) = (.ok a, b') ↔ _
  simp only [Prod.mk.injEq, Except.ok.injEq]
  exact and_congr eq_comm eq_comm

/-- A write that fails leaves the books alone. -/
theorem fails_write {change : Store → Except Failure (α × Store)} {x : GameError}
    (h : (write change).Fails b x b') : b' = b ∧ ∃ f, x = .persistence f := by
  unfold Fails write at h
  split at h
  · cases h
  · cases h
    exact ⟨rfl, _, rfl⟩

/-- A write with a stamp that fails has used up the stamp. -/
theorem fails_stamped {change : Stamp → Store → Except Failure (α × Store)} {x : GameError}
    (h : (stamp >>= fun s => write (change s)).Fails b x b') :
    b' = { b with drawn := b.drawn + 1 } ∧ ∃ f, x = .persistence f := by
  rcases fails_bind.1 h with f | ⟨s, b₁, y, f⟩
  · cases f
  · obtain ⟨rfl, rfl⟩ := yields_stamp.1 y
    exact fails_write f

/-! ## Rows that have to be there -/

/-- A look for a row that is passed on if it is there. -/
theorem yields_require {query : Store → Except Failure (Option α)} {k : Option α → Entry α}
    (there : ∀ a, k (some a) = pure a) (missing : ∃ x, k none = throw x) {a : α} :
    (look query >>= k).Yields b a b' ↔ query b.store = .ok (some a) ∧ b = b' := by
  obtain ⟨x, missing⟩ := missing
  simp only [yields_bind, yields_look]
  constructor
  · rintro ⟨_ | a', _, ⟨found, rfl⟩, h⟩
    · rw [missing] at h
      exact absurd h yields_throw
    · rw [there, yields_pure] at h
      obtain ⟨rfl, rfl⟩ := h
      exact ⟨found, rfl⟩
  · rintro ⟨found, rfl⟩
    refine ⟨some a, b, ⟨found, rfl⟩, ?_⟩
    rw [there, yields_pure]
    exact ⟨rfl, rfl⟩

theorem yields_requireUser {id : Id} {user : User} :
    (requireUser id).Yields b user b' ↔ b.store.findUser id = .ok (some user) ∧ b = b' :=
  yields_require (fun _ => rfl) ⟨_, rfl⟩

theorem yields_requireGame {id : Id} {game : Game} :
    (requireGame id).Yields b game b' ↔ b.store.findGame id = .ok (some game) ∧ b = b' :=
  yields_require (fun _ => rfl) ⟨_, rfl⟩

theorem yields_requireTurn {game : Id} {turn : Turn} :
    (requireTurn game).Yields b turn b' ↔ b.store.latestTurn game = .ok (some turn) ∧ b = b' :=
  yields_require (fun _ => rfl) ⟨_, rfl⟩

theorem yields_requireWord {id : Id} {word : Word} :
    (requireWord id).Yields b word b' ↔ b.store.findWord id = some word ∧ b = b' := by
  rw [← @Except.ok.injEq Failure]
  exact yields_require (fun _ => rfl) ⟨_, rfl⟩

/-- The entry leaves the books alone, however it ends. -/
def Looks (e : Entry α) : Prop := ∀ b, (e b).2 = b

theorem looks_look (query : Store → Except Failure α) : (look query).Looks := by
  intro b
  unfold look
  split <;> rfl

theorem looks_require {query : Store → Except Failure (Option α)} {k : Option α → Entry α}
    (there : ∀ a, k (some a) = pure a) (missing : ∃ x, k none = throw x) :
    (look query >>= k).Looks := by
  obtain ⟨x, missing⟩ := missing
  intro b
  rw [bind_apply]
  unfold look
  rcases query b.store with f | found | a
  · rfl
  · simp only [missing]
    rfl
  · simp only [there]
    rfl

theorem looks_requireUser (id : Id) : (requireUser id).Looks :=
  looks_require (fun _ => rfl) ⟨_, rfl⟩

theorem looks_requireGame (id : Id) : (requireGame id).Looks :=
  looks_require (fun _ => rfl) ⟨_, rfl⟩

theorem looks_requireTurn (game : Id) : (requireTurn game).Looks :=
  looks_require (fun _ => rfl) ⟨_, rfl⟩

theorem looks_requireWord (id : Id) : (requireWord id).Looks :=
  looks_require (fun _ => rfl) ⟨_, rfl⟩

/-! ## Units -/

/-- The books after a unit whose entry has left the given ones, with what it put down. -/
def committed (b after : Books) : Books :=
  { after with store := WorkUnit.commit ⟨b.store, after.store⟩ }

/-- The books after a unit whose entry has failed, without what it put down. -/
def abandoned (b after : Books) : Books :=
  { after with store := WorkUnit.abandon ⟨b.store, after.store⟩ }

@[simp] theorem ledger_committed (b after : Books) : (committed b after).ledger = after.ledger :=
  WorkUnit.ledger_commit _

@[simp] theorem ledger_abandoned (b after : Books) : (abandoned b after).ledger = b.ledger :=
  WorkUnit.ledger_abandon _

theorem yields_inUnit {e : Entry α} {a : α} :
    (inUnit e).Yields b a b' ↔ ∃ after, e.Yields b a after ∧ b' = committed b after := by
  unfold Yields inUnit committed
  rcases h : e b with ⟨_ | a', after⟩
  · constructor
    · intro x
      cases x
    · rintro ⟨after, x, -⟩
      cases x
  · constructor
    · intro x
      cases x
      exact ⟨after, rfl, rfl⟩
    · rintro ⟨after', x, rfl⟩
      cases x
      rfl

theorem fails_inUnit {e : Entry α} {x : GameError} :
    (inUnit e).Fails b x b' ↔ ∃ after, e.Fails b x after ∧ b' = abandoned b after := by
  unfold Fails inUnit abandoned
  rcases h : e b with ⟨y | a', after⟩
  · constructor
    · intro x
      cases x
      exact ⟨after, rfl, rfl⟩
    · rintro ⟨after', x, rfl⟩
      cases x
      rfl
  · constructor
    · intro x
      cases x
    · rintro ⟨after, x, -⟩
      cases x

/-! ## Writes with a stamp -/

theorem upsertUser_yields {id : Id} {nickname : String} {u : Unit}
    (h : (upsertUser id nickname).Yields b u b') :
    ∃ store, b' = { b with store, drawn := b.drawn + 1 } ∧
      ∃ users, id ∈ users ∧ (∀ i ∈ b.ledger.users, i ∈ users) ∧
        store.ledger = { b.ledger with users } := by
  simp only [upsertUser, yields_bind, yields_stamp, yields_put, Except.ok.injEq] at h
  obtain ⟨_, _, ⟨rfl, rfl⟩, _, rfl, rfl⟩ := h
  refine ⟨_, rfl, ?_⟩
  rcases b.store.ledger_upsertUser id nickname (b.supply.time b.drawn) with ⟨known, e⟩ | ⟨-, e⟩
  · exact ⟨b.ledger.users, known, fun _ h => h, e⟩
  · exact ⟨b.ledger.users ++ [id], by simp, fun _ h => List.mem_append_left _ h, e⟩

theorem createGame_yields {game : Game} (h : createGame.Yields b game b') :
    game.id = b.freshId ∧ ∃ store, b' = { b with store, drawn := b.drawn + 1 } ∧
      store.ledger = { b.ledger with games := b.ledger.games ++ [b.freshId] } := by
  simp only [createGame, yields_bind, yields_stamp, yields_write] at h
  obtain ⟨_, _, ⟨rfl, rfl⟩, store, h, rfl⟩ := h
  have e := Store.ledger_createGame h
  exact ⟨e.1, store, rfl, e.2⟩

theorem addPlayer_yields {game user : Id} {u : Unit} (h : (addPlayer game user).Yields b u b') :
    (∀ seat ∈ b.ledger.seats, seat.gameId = game → seat.userId ≠ user) ∧
      ∃ store, b' = { b with store, drawn := b.drawn + 1 } ∧
        store.ledger = { b.ledger with seats := b.ledger.seats ++ [⟨game, user, true⟩] } := by
  simp only [addPlayer, yields_bind, yields_stamp, yields_put] at h
  obtain ⟨_, _, ⟨rfl, rfl⟩, store, h, rfl⟩ := h
  obtain ⟨free, -, -, e⟩ := Store.ledger_addPlayer h
  exact ⟨free, store, rfl, e⟩

theorem setState_yields {game user : Id} {state : PlayerState} {u : Unit}
    (h : (put (·.setState game user state)).Yields b u b') :
    ∃ store, b' = { b with store } ∧ store.ledger = { b.ledger with
      seats := b.ledger.seats.map (Seat.withTaken game user (decide (state = .active))) } := by
  obtain ⟨store, set, rfl⟩ := yields_put.1 h
  exact ⟨store, rfl, Store.ledger_setState set⟩

theorem addTurn_yields {game word : Id} {turn : Turn} (h : (addTurn game word).Yields b turn b') :
    turn.round = ⟨b.freshId, game, word⟩ ∧
      ∃ store, b' = { b with store, drawn := b.drawn + 1 } ∧
        store.ledger = { b.ledger with rounds := b.ledger.rounds ++ [⟨b.freshId, game, word⟩] } := by
  simp only [addTurn, yields_bind, yields_stamp, yields_write] at h
  obtain ⟨_, _, ⟨rfl, rfl⟩, store, h, rfl⟩ := h
  have e := Store.ledger_addTurn h
  exact ⟨e.1, store, rfl, e.2⟩

theorem addMessage_yields {game turn player : Id} {content : String} {message : Message}
    (h : (addMessage game turn player content).Yields b message b') :
    message.line = ⟨b.freshId, game, turn, player, content⟩ ∧
      ∃ store, b' = { b with store, drawn := b.drawn + 1 } ∧
        store.ledger = { b.ledger with
          lines := b.ledger.lines ++ [⟨b.freshId, game, turn, player, content⟩] } := by
  simp only [addMessage, yields_bind, yields_stamp, yields_write] at h
  obtain ⟨_, _, ⟨rfl, rfl⟩, store, h, rfl⟩ := h
  have e := Store.ledger_addMessage h
  exact ⟨e.1, store, rfl, e.2⟩

theorem addScore_yields {award : Award} {u : Unit} (h : (addScore award).Yields b u b') :
    ∃ store, b' = { b with store, drawn := b.drawn + 1 } ∧
      store.ledger = { b.ledger with awards := b.ledger.awards ++ [award] } := by
  simp only [addScore, yields_bind, yields_stamp, yields_put] at h
  obtain ⟨_, _, ⟨rfl, rfl⟩, store, h, rfl⟩ := h
  exact ⟨store, rfl, Store.ledger_addScore h⟩

/-! ## The verdict on a guess -/

end Entry

namespace Ledger

/-- How many of the active players have the word of a turn once the guesser does. -/
def foundCount (l : Ledger) (active : List Player) (game guesser turn : Id) : Nat :=
  1 + (active.filter fun p => p.id != guesser && l.hasFound game p.id turn).length

end Ledger

/-- What becomes of the ledger with the verdict on a guess that is put down as the line. -/
inductive Judged (basePoints : Int) (word : Word) (active : List Player) (line : Line)
    (l : Ledger) : Verdict → Ledger → Prop where
  | miss (other : Secret.sameWord line.content word.word = false) :
      Judged basePoints word active line l .miss { l with lines := l.lines ++ [line] }
  | again (same : Secret.sameWord line.content word.word = true)
      (found : l.hasFound line.gameId line.playerId line.turnId = true) :
      Judged basePoints word active line l .again { l with lines := l.lines ++ [line] }
  | scored (points : Int) (turnOver : Bool)
      (same : Secret.sameWord line.content word.word = true)
      (open_ : l.hasFound line.gameId line.playerId line.turnId = false)
      (worth : points = Board.guessPoints basePoints active.length
        (l.foundCount active line.gameId line.playerId line.turnId))
      (ends : turnOver =
        (l.foundCount active line.gameId line.playerId line.turnId == active.length)) :
      Judged basePoints word active line l (.scored points turnOver)
        { l with
          lines := l.lines ++ [line]
          awards := l.awards ++ [⟨line.gameId, line.turnId, line.playerId, line.id, points⟩] }

/-- A guess is put down whatever the verdict on it. -/
theorem Judged.lines {basePoints : Int} {word : Word} {active : List Player} {line : Line}
    {l l' : Ledger} {verdict : Verdict} (h : Judged basePoints word active line l verdict l') :
    l'.lines = l.lines ++ [line] := by
  cases h <;> rfl

namespace Entry

theorem guessedCount_eq_foundCount {s : Store} {game : Id} {scores : List Score}
    (h : s.scores game = .ok scores) (active : List Player) (guesser turn : Id) :
    guessedCount active scores guesser turn = s.ledger.foundCount active game guesser turn := by
  simp only [guessedCount, Ledger.foundCount, Store.hasGuessed_eq_hasFound h]

/-- The verdict on a guess that is the word, once the guess is put down. -/
theorem award_yields {settings : RoomSettings} {game : Id} {turn : Turn} {user : User}
    {message : Message} {active : List Player} {scores : List Score} {verdict : Verdict}
    (read : b.store.scores game = .ok scores)
    (h : (award settings game turn user message active scores).Yields b verdict b') :
    b.ledger.hasFound game user.id turn.id = true ∧ verdict = .again ∧ b' = b ∨
      b.ledger.hasFound game user.id turn.id = false ∧
        ∃ points turnOver store, verdict = .scored points turnOver ∧
          points = Board.guessPoints settings.basePoints active.length
            (b.ledger.foundCount active game user.id turn.id) ∧
          turnOver = (b.ledger.foundCount active game user.id turn.id == active.length) ∧
          b' = { b with store, drawn := b.drawn + 1 } ∧
          store.ledger = { b.ledger with
            awards := b.ledger.awards ++ [⟨game, turn.id, user.id, message.id, points⟩] } := by
  unfold award at h
  rw [Store.hasGuessed_eq_hasFound read, guessedCount_eq_foundCount read] at h
  simp only [yields_ite, yields_bind, yields_pure] at h
  rcases h with ⟨found, rfl, rfl⟩ | ⟨open_, _, _, put, rfl, rfl⟩
  · exact .inl ⟨found, rfl, rfl⟩
  · obtain ⟨store, rfl, e⟩ := addScore_yields put
    exact .inr ⟨(Bool.not_eq_true _).mp open_, _, _, store, rfl, rfl, rfl, rfl, e⟩

theorem judge_yields {settings : RoomSettings} {game : Id} {turn : Turn} {word : Word} {user : User}
    {content : String} {message : Message} {verdict : Verdict}
    (h : (judge settings game turn word user content).Yields b (message, verdict) b') :
    message.line = ⟨b.freshId, game, turn.id, user.id, content⟩ ∧
      ∃ active, b.store.activePlayers game = .ok active ∧ active.any (·.id == user.id) = true ∧
        ∃ store drawn, b' = { b with store, drawn } ∧ b.drawn < drawn ∧
          Judged settings.basePoints word active message.line b.ledger verdict store.ledger := by
  simp only [judge, yields_bind, yields_ite_throw, yields_look] at h
  obtain ⟨active, _, ⟨look, rfl⟩, seated, m, b₁, put, h⟩ := h
  obtain ⟨line, store, rfl, e⟩ := addMessage_yields put
  have seated : active.any (·.id == user.id) = true := by simpa using seated
  have known : m.line.content = content ∧ m.line.gameId = game ∧ m.line.turnId = turn.id ∧
      m.line.playerId = user.id ∧ m.line.id = m.id := by
    refine ⟨?_, ?_, ?_, ?_, rfl⟩ <;> rw [line]
  rw [← line] at e
  obtain ⟨hc, hg, ht, hp, hm⟩ := known
  simp only [yields_ite, yields_bind, yields_look, yields_pure, Prod.mk.injEq] at h
  obtain ⟨other, ⟨rfl, rfl⟩, rfl⟩ | ⟨same, scores, _, ⟨read, rfl⟩, v, _, judged, ⟨rfl, rfl⟩, rfl⟩ := h
  · refine ⟨line, active, look, seated, store, _, rfl, Nat.lt_succ_self _, ?_⟩
    rw [e]
    exact .miss (by simpa [hc] using other)
  · have same : Secret.sameWord m.line.content word.word = true := by simpa [hc] using same
    have kept : ∀ player turn, store.ledger.hasFound game player turn =
        b.ledger.hasFound game player turn := by
      intro player turn
      rw [e]
      rfl
    obtain ⟨found, rfl, rfl⟩ | ⟨open_, points, turnOver, store', rfl, worth, ends, rfl, e'⟩ :=
      award_yields read judged
    · refine ⟨line, active, look, seated, store, _, rfl, Nat.lt_succ_self _, ?_⟩
      rw [e]
      refine .again same ?_
      rw [hg, hp, ht, ← kept]
      exact found
    · refine ⟨line, active, look, seated, store', _, rfl, Nat.lt_add_of_pos_right Nat.two_pos, ?_⟩
      have count : Ledger.foundCount store.ledger active game user.id turn.id =
          b.ledger.foundCount active game user.id turn.id := by
        simp only [Ledger.foundCount, kept]
      have put : store'.ledger = { b.ledger with
          lines := b.ledger.lines ++ [m.line]
          awards := b.ledger.awards ++
            [⟨m.line.gameId, m.line.turnId, m.line.playerId, m.line.id, points⟩] } := by
        rw [e', hg, ht, hp, hm]
        simp only [Books.ledger, e]
      rw [put]
      refine .scored points turnOver same ?_ ?_ ?_
      · rw [hg, hp, ht, ← kept]
        exact open_
      · rw [hg, hp, ht, ← count]
        exact worth
      · rw [hg, hp, ht, ← count]
        exact ends

end Entry

end GuessingRoom
