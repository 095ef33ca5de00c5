import GuessingRoom.Store

/-!
# The rows of a store

A store in memory also keeps count of its units of work and may refuse scores; apart from that, all
there is to a store are its rows. Stores with the same rows answer every look alike
(`Store.readsAlike_of_rows`), and a unit of work that has ended leaves the rows of its draft or those
of its base.
-/

namespace GuessingRoom

namespace Store

/-- All that is kept in tables, the words among them. -/
def rows : Store → List Word × MemoryTables ⊕ RelationalTables
  | memory m => .inl (m.words, m.tables)
  | relational t => .inr t

/-- Whatever is looked up of games is the same in both stores. -/
structure ReadsAlike (s t : Store) : Prop where
  findGame : ∀ game, s.findGame game = t.findGame game
  players : ∀ game, s.players game = t.players game
  activePlayers : ∀ game, s.activePlayers game = t.activePlayers game
  latestTurn : ∀ game, s.latestTurn game = t.latestTurn game
  messages : ∀ game, s.messages game = t.messages game
  scores : ∀ game, s.scores game = t.scores game

variable {s t : Store}

/-- A store with the rows of one in memory is in memory itself. -/
theorem eq_memory_of_rows {m : Memory} (h : s.rows = (memory m).rows) :
    ∃ commits rollbacks refusesScores,
      s = memory { m with commits, rollbacks, refusesScores } := by
  cases s with
  | memory m' =>
    obtain ⟨words, tables⟩ : m'.words = m.words ∧ m'.tables = m.tables := by simpa [rows] using h
    refine ⟨m'.commits, m'.rollbacks, m'.refusesScores, ?_⟩
    rw [← words, ← tables]
  | relational t => cases h

/-- A relational store is nothing but its rows. -/
theorem eq_relational_of_rows {t : RelationalTables} (h : s.rows = (relational t).rows) :
    s = relational t := by
  cases s with
  | memory m => cases h
  | relational t' => exact congrArg relational (Sum.inr.inj h)

theorem readsAlike_of_rows (h : s.rows = t.rows) : s.ReadsAlike t := by
  cases t with
  | memory m =>
    obtain ⟨commits, rollbacks, refusesScores, rfl⟩ := eq_memory_of_rows h
    exact ⟨fun _ => rfl, fun _ => rfl, fun _ => rfl, fun _ => rfl, fun _ => rfl, fun _ => rfl⟩
  | relational t =>
    obtain rfl := eq_relational_of_rows h
    exact ⟨fun _ => rfl, fun _ => rfl, fun _ => rfl, fun _ => rfl, fun _ => rfl, fun _ => rfl⟩

end Store

namespace WorkUnit

@[simp] theorem rows_commit (u : WorkUnit) : u.commit.rows = u.draft.rows := by
  obtain ⟨base, draft⟩ := u
  cases draft <;> rfl

@[simp] theorem rows_abandon (u : WorkUnit) : u.abandon.rows = u.base.rows := by
  obtain ⟨base, draft⟩ := u
  cases base <;> rfl

end WorkUnit

end GuessingRoom
