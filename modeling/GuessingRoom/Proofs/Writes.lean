import Mathlib.Data.List.Nodup
import GuessingRoom.Proofs.HeldModels

/-!
# Writes made again

The writes that change a store, as data with their stamps. A write that succeeds comes to the same on
every store with the same rows (`Write.make_of_rows`), so that a list of them can be made again
(`Store.Replays`). What a write gives back is then among the models that the store holds
(`Write.make_holds`).
-/

namespace GuessingRoom

open Time (Instant)

/-! ## Writes -/

inductive Write where
  | upsertUser (id : Id) (nickname : String)
  | createGame
  | addPlayer (game user : Id)
  | setState (game user : Id) (state : PlayerState)
  | addTurn (game word : Id)
  | addMessage (game turn player : Id) (content : String)
  | addScore (award : Award)
deriving DecidableEq, Repr

/-- The model that a write gives back, if it gives back one. -/
inductive Made where
  | nothing
  | game (g : Game)
  | turn (t : Turn)
  | message (m : Message)
deriving DecidableEq, Repr

namespace Made

def game? : Made → Option Game
  | game g => some g
  | _ => none

def turn? : Made → Option Turn
  | turn t => some t
  | _ => none

def message? : Made → Option Message
  | message m => some m
  | _ => none

end Made

namespace Write

/-- Makes the write on a store, with the identifier and the time of a stamp. -/
def make (w : Write) (stamp : Stamp) (s : Store) : Except Failure (Made × Store) :=
  match w with
  | upsertUser id nickname => .ok (.nothing, s.upsertUser id nickname stamp.time)
  | createGame => (s.createGame stamp).map fun (g, s) => (.game g, s)
  | addPlayer game user => (s.addPlayer game user stamp.time).map fun s => (.nothing, s)
  | setState game user state => (s.setState game user state).map fun s => (.nothing, s)
  | addTurn game word => (s.addTurn game word stamp).map fun (t, s) => (.turn t, s)
  | addMessage game turn player content =>
    (s.addMessage game turn player content stamp).map fun (m, s) => (.message m, s)
  | addScore award => (s.addScore award stamp.time).map fun s => (.nothing, s)

def isUpsert : Write → Bool
  | upsertUser .. => true
  | _ => false

end Write

/-- A write that has succeeded, with its stamp and with what it gave back. -/
structure Put where
  write : Write
  stamp : Stamp
  made : Made
deriving DecidableEq, Repr

namespace Put

/-- The games that the writes gave back, and likewise turns and messages. -/
def games (puts : List Put) : List Game := puts.filterMap (·.made.game?)

def turns (puts : List Put) : List Turn := puts.filterMap (·.made.turn?)

def messages (puts : List Put) : List Message := puts.filterMap (·.made.message?)

end Put

namespace Store

/-- The store once it has been told to refuse scores, or not to refuse them any more. Relational
tables do not know of this. -/
def refusing (b : Bool) : Store → Store
  | memory m => memory { m with refusesScores := b }
  | relational t => relational t

/-- Made again on the first store, one after another and with the stamps that they had, all the
writes succeed and give back the same, and they leave the second store. -/
def Replays (s : Store) : List Put → Store → Prop
  | [], t => s = t
  | p :: ps, t => ∃ u, p.write.make p.stamp s = .ok (p.made, u) ∧ u.Replays ps t

end Store

/-! ## Again on the same rows -/

namespace Store

variable {s t u : Store} {puts : List Put}

@[simp] theorem rows_refusing (b : Bool) : (s.refusing b).rows = s.rows := by
  cases s <;> rfl

theorem Replays.snoc {p : Put} (h : s.Replays puts t)
    (made : p.write.make p.stamp t = .ok (p.made, u)) : s.Replays (puts ++ [p]) u := by
  induction puts generalizing s with
  | nil =>
    obtain rfl := h
    exact ⟨u, made, rfl⟩
  | cons q qs ih =>
    obtain ⟨v, first, rest⟩ := h
    exact ⟨v, first, ih rest⟩

end Store

namespace Write

variable {s s' t : Store} {stamp : Stamp} {made : Made} {w : Write}

/-- A write in memory is one to the tables. How the units have ended does not matter to it, and it
succeeds all the more if scores are not refused. -/
theorem make_memory {m : Memory} (h : w.make stamp (.memory m) = .ok (made, s')) :
    ∃ tables, s' = .memory { m with tables } ∧ ∀ commits rollbacks,
      w.make stamp (.memory { m with commits, rollbacks, refusesScores := false }) =
        .ok (made, .memory { m with tables, commits, rollbacks, refusesScores := false }) := by
  cases w with
  | upsertUser id nickname =>
    cases h
    exact ⟨_, rfl, fun _ _ => rfl⟩
  | createGame =>
    cases h
    exact ⟨_, rfl, fun _ _ => rfl⟩
  | addPlayer game user =>
    simp only [make, Store.addPlayer, map_eq_ok_iff] at h ⊢
    obtain ⟨_, ⟨tables, put, rfl⟩, e⟩ := h
    cases e
    exact ⟨tables, rfl, fun _ _ => ⟨_, ⟨tables, put, rfl⟩, rfl⟩⟩
  | setState game user state =>
    simp only [make, Store.setState, map_eq_ok_iff] at h ⊢
    obtain ⟨_, ⟨tables, put, rfl⟩, e⟩ := h
    cases e
    exact ⟨tables, rfl, fun _ _ => ⟨_, ⟨tables, put, rfl⟩, rfl⟩⟩
  | addTurn game word =>
    cases h
    exact ⟨_, rfl, fun _ _ => rfl⟩
  | addMessage game turn player content =>
    cases h
    exact ⟨_, rfl, fun _ _ => rfl⟩
  | addScore award =>
    simp only [make, Store.addScore, map_eq_ok_iff] at h
    obtain ⟨_, put, e⟩ := h
    split at put <;> cases put
    cases e
    exact ⟨_, rfl, fun _ _ => rfl⟩

/-- A write to relational tables leaves relational tables. -/
theorem make_relational {r : RelationalTables} (h : w.make stamp (.relational r) = .ok (made, s')) :
    ∃ r', s' = .relational r' := by
  cases w <;> simp only [make, Store.createGame, Store.addPlayer, Store.setState, Store.addTurn,
    Store.addMessage, Store.addScore, Store.upsertUser, map_eq_ok_iff, Store.keepRows,
    Except.ok.injEq, Prod.mk.injEq] at h
  all_goals grind

/-- A write that succeeds comes to the same on all stores with the same rows, unless they refuse
scores. -/
theorem make_of_rows (rows : s.rows = t.rows) (accepts : t.refusing false = t)
    (h : w.make stamp s = .ok (made, s')) :
    ∃ t', w.make stamp t = .ok (made, t') ∧ s'.rows = t'.rows ∧ t'.refusing false = t' := by
  cases t with
  | relational r =>
    obtain rfl := Store.eq_relational_of_rows rows
    obtain ⟨r', rfl⟩ := make_relational h
    exact ⟨_, h, rfl, rfl⟩
  | memory m =>
    obtain ⟨commits, rollbacks, refuses, rfl⟩ := Store.eq_memory_of_rows rows
    obtain ⟨tables, words, refusesScores, commits', rollbacks'⟩ := m
    obtain rfl : refusesScores = false :=
      (congrArg Memory.refusesScores (Store.memory.inj accepts)).symm
    obtain ⟨after, rfl, again⟩ := make_memory h
    exact ⟨_, again commits' rollbacks', rfl, rfl⟩
end Write

/-! ## What writes give back -/

namespace MemoryTables

variable {t t' : MemoryTables} {game user : Id}

theorem exists_upsertUser_eq (t : MemoryTables) (id : Id) (nickname : String) (time : Instant) :
    ∃ users, t.upsertUser id nickname time = { t with users } := by
  unfold upsertUser
  split <;> exact ⟨_, rfl⟩

/-- A game is found by its identifier if no other game has it. -/
theorem findGame_of_mem (nodup : (t.games.map (·.id)).Nodup) {g : Game} (mem : g ∈ t.games) :
    t.findGame g.id = some g := by
  obtain ⟨g', found⟩ := exists_findGame (List.mem_map_of_mem (f := (·.id)) mem)
  have same := List.inj_on_of_nodup_map nodup (List.mem_of_find?_eq_some found) mem
    (by simpa using List.find?_some found)
  exact same ▸ found

theorem exists_eq_of_setState {state : PlayerState} (h : t.setState game user state = .ok t') :
    ∃ memberships, t' = { t with memberships } := by
  unfold setState at h
  split at h <;> cases h
  exact ⟨_, rfl⟩

end MemoryTables

namespace Write

variable {supply : Supply} {drawn : Nat} {s s' : Store} {t : MemoryTables} {made : Made} {w : Write}

/-- From the first models to the second ones only what the write has given back was added to games,
turns and messages. -/
structure Adds (supply : Supply) (drawn : Nat) (t : MemoryTables) (made : Made)
    (t' : MemoryTables) : Prop where
  games : t'.games = t.games ++ made.game?.toList
  turns : t'.turns = t.turns ++ made.turn?.toList
  messages : t'.messages = t.messages ++ made.message?.toList
  id : ∀ g, made.game? = some g → g.id = supply.id drawn

theorem Adds.nothing {t' : MemoryTables} (games : t'.games = t.games) (turns : t'.turns = t.turns)
    (messages : t'.messages = t.messages) : Adds supply drawn t .nothing t' where
  games := by rw [games]; exact (List.append_nil _).symm
  turns := by rw [turns]; exact (List.append_nil _).symm
  messages := by rw [messages]; exact (List.append_nil _).symm
  id := by rintro g ⟨⟩

/-- The store then holds the models of before and what the write has given back. -/
theorem make_holds (holds : s.Holds supply drawn t) (h : w.make (supply.stamp drawn) s = .ok (made, s')) :
    ∃ t', s'.Holds supply (drawn + 1) t' ∧ Adds supply drawn t made t' := by
  cases w with
  | upsertUser id nickname =>
    cases h
    obtain ⟨time, kept⟩ := holds.upsertUser id nickname
    obtain ⟨users, e⟩ := t.exists_upsertUser_eq id nickname time
    exact ⟨_, kept, e ▸ .nothing rfl rfl rfl⟩
  | createGame =>
    obtain ⟨⟨g, _⟩, put, e⟩ := map_eq_ok_iff.1 h
    cases e
    obtain ⟨kept, id⟩ := holds.createGame put
    exact ⟨_, kept, rfl, (List.append_nil _).symm, (List.append_nil _).symm,
      fun g' e => Option.some.inj e ▸ id⟩
  | addPlayer game user =>
    obtain ⟨_, put, e⟩ := map_eq_ok_iff.1 h
    cases e
    obtain ⟨u, time, -, kept⟩ := holds.addPlayer put
    exact ⟨_, kept, .nothing rfl rfl rfl⟩
  | setState game user state =>
    obtain ⟨_, put, e⟩ := map_eq_ok_iff.1 h
    cases e
    obtain ⟨t', set, kept⟩ := holds.setState put
    obtain ⟨memberships, rfl⟩ := MemoryTables.exists_eq_of_setState set
    exact ⟨_, kept.later (Nat.le_succ _), .nothing rfl rfl rfl⟩
  | addTurn game word =>
    obtain ⟨⟨turn, _⟩, put, e⟩ := map_eq_ok_iff.1 h
    cases e
    exact ⟨_, holds.addTurn put, (List.append_nil _).symm, rfl, (List.append_nil _).symm,
      by rintro g ⟨⟩⟩
  | addMessage game turn player content =>
    obtain ⟨⟨m, _⟩, put, e⟩ := map_eq_ok_iff.1 h
    cases e
    exact ⟨_, holds.addMessage put, (List.append_nil _).symm, (List.append_nil _).symm, rfl,
      by rintro g ⟨⟩⟩
  | addScore award =>
    obtain ⟨_, put, e⟩ := map_eq_ok_iff.1 h
    cases e
    obtain ⟨time, kept⟩ := holds.addScore put
    exact ⟨_, kept, .nothing rfl rfl rfl⟩

end Write

/-! ## Entries that make a write -/

namespace Entry

variable {α : Type} {b b' : Books} {store : Store} {drawn : Nat} {game user word turn : Id}

theorem change_of_stamped (change : Stamp → Store → Except Failure (α × Store)) {a : α}
    (h : (stamp >>= fun s => write (change s)).Yields b a { b with store, drawn }) :
    change (b.supply.stamp b.drawn) b.store = .ok (a, store) := by
  simp only [yields_bind, yields_stamp, yields_write] at h
  obtain ⟨_, _, ⟨rfl, rfl⟩, store', put, e⟩ := h
  rw [put, show store = store' from congrArg Books.store e]

theorem upsertUser_makes {id : Id} {nickname : String} {u : Unit}
    (h : (upsertUser id nickname).Yields b u b') :
    b' = { b with
      store := b.store.upsertUser id nickname (b.supply.time b.drawn), drawn := b.drawn + 1 } ∧
      (Write.upsertUser id nickname).make (b.supply.stamp b.drawn) b.store =
        .ok (.nothing, b.store.upsertUser id nickname (b.supply.time b.drawn)) := by
  simp only [upsertUser, yields_bind, yields_stamp, yields_put, Except.ok.injEq] at h
  obtain ⟨-, -, ⟨rfl, rfl⟩, -, rfl, rfl⟩ := h
  exact ⟨rfl, rfl⟩

theorem createGame_makes {g : Game} (h : createGame.Yields b g { b with store, drawn }) :
    Write.createGame.make (b.supply.stamp b.drawn) b.store = .ok (.game g, store) := by
  rw [Write.make, change_of_stamped (fun s => (·.createGame s)) h]
  rfl

theorem addPlayer_makes {u : Unit} (h : (addPlayer game user).Yields b u { b with store, drawn }) :
    (Write.addPlayer game user).make (b.supply.stamp b.drawn) b.store = .ok (.nothing, store) := by
  obtain ⟨_, put, e⟩ := map_eq_ok_iff.1 (change_of_stamped
    (fun s t => (t.addPlayer game user s.time).map fun t => ((), t)) h)
  cases e
  rw [Write.make, put]
  rfl

/-- A seat is given up or taken again without a draw. -/
theorem setState_makes {state : PlayerState} {u : Unit}
    (h : (put (·.setState game user state)).Yields b u { b with store }) :
    b.store.setState game user state = .ok store ∧
      (Write.setState game user state).make (b.supply.stamp b.drawn) b.store =
        .ok (.nothing, store) := by
  obtain ⟨_, set, same⟩ := yields_put.1 h
  obtain rfl := congrArg Books.store same
  refine ⟨set, ?_⟩
  rw [Write.make, set]
  rfl

theorem addTurn_makes {t : Turn} (h : (addTurn game word).Yields b t { b with store, drawn }) :
    (Write.addTurn game word).make (b.supply.stamp b.drawn) b.store = .ok (.turn t, store) := by
  rw [Write.make, change_of_stamped (fun s => (·.addTurn game word s)) h]
  rfl

theorem addMessage_makes {content : String} {m : Message}
    (h : (addMessage game turn user content).Yields b m { b with store, drawn }) :
    (Write.addMessage game turn user content).make (b.supply.stamp b.drawn) b.store =
      .ok (.message m, store) := by
  rw [Write.make, change_of_stamped (fun s => (·.addMessage game turn user content s)) h]
  rfl

theorem addScore_makes {award : Award} {u : Unit}
    (h : (addScore award).Yields b u { b with store, drawn }) :
    (Write.addScore award).make (b.supply.stamp b.drawn) b.store = .ok (.nothing, store) := by
  obtain ⟨_, put, e⟩ := map_eq_ok_iff.1 (change_of_stamped
    (fun s t => (t.addScore award s.time).map fun t => ((), t)) h)
  cases e
  rw [Write.make, put]
  rfl

end Entry

end GuessingRoom
