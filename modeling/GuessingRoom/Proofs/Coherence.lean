import GuessingRoom.Proofs.TwinBooks
import GuessingRoom.Proofs.TwoStores
import GuessingRoom.Proofs.Writes

/-!
# Coherent books

Books are coherent if their store holds models in which all players go by the nicknames of their
users. Users are named once, with identifiers that were drawn, and no entry of the game but that for
a new user puts down a user (`Books.KeepsNames`). So the books stay coherent in whatever steps are
taken (`Coherent.take`).
-/

namespace GuessingRoom

open Time (Instant)

/-! ## Writes -/

namespace Store

variable {supply : Supply} {drawn : Nat} {t : MemoryTables} {s : Store}

/-- But for the words, the ledger of a store is that of its models. -/
theorem Holds.ledger (h : s.Holds supply drawn t) : s.ledger = t.ledger s.ledger.words := by
  cases s with
  | memory m =>
    obtain rfl := h
    rfl
  | relational r =>
    obtain ⟨⟨words, rfl⟩, -⟩ := h
    have seat (m : Membership) : m.row.seat = m.seat := by
      simp only [MemberRow.seat, Membership.row, Membership.seat, name_beq_active, Player.isActive]
    simp only [Store.ledger, RelationalTables.ledger, MemoryTables.ledger, MemoryTables.inRows,
      List.map_map, Function.comp_def, seat]
    rfl

theorem Holds.users (h : s.Holds supply drawn t) : s.ledger.users = t.users.map (·.id) :=
  congrArg Ledger.users h.ledger

theorem Holds.games (h : s.Holds supply drawn t) : s.ledger.games = t.games.map (·.id) :=
  congrArg Ledger.games h.ledger

theorem Holds.seats (h : s.Holds supply drawn t) :
    s.ledger.seats = t.memberships.map Membership.seat := congrArg Ledger.seats h.ledger

end Store

namespace Write

variable {supply : Supply} {drawn : Nat} {t : MemoryTables} {s s' : Store} {made : Made} {w : Write}
  {stamp : Stamp}

/-- Nobody is renamed by a write that names nobody again. -/
theorem make_named (holds : s.Holds supply drawn t) (named : t.Named)
    (fresh : ∀ id nickname, w = .upsertUser id nickname → id ∉ s.ledger.users)
    (h : w.make (supply.stamp drawn) s = .ok (made, s')) :
    ∃ t', s'.Holds supply (drawn + 1) t' ∧ t'.Named := by
  cases w with
  | upsertUser id nickname =>
    cases h
    obtain ⟨time, kept⟩ := holds.upsertUser id nickname
    have fresh := fresh id nickname rfl
    rw [holds.users] at fresh
    rw [MemoryTables.upsertUser_of_fresh fresh] at kept
    exact ⟨_, kept, named.addUser _⟩
  | createGame =>
    obtain ⟨⟨g, _⟩, put, e⟩ := map_eq_ok_iff.1 h
    cases e
    exact ⟨_, (holds.createGame put).1, named⟩
  | addPlayer game user =>
    obtain ⟨_, put, e⟩ := map_eq_ok_iff.1 h
    cases e
    obtain ⟨u, time, found, kept⟩ := holds.addPlayer put
    exact ⟨_, kept, named.addMembership found rfl⟩
  | setState game user state =>
    obtain ⟨_, put, e⟩ := map_eq_ok_iff.1 h
    cases e
    obtain ⟨t', set, kept⟩ := holds.setState put
    exact ⟨t', kept.later (Nat.le_succ _), named.setState set⟩
  | addTurn game word =>
    obtain ⟨⟨turn, _⟩, put, e⟩ := map_eq_ok_iff.1 h
    cases e
    exact ⟨_, holds.addTurn put, named⟩
  | addMessage game turn player content =>
    obtain ⟨⟨m, _⟩, put, e⟩ := map_eq_ok_iff.1 h
    cases e
    exact ⟨_, holds.addMessage put, named⟩
  | addScore award =>
    obtain ⟨_, put, e⟩ := map_eq_ok_iff.1 h
    cases e
    obtain ⟨time, kept⟩ := holds.addScore put
    exact ⟨_, kept, named⟩

/-- A write to tables in memory leaves tables in memory. -/
theorem relational_of_make (h : w.make stamp s = .ok (made, s')) (rows : ∃ r, s' = .relational r) :
    ∃ r, s = .relational r := by
  cases s with
  | memory m =>
    obtain ⟨tables, rfl, -⟩ := make_memory h
    obtain ⟨r, e⟩ := rows
    cases e
  | relational r => exact ⟨r, rfl⟩

end Write

/-! ## Entries -/

namespace Entry

variable {b after : Books}

theorem relational_of_committed (rows : ∃ r, (committed b after).store = .relational r) :
    ∃ r, after.store = .relational r := by
  obtain ⟨r, e⟩ := rows
  have kept : (Store.relational r).rows = after.store.rows :=
    e ▸ WorkUnit.rows_commit ⟨b.store, after.store⟩
  exact ⟨r, Store.eq_relational_of_rows kept.symm⟩

theorem relational_of_abandoned (rows : ∃ r, (abandoned b after).store = .relational r) :
    ∃ r, b.store = .relational r := by
  obtain ⟨r, e⟩ := rows
  have kept : (Store.relational r).rows = b.store.rows :=
    e ▸ WorkUnit.rows_abandon ⟨b.store, after.store⟩
  exact ⟨r, Store.eq_relational_of_rows kept.symm⟩

end Entry

namespace Books

open Entry

/-- The store holds models in which all players go by the nicknames of their users. -/
def Named (b : Books) : Prop := ∃ t, b.store.Holds b.supply b.drawn t ∧ t.Named

/-- Between the first books and the second ones no user was put down and none was renamed. -/
structure KeepsNames (b b' : Books) : Prop where
  supply : b'.supply = b.supply
  drawn : b.drawn ≤ b'.drawn
  relational : (∃ r, b'.store = .relational r) → ∃ r, b.store = .relational r
  users : b'.ledger.users = b.ledger.users
  named : b.Named → b'.Named

namespace KeepsNames

variable {b b' : Books}

theorem isCourse : IsCourse KeepsNames where
  refl b := ⟨rfl, le_rfl, id, rfl, id⟩
  trans h h' := ⟨h'.supply.trans h.supply, h.drawn.trans h'.drawn, h.relational ∘ h'.relational,
    h'.users.trans h.users, h'.named ∘ h.named⟩
  draw b := by
    refine ⟨rfl, Nat.le_succ _, id, rfl, ?_⟩
    rintro ⟨t, holds, named⟩
    exact ⟨t, holds.later (Nat.le_succ _), named⟩
  commit b after h := by
    refine ⟨h.supply, h.drawn, h.relational ∘ relational_of_committed, ?_, fun named => ?_⟩
    · rw [ledger_committed]
      exact h.users
    · obtain ⟨t, holds, named⟩ := h.named named
      exact ⟨t, holds.of_rows (WorkUnit.rows_commit _), named⟩
  abandon b after h := by
    refine ⟨h.supply, h.drawn, relational_of_abandoned, ?_, ?_⟩
    · rw [ledger_abandoned]
    · rintro ⟨t, holds, named⟩
      have later := (holds.later h.drawn).of_rows (WorkUnit.rows_abandon ⟨b.store, after.store⟩)
      rw [← h.supply] at later
      exact ⟨t, later, named⟩

/-- A write with a stamp that puts down no user. -/
theorem of_write {w : Write} {made : Made} {store : Store}
    (put : w.make (b.supply.stamp b.drawn) b.store = .ok (made, store)) (other : w.isUpsert = false)
    (users : store.ledger.users = b.ledger.users) :
    b.KeepsNames { b with store, drawn := b.drawn + 1 } where
  supply := rfl
  drawn := Nat.le_succ _
  relational := Write.relational_of_make put
  users := users
  named := by
    rintro ⟨t, holds, named⟩
    exact Write.make_named holds named (by rintro _ _ rfl; cases other) put

theorem carries : CarriesGames KeepsNames where
  toIsCourse := isCourse
  createGame := by
    apply along_stamped isCourse
    intro b game b' h
    obtain ⟨-, store, rfl, e⟩ := createGame_yields h
    exact of_write (createGame_makes h) rfl (by rw [e])
  addPlayer game user := by
    apply along_stamped isCourse
    intro b u b' h
    obtain ⟨-, store, rfl, e⟩ := addPlayer_yields h
    exact of_write (addPlayer_makes h) rfl (by rw [e])
  setState game user state := by
    apply along_write isCourse
    intro b u b' h
    obtain ⟨store, rfl, e⟩ := setState_yields h
    obtain ⟨set, made⟩ := setState_makes h
    refine ⟨rfl, le_rfl, Write.relational_of_make made, (congrArg Ledger.users e :), ?_⟩
    · rintro ⟨t, holds, named⟩
      obtain ⟨t', moved, kept⟩ := holds.setState set
      exact ⟨t', kept, named.setState moved⟩
  addTurn game word := by
    apply along_stamped isCourse
    intro b turn b' h
    obtain ⟨-, store, rfl, e⟩ := addTurn_yields h
    exact of_write (addTurn_makes h) rfl (by rw [e])
  addMessage game turn player content := by
    apply along_stamped isCourse
    intro b message b' h
    obtain ⟨-, store, rfl, e⟩ := addMessage_yields h
    exact of_write (addMessage_makes h) rfl (by rw [e])

theorem along_addScore (award : Award) : (addScore award).Along KeepsNames := by
  apply along_stamped isCourse
  intro b u b' h
  obtain ⟨store, rfl, e⟩ := addScore_yields h
  exact of_write (addScore_makes h) rfl (by rw [e])

end KeepsNames

/-! ## Coherent books -/

/-- Every user has an identifier of its own, and the clock of relational tables runs on. -/
structure Coherent (b : Books) : Prop where
  named : b.Named
  drew : ∀ u ∈ b.ledger.users, ∃ n < b.drawn, u = b.supply.id n
  injective : Function.Injective b.supply.id
  clock : (∃ r, b.store = .relational r) → b.supply.RunsOn

namespace Coherent

variable {b b' : Books}

theorem along (h : b.Coherent) (keeps : b.KeepsNames b') : b'.Coherent where
  named := keeps.named h.named
  drew u hu := by
    obtain ⟨n, lt, e⟩ := h.drew u (keeps.users ▸ hu)
    exact ⟨n, lt.trans_le keeps.drawn, keeps.supply ▸ e⟩
  injective := keeps.supply ▸ h.injective
  clock rows := keeps.supply ▸ h.clock (keeps.relational rows)

/-- A user is put down under an identifier that was drawn and went to nobody. -/
theorem upsertUser (h : b.Coherent) {n : Nat} (lt : n < b.drawn)
    (fresh : b.supply.id n ∉ b.ledger.users) {nickname : String} {u : Unit}
    (put : (Entry.upsertUser (b.supply.id n) nickname).Yields b u b') : b'.Coherent := by
  obtain ⟨rfl, made⟩ := upsertUser_makes put
  refine ⟨?_, ?_, h.injective, fun rows => h.clock (Write.relational_of_make made rows)⟩
  · obtain ⟨t, holds, named⟩ := h.named
    refine Write.make_named holds named ?_ made
    rintro _ _ ⟨⟩
    exact fresh
  · intro u hu
    rcases b.store.ledger_upsertUser (b.supply.id n) nickname (b.supply.time b.drawn) with
      ⟨known, -⟩ | ⟨-, e⟩
    · exact absurd known fresh
    · have users := congrArg Ledger.users e
      change _ = b.ledger.users ++ [b.supply.id n] at users
      rcases List.mem_append.1 (users ▸ hu) with old | new
      · obtain ⟨k, lt, e⟩ := h.drew u old
        exact ⟨k, lt.trans (Nat.lt_succ_self _), e⟩
      · exact ⟨n, lt.trans (Nat.lt_succ_self _), List.mem_singleton.1 new⟩

/-- What is shown of coherent books. -/
theorem shows (h : b.Coherent) : ∃ t, b.store.Holds b.supply b.drawn t ∧ b.store.Shows t := by
  obtain ⟨t, holds, named⟩ := h.named
  exact ⟨t, holds, holds.shows named fun r e => h.clock ⟨r, e⟩⟩

end Coherent

end Books

/-! ## Steps -/

namespace Operation

open Entry

variable {s : Service}

theorem coherent_initUser (h : s.books.Coherent) :
    initUser.Ends s fun _ t => t.books.Coherent := by
  have draw {b : Books} (h : b.Coherent) : Books.Coherent { b with drawn := b.drawn + 1 } :=
    h.along (Books.KeepsNames.isCourse.draw b)
  -- a draw cannot fail, and what it gives plays no part but for the identifier
  refine ends_entry (by rintro x b ⟨⟩) ?_
  rintro _ _ ⟨⟩
  refine ends_entry (by rintro x b ⟨⟩) ?_
  rintro first _ ⟨⟩
  refine ends_entry (by rintro x b ⟨⟩) ?_
  rintro second _ ⟨⟩
  have fresh : s.books.supply.id s.books.drawn ∉ s.books.ledger.users := by
    intro mem
    obtain ⟨n, lt, e⟩ := h.drew _ mem
    exact lt.ne' (h.injective e)
  refine ends_entry (by rintro x b ⟨⟩) fun _ b put => ?_
  have named : b.Coherent :=
    (draw (draw (draw h))).upsertUser (show s.books.drawn < s.books.drawn + 1 + 1 + 1 by omega) fresh put
  exact named.along (along_requireUser Books.KeepsNames.isCourse _ b)

theorem coherent_request (h : s.books.Coherent) (r : Request) :
    (r.operation.run s).2.books.Coherent := by
  by_cases opens : r = .initUser
  · subst opens
    exact (coherent_initUser h).map (Q := fun t => t.books.Coherent)
  · have keeps := along_request Books.KeepsNames.carries (fun e => absurd e opens)
      (fun _ _ _ _ => Books.KeepsNames.along_addScore)
    exact h.along (keeps.run Books.KeepsNames.isCourse s)

end Operation

namespace Service

/-- The service after steps, taken one after another. -/
def after (s : Service) (steps : List Step) : Service := steps.foldl (fun s x => (s.take x).2) s

end Service

namespace Books.Coherent

open Operation

variable {s : Service}

/-- What an operation ends with may be put in another form. -/
theorem of_map {α β : Type} {op : Operation α} (f : α → β) (h : op.Along KeepsNames)
    (coherent : s.books.Coherent) : ((f <$> op).run s).2.books.Coherent := by
  have keeps : (op >>= fun a => pure (f a)).Along KeepsNames := h.bind fun _ => along_pure _
  exact coherent.along (keeps.run KeepsNames.isCourse s)

theorem take (h : s.books.Coherent) (x : Step) : (s.take x).2.books.Coherent := by
  cases x with
  | call r asked => exact (Ends.map (Q := fun t => t.books.Coherent) (coherent_request h r) :)
  | leaderboard game viewer =>
    exact of_map _ (.bind (along_view KeepsNames.carries.toCarriesRooms game viewer) fun _ => along_pure _) h
  | word game viewer =>
    exact of_map _ (.bind (along_view KeepsNames.carries.toCarriesRooms game viewer) fun _ => along_pure _) h
  | due time e =>
    simp only [Service.take]
    split
    · exact of_map (s := s.without (.timer time e)) _ (along_ofEvent KeepsNames.carries.toCarriesRooms e) h
    · exact h
  | elsewhere change idle =>
    have same : (change s).books = s.books := (congrArg Service.books (idle.books s s.books) :)
    show (change s).books.Coherent
    rw [same]
    exact h

theorem after (h : s.books.Coherent) (steps : List Step) : (s.after steps).books.Coherent := by
  induction steps generalizing s with
  | nil => exact h
  | cons x steps ih => exact ih (h.take x)

/-- A blank store names nobody. -/
theorem of_isBlank {b : Books} (blank : b.store.IsBlank) (injective : Function.Injective b.supply.id)
    (clock : (∃ r, b.store = .relational r) → b.supply.RunsOn) : b.Coherent where
  named := ⟨{}, .of_isBlank blank, fun _ mem => by cases mem⟩
  drew u hu := by
    have holds : b.store.Holds b.supply b.drawn {} := .of_isBlank blank
    have none : b.ledger.users = [] := holds.users
    rw [none] at hu
    cases hu
  injective := injective
  clock := clock

end Books.Coherent

end GuessingRoom
