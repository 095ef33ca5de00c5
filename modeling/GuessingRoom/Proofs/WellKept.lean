import GuessingRoom.Proofs.HealthyStores
import GuessingRoom.Proofs.ScoreIntegrity
import GuessingRoom.Proofs.TwinBooks
import GuessingRoom.Proofs.WellFormed

/-!
# Well-kept books

Books are well kept if their ledger is well-formed, their store healthy, and users and games are told
apart by their identifiers. On well-kept books every entry of the game is safe (`Entry.Safe`), given
that what it goes by has been looked up before: it leaves well-kept books in which nothing has gone,
and if it fails then not through a fault of the program (`GameError.isFault`).
-/

namespace GuessingRoom

/-- Whether the error tells of a fault of the program: rows that ought to be there are not, or the
store fails. -/
def GameError.isFault : GameError → Bool
  | turnNotFound _ | wordNotFound _ | noWords | persistence _ => true
  | _ => false

/-- No user and no game is there twice, and the next identifiers to be drawn are no games'. -/
structure Ledger.Keyed (id : Nat → Id) (drawn : Nat) (l : Ledger) : Prop where
  injective : Function.Injective id
  users_nodup : l.users.Nodup
  games_nodup : l.games.Nodup
  games_drawn : ∀ g ∈ l.games, ∃ n < drawn, g = id n

namespace Books

open Entry

/-! ## Users, games and seats -/

/-- Between the first books and the second ones users, games and seats were at most added, and the
store has stayed healthy. -/
structure Spreads (b b' : Books) : Prop where
  supply : b'.supply = b.supply
  drawn : b.drawn ≤ b'.drawn
  within : b.ledger.Within b'.ledger
  healthy : b.store.Healthy b.supply b.drawn → b'.store.Healthy b'.supply b'.drawn
  keyed : b.ledger.Keyed b.supply.id b.drawn → b'.ledger.Keyed b'.supply.id b'.drawn

namespace Spreads

variable {b b' : Books}

theorem isCourse : IsCourse Spreads where
  refl b := ⟨rfl, le_rfl, .refl _, id, id⟩
  trans h h' := ⟨h'.supply.trans h.supply, h.drawn.trans h'.drawn, h.within.trans h'.within,
    h'.healthy ∘ h.healthy, h'.keyed ∘ h.keyed⟩
  draw b := by
    refine ⟨rfl, Nat.le_succ _, .refl _, fun h => h.later (Nat.le_succ _), fun h => ?_⟩
    refine { h with games_drawn := fun g hg => ?_ }
    obtain ⟨n, lt, e⟩ := h.games_drawn g hg
    exact ⟨n, lt.trans (Nat.lt_succ_self _), e⟩
  commit b after h := by
    refine ⟨h.supply, h.drawn, ?_, fun healthy => (h.healthy healthy).commit, fun keyed => ?_⟩
    · rw [ledger_committed]
      exact h.within
    · rw [ledger_committed]
      exact h.keyed keyed
  abandon b after h := by
    refine ⟨h.supply, h.drawn, ?_, fun healthy => ?_, fun keyed => ?_⟩
    · rw [ledger_abandoned]
      exact .refl _
    · have later := healthy.later h.drawn
      rw [← h.supply] at later
      exact Store.Healthy.abandon later
    · rw [ledger_abandoned]
      refine ⟨h.supply ▸ keyed.injective, keyed.users_nodup, keyed.games_nodup, fun g hg => ?_⟩
      obtain ⟨n, lt, e⟩ := keyed.games_drawn g hg
      exact ⟨n, lt.trans_le h.drawn, h.supply ▸ e⟩

/-- A write with a stamp, by what it does to the ledger. -/
theorem of_write {w : Write} {made : Made} {store : Store}
    (put : w.make (b.supply.stamp b.drawn) b.store = .ok (made, store))
    (named : ∀ id nickname, w = .upsertUser id nickname → nickname ≠ "")
    (within : b.ledger.Within store.ledger)
    (users : b.ledger.users.Nodup → store.ledger.users.Nodup)
    (games : ∀ g, g ∈ store.ledger.games → g ∈ b.ledger.games ∨ g = b.freshId)
    (nodup : b.freshId ∉ b.ledger.games → b.ledger.games.Nodup → store.ledger.games.Nodup) :
    b.Spreads { b with store, drawn := b.drawn + 1 } where
  supply := rfl
  drawn := Nat.le_succ _
  within := within
  healthy h := Write.make_healthy h named put
  keyed h := by
    refine ⟨h.injective, users h.users_nodup, nodup (fun mem => ?_) h.games_nodup, fun g hg => ?_⟩
    · obtain ⟨n, lt, e⟩ := h.games_drawn _ mem
      exact lt.ne' (h.injective e)
    · rcases games g hg with old | new
      · obtain ⟨n, lt, e⟩ := h.games_drawn g old
        exact ⟨n, lt.trans (Nat.lt_succ_self _), e⟩
      · exact ⟨b.drawn, Nat.lt_succ_self _, new⟩

/-- A write that puts down neither users nor games. -/
theorem of_other_write {w : Write} {made : Made} {store : Store}
    (put : w.make (b.supply.stamp b.drawn) b.store = .ok (made, store)) (other : w.isUpsert = false)
    (users : store.ledger.users = b.ledger.users) (games : store.ledger.games = b.ledger.games)
    (seats : ∀ game user, b.ledger.HasSeat game user → store.ledger.HasSeat game user) :
    b.Spreads { b with store, drawn := b.drawn + 1 } := by
  refine of_write put (by rintro _ _ rfl; cases other) ⟨?_, ?_, seats⟩ ?_ ?_ ?_
  · exact fun u hu => users ▸ hu
  · exact fun g hg => games ▸ hg
  · exact fun h => users ▸ h
  · exact fun g hg => .inl (games ▸ hg)
  · exact fun _ h => games ▸ h

theorem along_upsertUser (id : Id) {nickname : String} (given : nickname ≠ "") :
    (Entry.upsertUser id nickname).Along Spreads := by
  apply along_stamped isCourse
  intro b u b' h
  change (Entry.upsertUser id nickname).Yields b u b' at h
  obtain ⟨rfl, put⟩ := upsertUser_makes h
  have named : ∀ i n, Write.upsertUser id nickname = .upsertUser i n → n ≠ "" := by
    rintro _ _ ⟨⟩
    exact given
  rcases b.store.ledger_upsertUser id nickname (b.supply.time b.drawn) with ⟨-, e⟩ | ⟨new, e⟩
  · refine of_write put named ?_ ?_ ?_ ?_ <;> rw [e]
    · exact .refl _
    · exact fun h => h
    · exact fun g hg => .inl hg
    · exact fun _ h => h
  · refine of_write put named ?_ ?_ ?_ ?_ <;> rw [e]
    · exact ⟨fun u hu => List.mem_append_left _ hu, fun _ hg => hg, fun _ _ hs => hs⟩
    · exact fun h => List.nodup_append_comm.1 (List.nodup_cons.2 ⟨new, h⟩)
    · exact fun g hg => .inl hg
    · exact fun _ h => h

theorem carries : CarriesGames Spreads where
  toIsCourse := isCourse
  createGame := by
    apply along_stamped isCourse
    intro b game b' h
    obtain ⟨-, store, rfl, e⟩ := createGame_yields h
    refine of_write (createGame_makes h) (by rintro _ _ ⟨⟩) ?_ ?_ ?_ ?_ <;> rw [e]
    · exact ⟨fun _ => id, fun g hg => List.mem_append_left _ hg, fun _ _ => id⟩
    · exact id
    · exact fun g hg => (List.mem_append.1 hg).imp id List.mem_singleton.1
    · exact fun new h => List.nodup_append_comm.1 (List.nodup_cons.2 ⟨new, h⟩)
  addPlayer game user := by
    apply along_stamped isCourse
    intro b u b' h
    obtain ⟨-, store, rfl, e⟩ := addPlayer_yields h
    refine of_other_write (addPlayer_makes h) rfl (by rw [e]) (by rw [e]) fun _ _ seat => ?_
    rw [e]
    exact seat.append _
  setState game user state := by
    apply along_write isCourse
    intro b u b' h
    obtain ⟨store, rfl, e⟩ := setState_yields h
    obtain ⟨set, -⟩ := setState_makes h
    refine ⟨rfl, le_rfl, ?_, fun h => h.setState set, fun h => ?_⟩
    · show b.ledger.Within store.ledger
      rw [e]
      exact ⟨fun _ => id, fun _ => id, fun _ _ => Ledger.hasSeat_map_withTaken.2⟩
    · show store.ledger.Keyed _ _
      rw [e]
      exact { h with }
  addTurn game word := by
    apply along_stamped isCourse
    intro b turn b' h
    obtain ⟨-, store, rfl, e⟩ := addTurn_yields h
    refine of_other_write (addTurn_makes h) rfl (by rw [e]) (by rw [e]) fun _ _ seat => ?_
    rw [e]
    exact seat
  addMessage game turn player content := by
    apply along_stamped isCourse
    intro b message b' h
    obtain ⟨-, store, rfl, e⟩ := addMessage_yields h
    refine of_other_write (addMessage_makes h) rfl (by rw [e]) (by rw [e]) fun _ _ seat => ?_
    rw [e]
    exact seat

theorem along_addScore (award : Award) : (addScore award).Along Spreads := by
  apply along_stamped isCourse
  intro b u b' h
  obtain ⟨store, rfl, e⟩ := addScore_yields h
  refine of_other_write (addScore_makes h) rfl (by rw [e]) (by rw [e]) fun _ _ seat => ?_
  rw [e]
  exact seat

end Spreads

/-! ## Well-kept books -/

structure WellKept (b : Books) : Prop where
  wellFormed : b.ledger.WellFormed
  healthy : b.store.Healthy b.supply b.drawn
  keyed : b.ledger.Keyed b.supply.id b.drawn
  integrity : b.Integrity
  worded : b.ledger.words ≠ []
  distinct : (b.ledger.words.map (·.id)).Nodup

/-- Between the first books and the second ones rows were at most added, of whatever table. -/
structure Extends (b b' : Books) : Prop extends Grows b b' where
  within : b.ledger.Within b'.ledger

theorem Extends.refl (b : Books) : b.Extends b := ⟨.refl b, .refl _⟩

theorem Extends.trans {a b c : Books} (h : a.Extends b) (h' : b.Extends c) : a.Extends c :=
  ⟨h.toGrows.trans h'.toGrows, h.within.trans h'.within⟩

namespace WellKept

variable {b b' : Books} (h : b.WellKept)
include h

theorem fresh_game : b.freshId ∉ b.ledger.games := by
  intro mem
  obtain ⟨n, lt, e⟩ := h.keyed.games_drawn _ mem
  exact lt.ne' (h.keyed.injective e)

theorem fresh_round {n : Nat} (later : b.drawn ≤ n) :
    ∀ r ∈ b.ledger.rounds, r.id ≠ b.supply.id n := by
  intro r hr
  exact Ledger.IsDrawn.ne_of_le h.keyed.injective (h.integrity.rounds_drawn r hr) later

theorem fresh_line : ∀ l ∈ b.ledger.lines, l.id ≠ b.supply.id b.drawn := by
  intro l hl
  exact Ledger.IsDrawn.ne_of_le h.keyed.injective (h.integrity.lines_drawn l hl) le_rfl

theorem legible : b.store.Legible := h.healthy.legible fun seat hs => (h.wellFormed.seats seat hs).2

/-- Books that extend well-kept ones are well kept as long as their ledger is well-formed. -/
theorem of_advances (advances : b.Advances b') (spreads : b.Spreads b')
    (wellFormed : b'.ledger.WellFormed) : b.Extends b' ∧ b'.WellKept :=
  ⟨⟨advances.1, spreads.within⟩, wellFormed, spreads.healthy h.healthy, spreads.keyed h.keyed,
    advances.2 h.integrity, advances.1.words ▸ h.worded, advances.1.words ▸ h.distinct⟩

end WellKept

end Books

/-! ## Entries without faults -/

namespace Entry

variable {α β : Type} {b : Books}

/-- The entry does not fail through a fault. -/
def Fine (e : Entry α) (b : Books) : Prop := ∀ x b', e.Fails b x b' → x.isFault = false

theorem fine_pure (a : α) : (pure a : Entry α).Fine b := by
  rintro x b' ⟨⟩

theorem fine_throw {x : GameError} (h : x.isFault = false) : (throw x : Entry α).Fine b := by
  rintro y b' ⟨⟩
  exact h

theorem Fine.bind {e : Entry α} {k : α → Entry β} (first : e.Fine b)
    (rest : ∀ a b', e.Yields b a b' → (k a).Fine b') : (e >>= k).Fine b := by
  intro x b' f
  rcases fails_bind.1 f with f | ⟨a, b₁, y, f⟩
  · exact first x b' f
  · exact rest a b₁ y x b' f

theorem Fine.check {p : Prop} [Decidable p] {x : GameError} {k : β → Entry α} {e : Entry α}
    (h : x.isFault = false) (passes : ¬ p → e.Fine b) :
    (if p then throw x >>= k else e : Entry α).Fine b := by
  split
  · exact (fine_throw h).bind fun _ _ y => absurd y yields_throw
  · rename_i not
    exact passes not

theorem fine_look {query : Store → Except Failure α} (h : ∃ a, query b.store = .ok a) :
    (look query).Fine b := by
  obtain ⟨a, found⟩ := h
  intro x b' f
  unfold Fails look at f
  rw [found] at f
  cases f

theorem fine_write {change : Store → Except Failure (α × Store)}
    (h : ∃ made, change b.store = .ok made) : (write change).Fine b := by
  obtain ⟨⟨a, store⟩, made⟩ := h
  intro x b' f
  unfold Fails write at f
  rw [made] at f
  cases f

theorem fine_put {change : Store → Except Failure Store} (h : ∃ store, change b.store = .ok store) :
    (put change).Fine b := by
  obtain ⟨store, made⟩ := h
  exact fine_write ⟨((), store), by rw [made]; rfl⟩

theorem fine_stamped {k : Stamp → Entry α}
    (h : (k (b.supply.stamp b.drawn)).Fine { b with drawn := b.drawn + 1 }) :
    (stamp >>= k).Fine b := by
  refine Fine.bind (fun x b' f => by cases f) fun s b' y => ?_
  obtain ⟨rfl, rfl⟩ := yields_stamp.1 y
  exact h

theorem Fine.inUnit {e : Entry α} (h : e.Fine b) : (inUnit e).Fine b := by
  intro x b' f
  obtain ⟨after, f, -⟩ := fails_inUnit.1 f
  exact h x after f

/-- A row that is not there is no fault if the error that tells so is none. -/
theorem fine_require {query : Store → Except Failure (Option α)} {k : Option α → Entry α}
    (h : ∃ a, query b.store = .ok a) (there : ∀ a, k (some a) = pure a)
    (missing : query b.store = .ok none → (k none).Fine b) : (look query >>= k).Fine b := by
  refine (fine_look h).bind fun a b' y => ?_
  obtain ⟨found, rfl⟩ := yields_look.1 y
  cases a with
  | some a =>
    rw [there]
    exact fine_pure a
  | none => exact missing found

/-! ## Entries on well-kept books -/

section WellKept

variable (kept : b.WellKept) {game user : Id}
include kept

theorem fine_requireUser (id : Id) : (requireUser id).Fine b :=
  fine_require (kept.healthy.findUser id) (fun _ => rfl) fun _ => fine_throw rfl

theorem fine_requireGame (id : Id) : (requireGame id).Fine b :=
  fine_require (kept.healthy.findGame id) (fun _ => rfl) fun _ => fine_throw rfl

/-- A game that is there has a turn. -/
theorem fine_requireTurn (there : game ∈ b.ledger.games) : (requireTurn game).Fine b := by
  obtain ⟨turn, read, some_turn⟩ := kept.healthy.latestTurn game
  refine fine_require ⟨turn, read⟩ (fun _ => rfl) fun none => ?_
  rw [read, Except.ok.injEq] at none
  obtain ⟨_, r, hr, -, here⟩ := kept.wellFormed.begun game there
  have := some_turn ⟨r, hr, here⟩
  rw [none] at this
  cases this

omit kept in
theorem fine_requireWord {id : Id} (listed : b.ledger.HasWord id) : (requireWord id).Fine b := by
  refine fine_require ⟨_, rfl⟩ (fun _ => rfl) fun none => ?_
  obtain ⟨w, hw, named⟩ := listed
  simp only [Except.ok.injEq, Store.findWord_eq, List.find?_eq_none, beq_iff_eq] at none
  exact absurd named (none w hw)

theorem fine_players (game : Id) : (look (·.players game)).Fine b := by
  obtain ⟨players, read, -⟩ := kept.legible.players game
  exact fine_look ⟨players, read⟩

theorem fine_activePlayers (game : Id) : (look (·.activePlayers game)).Fine b := by
  obtain ⟨active, read, -⟩ := kept.legible.activePlayers game
  exact fine_look ⟨active, read⟩

theorem fine_drawWord : drawWord.Fine b :=
  fun _ _ f => absurd (drawWord_fails f).1 kept.worded

theorem fine_openGame {word : Word} (known : user ∈ b.ledger.users)
    (listed : b.ledger.HasWord word.id) : (Operation.openGame user word).Fine b := by
  have create : createGame.Fine b :=
    fine_stamped (fine_write (kept.healthy.exists_createGame _ kept.fresh_game))
  refine create.bind fun g b₁ y₁ => ?_
  have healthy₁ := (Books.Spreads.carries.createGame.yields y₁).healthy kept.healthy
  obtain ⟨named, store₁, rfl, e₁⟩ := createGame_yields y₁
  have add : (addPlayer g.id user).Fine { b with store := store₁, drawn := b.drawn + 1 } := by
    refine fine_stamped (fine_put (healthy₁.exists_addPlayer _ ?_ ?_ ?_)) <;> rw [e₁]
    · exact known
    · exact List.mem_append_right _ (List.mem_singleton.2 named)
    · rintro ⟨seat, hs, here, -⟩
      exact kept.fresh_game (named ▸ here ▸ (kept.wellFormed.seats seat hs).1)
  refine add.bind fun _ b₂ y₂ => ?_
  have healthy₂ := ((Books.Spreads.carries.addPlayer g.id user).yields y₂).healthy healthy₁
  obtain ⟨-, store₂, rfl, e₂⟩ := addPlayer_yields y₂
  have begin_ : (addTurn g.id word.id).Fine { b with store := store₂, drawn := b.drawn + 1 + 1 } := by
    refine fine_stamped (fine_write (healthy₂.exists_addTurn _ ?_ ?_ ?_)) <;>
      simp only [e₂, Books.ledger, e₁]
    · exact kept.fresh_round (by omega)
    · exact List.mem_append_right _ (List.mem_singleton.2 named)
    · exact listed
  exact begin_.bind fun _ _ _ => fine_pure g

/-- Whoever has no player has no seat. -/
theorem not_hasSeat {players : List Player} (read : b.store.players game = .ok players)
    (absent : players.find? (·.id == user) = none) : ¬ b.ledger.HasSeat game user := by
  rintro ⟨seat, hs, here, its⟩
  exact kept.legible.no_seat read absent seat hs here its

theorem hasSeat_of_player {players : List Player} {p : Player}
    (read : b.store.players game = .ok players) (found : players.find? (·.id == user) = some p) :
    b.ledger.HasSeat game user := ⟨_, kept.legible.mem_seats read found, rfl, rfl⟩

theorem hasSeat_of_active {active : List Player} (read : b.store.activePlayers game = .ok active)
    (seated : active.any (·.id == user) = true) : b.ledger.HasSeat game user := by
  obtain ⟨active', read', shown⟩ := kept.legible.activePlayers game
  obtain rfl : active = active' := by simpa [read] using read'
  obtain ⟨p, hp, e⟩ := List.any_eq_true.1 seated
  have mem := shown.mem_iff.1 (List.mem_map_of_mem hp)
  simp only [Ledger.seated, List.mem_map, List.mem_filter, Bool.and_eq_true, beq_iff_eq] at mem
  obtain ⟨seat, ⟨hs, here, -⟩, same⟩ := mem
  exact ⟨seat, hs, here, same.trans (beq_iff_eq.1 e)⟩

theorem fine_takeSeat (settings : RoomSettings) {u : User} (known : u.id ∈ b.ledger.users)
    (there : game ∈ b.ledger.games) : (Operation.takeSeat settings game u).Fine b := by
  refine (fine_players kept game).bind fun players b' y => ?_
  obtain ⟨read, rfl⟩ := yields_look.1 y
  refine .check rfl fun _ => .check rfl fun _ => ?_
  split
  · rename_i p found
    exact fine_put (Store.Healthy.exists_setState _ (hasSeat_of_player kept read found))
  · rename_i absent
    exact fine_stamped
      (fine_put (kept.healthy.exists_addPlayer _ known there (not_hasSeat kept read absent)))

theorem fine_addMessage {turn : Id} (content : String) (begun : b.ledger.HasTurn game turn)
    (seated : b.ledger.HasSeat game user) : (addMessage game turn user content).Fine b := by
  obtain ⟨r, hr, id_eq, -⟩ := begun
  obtain ⟨seat, hs, rfl, rfl⟩ := seated
  have ⟨there, known⟩ := kept.wellFormed.seats seat hs
  exact fine_stamped (fine_write
    (kept.healthy.exists_addMessage _ content kept.fresh_line there ⟨r, hr, id_eq⟩ known))

theorem fine_judge (settings : RoomSettings) {turn : Turn} {word : Word} {u : User}
    (content : String) (begun : b.ledger.HasTurn game turn.id) :
    (judge settings game turn word u content).Fine b := by
  refine (fine_activePlayers kept game).bind fun active b' y => ?_
  obtain ⟨read, rfl⟩ := yields_look.1 y
  refine .check rfl fun seated => ?_
  have seat := hasSeat_of_active kept read (by simpa using seated)
  refine (fine_addMessage kept content begun seat).bind fun m b₁ y₁ => ?_
  have healthy₁ := ((Books.Spreads.carries.addMessage game turn.id u.id content).yields y₁).healthy
    kept.healthy
  obtain ⟨line, store, rfl, e⟩ := addMessage_yields y₁
  split
  · exact fine_pure _
  obtain ⟨r, hr, id_eq, -⟩ := begun
  obtain ⟨seat, hs, rfl, user_eq⟩ := seat
  have ⟨there, known⟩ := kept.wellFormed.seats seat hs
  rw [user_eq] at known
  have legible : store.Legible := healthy₁.legible (by rw [e]; exact fun s hs =>
    (kept.wellFormed.seats s hs).2)
  refine (fine_look (legible.scores _)).bind fun scores b₂ y₂ => ?_
  obtain ⟨-, rfl⟩ := yields_look.1 y₂
  refine Fine.bind ?_ fun _ _ _ => fine_pure _
  unfold award
  split
  · exact fine_pure _
  refine Fine.bind (fine_stamped (fine_put (healthy₁.exists_addScore _ ?_ ?_ ?_ ?_)))
    fun _ _ _ => fine_pure _ <;> rw [e]
  · exact there
  · exact ⟨r, hr, id_eq⟩
  · exact known
  · have m_id : m.id = b.freshId := congrArg Line.id line
    exact ⟨_, List.mem_append_right _ (List.mem_singleton_self _), m_id.symm⟩

end WellKept

end Entry

end GuessingRoom
