import GuessingRoom.Proofs.Rows
import GuessingRoom.Proofs.Tidiness

/-!
# Models in relational tables

Every model has a row that tells all of it, as long as its times have no more than microseconds.
Relational tables that were filled by writes are the rows of such models (`MemoryTables.inRows`):
looking something up in them comes to the same as looking it up among the models, and writing to
them comes to the same as writing to the models, with times cut to the microsecond. Of the looks for
several rows this needs that the rows stand in the order of their times (`IsChronicle`).
-/

namespace GuessingRoom

open Time (Instant)

/-! ## Times -/

namespace Time.Instant

variable {t : Instant}

/-- The instant can be stored, and nothing of it is lost. -/
def IsExact (t : Instant) : Prop := isStorable t ∧ t.floorMicro = t

theorem isExact_floorMicro (h : isStorable t) : t.floorMicro.IsExact := by
  refine ⟨⟨h.1, h.2.1, ?_⟩, ?_⟩
  · have := h.2.2
    show t.nano / 1000 * 1000 < 1000000000
    omega
  · have twice : t.nano / 1000 * 1000 / 1000 * 1000 = t.nano / 1000 * 1000 := by
      rw [Nat.mul_div_cancel _ (by decide)]
    simp only [floorMicro, twice]

end Time.Instant

theorem Time.Instant.IsExact.parseTime {t : Instant} (h : t.IsExact) :
    parseTime t.stored = .ok t := by
  rw [parseTime_stored h.1, h.2]

/-- The times of draws, cut to the microsecond, in the order of the draws. -/
def IsChronicle (supply : Supply) (drawn : Nat) (times : List Instant) : Prop :=
  ∃ ns : List Nat, ns.Pairwise (· ≤ ·) ∧ (∀ n ∈ ns, n < drawn) ∧
    times = ns.map fun n => (supply.time n).floorMicro

namespace IsChronicle

variable {supply : Supply} {drawn : Nat} {times : List Instant}

theorem nil : IsChronicle supply drawn [] := ⟨[], .nil, by simp, rfl⟩

theorem later (h : IsChronicle supply drawn times) {k : Nat} (le : drawn ≤ k) :
    IsChronicle supply k times := by
  obtain ⟨ns, sorted, before, rfl⟩ := h
  exact ⟨ns, sorted, fun n mem => (before n mem).trans_le le, rfl⟩

theorem snoc (h : IsChronicle supply drawn times) :
    IsChronicle supply (drawn + 1) (times ++ [(supply.time drawn).floorMicro]) := by
  obtain ⟨ns, sorted, before, rfl⟩ := h
  refine ⟨ns ++ [drawn], ?_, ?_, by rw [List.map_append]; rfl⟩
  · refine List.pairwise_append.2 ⟨sorted, List.pairwise_singleton _ _, fun n mem k last => ?_⟩
    rw [List.mem_singleton.1 last]
    exact (before n mem).le
  · intro n mem
    rcases List.mem_append.1 mem with old | new
    · exact (before n old).trans (Nat.lt_succ_self _)
    · exact List.mem_singleton.1 new ▸ Nat.lt_succ_self _

theorem exact (h : IsChronicle supply drawn times) {t : Instant} (mem : t ∈ times) : t.IsExact := by
  obtain ⟨ns, -, -, rfl⟩ := h
  obtain ⟨n, -, rfl⟩ := List.mem_map.1 mem
  exact Instant.isExact_floorMicro (supply.storable n)

/-- Under a clock that runs on, texts of later times do not come first. -/
theorem ordered (h : IsChronicle supply drawn times) (clock : supply.RunsOn) :
    times.Pairwise fun t u => ¬ u.stored < t.stored := by
  obtain ⟨ns, sorted, -, rfl⟩ := h
  refine List.pairwise_map.2 (sorted.imp fun {m n} le => ?_)
  rw [Instant.stored_floorMicro, Instant.stored_floorMicro]
  exact Instant.not_stored_lt (Instant.inFourDigits_of_isStorable (supply.storable m))
    (Instant.inFourDigits_of_isStorable (supply.storable n)) (clock m n le)

end IsChronicle

/-! ## Rows of models -/

def User.row (u : User) : UserRow := ⟨u.id, u.nickname, u.createdAt.stored, u.updatedAt.stored⟩

def Game.row (g : Game) : GameRow := ⟨g.id, g.createdAt.stored, g.updatedAt.stored⟩

def Membership.row (m : Membership) : MemberRow :=
  ⟨m.gameId, m.player.id, m.player.state.name, m.player.joinedAt.stored⟩

def Turn.row (t : Turn) : TurnRow := ⟨t.id, t.gameId, t.wordId, t.createdAt.stored⟩

def Message.row (m : Message) : MessageRow :=
  ⟨m.id, m.gameId, m.turnId, m.playerId, m.content, m.createdAt.stored⟩

def Score.row (s : Score) : ScoreRow :=
  ⟨s.gameId, s.turnId, s.playerId, s.messageId, .whole s.points, s.createdAt.stored⟩

theorem User.toUser_row {u : User} (created : u.createdAt.IsExact) (updated : u.updatedAt.IsExact) :
    u.row.toUser = .ok u := by
  simp only [UserRow.toUser, row, created.parseTime, updated.parseTime]
  rfl

theorem Game.toGame_row {g : Game} (created : g.createdAt.IsExact) (updated : g.updatedAt.IsExact) :
    g.row.toGame = .ok g := by
  simp only [GameRow.toGame, row, created.parseTime, updated.parseTime]
  rfl

theorem Turn.toTurn_row {t : Turn} (h : t.createdAt.IsExact) : t.row.toTurn = .ok t := by
  simp only [TurnRow.toTurn, row, h.parseTime]
  rfl

theorem Message.toMessage_row {m : Message} (h : m.createdAt.IsExact) :
    m.row.toMessage = .ok m := by
  simp only [MessageRow.toMessage, row, h.parseTime]
  rfl

theorem Score.toScore_row {s : Score} (h : s.createdAt.IsExact) :
    s.row.toScore s.points = .ok s := by
  simp only [ScoreRow.toScore, row, h.parseTime]
  rfl

namespace MemoryTables

/-- The rows of all models. The nicknames of players are left to their users. -/
def inRows (words : List Word) (t : MemoryTables) : RelationalTables where
  users := t.users.map User.row
  games := t.games.map Game.row
  members := t.memberships.map Membership.row
  words := words
  turns := t.turns.map Turn.row
  messages := t.messages.map Message.row
  scores := t.scores.map Score.row

/-- The models tell the times of draws, and stand in their order where that matters. -/
structure Chronicled (supply : Supply) (drawn : Nat) (t : MemoryTables) : Prop where
  users : ∀ u ∈ t.users, u.createdAt.IsExact ∧ u.updatedAt.IsExact
  games : ∀ g ∈ t.games, g.createdAt.IsExact ∧ g.updatedAt.IsExact
  memberships : IsChronicle supply drawn (t.memberships.map (·.player.joinedAt))
  turns : IsChronicle supply drawn (t.turns.map (·.createdAt))
  messages : IsChronicle supply drawn (t.messages.map (·.createdAt))
  scores : IsChronicle supply drawn (t.scores.map (·.createdAt))

theorem Chronicled.empty {supply : Supply} {drawn : Nat} :
    ({} : MemoryTables).Chronicled supply drawn where
  users := by simp
  games := by simp
  memberships := .nil
  turns := .nil
  messages := .nil
  scores := .nil

theorem Chronicled.later {supply : Supply} {drawn k : Nat} {t : MemoryTables}
    (h : t.Chronicled supply drawn) (le : drawn ≤ k) : t.Chronicled supply k :=
  { h with
    memberships := h.memberships.later le
    turns := h.turns.later le
    messages := h.messages.later le
    scores := h.scores.later le }

end MemoryTables

/-! ## Looks -/

section Reading

variable {ε α β : Type}

/-- A list whose items can all be read is read item by item. -/
theorem mapM_eq_ok_map {read : α → Except ε β} (model : α → β) :
    ∀ {l : List α}, (∀ a ∈ l, read a = .ok (model a)) → l.mapM read = .ok (l.map model)
  | [], _ => rfl
  | a :: l, h => by
      rw [List.mapM_cons, h a List.mem_cons_self]
      refine bind_eq_ok_iff.2 ⟨model a, rfl, bind_eq_ok_iff.2 ⟨l.map model, ?_, rfl⟩⟩
      exact mapM_eq_ok_map model fun b mem => h b (List.mem_cons_of_mem a mem)

theorem mapM_map_eq_ok {row : α → β} {read : β → Except ε α} {l : List α}
    (h : ∀ a ∈ l, read (row a) = .ok a) : (l.map row).mapM read = .ok l := by
  rw [List.mapM_map]
  exact (mapM_eq_ok_map id h).trans (congrArg Except.ok (List.map_id l))

/-- A choice among rows that are in the order of their times leaves them in that order. -/
theorem orderedBy_filter_map (key : β → String) (row : α → β) {supply : Supply} {drawn : Nat}
    {time : α → Instant} {l : List α} (h : IsChronicle supply drawn (l.map time))
    (clock : supply.RunsOn) (told : ∀ a, key (row a) = (time a).stored) {p : β → Bool}
    {q : α → Bool} (chosen : ∀ a, p (row a) = q a) :
    orderedBy key ((l.map row).filter p) = (l.filter q).map row := by
  have same : p ∘ row = q := funext chosen
  rw [List.filter_map, same]
  apply orderedBy_eq_self
  have ordered := List.pairwise_map.1 (h.ordered clock)
  refine List.pairwise_map.2 ((ordered.filter _).imp fun {a b} => ?_)
  rw [told a, told b]
  exact id

end Reading

namespace MemoryTables

variable {supply : Supply} {drawn : Nat} {t : MemoryTables} (words : List Word)

theorem findUser_inRows (h : t.Chronicled supply drawn) (id : Id) :
    (t.inRows words).findUser id = .ok (t.findUser id) := by
  have same : (t.inRows words).users.find? (·.id == id) =
      (t.users.find? (·.id == id)).map User.row := List.find?_map
  simp only [RelationalTables.findUser, findUser, same]
  cases found : t.users.find? (·.id == id) with
  | none => rfl
  | some u =>
    obtain ⟨created, updated⟩ := h.users u (List.mem_of_find?_eq_some found)
    exact congrArg (Except.map some) (User.toUser_row created updated)

theorem findGame_inRows (h : t.Chronicled supply drawn) (id : Id) :
    (t.inRows words).findGame id = .ok (t.findGame id) := by
  have same : (t.inRows words).games.find? (·.id == id) =
      (t.games.find? (·.id == id)).map Game.row := List.find?_map
  simp only [RelationalTables.findGame, findGame, same]
  cases found : t.games.find? (·.id == id) with
  | none => rfl
  | some g =>
    obtain ⟨created, updated⟩ := h.games g (List.mem_of_find?_eq_some found)
    exact congrArg (Except.map some) (Game.toGame_row created updated)

theorem latestTurn_inRows (h : t.Chronicled supply drawn) (clock : supply.RunsOn) (game : Id) :
    (t.inRows words).latestTurn game = .ok (t.latestTurn game) := by
  have same : orderedBy TurnRow.createdAt ((t.turns.map Turn.row).filter (·.gameId == game)) =
      (t.turns.filter (·.gameId == game)).map Turn.row :=
    orderedBy_filter_map TurnRow.createdAt Turn.row h.turns clock (fun _ => rfl) fun _ => rfl
  simp only [RelationalTables.latestTurn, latestTurn, inRows, same, List.getLast?_map]
  cases found : (t.turns.filter (·.gameId == game)).getLast? with
  | none => rfl
  | some turn =>
    have exact := h.turns.exact
      (List.mem_map_of_mem (List.mem_of_mem_filter (List.mem_of_getLast? found)))
    exact congrArg (Except.map some) (Turn.toTurn_row exact)

theorem messagesOf_inRows (h : t.Chronicled supply drawn) (clock : supply.RunsOn) (game : Id) :
    (t.inRows words).messagesOf game = .ok (t.messagesOf game) := by
  have same : orderedBy MessageRow.createdAt
      ((t.messages.map Message.row).filter (·.gameId == game)) =
      (t.messages.filter (·.gameId == game)).map Message.row :=
    orderedBy_filter_map MessageRow.createdAt Message.row h.messages clock (fun _ => rfl) fun _ => rfl
  simp only [RelationalTables.messagesOf, messagesOf, inRows, same]
  exact mapM_map_eq_ok fun m mem =>
    Message.toMessage_row (h.messages.exact (List.mem_map_of_mem (List.mem_of_mem_filter mem)))

theorem scoresOf_inRows (h : t.Chronicled supply drawn) (clock : supply.RunsOn) (game : Id) :
    (t.inRows words).scoresOf game = .ok (t.scoresOf game) := by
  have same : orderedBy ScoreRow.createdAt ((t.scores.map Score.row).filter (·.gameId == game)) =
      (t.scores.filter (·.gameId == game)).map Score.row :=
    orderedBy_filter_map ScoreRow.createdAt Score.row h.scores clock (fun _ => rfl) fun _ => rfl
  simp only [RelationalTables.scoresOf, scoresOf, inRows, same]
  refine bind_eq_ok_iff.2 ⟨(t.scores.filter (·.gameId == game)).map fun s => (s.row, s.points), ?_, ?_⟩
  · rw [List.mapM_map]
    exact mapM_eq_ok_map _ fun _ _ => rfl
  · exact mapM_map_eq_ok fun s mem =>
      Score.toScore_row (h.scores.exact (List.mem_map_of_mem (List.mem_of_mem_filter mem)))

/-- The nicknames that players have taken are those of their users. -/
def Named (t : MemoryTables) : Prop :=
  ∀ m ∈ t.memberships, ∃ u, t.findUser m.player.id = some u ∧ u.nickname = m.player.nickname

theorem joinNickname_inRows (named : t.Named) {m : Membership} (mem : m ∈ t.memberships) :
    (t.inRows words).joinNickname m.row =
      some ⟨m.player.id, m.player.nickname, m.player.state.name, m.player.joinedAt.stored⟩ := by
  obtain ⟨u, found, nickname⟩ := named m mem
  have same : (t.inRows words).users.find? (·.id == m.player.id) = some u.row := by
    rw [show (t.inRows words).users = t.users.map User.row from rfl, List.find?_map]
    exact congrArg (Option.map User.row) found
  unfold RelationalTables.joinNickname
  rw [show m.row.userId = m.player.id from rfl, same, ← nickname]
  rfl

theorem players_inRows (h : t.Chronicled supply drawn) (named : t.Named) (clock : supply.RunsOn)
    (game : Id) : (t.inRows words).players game = .ok (t.players game) := by
  have same : orderedBy MemberRow.joinedAt
      ((t.memberships.map Membership.row).filter (·.gameId == game)) =
      (t.memberships.filter (·.gameId == game)).map Membership.row :=
    orderedBy_filter_map MemberRow.joinedAt Membership.row h.memberships clock (fun _ => rfl)
      fun _ => rfl
  have inside : ∀ m ∈ t.memberships.filter (·.gameId == game), m ∈ t.memberships :=
    fun m => List.mem_of_mem_filter
  have joined : (t.memberships.filter (·.gameId == game)).filterMap
      (fun m => (t.inRows words).joinNickname m.row) = (t.memberships.filter (·.gameId == game)).map
        fun m => ⟨m.player.id, m.player.nickname, m.player.state.name, m.player.joinedAt.stored⟩ := by
    rw [← List.map_id (List.filterMap _ _)]
    exact map_filterMap_of_some fun m mem => ⟨_, joinNickname_inRows words named (inside m mem), rfl⟩
  unfold RelationalTables.players
  rw [show (t.inRows words).members = t.memberships.map Membership.row from rfl, same,
    List.filterMap_map]
  show (List.filterMap (fun m : Membership => (t.inRows words).joinNickname m.row) _).mapM _ = _
  rw [joined, List.mapM_map]
  refine mapM_eq_ok_map Membership.player fun m mem => ?_
  have exact := h.memberships.exact (List.mem_map_of_mem (inside m mem))
  show PlayerRow.toPlayer ⟨_, _, _, _⟩ = _
  simp only [PlayerRow.toPlayer, PlayerState.ofName?_name, exact.parseTime]
  rfl

/-! ## Keys and references -/

theorem hasUser_inRows (id : Id) : (t.inRows words).hasUser id = t.users.any (·.id == id) := by
  simp only [RelationalTables.hasUser, inRows, List.any_map]
  rfl

theorem hasGame_inRows (id : Id) : (t.inRows words).hasGame id = t.games.any (·.id == id) := by
  simp only [RelationalTables.hasGame, inRows, List.any_map]
  rfl

theorem hasTurn_inRows (id : Id) : (t.inRows words).hasTurn id = t.turns.any (·.id == id) := by
  simp only [RelationalTables.hasTurn, inRows, List.any_map]
  rfl

theorem hasMessage_inRows (id : Id) :
    (t.inRows words).hasMessage id = t.messages.any (·.id == id) := by
  simp only [RelationalTables.hasMessage, inRows, List.any_map]
  rfl

theorem isMember_inRows (game user : Id) :
    (t.inRows words).isMember game user = t.memberships.any (·.isOf game user) := by
  simp only [RelationalTables.isMember, inRows, List.any_map]
  rfl

end MemoryTables

/-! ## Writes -/

/-- A check before a result, seen from the side on which it is passed. -/
theorem ite_not_throw {α β : Type} {b : Bool} {e : Failure} {k : β → Except Failure α}
    {x : Except Failure α} :
    (if !b then throw e >>= k else x) = if b then x else .error e := by
  cases b <;> rfl

namespace MemoryTables

variable {t : MemoryTables} (words : List Word)

section Stamped

variable {time : Instant} (storable : isStorable time)
include storable

omit storable in
theorem upsertUser_inRows (id : Id) (nickname : String) :
    (t.inRows words).upsertUser id nickname time =
      (t.upsertUser id nickname time.floorMicro).inRows words := by
  have known : (t.inRows words).hasUser id = (t.findUser id).isSome := by
    rw [hasUser_inRows, findUser, List.isSome_find?]
  have renamed (u : User) : (if u.row.id == id then RelationalTables.renamed nickname time u.row
      else u.row) = (if u.id == id then rename nickname time.floorMicro u else u).row := by
    show (if u.id == id then _ else _) = _
    split
    · simp only [RelationalTables.renamed, rename, User.row, Instant.stored_floorMicro]
    · rfl
  unfold RelationalTables.upsertUser upsertUser
  rw [known]
  split
  · simp only [inRows, List.map_map, Function.comp_def, renamed]
  · simp only [inRows, List.map_append, List.map_cons, List.map_nil, User.row,
      Instant.stored_floorMicro]

theorem createGame_inRows (id : Id) : (t.inRows words).createGame ⟨id, time⟩ =
    if (t.inRows words).hasGame id then .error (.duplicateKey "games.id")
    else .ok ((t.createGame ⟨id, time.floorMicro⟩).1,
      (t.createGame ⟨id, time.floorMicro⟩).2.inRows words) := by
  unfold RelationalTables.createGame
  split
  · rfl
  · have exact := Instant.isExact_floorMicro storable
    have row : (⟨id, time.stored, time.stored⟩ : GameRow) =
        (t.createGame ⟨id, time.floorMicro⟩).1.row := by
      simp only [createGame, Game.row, Instant.stored_floorMicro]
    dsimp only
    rw [row, Game.toGame_row exact exact]
    simp only [inRows, createGame, List.map_append, List.map_cons, List.map_nil]
    rfl

omit storable in
theorem addPlayer_inRows (game user : Id) (nickname : String) :
    (t.inRows words).addPlayer game user time =
      if (t.inRows words).isMember game user then
        .error (.duplicateKey "players.game_id, players.user_id")
      else if (t.inRows words).hasGame game && (t.inRows words).hasUser user then
        .ok (inRows words { t with memberships :=
          t.memberships ++ [⟨game, ⟨user, nickname, .active, time.floorMicro⟩⟩] })
      else .error .brokenReference := by
  unfold RelationalTables.addPlayer
  split
  · rfl
  · rw [ite_not_throw]
    simp only [inRows, List.map_append, List.map_cons, List.map_nil, Membership.row,
      Instant.stored_floorMicro]
    rfl

theorem addTurn_inRows (id game word : Id) : (t.inRows words).addTurn game word ⟨id, time⟩ =
    if (t.inRows words).hasTurn id then .error (.duplicateKey "turns.id")
    else if (t.inRows words).hasGame game && (t.inRows words).hasWord word then
      .ok ((t.addTurn game word ⟨id, time.floorMicro⟩).1,
        (t.addTurn game word ⟨id, time.floorMicro⟩).2.inRows words)
    else .error .brokenReference := by
  unfold RelationalTables.addTurn
  split
  · rfl
  · have row : (⟨id, game, word, time.stored⟩ : TurnRow) =
        (t.addTurn game word ⟨id, time.floorMicro⟩).1.row := by
      simp only [addTurn, Turn.row, Instant.stored_floorMicro]
    dsimp only
    rw [ite_not_throw, row, Turn.toTurn_row (Instant.isExact_floorMicro storable)]
    simp only [inRows, addTurn, List.map_append, List.map_cons, List.map_nil]
    rfl

theorem addMessage_inRows (id game turn player : Id) (content : String) :
    (t.inRows words).addMessage game turn player content ⟨id, time⟩ =
      if (t.inRows words).hasMessage id then .error (.duplicateKey "messages.id")
      else if (t.inRows words).hasGame game && (t.inRows words).hasTurn turn &&
          (t.inRows words).hasUser player then
        .ok ((t.addMessage game turn player content ⟨id, time.floorMicro⟩).1,
          (t.addMessage game turn player content ⟨id, time.floorMicro⟩).2.inRows words)
      else .error .brokenReference := by
  unfold RelationalTables.addMessage
  split
  · rfl
  · have row : (⟨id, game, turn, player, content, time.stored⟩ : MessageRow) =
        (t.addMessage game turn player content ⟨id, time.floorMicro⟩).1.row := by
      simp only [addMessage, Message.row, Instant.stored_floorMicro]
    dsimp only
    rw [ite_not_throw, row, Message.toMessage_row (Instant.isExact_floorMicro storable)]
    simp only [inRows, addMessage, List.map_append, List.map_cons, List.map_nil]
    rfl

omit storable in
theorem addScore_inRows (award : Award) : (t.inRows words).addScore award time =
    if (t.inRows words).hasGame award.gameId && (t.inRows words).hasTurn award.turnId &&
        (t.inRows words).hasUser award.playerId && (t.inRows words).hasMessage award.messageId then
      .ok ((t.addScore award time.floorMicro).inRows words)
    else .error .brokenReference := by
  unfold RelationalTables.addScore
  rw [ite_not_throw]
  simp only [inRows, addScore, List.map_append, List.map_cons, List.map_nil, Score.row,
    Instant.stored_floorMicro]
  rfl

end Stamped

theorem setState_inRows (game user : Id) (state : PlayerState) :
    (t.inRows words).setState game user state =
      (t.setState game user state).map (inRows words) := by
  have moved (m : Membership) : (if m.row.gameId == game && m.row.userId == user then
      { m.row with state := state.name } else m.row) =
        (if m.isOf game user then m.withState state else m).row := by
    show (if m.isOf game user then _ else _) = _
    split <;> rfl
  unfold RelationalTables.setState setState
  rw [isMember_inRows]
  split
  · refine congrArg Except.ok ?_
    simp only [inRows, List.map_map, Function.comp_def, moved]
  · rfl

/-! ## Writes go on with the order of times -/

namespace Chronicled

variable {supply : Supply} {drawn : Nat} (h : t.Chronicled supply drawn)
include h

theorem upsertUser (id : Id) (nickname : String) :
    (t.upsertUser id nickname (supply.time drawn).floorMicro).Chronicled supply (drawn + 1) := by
  have now := Instant.isExact_floorMicro (supply.storable drawn)
  have later := h.later (Nat.le_succ drawn)
  unfold MemoryTables.upsertUser
  split
  · refine { later with users := fun u mem => ?_ }
    obtain ⟨v, known, rfl⟩ := List.mem_map.1 mem
    split
    · exact ⟨(h.users v known).1, now⟩
    · exact h.users v known
  · refine { later with users := fun u mem => ?_ }
    rcases List.mem_append.1 mem with old | new
    · exact h.users u old
    · rw [List.mem_singleton.1 new]
      exact ⟨now, now⟩

theorem createGame (id : Id) :
    (t.createGame ⟨id, (supply.time drawn).floorMicro⟩).2.Chronicled supply (drawn + 1) := by
  have now := Instant.isExact_floorMicro (supply.storable drawn)
  refine { h.later (Nat.le_succ drawn) with games := fun g mem => ?_ }
  rcases List.mem_append.1 mem with old | new
  · exact h.games g old
  · rw [List.mem_singleton.1 new]
    exact ⟨now, now⟩

theorem addMembership (game user : Id) (nickname : String) (state : PlayerState) :
    Chronicled supply (drawn + 1) { t with memberships := t.memberships ++
      [⟨game, ⟨user, nickname, state, (supply.time drawn).floorMicro⟩⟩] } := by
  refine { h.later (Nat.le_succ drawn) with memberships := ?_ }
  rw [List.map_append]
  exact h.memberships.snoc

theorem setState {game user : Id} {state : PlayerState} {t' : MemoryTables}
    (set : t.setState game user state = .ok t') : t'.Chronicled supply drawn := by
  unfold MemoryTables.setState at set
  split at set
  · cases set
    have same (m : Membership) :
        (if m.isOf game user then m.withState state else m).player.joinedAt = m.player.joinedAt := by
      split <;> rfl
    refine { h with memberships := ?_ }
    simp only [List.map_map, Function.comp_def, same]
    exact h.memberships
  · cases set

theorem addTurn (id game word : Id) :
    (t.addTurn game word ⟨id, (supply.time drawn).floorMicro⟩).2.Chronicled supply (drawn + 1) := by
  refine { h.later (Nat.le_succ drawn) with turns := ?_ }
  simp only [MemoryTables.addTurn, List.map_append]
  exact h.turns.snoc

theorem addMessage (id game turn player : Id) (content : String) :
    (t.addMessage game turn player content
      ⟨id, (supply.time drawn).floorMicro⟩).2.Chronicled supply (drawn + 1) := by
  refine { h.later (Nat.le_succ drawn) with messages := ?_ }
  simp only [MemoryTables.addMessage, List.map_append]
  exact h.messages.snoc

theorem addScore (award : Award) :
    (t.addScore award (supply.time drawn).floorMicro).Chronicled supply (drawn + 1) := by
  refine { h.later (Nat.le_succ drawn) with scores := ?_ }
  simp only [MemoryTables.addScore, List.map_append]
  exact h.scores.snoc

end Chronicled

end MemoryTables

/-! ## Stores that hold models -/

namespace Store

variable {supply : Supply} {drawn : Nat} {t : MemoryTables} {s : Store}

/-- The models are what the store keeps, be it as they are or in rows. -/
def Holds (s : Store) (supply : Supply) (drawn : Nat) (t : MemoryTables) : Prop :=
  match s with
  | memory m => m.tables = t
  | relational r => (∃ words, r = t.inRows words) ∧ t.Chronicled supply drawn

/-- No users, games and whatever belongs to them are in the store yet. -/
def IsBlank : Store → Prop
  | memory m => m.tables = {}
  | relational r => r = { words := r.words }

theorem IsBlank.ledger {s : Store} (h : s.IsBlank) :
    s.ledger = ⟨s.ledger.words, [], [], [], [], [], []⟩ := by
  cases s with
  | memory m =>
    have h : m.tables = {} := h
    simp [Store.ledger, MemoryTables.ledger, h]
  | relational t =>
    have h : t = { words := t.words } := h
    rw [h]
    rfl

namespace Holds

theorem of_isBlank (blank : s.IsBlank) : s.Holds supply drawn {} := by
  cases s with
  | memory m => exact blank
  | relational r => exact ⟨⟨r.words, blank⟩, .empty⟩

theorem later (h : s.Holds supply drawn t) {k : Nat} (le : drawn ≤ k) : s.Holds supply k t := by
  cases s with
  | memory m => exact h
  | relational r => exact ⟨h.1, h.2.later le⟩

theorem of_rows (h : s.Holds supply drawn t) {s' : Store} (rows : s'.rows = s.rows) :
    s'.Holds supply drawn t := by
  cases s with
  | memory m =>
    obtain ⟨_, _, _, rfl⟩ := eq_memory_of_rows rows
    exact h
  | relational r =>
    obtain rfl := eq_relational_of_rows rows
    exact h

theorem findUser (h : s.Holds supply drawn t) (id : Id) : s.findUser id = .ok (t.findUser id) := by
  cases s with
  | memory m =>
    obtain rfl := h
    rfl
  | relational r =>
    obtain ⟨⟨words, rfl⟩, chronicled⟩ := h
    exact MemoryTables.findUser_inRows words chronicled id

theorem findGame (h : s.Holds supply drawn t) (id : Id) : s.findGame id = .ok (t.findGame id) := by
  cases s with
  | memory m =>
    obtain rfl := h
    rfl
  | relational r =>
    obtain ⟨⟨words, rfl⟩, chronicled⟩ := h
    exact MemoryTables.findGame_inRows words chronicled id

theorem latestTurn (h : s.Holds supply drawn t) (clock : supply.RunsOn) (game : Id) :
    s.latestTurn game = .ok (t.latestTurn game) := by
  cases s with
  | memory m =>
    obtain rfl := h
    rfl
  | relational r =>
    obtain ⟨⟨words, rfl⟩, chronicled⟩ := h
    exact MemoryTables.latestTurn_inRows words chronicled clock game

theorem messages (h : s.Holds supply drawn t) (clock : supply.RunsOn) (game : Id) :
    s.messages game = .ok (t.messagesOf game) := by
  cases s with
  | memory m =>
    obtain rfl := h
    rfl
  | relational r =>
    obtain ⟨⟨words, rfl⟩, chronicled⟩ := h
    exact MemoryTables.messagesOf_inRows words chronicled clock game

end Holds

end Store

end GuessingRoom
