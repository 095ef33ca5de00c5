import GuessingRoom.Proofs.Coherence
import GuessingRoom.Proofs.Strides
import GuessingRoom.Proofs.WellFormedStore

/-!
# The capacity of rooms

However the steps of calls fall, no game has more active players than its room holds, or than the one
it was opened with. Whoever joins is seated exactly if there is room when the unit of work runs
(`rooms_hold_capacity`): a unit reads the seats that it goes by, and every other step that takes a
seat opens a game with it (`Service.Hosts.stride`).
-/

namespace GuessingRoom

/-! ## How many are seated -/

namespace Ledger

variable {l l' : Ledger} {game user : Id}

theorem seated_congr (seats : l'.seats = l.seats) (game : Id) : l'.seated game = l.seated game := by
  unfold seated
  rw [seats]

/-- One seat more at most is taken. -/
theorem length_seated_map_le (h : l.Settled) (g user : Id) (taken : Bool) (game : Id) :
    (seated { l with seats := l.seats.map (Seat.withTaken g user taken) } game).length ≤
      (l.seated game).length + if g = game ∧ taken = true then 1 else 0 := by
  by_cases here : g = game
  · subst here
    have nodup := nodup_seated (h.setSeat g user taken).one_seat g
    cases taken with
    | true =>
      have sub : seated { l with seats := l.seats.map (Seat.withTaken g user true) } g ⊆
          user :: l.seated g := by
        intro u mem
        rcases (mem_seats_map l.seats).1 (mem_seated.1 mem) with ⟨⟨-, rfl⟩, -⟩ | ⟨-, was⟩
        · exact List.mem_cons_self
        · exact List.mem_cons_of_mem _ (mem_seated.2 was)
      simpa using (nodup.subperm sub).length_le
    | false =>
      have sub : seated { l with seats := l.seats.map (Seat.withTaken g user false) } g ⊆
          l.seated g := by
        intro u mem
        rcases (mem_seats_map l.seats).1 (mem_seated.1 mem) with ⟨-, never, -⟩ | ⟨-, was⟩
        · cases never
        · exact mem_seated.2 was
      simpa using (nodup.subperm sub).length_le
  · rw [seated_map_of_ne l taken here]
    exact Nat.le_add_right _ _

theorem length_seated_append (l : Ledger) (g user game : Id) :
    (seated { l with seats := l.seats ++ [⟨g, user, true⟩] } game).length =
      (l.seated game).length + if g = game then 1 else 0 := by
  rw [seated_append, List.length_append]
  split <;> rfl

end Ledger

namespace Books.SeatChange

variable {kicks : Id → Id → Prop} {capacity bound : Nat} {b b' : Books}

/-- No step seats more users in a game than there is room for. -/
theorem length_seated_le (h : b.SeatChange kicks capacity b') (seating : b.Seating)
    (injective : Function.Injective b.supply.id) (capacity_le : capacity ≤ bound)
    (one_le : 1 ≤ bound) (room : ∀ game, (b.ledger.seated game).length ≤ bound) (game : Id) :
    (b'.ledger.seated game).length ≤ bound := by
  have kept := room game
  cases h with
  | stay seats =>
    rw [Ledger.seated_congr seats]
    exact kept
  | opens n user fresh seats =>
    rw [Ledger.seated_congr (l := { b.ledger with seats := _ }) seats, Ledger.length_seated_append]
    split
    · rename_i here
      subst here
      rw [seating.seated_fresh injective fresh]
      exact one_le
    · exact kept
  | enters g user free seats =>
    rw [Ledger.seated_congr (l := { b.ledger with seats := _ }) seats, Ledger.length_seated_append]
    split
    · rename_i here
      subst here
      exact (free seating).trans_le capacity_le
    · exact kept
  | returns g user free seats =>
    rw [Ledger.seated_congr (l := { b.ledger with seats := _ }) seats]
    refine (Ledger.length_seated_map_le seating.settled g user true game).trans ?_
    split
    · rename_i here
      obtain ⟨rfl, -⟩ := here
      exact (free seating).trans_le capacity_le
    · exact kept
  | leaves g user may seats =>
    rw [Ledger.seated_congr (l := { b.ledger with seats := _ }) seats]
    refine (Ledger.length_seated_map_le seating.settled g user false game).trans ?_
    simpa using kept

end Books.SeatChange

/-! ## Rooms of a service -/

namespace Service

/-- All rooms are kept, and hold no more than the capacity or the one who opened the game. -/
structure Hosts (rules : RoomSettings) (s : Service) : Prop where
  settings : s.settings = rules
  seating : s.books.Seating
  injective : Function.Injective s.books.supply.id
  room : ∀ game, (s.books.ledger.seated game).length ≤ max rules.capacity 1

/-- Seats are kept in order, under the same settings. -/
def Onward (s t : Service) : Prop := s.books.KeepsSeating t.books ∧ t.settings = s.settings

/-- Neither books nor settings are touched. -/
def IsApart (change : Service → Service) : Prop :=
  ∀ s, (change s).books = s.books ∧ (change s).settings = s.settings

variable {rules : RoomSettings} {s t u : Service}

theorem Onward.trans (h : s.Onward t) (h' : t.Onward u) : s.Onward u :=
  ⟨Books.KeepsSeating.isCourse.trans h.1 h'.1, h'.2.trans h.2⟩

theorem Hosts.stride {kicks : Id → Id → Prop} (h : s.Hosts rules) (stride : s.Stride kicks t)
    (keeps : s.books.KeepsSeating t.books) : t.Hosts rules where
  settings := stride.settings ▸ h.settings
  seating := keeps.seating h.seating
  injective := keeps.supply ▸ h.injective
  room := stride.seatChange.length_seated_le h.seating h.injective
    (h.settings ▸ Nat.le_max_left _ _) (Nat.le_max_right _ _) h.room

theorem Hosts.of_eq (h : s.Hosts rules) (books : t.books = s.books)
    (same : t.settings = s.settings) : t.Hosts rules where
  settings := same ▸ h.settings
  seating := books ▸ h.seating
  injective := books ▸ h.injective
  room := books ▸ h.room

theorem Hosts.of_isBlank (blank : s.books.store.IsBlank)
    (injective : Function.Injective s.books.supply.id) : s.Hosts s.settings where
  settings := rfl
  seating := .of_isBlank blank
  injective := injective
  room game := by
    have none : s.books.ledger = ⟨_, [], [], [], [], [], []⟩ := blank.ledger
    rw [none]
    exact Nat.zero_le _

end Service

namespace Call

/-- Whom the call may kick. -/
def Kicks : Call → Id → Id → Prop
  | request r => r.Kicks
  | _ => fun _ _ => False

theorem strides (c : Call) : c.operation.Strides c.Kicks := by
  cases c with
  | request r => exact r.strides.map _
  | leaderboard game viewer => exact ((Operation.strides_view game viewer).map _).map _
  | word game viewer => exact ((Operation.strides_view game viewer).map _).map _

/-- Every step of every call goes along what carries the writes of the game. -/
theorem along_operation {R : Books → Books → Prop} (c : Carries R)
    (score : ∀ award, (Entry.addScore award).Along R) (call : Call) : call.operation.Along R := by
  have rooms := c.toCarriesRooms
  have form {α β : Type} {op : Operation α} (h : op.Along R) (f : α → β) : (f <$> op).Along R :=
    .bind h fun a => Operation.along_pure (f a)
  cases call with
  | request r => exact form (Operation.along_operation c score r) _
  | leaderboard game viewer => exact form (form (Operation.along_view rooms game viewer) _) _
  | word game viewer => exact form (form (Operation.along_view rooms game viewer) _) _

theorem along_keepsSeating (c : Call) : c.operation.Along Books.KeepsSeating :=
  along_operation Books.KeepsSeating.carries Books.KeepsSeating.along_addScore c

theorem along_hosts (rules : RoomSettings) (c : Call) : Script.Along
    (fun s t : Service => s.Onward t ∧ (s.Hosts rules → t.Hosts rules)) c.operation := by
  have both : Script.Along (fun s t : Service => s.Stride c.Kicks t ∧ s.books.KeepsSeating t.books)
      c.operation := Script.Along.and c.strides c.along_keepsSeating
  exact both.mono fun s t h => ⟨⟨h.2, h.1.settings⟩, fun hosts => hosts.stride h.1 h.2⟩

end Call

/-! ## Joining -/

namespace Entry

variable {b : Books} {id : Id}

theorem requireUser_of_mem (seating : b.Seating) (known : id ∈ b.ledger.users) :
    ∃ u : User, u.id = id ∧ (requireUser id b).1 = .ok u := by
  obtain ⟨t, holds⟩ := seating.holds
  obtain ⟨u, found⟩ := MemoryTables.exists_findUser (holds.users ▸ known)
  have looked := holds.findUser id
  rw [found] at looked
  have asked : (requireUser id).Yields b u b := yields_requireUser.2 ⟨looked, rfl⟩
  exact ⟨u, (Store.id_of_findUser looked).1, by rw [asked]⟩

theorem requireGame_of_mem (seating : b.Seating) (there : id ∈ b.ledger.games) :
    ∃ g : Game, (requireGame id b).1 = .ok g := by
  obtain ⟨t, holds⟩ := seating.holds
  obtain ⟨g, found⟩ := MemoryTables.exists_findGame (holds.games ▸ there)
  have looked := holds.findGame id
  rw [found] at looked
  have asked : (requireGame id).Yields b g b := yields_requireGame.2 ⟨looked, rfl⟩
  exact ⟨g, by rw [asked]⟩

end Entry

namespace Operation

variable {game user : Id} {s₀ s₁ t : Service} {found : List Service}

/-- What is left of joining once user and game have been found: the unit of work, and the notice. -/
theorem after_join {u : User} {g : Game} (asked : (Entry.requireUser user s₀.books).1 = .ok u)
    (there : (Entry.requireGame game s₁.books).1 = .ok g) (found : List Service) :
    Script.after (join game user) (s₀ :: s₁ :: found) =
      Script.after (entryWith (fun settings => Entry.inUnit (takeSeat settings game u)) >>= fun _ =>
        change (Service.publishLater game [.fromPlayer user (.join user u.nickname)]) :
          Operation Unit) found := by
  unfold join
  rw [after_entry, asked]
  dsimp only
  rw [after_entry, there]

end Operation

/-- The user is not seated in the game, and there is room. -/
def Ledger.Admits (l : Ledger) (capacity : Nat) (game user : Id) : Prop :=
  user ∉ l.seated game ∧ (l.seated game).length < capacity

instance (l : Ledger) (capacity : Nat) (game user : Id) : Decidable (l.Admits capacity game user) :=
  inferInstanceAs (Decidable (_ ∧ _))

/-- How a call to join ends, given the ledger that its unit of work has found. -/
structure JoinLaw (capacity : Nat) (game user : Id) (l : Ledger) (r : Except GameError Reply) :
    Prop where
  admitted : r = .ok (.answer .done) ↔ l.Admits capacity game user
  alreadyJoined : r = .error .alreadyJoined ↔ user ∈ l.seated game
  roomFull : r = .error .roomFull ↔ user ∉ l.seated game ∧ capacity ≤ (l.seated game).length

/-- What the unit of work does to the seats: whoever has a row of old gets the same one again. -/
def SeatLaw (capacity : Nat) (game user : Id) (l l' : Ledger) : Prop :=
  l'.seats =
    if l.Admits capacity game user then
      if (game, user) ∈ l.seats.map fun seat => (seat.gameId, seat.userId) then
        l.seats.map (Seat.withTaken game user true)
      else l.seats ++ [⟨game, user, true⟩]
    else l.seats

namespace TurnsOut

variable {capacity : Nat} {game user : Id} {l l' : Ledger} {r : Except GameError Unit}

theorem joinLaw (h : TurnsOut capacity game user l r l') :
    JoinLaw capacity game user l ((r.map fun _ => Answer.done).map Reply.answer) where
  admitted := by
    rw [← show r = .ok () ↔ l.Admits capacity game user from h.eq_ok_iff]
    rcases r with x | ⟨⟩ <;> simp [Except.map]
  alreadyJoined := by
    rw [← h.eq_alreadyJoined_iff]
    rcases r with x | ⟨⟩ <;> simp [Except.map]
  roomFull := by
    rw [← h.eq_roomFull_iff]
    rcases r with x | ⟨⟩ <;> simp [Except.map]

theorem seatLaw (h : TurnsOut capacity game user l r l') : SeatLaw capacity game user l l' := by
  have admits : r = .ok () ↔ l.Admits capacity game user := h.eq_ok_iff
  refine h.seats_eq.trans ?_
  simp only [admits]

end TurnsOut

/-- How the unit of work turns out, given that the user and the game were there before. -/
theorem Service.Onward.turnsOut {s₀ s₁ t : Service} {rules : RoomSettings} {game user : Id} {u : User}
    (from₀ : s₀.Onward t) (from₁ : s₁.Onward t) (hosts : t.Hosts rules)
    (known : user ∈ s₀.books.ledger.users) (there : game ∈ s₁.books.ledger.games) (its : u.id = user) :
    TurnsOut rules.capacity game user t.books.ledger
      (Entry.inUnit (Operation.takeSeat t.settings game u) t.books).1
      (Entry.inUnit (Operation.takeSeat t.settings game u) t.books).2.ledger := by
  subst its
  rw [hosts.settings]
  exact Entry.takeSeat_turnsOut hosts.seating rules (from₀.1.within.users _ known)
    (from₁.1.within.games _ there)

namespace Service

variable {rules : RoomSettings} {game user : Id} {w : Calls} {e : Errand Service Call (Except GameError Reply)}

section Join

variable (traced : Interleaving.Traced Call.operation (Hosts rules) Onward w) (mem : e ∈ w.errands)
  {s₀ s₁ : Service} {found : List Service} (has : e.found = s₀ :: s₁ :: found)
  (known : user ∈ s₀.books.ledger.users) (there : game ∈ s₁.books.ledger.games)
include traced mem has known there

/-- A call to join that has found user and game has only its unit of work and the notice before it. -/
theorem after_found (task : e.task = .request (.join game user)) :
    ∃ u : User, u.id = user ∧ e.rest = (Script.after (Operation.entryWith (fun settings =>
      Entry.inUnit (Operation.takeSeat settings game u)) >>= fun _ => Operation.change
        (publishLater game [.fromPlayer user (.join user u.nickname)]) : Operation Unit) found).bind
          fun r => .done ((r.map fun _ => Answer.done).map Reply.answer) := by
  have hosts₀ := (traced.found e mem s₀ (by simp [has])).1
  have hosts₁ := (traced.found e mem s₁ (by simp [has])).1
  obtain ⟨u, its, asked⟩ := Entry.requireUser_of_mem hosts₀.seating known
  obtain ⟨g, asked'⟩ := Entry.requireGame_of_mem hosts₁.seating there
  refine ⟨u, its, ?_⟩
  have form : Call.operation (.request (.join game user)) =
      Reply.answer <$> (fun _ => Answer.done) <$> Operation.join game user := rfl
  rw [traced.rest e mem, has, task, form, Operation.after_map, Operation.after_map,
    Operation.after_join asked asked']
  generalize Script.after _ found = x
  show (Script.bind x _).bind _ = _
  exact Script.bind_assoc x _ _

theorem joinLaw_of_ended (task : e.task = .request (.join game user))
    {r : Except GameError Reply} (ended : e.result? = some r) :
    ∃ t, found[0]? = some t ∧ JoinLaw rules.capacity game user t.books.ledger r := by
  obtain ⟨u, its, rest⟩ := after_found traced mem has known there task
  rw [Errand.result?_eq_some_iff.1 ended] at rest
  cases found with
  | nil =>
    rw [Script.after_nil] at rest
    cases rest
  | cons t found =>
    have hosts := (traced.found e mem t (by simp [has])).1
    have ordered := has ▸ traced.ordered e mem
    simp only [List.pairwise_cons, List.mem_cons, forall_eq_or_imp] at ordered
    have turns := ordered.1.2.1.turnsOut ordered.2.1.1 hosts known there its
    refine ⟨t, rfl, ?_⟩
    rw [Operation.after_entryWith] at rest
    cases unit : (Entry.inUnit (Operation.takeSeat t.settings game u) t.books).1 with
    | error x =>
      rw [unit] at rest turns
      obtain rfl := Script.done.inj rest
      exact turns.joinLaw
    | ok _ =>
      rw [unit] at rest turns
      dsimp only at rest
      cases found with
      | nil =>
        rw [Script.after_nil] at rest
        cases rest
      | cons t' found =>
        rw [show Script.after (Operation.change _ : Operation Unit) (t' :: found) = .done (.ok ()) from
          Script.after_done _ _] at rest
        obtain rfl := Script.done.inj rest
        exact turns.joinLaw

theorem seatLaw_of_step (task : e.task = .request (.join game user)) (next : found = [])
    {i : Nat} (here : w.errands[i]? = some e) :
    SeatLaw rules.capacity game user w.state.books.ledger (w.move Call.operation
      (.step i : Interleaving.Move Service Call IsApart)).state.books.ledger := by
  obtain ⟨u, its, rest⟩ := after_found traced mem has known there task
  rw [next, Script.after_nil] at rest
  have from₀ := (traced.found e mem s₀ (by simp [has])).2
  have from₁ := (traced.found e mem s₁ (by simp [has])).2
  have moved : (w.move Call.operation (.step i : Interleaving.Move Service Call IsApart)).state =
      (w.state.work (Entry.inUnit (Operation.takeSeat w.state.settings game u))).2 := by
    simp only [Interleaving.move, here, Errand.advance, rest]
    rfl
  rw [moved]
  exact (from₀.turnsOut from₁ traced.kept known there its).seatLaw

end Join

/-- However the steps of calls fall, from a blank store on: no game ever has more active players than
the capacity, or than the one who has opened it. A call to join that has found the user and the game
ends by what its unit of work finds, as it should, and leaves the rows of seats as it should. -/
theorem rooms_hold_capacity (s : Service) (blank : s.books.store.IsBlank)
    (injective : Function.Injective s.books.supply.id)
    (moves : List (Interleaving.Move Service Call IsApart)) :
    let w := (⟨s, []⟩ : Calls).play Call.operation moves
    (∀ game, ∃ active, w.state.books.store.activePlayers game = .ok active ∧
      active.length ≤ max s.settings.capacity 1 ∧
      (active.map (·.id)).Perm (w.state.books.ledger.seated game)) ∧
    ∀ i e game user s₀ s₁ found, w.errands[i]? = some e → e.task = .request (.join game user) →
      e.found = s₀ :: s₁ :: found → user ∈ s₀.books.ledger.users → game ∈ s₁.books.ledger.games →
        (∀ r, e.result? = some r →
          ∃ t, found[0]? = some t ∧ JoinLaw s.settings.capacity game user t.books.ledger r) ∧
        (found = [] → SeatLaw s.settings.capacity game user w.state.books.ledger (w.move Call.operation
          (.step i : Interleaving.Move Service Call IsApart)).state.books.ledger) := by
  intro w
  have start : Interleaving.Traced Call.operation (Hosts s.settings) Onward (⟨s, []⟩ : Calls) :=
    .start (.of_isBlank blank injective)
  have traced : Interleaving.Traced Call.operation (Hosts s.settings) Onward w := by
    refine start.play Onward.trans (Call.along_hosts _) (fun change apart t => ⟨?_, ?_⟩) moves
    · refine ⟨?_, (apart t).2⟩
      rw [(apart t).1]
      exact Books.KeepsSeating.isCourse.refl _
    · exact fun hosts => hosts.of_eq (apart t).1 (apart t).2
  refine ⟨fun game => ?_, fun i e game user s₀ s₁ found here task has known there => ?_⟩
  · obtain ⟨active, read, shown⟩ := traced.kept.seating.legible.activePlayers game
    have count := shown.length_eq
    rw [List.length_map] at count
    exact ⟨active, read, count ▸ traced.kept.room game, shown⟩
  · have mem := List.mem_of_getElem? here
    exact ⟨fun r => joinLaw_of_ended traced mem has known there task,
      fun next => seatLaw_of_step traced mem has known there task next here⟩

/-- Two users, a game of the first one, who is kicked while the second one joins, and who then finds
no room any more. -/
def changeOfSeats : List (Interleaving.Move Service Call IsApart) :=
  let game := "||||||||||"
  [.begin (.request .initUser)] ++ List.replicate 5 (.step 0) ++
    [.begin (.request .initUser)] ++ List.replicate 5 (.step 1) ++
    [.begin (.request (.initGame "|"))] ++ List.replicate 3 (.step 2) ++
    [.begin (.request (.join game "|||||")), .begin (.request (.kick game "|")), .step 3, .step 3] ++
    List.replicate 4 (.step 4) ++ [.step 3, .step 3, .begin (.request (.join game "|"))] ++
    List.replicate 3 (.step 5)

theorem rooms_hold_capacity_of_one :
    let s := inMemory { capacity := 1 } [⟨"w", "apple", "🍎"⟩] .counting
    let w := (⟨s, []⟩ : Calls).play Call.operation changeOfSeats
    s.books.store.IsBlank ∧ Function.Injective s.books.supply.id ∧
      (w.errands.drop 3).map (·.result?) = [some (.ok (.answer .done)),
        some (.ok (.answer (.kicked true))), some (.error .roomFull)] ∧
      w.state.books.ledger.seats = [⟨"||||||||||", "|", false⟩, ⟨"||||||||||", "|||||", true⟩] ∧
      ∀ game, ∃ active, w.state.books.store.activePlayers game = .ok active ∧ active.length ≤ 1 ∧
        (active.map (·.id)).Perm (w.state.books.ledger.seated game) := by
  have blank : (inMemory { capacity := 1 } [⟨"w", "apple", "🍎"⟩] .counting).books.store.IsBlank := rfl
  exact ⟨blank, Supply.counting_injective, by decide +kernel, by decide +kernel,
    (rooms_hold_capacity _ blank Supply.counting_injective changeOfSeats).1⟩

end Service

end GuessingRoom
