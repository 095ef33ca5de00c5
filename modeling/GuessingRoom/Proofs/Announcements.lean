import GuessingRoom.Proofs.FeedTraffic
import GuessingRoom.Proofs.Operations
import GuessingRoom.Proofs.PublishOrder

/-!
# Announcing messages

A message is put down in one step of a request, and the notice that tells of it is queued in the
next one. In between other requests may take their steps, so that messages are not always announced
in the order in which they were put down. A script is candid if it announces with its next step
whatever message it puts down, and sends out no chats otherwise (`Script.Candid`). All requests are
(`Request.candid`).
-/

namespace GuessingRoom

/-- What is shown of a message: its text, or what stands in place of it. -/
def Line.ShownAs (line : Line) (text : String) : Prop := text = line.content ∨ text = Secret.redacted

namespace Outgoing

def isChat (item : Outgoing) : Bool := item.notice.kind == .chat

/-- The item tells everyone but the author of the message. -/
def TellsOf (item : Outgoing) (line : Line) : Prop :=
  ∃ nickname text, item = .fromPlayer line.playerId (.chat line.playerId nickname text) ∧
    line.ShownAs text

end Outgoing

/-! ## Steps -/

namespace Service

/-- Between the two states nothing was done about notices. -/
structure SameTraffic (s t : Service) : Prop where
  hub : t.hub = s.hub
  queue : t.queue = s.queue
  batches : t.batches = s.batches
  feeds : t.feeds = s.feeds
  inboxes : t.inboxes = s.inboxes
  nextFeed : t.nextFeed = s.nextFeed

/-- The messages were put down, and nothing was done about notices. -/
structure PutsDown (s : Service) (lines : List Line) (t : Service) : Prop extends SameTraffic s t where
  lines : t.books.ledger.lines = s.books.ledger.lines ++ lines

/-- No message was put down, and no chat was queued. -/
inductive Mute (s : Service) : Service → Prop where
  | works {t : Service} (h : s.PutsDown [] t) : Mute s t
  | queues (game : Id) (items : List Outgoing) (none : ∀ item ∈ items, item.isChat = false) :
    Mute s (s.publishLater game items)

/-- The items were queued for the game of the message, and one of them tells of it; the others are
no chats. -/
def Announces (s : Service) (line : Line) (t : Service) : Prop :=
  ∃ items item, items.filter Outgoing.isChat = [item] ∧ item.TellsOf line ∧
    t = s.publishLater line.gameId items

theorem putsDown_books (s : Service) {b : Books} {lines : List Line}
    (h : b.ledger.lines = s.books.ledger.lines ++ lines) : s.PutsDown lines { s with books := b } where
  hub := rfl
  queue := rfl
  batches := rfl
  feeds := rfl
  inboxes := rfl
  nextFeed := rfl
  lines := h

theorem mute_books (s : Service) {b : Books} (h : b.ledger.lines = s.books.ledger.lines) :
    s.Mute { s with books := b } :=
  .works (s.putsDown_books (h.trans (List.append_nil _).symm))

theorem mute_refl (s : Service) : s.Mute s := s.mute_books rfl

theorem mute_schedule (s : Service) (delay : Nat) (event : Event) : s.Mute (s.schedule delay event) := by
  refine .works ⟨⟨rfl, rfl, ?_, ?_, rfl, rfl⟩, (List.append_nil _).symm⟩
  · unfold batches schedule spawn
    rw [List.filterMap_append]
    exact List.append_nil _
  · exact s.feeds_spawn rfl

end Service

/-! ## Scripts -/

namespace Script

variable {α β : Type}

/-- The script announces the message with its next step, and is mute from then on. -/
def Announces (line : Line) : Script Service α → Prop
  | done _ => False
  | step effect next => ∀ s : Service, s.Announces line (effect s) ∧ (next s).Along Service.Mute

/-- Whatever message the script puts down it announces with its next step, and then it is mute. Up
to there it is mute as well. -/
def Candid : Script Service α → Prop
  | done _ => True
  | step effect next => ∀ s : Service, s.Mute (effect s) ∧ (next s).Candid ∨
      ∃ line, s.PutsDown [line] (effect s) ∧ (next s).Announces line

theorem Along.candid {x : Script Service α} (h : x.Along Service.Mute) : x.Candid := by
  induction x with
  | done a => trivial
  | step effect next ih => exact fun s => .inl ⟨(h s).1, ih s (h s).2⟩

theorem candid_bind {x : Script Service α} {k : α → Script Service β} (hx : x.Along Service.Mute)
    (hk : ∀ a, (k a).Candid) : (x >>= k).Candid := by
  show (x.bind k).Candid
  induction x with
  | done a => exact hk a
  | step effect next ih => exact fun s => .inl ⟨(hx s).1, ih s (hx s).2⟩

/-- What is done with the value at the end takes no step. -/
theorem Candid.map {x : Script Service α} (h : x.Candid) {k : α → Script Service β}
    (ends : ∀ a, ∃ b, k a = done b) : (x >>= k).Candid := by
  have mute (a : α) : (k a).Along Service.Mute := by
    obtain ⟨b, e⟩ := ends a
    rw [e]
    trivial
  show (x.bind k).Candid
  induction x with
  | done a => exact (mute a).candid
  | step effect next ih =>
    intro s
    rcases h s with ⟨quiet, rest⟩ | ⟨line, put, announces⟩
    · exact .inl ⟨quiet, ih s rest⟩
    · refine .inr ⟨line, put, ?_⟩
      show ((next s).bind k).Announces line
      cases e : next s with
      | done a =>
        rw [e] at announces
        exact announces.elim
      | step effect' next' =>
        rw [e] at announces
        exact fun t => ⟨(announces t).1, (announces t).2.bind mute⟩

end Script

/-! ## Operations -/

namespace Books

/-- No message was put down in between. -/
def SameLines (b b' : Books) : Prop := b'.ledger.lines = b.ledger.lines

namespace SameLines

open Entry

theorem isCourse : IsCourse SameLines where
  refl _ := rfl
  trans h h' := h'.trans h
  draw _ := rfl
  commit b after h := by
    show (committed b after).ledger.lines = _
    rw [ledger_committed]
    exact h
  abandon b after _ := by
    show (abandoned b after).ledger.lines = _
    rw [ledger_abandoned]

theorem of_ledger {b : Books} {store : Store} {drawn : Nat}
    (h : store.ledger.lines = b.ledger.lines) : b.SameLines { b with store, drawn } := h

theorem carries : CarriesRooms SameLines where
  toIsCourse := isCourse
  createGame := by
    apply along_stamped isCourse
    intro b game b' h
    obtain ⟨-, store, rfl, e⟩ := createGame_yields h
    exact of_ledger (by rw [e])
  addPlayer game user := by
    apply along_stamped isCourse
    intro b u b' h
    obtain ⟨-, store, rfl, e⟩ := addPlayer_yields h
    exact of_ledger (by rw [e])
  setState game user state := by
    apply along_write isCourse
    intro b u b' h
    obtain ⟨store, rfl, e⟩ := setState_yields h
    exact of_ledger (by rw [e])
  addTurn game word := by
    apply along_stamped isCourse
    intro b turn b' h
    obtain ⟨-, store, rfl, e⟩ := addTurn_yields h
    exact of_ledger (by rw [e])

theorem along_upsertUser (id : Id) (nickname : String) : (upsertUser id nickname).Along SameLines := by
  apply along_stamped isCourse
  intro b u b' h
  obtain ⟨store, rfl, users, -, -, e⟩ := upsertUser_yields h
  exact of_ledger (by rw [e])

end SameLines

end Books

namespace Operation

open Books (SameLines)

variable {α β : Type}

/-- No step of the operation puts down a message or queues a chat. -/
def Mute (op : Operation α) : Prop := Script.Along Service.Mute op

theorem Mute.bind {x : Operation α} {k : α → Operation β} (hx : x.Mute) (hk : ∀ a, (k a).Mute) :
    (x >>= k : Operation β).Mute := by
  apply Script.Along.bind hx
  intro result
  cases result with
  | error x => trivial
  | ok a => exact hk a

theorem mute_pure (a : α) : (pure a : Operation α).Mute := trivial

theorem Mute.check {p : Prop} [Decidable p] {x : GameError} {k : β → Operation α} {op : Operation α}
    (h : op.Mute) : (if p then throw x >>= k else op : Operation α).Mute := by
  split
  · trivial
  · exact h

theorem mute_entryWith {e : RoomSettings → Entry α} (h : ∀ settings, (e settings).Along SameLines) :
    (entryWith e).Mute := fun s => ⟨s.mute_books (h s.settings s.books), trivial⟩

theorem mute_entry {e : Entry α} (h : e.Along SameLines) : (entry e).Mute := mute_entryWith fun _ => h

theorem mute_look (f : Service → α) : (look f).Mute := fun s => ⟨s.mute_refl, trivial⟩

theorem mute_change {f : Service → Service} (h : ∀ s : Service, s.Mute (f s)) : (change f).Mute :=
  fun s => ⟨h s, trivial⟩

section Rooms

open Entry

theorem mute_initUser : initUser.Mute := by
  refine .bind (mute_entry (along_stamp SameLines.isCourse)) fun stamp => ?_
  refine .bind (mute_entry (along_choose SameLines.isCourse _)) fun adjective => ?_
  refine .bind (mute_entry (along_choose SameLines.isCourse _)) fun animal => ?_
  refine .bind (mute_entry (SameLines.along_upsertUser _ _)) fun _ => ?_
  exact mute_entry (along_requireUser SameLines.isCourse _)

theorem mute_initGame (user : Id) : (initGame user).Mute := by
  refine .bind (mute_entry (along_requireUser SameLines.isCourse user)) fun u => ?_
  refine .bind (mute_entry (along_drawWord SameLines.isCourse)) fun word => ?_
  exact mute_entry (.inUnit SameLines.isCourse (along_openGame SameLines.carries u.id word))

theorem mute_join (game user : Id) : (join game user).Mute := by
  refine .bind (mute_entry (along_requireUser SameLines.isCourse user)) fun u => ?_
  refine .bind (mute_entry (along_requireGame SameLines.isCourse game)) fun _ => ?_
  refine .bind (mute_entryWith fun settings => ?_) fun _ => ?_
  · exact .inUnit SameLines.isCourse (along_takeSeat SameLines.carries settings game u)
  · exact mute_change fun s => .queues _ _ fun _ mem => List.mem_singleton.1 mem ▸ rfl

theorem mute_kick (game user : Id) : (kick game user).Mute := by
  refine .bind (mute_look _) fun connected => ?_
  split
  · trivial
  · refine .bind (mute_entry (Entry.along_look SameLines.isCourse _)) fun players => ?_
    split
    · trivial
    · split
      · trivial
      · refine .bind (mute_entry (SameLines.carries.setState _ _ _)) fun _ => ?_
        refine .bind (mute_change fun s => ?_) fun _ => mute_pure _
        exact .queues _ _ fun _ mem => List.mem_singleton.1 mem ▸ rfl

theorem mute_view (game viewer : Id) : (view game viewer).Mute := by
  refine .bind (mute_entry (along_requireGame SameLines.isCourse game)) fun _ => ?_
  refine .bind (mute_entry (Entry.along_look SameLines.isCourse _)) fun players => ?_
  refine .check (.bind (mute_entry (along_requireTurn SameLines.isCourse game)) fun turn => ?_)
  refine .bind (mute_entry (along_requireWord SameLines.isCourse turn.wordId)) fun word => ?_
  refine .bind (mute_entry (Entry.along_look SameLines.isCourse _)) fun messages => ?_
  exact .bind (mute_entry (Entry.along_look SameLines.isCourse _)) fun scores => trivial

theorem mute_ofEvent (event : Event) : (ofEvent event).Mute := by
  cases event with
  | nextTurn game =>
    refine .bind (mute_entry (along_drawWord SameLines.isCourse)) fun word => ?_
    exact .bind (mute_entry (SameLines.carries.addTurn _ _)) fun _ => mute_pure _
  | kick game user => exact .bind (mute_kick game user) fun _ => mute_pure _

end Rooms

/-! ## Posts -/

def Candid (op : Operation α) : Prop := Script.Candid op

theorem candid_bind {x : Operation α} {k : α → Operation β} (hx : x.Mute) (hk : ∀ a, (k a).Candid) :
    (x >>= k : Operation β).Candid := by
  refine Script.candid_bind hx fun result => ?_
  cases result with
  | error x => trivial
  | ok a => exact hk a

theorem Candid.check {p : Prop} [Decidable p] {x : GameError} {k : β → Operation α}
    {op : Operation α} (h : op.Candid) : (if p then throw x >>= k else op : Operation α).Candid := by
  split
  · trivial
  · exact h

/-- An entry that puts a message down or fails, and what comes after it. -/
theorem candid_entryWith {e : RoomSettings → Entry α} {k : α → Operation β}
    (fails : ∀ settings b x b', (e settings).Fails b x b' → b.SameLines b')
    (yields : ∀ settings b a b', (e settings).Yields b a b' → ∃ line : Line,
      b'.ledger.lines = b.ledger.lines ++ [line] ∧ Script.Announces line (k a)) :
    (entryWith e >>= k : Operation β).Candid := by
  intro s
  show s.Mute (s.work (e s.settings)).2 ∧
      Script.Candid (ExceptT.bindCont k (s.work (e s.settings)).1) ∨
    ∃ line, s.PutsDown [line] (s.work (e s.settings)).2 ∧
      Script.Announces line (ExceptT.bindCont k (s.work (e s.settings)).1)
  rcases h : e s.settings s.books with ⟨x | a, b⟩
  · have work : s.work (e s.settings) = (.error x, { s with books := b }) := by
      rw [Service.work, h]
    rw [work]
    exact .inl ⟨s.mute_books (fails _ _ _ _ h), trivial⟩
  · have work : s.work (e s.settings) = (.ok a, { s with books := b }) := by
      rw [Service.work, h]
    obtain ⟨line, lines, announces⟩ := yields _ _ _ _ h
    rw [work]
    exact .inr ⟨line, s.putsDown_books lines, announces⟩

/-- A post is announced by items among which there is one chat. -/
theorem announces_change {m : Message} {nickname text : String} {items : List Outgoing}
    {k : Unit → Operation β} (shown : m.line.ShownAs text)
    (chats : items.filter Outgoing.isChat = [chat m nickname text]) (rest : (k ()).Mute) :
    Script.Announces m.line
      (change (Service.publishLater m.gameId items) >>= k : Operation β) :=
  fun _ => ⟨⟨items, _, chats, ⟨nickname, text, rfl, shown⟩, rfl⟩, rest⟩

theorem candid_say (game user : Id) (content : String) : (say game user content).Candid := by
  have c := SameLines.isCourse
  refine candid_bind (mute_entry (Entry.along_requireUser c user)) fun u => ?_
  refine candid_bind (mute_entry (Entry.along_requireGame c game)) fun _ => ?_
  refine candid_bind (mute_entry (Entry.along_requireTurn c game)) fun turn => ?_
  refine candid_bind (mute_entry (Entry.along_requireWord c turn.wordId)) fun word => ?_
  refine candid_bind (mute_entry (Entry.along_look c _)) fun active => .check ?_
  refine candid_entryWith (e := fun _ => Entry.addMessage game turn.id u.id content)
    (fun _ b x b' h => ?_) fun _ b m b' h => ?_
  · obtain ⟨rfl, -⟩ := Entry.fails_stamped h
    rfl
  · obtain ⟨line, store, rfl, e⟩ := Entry.addMessage_yields h
    refine ⟨m.line, ?_, announces_change ?_ rfl (mute_pure _)⟩
    · rw [line]
      exact congrArg Ledger.lines e
    · split
      · exact .inr rfl
      · exact .inl rfl

/-- Whatever the verdict is, a guess is told of by one chat. -/
theorem exists_chat_guessNotices (m : Message) (nickname : String) (verdict : Verdict) :
    ∃ text, m.line.ShownAs text ∧
      (guessNotices m nickname verdict).filter Outgoing.isChat = [chat m nickname text] := by
  cases verdict with
  | miss => exact ⟨m.content, .inl rfl, rfl⟩
  | again => exact ⟨Secret.redacted, .inr rfl, rfl⟩
  | scored points turnOver =>
    refine ⟨Secret.redacted, .inr rfl, ?_⟩
    cases turnOver <;> rfl

theorem candid_guess (game user : Id) (content : String) : (guess game user content).Candid := by
  have c := SameLines.isCourse
  refine candid_bind (mute_entry (Entry.along_requireUser c user)) fun u => ?_
  refine candid_bind (mute_entry (Entry.along_requireGame c game)) fun _ => ?_
  refine candid_bind (mute_entry (Entry.along_requireTurn c game)) fun turn => ?_
  refine candid_bind (mute_entry (Entry.along_requireWord c turn.wordId)) fun word => ?_
  refine candid_entryWith
    (e := fun settings => Entry.inUnit (Entry.judge settings game turn word u content))
    (fun settings b x b' h => ?_) fun settings b ⟨m, verdict⟩ b' h => ?_
  · obtain ⟨after, -, rfl⟩ := Entry.fails_inUnit.1 h
    show (Entry.abandoned b after).ledger.lines = _
    rw [Entry.ledger_abandoned]
  · obtain ⟨after, whole, rfl⟩ := Entry.yields_inUnit.1 h
    obtain ⟨-, active, -, -, store, drawn, rfl, -, judged⟩ := Entry.judge_yields whole
    obtain ⟨text, shown, chats⟩ := exists_chat_guessNotices m u.nickname verdict
    refine ⟨m.line, ?_, ?_⟩
    · rw [Entry.ledger_committed]
      exact judged.lines
    · refine announces_change shown chats ?_
      split
      · exact .bind (mute_change fun s => s.mute_schedule _ _) fun _ => mute_pure _
      · exact mute_pure _

theorem Candid.map {op : Operation α} (h : op.Candid) (f : α → β) :
    (op >>= fun a => pure (f a) : Operation β).Candid := by
  refine Script.Candid.map h fun result => ?_
  cases result with
  | error x => exact ⟨.error x, rfl⟩
  | ok a => exact ⟨.ok (f a), rfl⟩

end Operation

/-- No request puts down a message without telling the others of it, and none tells of anything
else. -/
theorem Request.candid (r : Request) : r.operation.Candid := by
  have mute {α : Type} {op : Operation α} (h : op.Mute) (f : α → Answer) :
      (op >>= fun a => pure (f a) : Operation Answer).Candid :=
    Script.Along.candid (h.bind fun _ => Operation.mute_pure _)
  cases r with
  | initUser => exact mute Operation.mute_initUser _
  | initGame user => exact mute (Operation.mute_initGame user) _
  | join game user => exact mute (Operation.mute_join game user) _
  | kick game user => exact mute (Operation.mute_kick game user) _
  | guess game user content => exact (Operation.candid_guess game user content).map _
  | say game user content => exact (Operation.candid_say game user content).map _
  | view game viewer => exact mute (Operation.mute_view game viewer) _
  | event e => exact mute (Operation.mute_ofEvent e) _

end GuessingRoom
