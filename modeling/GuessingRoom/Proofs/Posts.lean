import GuessingRoom.Proofs.Coherence

/-!
# Posts and who sees them

A post is a guess or a chat line that was taken. Its author is answered with it, the others are told
of it by a chat notice, and from then on it is in everyone's view. These agree in whatever state
operations have led to (`post_seen_alike`): what is left out of sight because it spells out the secret
is so in the notice and in the views, and all give the author the same nickname.
-/

namespace GuessingRoom

/-! ## What others see -/

namespace Secret

/-- What anyone but the author sees of a message. -/
def publicContent (content secret : String) : String :=
  if sameWord content secret then redacted else content

theorem visibleContent_of_ne (content secret : String) {viewer author : Id} (h : viewer ≠ author) :
    visibleContent content secret viewer author = publicContent content secret := by
  simp [visibleContent, publicContent, h]

/-- Nobody else is shown the secret, unless it is the very text that stands in its place. -/
theorem sameWord_redacted_of_publicContent {content secret : String}
    (h : sameWord (publicContent content secret) secret = true) :
    sameWord redacted secret = true := by
  unfold publicContent at h
  split at h
  · exact h
  · rename_i differs
    exact absurd h differs

end Secret

namespace Job

/-- The chat notices that a job is to send out, with the game in which it does so. -/
def chats : Job → List (Id × Outgoing)
  | .batch b => (b.items.filter (·.notice.kind == .chat)).map (b.game, ·)
  | _ => []

end Job

namespace Board

theorem isSeated_iff {players : List Player} {user : Id} :
    isSeated players user = true ↔ user ∈ (activePlayers players).map (·.id) := by
  simp only [isSeated, activePlayers, List.any_eq_true, Bool.and_eq_true, beq_iff_eq, List.mem_map,
    List.mem_filter]
  constructor
  · rintro ⟨p, mem, rfl, active⟩
    exact ⟨p, ⟨mem, active⟩, rfl⟩
  · rintro ⟨p, ⟨mem, active⟩, rfl⟩
    exact ⟨p, mem, rfl, active⟩

end Board

/-! ## Views -/

/-- Players go by the nicknames of their users. -/
theorem MemoryTables.Named.nicknameOf {t : MemoryTables} (named : t.Named) {game user : Id} {u : User}
    (known : t.findUser user = some u) (seated : Board.isSeated (t.players game) user = true) :
    View.nicknameOf (t.players game) user = u.nickname := by
  obtain ⟨p, mem, here⟩ := List.any_eq_true.1 seated
  unfold View.nicknameOf
  cases found : (t.players game).reverse.find? (·.id == user) with
  | none =>
    have absent := List.find?_eq_none.1 found p (List.mem_reverse.2 mem)
    exact absurd (Bool.and_eq_true_iff.1 here).1 absent
  | some p =>
    obtain ⟨m, listed, rfl⟩ := List.mem_map.1 (List.mem_reverse.1 (List.mem_of_find?_eq_some found))
    obtain ⟨v, known', nickname⟩ := named m (List.mem_of_mem_filter listed)
    have same : m.player.id = user := by simpa using List.find?_some found
    rw [same, known] at known'
    obtain rfl := Option.some.inj known'
    exact nickname.symm

namespace Operation

variable {α β : Type} {s : Service} {t : MemoryTables}

/-- An entry that yields, with what comes after it. -/
theorem run_entry_bind {e : Entry α} {k : α → Operation β} {a : α} {b : Books}
    (y : e.Yields s.books a b) : (entry e >>= k).run s = (k a).run { s with books := b } := by
  have first : (entry e).run s = (.ok a, { s with books := b }) := by
    show s.work e = _
    rw [Service.work, y]
  rw [run_bind, first]
  rfl

/-- All seated players can look at a game that has a turn and a word. -/
theorem exists_view (shows : s.books.store.Shows t) {game viewer : Id} {turn : Turn} {word : Word}
    (there : (t.findGame game).isSome = true) (latest : t.latestTurn game = some turn)
    (found : s.books.store.findWord turn.wordId = some word)
    (seated : Board.isSeated (t.players game) viewer = true) :
    ∃ v, ((view game viewer).run s).1 = .ok v ∧
      v.messages = (t.messagesOf game).reverse.map
        (View.post (t.players game) word.word viewer) := by
  obtain ⟨g, there⟩ := Option.isSome_iff_exists.1 there
  have looked {α : Type} {query : Store → Except Failure α} {a : α}
      (h : query s.books.store = .ok a) : (Entry.look query).Yields s.books a s.books :=
    Entry.yields_look.2 ⟨h, rfl⟩
  have active : (Board.activePlayers (t.players game)).any (·.id == viewer) = true := by
    obtain ⟨p, mem, e⟩ := List.mem_map.1 (Board.isSeated_iff.1 seated)
    exact List.any_eq_true.2 ⟨p, mem, beq_iff_eq.2 e⟩
  have run : (view game viewer).run s = (View.derive ⟨game, t.players game, turn, word,
      t.messagesOf game, t.scoresOf game⟩ viewer, s) := by
    unfold view
    rw [run_entry_bind (Entry.yields_requireGame.2 ⟨there ▸ shows.findGame game, rfl⟩),
      run_entry_bind (looked (shows.players game)), if_neg (by rw [seated]; decide),
      run_entry_bind (Entry.yields_requireTurn.2 ⟨latest ▸ shows.latestTurn game, rfl⟩),
      run_entry_bind (Entry.yields_requireWord.2 ⟨found, rfl⟩),
      run_entry_bind (looked (shows.messages game)), run_entry_bind (looked (shows.scores game))]
    rfl
  rw [run, View.derive, if_pos active]
  exact ⟨_, rfl, rfl⟩

end Operation

/-! ## Posting -/

/-- The message was posted by the user in the turn of the word: how it was put down in a store that
showed the models, and what was queued of it. -/
structure Posted (t : MemoryTables) (m : Message) (u : User) (turn : Turn) (word : Word)
    (s s' : Service) : Prop where
  known : t.findUser m.playerId = some u
  there : (t.findGame m.gameId).isSome = true
  latest : t.latestTurn m.gameId = some turn
  found : s.books.store.findWord turn.wordId = some word
  seated : Board.isSeated (t.players m.gameId) m.playerId = true
  put : ∃ scores, s'.books.store.Holds s'.books.supply s'.books.drawn
    { t with messages := t.messages ++ [m], scores }
  queued : ∃ added, s'.jobs = s.jobs ++ added ∧ added.flatMap Job.chats =
    [(m.gameId, Operation.chat m u.nickname (Secret.publicContent m.content word.word))]

namespace Entry

variable {b b' : Books} {t : MemoryTables} {game user : Id}

theorem addMessage_holds (holds : b.store.Holds b.supply b.drawn t) {turn : Id} {content : String}
    {m : Message} (h : (addMessage game turn user content).Yields b m b') :
    b'.store.Holds b'.supply b'.drawn { t with messages := t.messages ++ [m] } := by
  obtain ⟨-, store, rfl, -⟩ := addMessage_yields h
  exact holds.addMessage (change_of_stamped (fun s => (·.addMessage game turn user content s)) h)

theorem addScore_holds (holds : b.store.Holds b.supply b.drawn t) {award : Award} {u : Unit}
    (h : (addScore award).Yields b u b') :
    ∃ scores, b'.store.Holds b'.supply b'.drawn { t with scores } := by
  obtain ⟨store, rfl, -⟩ := addScore_yields h
  obtain ⟨_, put, e⟩ := map_eq_ok_iff.1 (change_of_stamped
    (fun s t => (t.addScore award s.time).map fun t => ((), t)) h)
  cases e
  obtain ⟨time, kept⟩ := holds.addScore put
  exact ⟨_, kept⟩

/-- A guess is put down whatever the verdict on it. -/
theorem judge_holds (holds : b.store.Holds b.supply b.drawn t) {settings : RoomSettings} {turn : Turn}
    {word : Word} {u : User} {content : String} {m : Message} {verdict : Verdict}
    (h : (judge settings game turn word u content).Yields b (m, verdict) b') :
    ∃ scores, b'.store.Holds b'.supply b'.drawn
      { t with messages := t.messages ++ [m], scores } := by
  simp only [judge, yields_bind, yields_ite_throw, yields_look] at h
  obtain ⟨active, _, ⟨-, rfl⟩, -, m', b₁, said, h⟩ := h
  have kept := addMessage_holds holds said
  simp only [yields_ite, yields_bind, yields_look, yields_pure, Prod.mk.injEq] at h
  obtain ⟨-, ⟨rfl, -⟩, rfl⟩ | ⟨-, scores, _, ⟨-, rfl⟩, v, b₂, judged, ⟨rfl, -⟩, rfl⟩ := h
  · exact ⟨t.scores, kept⟩
  · unfold award at judged
    simp only [yields_ite, yields_bind, yields_pure] at judged
    obtain ⟨-, -, rfl⟩ | ⟨-, _, _, scored, -, rfl⟩ := judged
    · exact ⟨t.scores, kept⟩
    · exact addScore_holds kept scored

end Entry

namespace Operation

open Entry

variable {s : Service} {t : MemoryTables} {game user : Id} {content : String}

/-- If the operation succeeds, then with a post of the user's that was put down. -/
def Posts (t : MemoryTables) (game user : Id) (content : String) (s : Service)
    (op : Operation Post) : Prop :=
  op.Ends s fun r s' => ∀ post, r = .ok post → ∃ m u turn word, m.gameId = game ∧
    m.playerId = user ∧ m.content = content ∧ post = ownPost m u.nickname ∧
      Posted t m u turn word s s'

/-- What a guess and a chat line begin with: the user, the game, its turn and the word are looked
up. -/
theorem posts_atTurn (shows : s.books.store.Shows t) {k : User → Turn → Word → Operation Post}
    (rest : ∀ u turn word, u.id = user → t.findUser user = some u →
      (t.findGame game).isSome = true → t.latestTurn game = some turn →
      s.books.store.findWord turn.wordId = some word →
      Posts t game user content s (k u turn word)) :
    Posts t game user content s (entry (requireUser user) >>= fun u =>
      entry (requireGame game) >>= fun _ => entry (requireTurn game) >>= fun turn =>
        entry (requireWord turn.wordId) >>= k u turn) := by
  refine ends_looks (looks_requireUser user) (by rintro x _ ⟨⟩) fun u read => ?_
  refine ends_looks (looks_requireGame game) (by rintro x _ ⟨⟩) fun g opened => ?_
  refine ends_looks (looks_requireTurn game) (by rintro x _ ⟨⟩) fun turn begun => ?_
  refine ends_looks (looks_requireWord turn.wordId) (by rintro x _ ⟨⟩) fun word found => ?_
  have read := (yields_requireUser.1 read).1
  have opened := (yields_requireGame.1 opened).1
  have begun := (yields_requireTurn.1 begun).1
  have id := (Store.id_of_findUser read).1
  rw [shows.findUser] at read
  rw [shows.findGame] at opened
  rw [shows.latestTurn] at begun
  exact rest u turn word id (Except.ok.inj read) (Except.ok.inj opened ▸ rfl) (Except.ok.inj begun)
    (yields_requireWord.1 found).1

theorem posts_say (holds : s.books.store.Holds s.books.supply s.books.drawn t)
    (shows : s.books.store.Shows t) : Posts t game user content s (say game user content) := by
  refine posts_atTurn shows fun u turn word id known there latest found => ?_
  subst id
  refine ends_looks (looks_look _) (by rintro x _ ⟨⟩) fun active read => ?_
  refine ends_check (by rintro _ ⟨⟩) fun seated => ?_
  refine ends_entry (by rintro x _ - _ ⟨⟩) fun m b said => ?_
  obtain ⟨line, -⟩ := addMessage_yields said
  obtain rfl : m.gameId = game := congrArg Line.gameId line
  have author : m.playerId = u.id := congrArg Line.playerId line
  have same : m.content = content := congrArg Line.content line
  have kept := addMessage_holds holds said
  have read := (yields_look.1 read).1
  rw [shows.activePlayers] at read
  cases read
  rintro _ ⟨⟩
  refine ⟨m, u, turn, word, rfl, author, same, rfl, author ▸ known, there, latest, found, ?_,
    ⟨_, kept⟩, _, rfl, ?_⟩
  · rw [author]
    refine Board.isSeated_iff.2 ?_
    simpa using seated
  · rw [← same]
    rfl

/-- A guess sends out one chat notice, whatever the verdict on it. -/
theorem chats_guessNotices {basePoints : Int} {word : Word} {active : List Player} {l l' : Ledger}
    {m : Message} {verdict : Verdict} (judged : Judged basePoints word active m.line l verdict l')
    (nickname : String) : (guessNotices m nickname verdict).filter (·.notice.kind == .chat) =
      [chat m nickname (Secret.publicContent m.content word.word)] := by
  cases judged with
  | miss other =>
    have other : Secret.sameWord m.content word.word = false := other
    rw [Secret.publicContent, other]
    rfl
  | again same =>
    have same : Secret.sameWord m.content word.word = true := same
    rw [Secret.publicContent, if_pos same]
    rfl
  | scored points turnOver same =>
    have same : Secret.sameWord m.content word.word = true := same
    rw [Secret.publicContent, if_pos same]
    cases turnOver <;> rfl

theorem posts_guess (holds : s.books.store.Holds s.books.supply s.books.drawn t)
    (shows : s.books.store.Shows t) : Posts t game user content s (guess game user content) := by
  refine posts_atTurn shows fun u turn word id known there latest found => ?_
  subst id
  refine ends_entryWith (by rintro x _ - _ ⟨⟩) fun ⟨m, verdict⟩ b whole => ?_
  obtain ⟨after, judging, rfl⟩ := yields_inUnit.1 whole
  obtain ⟨scores, kept⟩ := judge_holds holds judging
  obtain ⟨line, active, read, seated, store, drawn, rfl, -, judged⟩ := judge_yields judging
  obtain rfl : m.gameId = game := congrArg Line.gameId line
  have author : m.playerId = u.id := congrArg Line.playerId line
  have same : m.content = content := congrArg Line.content line
  rw [shows.activePlayers] at read
  cases read
  have kept := kept.of_rows (WorkUnit.rows_commit ⟨s.books.store, store⟩)
  have seated : Board.isSeated (t.players m.gameId) m.playerId = true := by
    rw [author]
    refine Board.isSeated_iff.2 ?_
    simpa using seated
  have posted {s' : Service} (books : s'.books = committed s.books { s.books with store, drawn })
      (queued : ∃ added, s'.jobs = s.jobs ++ added ∧ added.flatMap Job.chats =
        [(m.gameId, chat m u.nickname (Secret.publicContent m.content word.word))]) :
      Posted t m u turn word s s' :=
    ⟨author ▸ known, there, latest, found, seated, ⟨scores, books ▸ kept⟩, queued⟩
  refine ends_change ?_
  have chats := chats_guessNotices judged u.nickname
  split
  · refine ends_change ?_
    rintro _ ⟨⟩
    refine ⟨m, u, turn, word, rfl, author, same, rfl, posted rfl ⟨_, List.append_assoc _ _ _, ?_⟩⟩
    show (((guessNotices m u.nickname verdict).filter _).map _) ++ _ = _
    rw [chats]
    rfl
  · rintro _ ⟨⟩
    refine ⟨m, u, turn, word, rfl, author, same, rfl, posted rfl ⟨_, rfl, ?_⟩⟩
    show (((guessNotices m u.nickname verdict).filter _).map _) ++ _ = _
    rw [chats]
    rfl

end Operation

/-! ## Who sees it -/

namespace Posted

open Operation

variable {s s' : Service} {t : MemoryTables} {m : Message} {u : User} {turn : Turn} {word : Word}

/-- Everyone seated sees the post as the newest one, and the others as they were before. -/
theorem seen (h : Posted t m u turn word s s') (named : t.Named) (shows : s.books.store.Shows t)
    (clock : (∃ r, s'.books.store = .relational r) → s'.books.supply.RunsOn)
    (words : s'.books.ledger.words = s.books.ledger.words) {viewer : Id}
    (active : Board.isSeated (t.players m.gameId) viewer = true) :
    ∃ before after, ((view m.gameId viewer).run s).1 = .ok before ∧
      ((view m.gameId viewer).run s').1 = .ok after ∧
      after.messages = (if viewer = m.playerId then ownPost m u.nickname
        else ⟨false, u.nickname, Secret.publicContent m.content word.word⟩) :: before.messages ∧
      ∀ p ∈ after.messages, p.me = false → Secret.sameWord p.content word.word = true →
        Secret.sameWord Secret.redacted word.word = true := by
  obtain ⟨scores, put⟩ := h.put
  have shows' := put.shows named fun r e => clock ⟨r, e⟩
  have found : s'.books.store.findWord turn.wordId = some word := by
    rw [Store.findWord_eq, show s'.books.store.ledger.words = s.books.store.ledger.words from words,
      ← Store.findWord_eq]
    exact h.found
  obtain ⟨before, looked, messages⟩ := exists_view shows h.there h.latest h.found active
  obtain ⟨after, looked', messages'⟩ := exists_view shows' h.there h.latest found active
  have added : MemoryTables.messagesOf { t with messages := t.messages ++ [m], scores } m.gameId =
      t.messagesOf m.gameId ++ [m] := by
    simp [MemoryTables.messagesOf]
  rw [added, List.reverse_append] at messages'
  refine ⟨before, after, looked, looked', ?_, fun p mem other same => ?_⟩
  · have newest : View.post (t.players m.gameId) word.word viewer m =
        if viewer = m.playerId then ownPost m u.nickname
        else ⟨false, u.nickname, Secret.publicContent m.content word.word⟩ := by
      unfold View.post
      rw [named.nicknameOf h.known h.seated]
      split
      · rename_i own
        rw [own, Secret.visibleContent_self, beq_self_eq_true]
        rfl
      · rename_i other
        rw [Secret.visibleContent_of_ne _ _ other, beq_false_of_ne (Ne.symm other)]
    rw [messages', messages, ← newest]
    rfl
  · rw [messages'] at mem
    obtain ⟨m', -, rfl⟩ := List.mem_map.1 mem
    have other : viewer ≠ m'.playerId := fun e => by simp [View.post, e] at other
    have shown : (View.post (t.players m.gameId) word.word viewer m').content =
        Secret.publicContent m'.content word.word := Secret.visibleContent_of_ne _ _ other
    exact Secret.sameWord_redacted_of_publicContent (shown ▸ same)

end Posted

/-- The word of the turn that the game is in, and who is seated in it. -/
def Service.Plays (s : Service) (game : Id) (word : Word) (active : List Player) : Prop :=
  (∃ turn, s.books.store.latestTurn game = .ok (some turn) ∧
    s.books.store.findWord turn.wordId = some word) ∧
    s.books.store.activePlayers game = .ok active

/-- In every state that steps have led to from a blank store, a guess or a chat line that is taken
queues one chat notice, and everyone seated sees it on top of what was seen before: the author as
answered, all others as in the notice. None of what others have written shows the secret, unless it
is the text that stands in place of it. -/
theorem post_seen_alike (s₀ : Service) (blank : s₀.books.store.IsBlank)
    (injective : Function.Injective s₀.books.supply.id)
    (clock : (∃ r, s₀.books.store = .relational r) → s₀.books.supply.RunsOn) (steps : List Step)
    (game user : Id) (content : String) (op : Operation Post)
    (posts : op = Operation.guess game user content ∨ op = Operation.say game user content)
    (post : Post) (taken : (op.run (s₀.after steps)).1 = .ok post) :
    let s := s₀.after steps
    let s' := (op.run s).2
    ∃ word active nickname added,
      s.Plays game word active ∧ s'.Plays game word active ∧ user ∈ active.map (·.id) ∧
      s'.jobs = s.jobs ++ added ∧ added.flatMap Job.chats =
        [(game, .fromPlayer user
          (.chat user nickname (Secret.publicContent content word.word)))] ∧
      (Secret.sameWord (Secret.publicContent content word.word) word.word = true →
        Secret.sameWord Secret.redacted word.word = true) ∧
      ∀ viewer ∈ active.map (·.id), ∃ before after,
        ((Operation.view game viewer).run s).1 = .ok before ∧
        ((Operation.view game viewer).run s').1 = .ok after ∧
        after.messages = (if viewer = user then post
          else ⟨false, nickname, Secret.publicContent content word.word⟩) :: before.messages ∧
        ∀ p ∈ after.messages, p.me = false → Secret.sameWord p.content word.word = true →
          Secret.sameWord Secret.redacted word.word = true := by
  intro s s'
  have coherent : s.books.Coherent := (Books.Coherent.of_isBlank blank injective clock).after steps
  obtain ⟨t, holds, named⟩ := coherent.named
  have shows := holds.shows named fun r e => coherent.clock ⟨r, e⟩
  have along {R : Books → Books → Prop} (c : CarriesGames R)
      (score : ∀ award, (Entry.addScore award).Along R) : R s.books s'.books := by
    rcases posts with rfl | rfl
    · exact (Operation.along_guess c score game user content).run c.toIsCourse s
    · exact (Operation.along_say c game user content).run c.toIsCourse s
  have words := (along Books.Grows.carries.toCarriesGames Books.Grows.along_addScore).words
  have keeps := along Books.KeepsNames.carries Books.KeepsNames.along_addScore
  have posted : Operation.Posts t game user content s op := by
    rcases posts with rfl | rfl
    · exact Operation.posts_guess holds shows
    · exact Operation.posts_say holds shows
  obtain ⟨m, u, turn, word, rfl, rfl, rfl, rfl, posted⟩ := posted post taken
  obtain ⟨scores, put⟩ := posted.put
  have shows' := put.shows named fun r e => (coherent.along keeps).clock ⟨r, e⟩
  obtain ⟨added, jobs, chats⟩ := posted.queued
  refine ⟨word, _, u.nickname, added, ⟨⟨turn, posted.latest ▸ shows.latestTurn _, posted.found⟩,
    shows.activePlayers _⟩, ⟨⟨turn, posted.latest ▸ shows'.latestTurn _, ?_⟩, shows'.activePlayers _⟩,
    Board.isSeated_iff.1 posted.seated, jobs, chats, Secret.sameWord_redacted_of_publicContent, ?_⟩
  · rw [Store.findWord_eq, show s'.books.store.ledger.words = s.books.store.ledger.words from words,
      ← Store.findWord_eq]
    exact posted.found
  · intro viewer mem
    exact posted.seen named shows (coherent.along keeps).clock words (Board.isSeated_iff.2 mem)

def Request.isEvent : Request → Bool
  | event _ => true
  | _ => false

/-- The step in which something is asked of the service. -/
def Step.ask (r : Request) (asked : r.isEvent = false) : Step :=
  .call r fun e same => by
    subst same
    cases asked

/-- A game with two players, of whom the second one has asked for the word. -/
def Step.twoPlayers : List Step :=
  let game := String.ofList (List.replicate 10 '|')
  [.ask .initUser rfl, .ask .initUser rfl, .ask (.initGame "|") rfl, .ask (.join game "|||||") rfl,
    .ask (.say game "|||||" "apple?") rfl]

/-- The first player finds the word, which the second one does not get to see. -/
theorem post_seen_alike_by_two :
    let s₀ := Service.inMemory {} [⟨"w", "apple", "🍎"⟩] .counting
    let game := String.ofList (List.replicate 10 '|')
    let s := s₀.after Step.twoPlayers
    let op := Operation.guess game "|" "APPLE"
    let s' := (op.run s).2
    s₀.books.store.IsBlank ∧ Function.Injective s₀.books.supply.id ∧ s₀.books.supply.RunsOn ∧
      (op.run s).1 = .ok ⟨true, "SillyCat", "APPLE"⟩ ∧
      ((Operation.view game "|||||").run s').1.map View.messages =
        .ok [⟨false, "SillyCat", "***"⟩, ⟨true, "SillyCat", "apple?"⟩] ∧
      ∃ word active nickname added,
        s.Plays game word active ∧ s'.Plays game word active ∧ "|" ∈ active.map (·.id) ∧
        s'.jobs = s.jobs ++ added ∧ added.flatMap Job.chats =
          [(game, .fromPlayer "|"
            (.chat "|" nickname (Secret.publicContent "APPLE" word.word)))] ∧
        (Secret.sameWord (Secret.publicContent "APPLE" word.word) word.word = true →
          Secret.sameWord Secret.redacted word.word = true) ∧
        ∀ viewer ∈ active.map (·.id), ∃ before after,
          ((Operation.view game viewer).run s).1 = .ok before ∧
          ((Operation.view game viewer).run s').1 = .ok after ∧
          after.messages = (if viewer = "|" then ⟨true, "SillyCat", "APPLE"⟩
            else ⟨false, nickname, Secret.publicContent "APPLE" word.word⟩) :: before.messages ∧
          ∀ p ∈ after.messages, p.me = false → Secret.sameWord p.content word.word = true →
            Secret.sameWord Secret.redacted word.word = true := by
  have taken : ((Operation.guess (String.ofList (List.replicate 10 '|')) "|" "APPLE").run
      ((Service.inMemory {} [⟨"w", "apple", "🍎"⟩] .counting).after Step.twoPlayers)).1 =
        .ok ⟨true, "SillyCat", "APPLE"⟩ := by decide +kernel
  have blank : (Service.inMemory {} [⟨"w", "apple", "🍎"⟩] .counting).books.store.IsBlank := rfl
  exact ⟨blank, Supply.counting_injective, Supply.counting_runsOn, taken, by decide +kernel,
    post_seen_alike _ blank Supply.counting_injective (fun _ => Supply.counting_runsOn) Step.twoPlayers
      _ "|" "APPLE" _ (.inl rfl) _ taken⟩

end GuessingRoom
