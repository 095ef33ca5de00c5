import GuessingRoom.Proofs.Course
import GuessingRoom.Proofs.TwinEntries

/-!
# Two stores, one game

A service in memory and one in relational tables on which the same is done from the beginning, with
the same identifiers, nicknames and words drawn, give the same results, but for times, and queue the
same notices (`stores_play_alike`). Their books are twins at every moment, and each operation keeps
them so (`Operation.Parallel`).
-/

namespace GuessingRoom

/-- The services differ in nothing but their books, which are twins. Every game that is to go on to
its next turn is in the books. -/
structure Service.Twins (s t : Service) : Prop where
  others : t = { s with books := t.books }
  books : s.books.Twins (s.advances.map Prod.snd) t.books

namespace Service.Twins

variable {s t : Service} (h : s.Twins t)
include h

theorem of_books {b c : Books} {games : List Id} (twins : b.Twins games c)
    (sub : s.advances.map Prod.snd ⊆ games) :
    Twins { s with books := b } { t with books := c } where
  others := by rw [h.others]
  books := twins.of_subset sub

theorem publishLater (game : Id) (items : List Outgoing) :
    (s.publishLater game items).Twins (t.publishLater game items) where
  others := by
    rw [h.others]
    rfl
  books := by
    have same : (s.publishLater game items).advances = s.advances := advances_spawn _ rfl
    rw [same]
    exact h.books

theorem scheduleTurn {game : Id} (there : game ∈ s.books.ledger.games) :
    (s.schedule s.settings.turnDelay (.nextTurn game)).Twins
      (t.schedule t.settings.turnDelay (.nextTurn game)) where
  others := by
    rw [h.others]
    rfl
  books := by
    have added : (s.schedule s.settings.turnDelay (.nextTurn game)).advances =
        s.advances ++ [(s.now + s.settings.turnDelay, game)] := by
      simp [schedule, spawn, advances, Job.advance?]
    rw [added, List.map_append]
    exact h.books.add_game there

end Service.Twins

namespace Operation

open Entry

variable {α α' β β' : Type}

/-- Both results are values for which the predicate holds, or both are the same error. -/
inductive Agree (P : α → α' → Prop) : Except GameError α → Except GameError α' → Prop
  | ok {a : α} {a' : α'} (h : P a a') : Agree P (.ok a) (.ok a')
  | error (x : GameError) : Agree P (.error x) (.error x)

/-- Run in one go, the two operations end with results that agree and leave twins. -/
def Parallel (P : α → α' → Prop) (op : Operation α) (op' : Operation α') (s t : Service) : Prop :=
  Agree P (op.run s).1 (op'.run t).1 ∧ (op.run s).2.Twins (op'.run t).2

variable {s t : Service} {P : α → α' → Prop} {Q : β → β' → Prop}

/-! ## Rules -/

theorem parallel_pure (h : s.Twins t) {a : α} {a' : α'} (p : P a a') :
    Parallel P (pure a) (pure a') s t := ⟨.ok p, h⟩

theorem parallel_throw (h : s.Twins t) (x : GameError) : Parallel P (throw x) (throw x) s t :=
  ⟨.error x, h⟩

theorem Parallel.bind {x : Operation β} {x' : Operation β'} {k : β → Operation α}
    {k' : β' → Operation α'} (first : Parallel Q x x' s t)
    (rest : ∀ a a' s t, Q a a' → s.Twins t → Parallel P (k a) (k' a') s t) :
    Parallel P (x >>= k) (x' >>= k') s t := by
  obtain ⟨agree, twins⟩ := first
  unfold Parallel
  rw [run_bind, run_bind]
  generalize (x.run s).1 = r at agree
  generalize (x'.run t).1 = r' at agree
  cases agree with
  | ok q => exact rest _ _ _ _ q twins
  | error e => exact parallel_throw twins e

/-- A check that both pass or both fail. -/
theorem Parallel.check (h : s.Twins t) {p p' : Prop} [Decidable p] [Decidable p'] (same : p ↔ p')
    {x : GameError} {k : β → Operation α} {k' : β' → Operation α'} {op : Operation α}
    {op' : Operation α'} (rest : Parallel P op op' s t) :
    Parallel P (if p then throw x >>= k else op) (if p' then throw x >>= k' else op') s t := by
  by_cases holds : p
  · rw [if_pos holds, if_pos (same.1 holds)]
    exact parallel_throw h x
  · rw [if_neg holds, if_neg (mt same.2 holds)]
    exact rest

/-- What cannot fail, with what comes after it. -/
theorem parallel_change {f f' : Service → Service} {k : Unit → Operation α}
    {k' : Unit → Operation α'} (rest : Parallel P (k ()) (k' ()) (f s) (f' t)) :
    Parallel P (change f >>= k) (change f' >>= k') s t := rest

/-- An entry, with what comes after it. -/
theorem parallel_entryWith (h : s.Twins t) {games : List Id} (sub : s.advances.map Prod.snd ⊆ games)
    {R : β → β' → Books → Books → Prop} {e : RoomSettings → Entry β} {e' : RoomSettings → Entry β'}
    {k : β → Operation α} {k' : β' → Operation α'}
    (entries : Entry.Parallel games R (e s.settings) (e' s.settings) s.books t.books)
    (rest : ∀ a a' b c, R a a' b c →
      Parallel P (k a) (k' a') { s with books := b } { t with books := c }) :
    Parallel P (entryWith e >>= k) (entryWith e' >>= k') s t := by
  have settings : t.settings = s.settings := by rw [h.others]
  have first : (entryWith e).run s = s.work (e s.settings) := rfl
  have second : (entryWith e').run t = t.work (e' s.settings) := by
    rw [← settings]
    rfl
  unfold Parallel
  rw [run_bind, run_bind, first, second]
  unfold Service.work
  rcases entries with ⟨a, b, a', c, y, y', r⟩ | ⟨x, b, c, f, f', twins⟩
  · rw [y, y']
    exact rest a a' b c r
  · rw [f, f']
    exact parallel_throw (h.of_books twins sub) x

theorem parallel_entry (h : s.Twins t) {R : β → β' → Books → Books → Prop} {e : Entry β}
    {e' : Entry β'} {k : β → Operation α} {k' : β' → Operation α'}
    (entries : Entry.Parallel (s.advances.map Prod.snd) R e e' s.books t.books)
    (rest : ∀ a a' b c, R a a' b c →
      Parallel P (k a) (k' a') { s with books := b } { t with books := c }) :
    Parallel P (entry e >>= k) (entry e' >>= k') s t := by
  have whole : Parallel P (entryWith (fun _ => e) >>= k) (entryWith (fun _ => e') >>= k') s t :=
    parallel_entryWith h (List.Subset.refl _) entries rest
  exact whole

/-- An entry that leaves the books alone, with what comes after it. -/
theorem parallel_looks (h : s.Twins t) {R : β → β' → Prop} {e : Entry β}
    {e' : Entry β'} {k : β → Operation α} {k' : β' → Operation α'}
    (entries : Entry.Parallel (s.advances.map Prod.snd)
      (fun a a' b c => R a a' ∧ s.books = b ∧ t.books = c) e e' s.books t.books)
    (rest : ∀ a a', R a a' → Parallel P (k a) (k' a') s t) :
    Parallel P (entry e >>= k) (entry e' >>= k') s t := by
  refine parallel_entry h entries ?_
  rintro a a' _ _ ⟨r, rfl, rfl⟩
  exact rest a a' r

/-- A look that shows the same on both sides, but for times, with what comes after it. -/
theorem parallel_seen (h : s.Twins t) {query : Store → Except Failure β} {erase : β → β}
    {k : β → Operation α} {k' : β → Operation α'} (seen : ∃ a a', query s.books.store = .ok a ∧
      query t.books.store = .ok a' ∧ erase a' = erase a)
    (rest : ∀ a a', query s.books.store = .ok a → erase a' = erase a →
      Parallel P (k a) (k' a') s t) :
    Parallel P (entry (Entry.look query) >>= k) (entry (Entry.look query) >>= k') s t := by
  obtain ⟨a, a', first, second, same⟩ := seen
  refine parallel_looks h (R := fun v v' => query s.books.store = .ok v ∧ erase v' = erase v)
    (Entry.parallel_look first second ⟨⟨first, same⟩, rfl, rfl⟩) ?_
  exact fun v v' both => rest v v' both.1 both.2

/-- An entry with nothing after it. -/
theorem parallel_last (h : s.Twins t) {e : Entry α} {e' : Entry α'}
    (entries : Entry.Parallel (s.advances.map Prod.snd)
      (fun a a' b c => P a a' ∧ b.Twins (s.advances.map Prod.snd) c) e e' s.books t.books) :
    Parallel P (entry e) (entry e') s t := by
  have first : (entry e).run s = s.work e := rfl
  have second : (entry e').run t = t.work e' := rfl
  unfold Parallel
  rw [first, second]
  unfold Service.work
  rcases entries with ⟨a, b, a', c, y, y', p, twins⟩ | ⟨x, b, c, f, f', twins⟩
  · rw [y, y']
    exact parallel_pure (h.of_books twins (List.Subset.refl _)) p
  · rw [f, f']
    exact parallel_throw (h.of_books twins (List.Subset.refl _)) x

/-! ## Operations of the game -/

theorem parallel_initUser (h : s.Twins t)
    (adjective : t.books.supply.pick (t.books.drawn + 1) Nickname.adjectives =
      s.books.supply.pick (s.books.drawn + 1) Nickname.adjectives)
    (animal : t.books.supply.pick (t.books.drawn + 2) Nickname.animals =
      s.books.supply.pick (s.books.drawn + 2) Nickname.animals) :
    Parallel (fun u u' => u'.timeless = u.timeless) initUser initUser s t := by
  have twins := h.books
  refine parallel_entry h parallel_stamp ?_
  rintro _ _ _ _ ⟨rfl, rfl, rfl, rfl⟩
  have h₁ := h.of_books twins.draw (List.Subset.refl _)
  refine parallel_entry h₁ (parallel_choose adjective) ?_
  rintro _ first _ _ ⟨-, rfl, rfl, rfl⟩
  have h₂ := h₁.of_books twins.draw.draw (List.Subset.refl _)
  refine parallel_entry h₂ (parallel_choose animal) ?_
  rintro _ second _ _ ⟨-, rfl, rfl, rfl⟩
  have h₃ := h₂.of_books twins.draw.draw.draw (List.Subset.refl _)
  rw [twins.stamp_eq]
  refine parallel_entry h₃ (parallel_upsertUser h₃.books (n := t.books.drawn) ?_ twins.fresh_user _) ?_
  · show t.books.drawn < t.books.drawn + 1 + 1 + 1
    omega
  · intro _ _ b c named
    have h₄ := h₃.of_books named (List.Subset.refl _)
    refine parallel_last h₄ ((parallel_requireUser named _).mono ?_)
    rintro u u' _ _ ⟨⟨-, same⟩, rfl, rfl⟩
    exact ⟨same, named⟩

theorem parallel_initGame (h : s.Twins t) (user : Id)
    (alike : ∀ u, s.books.store.findUser user = .ok (some u) →
      t.books.supply.pick t.books.drawn t.books.store.allWords =
        s.books.supply.pick s.books.drawn s.books.store.allWords) :
    Parallel (fun g g' => g'.timeless = g.timeless) (initGame user) (initGame user) s t := by
  refine parallel_looks h (parallel_requireUser h.books user) ?_
  rintro u u' ⟨read, same⟩
  refine parallel_entry h (parallel_drawWord h.books (alike u read)) ?_
  rintro _ word _ _ ⟨rfl, listed, rfl, rfl⟩
  have h₁ := h.of_books h.books.draw (List.Subset.refl _)
  rw [(User.same_of_timeless same).1]
  have known : u.id ∈ s.books.ledger.users := by
    rw [(Store.id_of_findUser read).1]
    exact (Store.id_of_findUser read).2
  have opened := parallel_openGame h₁.books known listed
  refine parallel_last h₁ ((opened.inUnit h₁.books ?_ ?_).mono fun _ _ _ _ p => ⟨p.2, p.1⟩)
  · exact along_openGame Books.Grows.carries.toCarriesRooms _ _
  · exact fun _ _ _ _ p => ⟨p.1.committed, p.2⟩

theorem parallel_join (h : s.Twins t) (game user : Id) :
    Parallel (fun _ _ => True) (join game user) (join game user) s t := by
  refine parallel_looks h (parallel_requireUser h.books user) ?_
  rintro u u' ⟨read, same⟩
  refine parallel_looks h (parallel_requireGame h.books game) ?_
  rintro g g' ⟨found, -⟩
  obtain ⟨id_eq, nickname⟩ := User.same_of_timeless same
  have known : u.id ∈ s.books.ledger.users := by
    rw [(Store.id_of_findUser read).1]
    exact (Store.id_of_findUser read).2
  have there := Store.mem_games_of_findGame found
  refine parallel_entryWith h (List.Subset.refl _) ((parallel_takeSeat h.books s.settings id_eq known
    there).inUnit h.books ?_ fun _ _ _ _ twins => twins.committed) ?_
  · exact along_takeSeat Books.Grows.carries.toCarriesRooms _ _ _
  · intro _ _ b c twins
    rw [nickname]
    have seated := h.of_books twins (List.Subset.refl _)
    exact parallel_pure (seated.publishLater _ _) trivial

theorem parallel_kick (h : s.Twins t) (game user : Id) :
    Parallel (fun a a' => a' = a) (kick game user) (kick game user) s t := by
  have hub : t.hub = s.hub := by rw [h.others]
  refine (?_ : Parallel _ (if (s.hub.subscribers game).contains user then _ else _)
    (if (t.hub.subscribers game).contains user then _ else _) s t)
  rw [hub]
  split
  · exact parallel_pure h rfl
  · refine parallel_seen h (h.books.players game) fun ps ps' read alike => ?_
    have existing : (ps'.find? (·.id == user)).map Player.timeless =
        (ps.find? (·.id == user)).map Player.timeless := by
      rw [← find_player_timeless, alike, find_player_timeless]
    cases found : ps.find? (·.id == user) with
    | none =>
      rw [found] at existing
      rw [Option.map_eq_none_iff.1 existing]
      exact parallel_throw h _
    | some p =>
      rw [found] at existing
      obtain ⟨p', found', same⟩ := Option.map_eq_some_iff.1 existing
      have active : p'.isActive = p.isActive := (congrArg Player.isActive same :)
      rw [found']
      dsimp only
      rw [active]
      split
      · exact parallel_pure h rfl
      · refine parallel_entry h (parallel_setState h.books read found .inactive) ?_
        intro _ _ b c twins
        have left := h.of_books twins (List.Subset.refl _)
        exact parallel_change (parallel_pure (left.publishLater _ _) rfl)

/-- What the others are told of a message has nothing to do with its time. -/
theorem chat_of_timeless {m m' : Message} (h : m'.timeless = m.timeless) :
    chat m' = chat m := by
  obtain ⟨-, -, sender, -⟩ := Message.same_of_timeless h
  funext nickname content
  rw [chat, chat, sender]

theorem guessNotices_of_timeless {m m' : Message} (h : m'.timeless = m.timeless)
    (nickname : String) (v : Verdict) : guessNotices m' nickname v = guessNotices m nickname v := by
  obtain ⟨-, -, sender, content⟩ := Message.same_of_timeless h
  cases v <;> simp only [guessNotices, chat_of_timeless h, sender, content]

theorem ownPost_of_timeless {m m' : Message} (h : m'.timeless = m.timeless) :
    ownPost m' = ownPost m := by
  obtain ⟨-, -, -, content⟩ := Message.same_of_timeless h
  funext nickname
  rw [ownPost, ownPost, content]

/-- What a guess and a message begin with: the user, the game, its turn and the word are looked
up. -/
theorem parallel_atTurn (h : s.Twins t) (game user : Id) {k : User → Turn → Word → Operation α}
    (rest : ∀ u u' turn turn' word, u'.timeless = u.timeless → turn'.id = turn.id →
      u.id ∈ s.books.ledger.users → game ∈ s.books.ledger.games →
      turn.id ∈ s.books.ledger.rounds.map (·.id) →
      Parallel (fun a a' => a' = a) (k u turn word) (k u' turn' word) s t) :
    let op : Operation α := entry (requireUser user) >>= fun u =>
      entry (requireGame game) >>= fun _ => entry (requireTurn game) >>= fun turn =>
        entry (requireWord turn.wordId) >>= k u turn
    Parallel (fun a a' => a' = a) op op s t := by
  refine parallel_looks h (parallel_requireUser h.books user) ?_
  rintro u u' ⟨read, same⟩
  obtain ⟨rfl, known⟩ := Store.id_of_findUser read
  refine parallel_looks h (parallel_requireGame h.books game) ?_
  rintro _ _ ⟨found, -⟩
  refine parallel_looks h (parallel_requireTurn h.books game) ?_
  rintro turn turn' ⟨latest, same_turn⟩
  obtain ⟨turn_id, word_id⟩ := Turn.same_of_timeless same_turn
  rw [word_id]
  refine parallel_looks h (parallel_requireWord h.books turn.wordId) ?_
  rintro _ word rfl
  exact rest u u' turn turn' word same turn_id known (Store.mem_games_of_findGame found)
    (List.mem_map_of_mem (Store.mem_rounds_of_latestTurn latest).1)

theorem parallel_guess (h : s.Twins t) (game user : Id) (content : String) :
    Parallel (fun p p' => p' = p) (guess game user content) (guess game user content) s t := by
  refine parallel_atTurn h game user fun u u' turn turn' word same turn_id known there begun => ?_
  obtain ⟨id_eq, nickname⟩ := User.same_of_timeless same
  -- the game goes among those that may have to go on to their next turn
  have wider := h.books.add_game there
  refine parallel_entryWith h (List.subset_append_left _ _) ((parallel_judge wider s.settings turn_id
    id_eq content there begun known).inUnit wider ?_ ?_) ?_
  · exact along_judge Books.Grows.isCourse Books.Grows.carries.addMessage Books.Grows.along_addScore
      _ _ _ _ _ _
  · exact fun _ _ _ _ p => ⟨p.1, p.2.1, p.2.2.1, p.2.2.2.committed⟩
  · rintro ⟨m, _⟩ ⟨m', verdict⟩ b c ⟨here, alike, rfl, twins⟩
    dsimp only at here alike ⊢
    obtain ⟨-, place, -, -⟩ := Message.same_of_timeless alike
    rw [nickname, place, guessNotices_of_timeless alike, ownPost_of_timeless alike]
    have told := (h.of_books twins (List.subset_append_left _ _)).publishLater m.gameId
      (guessNotices m u.nickname verdict)
    have goes_on : m.gameId ∈ s.advances.map Prod.snd ++ [game] := by
      rw [here]
      exact List.mem_append_right _ (List.mem_singleton_self _)
    refine parallel_change ?_
    split
    · exact parallel_change (parallel_pure (told.scheduleTurn (twins.there goes_on)) rfl)
    · exact parallel_pure told rfl

theorem parallel_say (h : s.Twins t) (game user : Id) (content : String) :
    Parallel (fun p p' => p' = p) (say game user content) (say game user content) s t := by
  refine parallel_atTurn h game user fun u u' turn turn' word same turn_id known there begun => ?_
  obtain ⟨id_eq, nickname⟩ := User.same_of_timeless same
  refine parallel_seen h (h.books.activePlayers game) fun ps ps' _ alike => ?_
  have seated : ps'.any (·.id == u.id) = ps.any (·.id == u.id) := by
    rw [← any_isActive_timeless, alike, any_isActive_timeless]
  rw [id_eq, nickname, turn_id]
  refine .check h (by rw [seated]) (parallel_entry h
    (parallel_addMessage h.books there begun known content) ?_)
  rintro m m' b c ⟨twins, same_message, -, -⟩
  obtain ⟨-, place, -, text⟩ := Message.same_of_timeless same_message
  rw [place, text, chat_of_timeless same_message, ownPost_of_timeless same_message]
  have said := h.of_books twins (List.Subset.refl _)
  exact parallel_change (parallel_pure (said.publishLater _ _) rfl)

theorem parallel_view (h : s.Twins t) (game viewer : Id) :
    Parallel (fun v v' => v' = v) (view game viewer) (view game viewer) s t := by
  refine parallel_looks h (parallel_requireGame h.books game) fun _ _ _ => ?_
  refine parallel_seen h (h.books.players game) fun ps ps' _ same_players => ?_
  have seated : Board.isSeated ps' viewer = Board.isSeated ps viewer := by
    rw [← Board.isSeated_timeless, same_players, Board.isSeated_timeless]
  refine .check h (by rw [seated]) (parallel_looks h (parallel_requireTurn h.books game) ?_)
  rintro turn turn' ⟨-, same_turn⟩
  rw [(Turn.same_of_timeless same_turn).2]
  refine parallel_looks h (parallel_requireWord h.books turn.wordId) ?_
  rintro _ word rfl
  refine parallel_seen h (h.books.messages game) fun ms ms' _ same_messages => ?_
  refine parallel_seen h (h.books.scores game) fun ss ss' _ same_scores => ?_
  have shown : View.derive ⟨game, ps', turn', word, ms', ss'⟩ viewer =
      View.derive ⟨game, ps, turn, word, ms, ss⟩ viewer := by
    rw [← View.derive_timeless, same_players, same_turn, same_messages, same_scores,
      View.derive_timeless]
  rw [shown]
  cases View.derive ⟨game, ps, turn, word, ms, ss⟩ viewer with
  | ok v => exact parallel_pure h rfl
  | error x => exact parallel_throw h x

theorem parallel_nextTurn (h : s.Twins t) {game : Id} (there : game ∈ s.books.ledger.games)
    (alike : t.books.supply.pick t.books.drawn t.books.store.allWords =
      s.books.supply.pick s.books.drawn s.books.store.allWords) :
    Parallel (fun _ _ => True) (nextTurn game) (nextTurn game) s t := by
  refine parallel_entry h (parallel_drawWord h.books alike) ?_
  rintro _ word _ _ ⟨rfl, listed, rfl, rfl⟩
  have h₁ := h.of_books h.books.draw (List.Subset.refl _)
  refine parallel_entry h₁ (parallel_addTurn h₁.books there listed) ?_
  intro _ _ b c twins
  exact parallel_pure (h₁.of_books twins (List.Subset.refl _)) trivial

/-! ## Requests -/

/-- The answer to a request says no more than what the operation gives. -/
theorem Parallel.map {x : Operation β} {x' : Operation β'} {f : β → α} {f' : β' → α'}
    (h : Parallel Q x x' s t) (fits : ∀ a a', Q a a' → P (f a) (f' a')) :
    Parallel P (f <$> x) (f' <$> x') s t := by
  have whole : Parallel P (x >>= fun a => pure (f a)) (x' >>= fun a => pure (f' a)) s t :=
    h.bind fun a a' _ _ q twins => parallel_pure twins (fits a a' q)
  exact whole

end Operation

/-- The two services draw the same word next. -/
def Service.DrawWordAlike (s t : Service) : Prop :=
  t.books.supply.pick t.books.drawn t.books.store.allWords =
    s.books.supply.pick s.books.drawn s.books.store.allWords

/-- The two services draw the same for the request, as far as it draws words for nicknames and for
turns. -/
def Request.DrawsAlike (s t : Service) : Request → Prop
  | initUser =>
    t.books.supply.pick (t.books.drawn + 1) Nickname.adjectives =
        s.books.supply.pick (s.books.drawn + 1) Nickname.adjectives ∧
      t.books.supply.pick (t.books.drawn + 2) Nickname.animals =
        s.books.supply.pick (s.books.drawn + 2) Nickname.animals
  | initGame user =>
    (∃ u, s.books.store.findUser user = .ok (some u)) → s.DrawWordAlike t
  | _ => True

namespace Operation

variable {s t : Service}

theorem parallel_request (h : s.Twins t) {r : Request} (asked : ∀ e, r ≠ .event e)
    (alike : r.DrawsAlike s t) :
    Parallel (fun a a' => a'.timeless = a.timeless) r.operation r.operation s t := by
  cases r with
  | initUser =>
    exact (parallel_initUser h alike.1 alike.2).map fun _ _ same => congrArg Answer.user same
  | initGame user =>
    exact (parallel_initGame h user fun u found => alike ⟨u, found⟩).map
      fun _ _ same => congrArg Answer.game same
  | join game user => exact (parallel_join h game user).map fun _ _ _ => rfl
  | kick game user =>
    exact (parallel_kick h game user).map fun _ _ same => congrArg (Answer.timeless ∘ .kicked) same
  | guess game user content =>
    exact (parallel_guess h game user content).map
      fun _ _ same => congrArg (Answer.timeless ∘ .post) same
  | say game user content =>
    exact (parallel_say h game user content).map
      fun _ _ same => congrArg (Answer.timeless ∘ .post) same
  | view game viewer =>
    exact (parallel_view h game viewer).map fun _ _ same => congrArg (Answer.timeless ∘ .view) same
  | event e => exact absurd rfl (asked e)

end Operation

/-! ## Whole runs -/

/-- Has nothing to do with the books, and lets no further game go on to its next turn. -/
structure Service.IsBackground (change : Service → Service) : Prop where
  books : ∀ s b, change { s with books := b } = { change s with books := b }
  advances : ∀ s, (change s).advances ⊆ s.advances

/-- What is done to a service, or happens by itself. -/
inductive Step where
  | call (r : Request) (asked : ∀ e, r ≠ .event e)
  | leaderboard (game viewer : Id)
  | word (game viewer : Id)
  /-- An event happens if its time has come. -/
  | due (time : Nat) (e : Event)
  /-- Time passes, notices are delivered, feeds open and close. -/
  | elsewhere (change : Service → Service) (h : Service.IsBackground change)

/-- What a step gives if it succeeds. -/
inductive Reply where
  | answer (a : Answer)
  | standings (l : List Standing)
  | word (w : String)
  | nothing
deriving DecidableEq, Repr

def Reply.timeless : Reply → Reply
  | answer a => answer a.timeless
  | r => r

namespace Service

/-- Whether the event is to happen now. -/
def isDue (s : Service) (time : Nat) (e : Event) : Bool :=
  !s.closing && s.jobs.contains (.timer time e) && decide (time ≤ s.now)

def take (s : Service) : Step → Except GameError Reply × Service
  | .call r _ => (Reply.answer <$> r.operation).run s
  | .leaderboard game viewer => (Reply.standings <$> Operation.leaderboard game viewer).run s
  | .word game viewer => (Reply.word <$> Operation.word game viewer).run s
  | .due time e =>
    if s.isDue time e then
      ((fun _ => Reply.nothing) <$> Operation.ofEvent e).run (s.without (.timer time e))
    else (.ok .nothing, s)
  | .elsewhere change _ => (.ok .nothing, change s)

end Service

/-- The two services draw the same in the step. -/
def Step.DrawsAlike (s t : Service) : Step → Prop
  | call r _ => r.DrawsAlike s t
  | due time (.nextTurn game) => s.isDue time (.nextTurn game) = true → s.DrawWordAlike t
  | _ => True

/-- The two services draw the same as long as the steps are taken by both of them. -/
def Service.DrawAlike (s t : Service) : List Step → Prop
  | [] => True
  | x :: xs => x.DrawsAlike s t ∧ (s.take x).2.DrawAlike (t.take x).2 xs

/-- What shows of a step: its result without times, and the queue and the jobs that it leaves. -/
structure Shown where
  result : Except GameError Reply
  queue : PublishQueue
  jobs : List Job
deriving DecidableEq

namespace Service

/-- What shows of the steps, taken one after another. -/
def shows (s : Service) : List Step → List Shown
  | [] => []
  | x :: xs => ⟨(s.take x).1.map Reply.timeless, (s.take x).2.queue, (s.take x).2.jobs⟩ ::
    (s.take x).2.shows xs

theorem Twins.without {s t : Service} (h : s.Twins t) (j : Job) :
    (s.without j).Twins (t.without j) where
  others := by
    rw [h.others]
    rfl
  books := by
    have fewer : (s.without j).advances ⊆ s.advances :=
      (List.erase_sublist.filterMap Job.advance?).subset
    exact h.books.of_subset (List.map_subset _ fewer)

theorem Twins.elsewhere {s t : Service} (h : s.Twins t) {change : Service → Service}
    (idle : IsBackground change) : (change s).Twins (change t) := by
  have books (u : Service) : (change u).books = u.books :=
    (congrArg Service.books (idle.books u u.books) :)
  refine ⟨?_, ?_⟩
  · rw [books, ← idle.books, ← h.others]
  · rw [books, books]
    exact h.books.of_subset (List.map_subset _ (idle.advances s))

theorem Twins.same_jobs {s t : Service} (h : s.Twins t) : t.jobs = s.jobs ∧ t.queue = s.queue := by
  rw [h.others]
  exact ⟨rfl, rfl⟩

end Service

namespace Operation

variable {s t : Service}

/-- What operations side by side give in the end is the same, but for times. -/
theorem Parallel.reply {β β' : Type} {Q : β → β' → Prop} {x : Operation β} {x' : Operation β'}
    (f : β → Reply) (f' : β' → Reply) (h : Parallel Q x x' s t)
    (fits : ∀ a a', Q a a' → (f' a').timeless = (f a).timeless) :
    ((f' <$> x').run t).1.map Reply.timeless = ((f <$> x).run s).1.map Reply.timeless ∧
      ((f <$> x).run s).2.Twins ((f' <$> x').run t).2 := by
  obtain ⟨agree, twins⟩ := h.map (P := fun r r' : Reply => r'.timeless = r.timeless) fits
  refine ⟨?_, twins⟩
  generalize ((f <$> x).run s).1 = r at agree
  generalize ((f' <$> x').run t).1 = r' at agree
  cases agree with
  | ok same => exact congrArg Except.ok same
  | error e => rfl

theorem parallel_ofEvent (h : s.Twins t) {time : Nat} {e : Event} (due : .timer time e ∈ s.jobs)
    (alike : ∀ game, e = .nextTurn game → s.DrawWordAlike t) :
    Parallel (fun _ _ => True) (ofEvent e) (ofEvent e) (s.without (.timer time e))
      (t.without (.timer time e)) := by
  have others := h.without (.timer time e)
  cases e with
  | nextTurn game =>
    have pending : (time, game) ∈ s.advances := Service.mem_advances.2 due
    exact parallel_nextTurn others (h.books.there (List.mem_map_of_mem pending)) (alike game rfl)
  | kick game user => exact (parallel_kick others game user).map fun _ _ _ => trivial

end Operation

namespace Service

open Operation

/-- A step that is taken on both sides gives the same, but for times, and leaves twins. -/
theorem Twins.take {s t : Service} (h : s.Twins t) {x : Step} (alike : x.DrawsAlike s t) :
    (t.take x).1.map Reply.timeless = (s.take x).1.map Reply.timeless ∧
      (s.take x).2.Twins (t.take x).2 := by
  cases x with
  | call r asked =>
    exact (parallel_request h asked alike).reply .answer .answer
      fun _ _ same => congrArg Reply.answer same
  | leaderboard game viewer =>
    have seen := (parallel_view h game viewer).map (P := fun l l' => l' = l)
      fun _ _ same => congrArg View.leaderboard same
    exact seen.reply .standings .standings fun _ _ same => congrArg Reply.standings same
  | word game viewer =>
    have seen := (parallel_view h game viewer).map (P := fun w w' => w' = w)
      fun _ _ same => congrArg View.word same
    exact seen.reply .word .word fun _ _ same => congrArg Reply.word same
  | due time e =>
    have same : t.isDue time e = s.isDue time e := by
      rw [h.others]
      rfl
    simp only [Service.take]
    rw [same]
    split
    · rename_i due
      have waits : .timer time e ∈ s.jobs := by
        simp only [isDue, Bool.and_eq_true, List.contains_iff_mem] at due
        exact due.1.2
      refine (parallel_ofEvent h waits fun game is_turn => ?_).reply _ _ fun _ _ _ => rfl
      subst is_turn
      exact alike due
    · exact ⟨rfl, h⟩
  | elsewhere change idle => exact ⟨rfl, h.elsewhere idle⟩

/-- Twins show the same at every step, as long as they draw the same. -/
theorem Twins.shows {s t : Service} (h : s.Twins t) {steps : List Step}
    (alike : s.DrawAlike t steps) : t.shows steps = s.shows steps := by
  induction steps generalizing s t with
  | nil => rfl
  | cons x xs ih =>
    obtain ⟨first, rest⟩ := alike
    obtain ⟨same, twins⟩ := h.take first
    unfold Service.shows
    rw [same, twins.same_jobs.1, twins.same_jobs.2, ih twins rest]

/-- A service in memory on which nothing was done. -/
def inMemory (settings : RoomSettings) (words : List Word) (supply : Supply) : Service where
  settings
  books := { store := .memory { words }, supply }

/-- A service in relational tables on which nothing was done. -/
def inRows (settings : RoomSettings) (words : List Word) (supply : Supply) : Service where
  settings
  books := { store := .relational { words }, supply }

theorem twins_of_start (settings : RoomSettings) {words words' : List Word}
    (corpus : words.Perm words') (distinct : (words.map (·.id)).Nodup) {p q : Supply}
    (ids : q.id = p.id) (injective : Function.Injective p.id) (clock : q.RunsOn) :
    (inMemory settings words p).Twins (inRows settings words' q) where
  others := rfl
  books := by
    refine ⟨rfl, ids, ids ▸ injective, clock, { words }, words', {}, rfl, rfl, ?_⟩
    refine ⟨rfl, corpus, distinct, rfl, .empty, fun _ mem => ?_, ?_, fun _ mem => ?_⟩
    · cases mem
    · constructor <;> (intro _ mem; cases mem)
    · cases mem

end Service

/-- Taken in memory and in relational tables, the same steps give the same results, but for times,
and leave the same notices queued and the same advances scheduled, if the same identifiers,
nicknames and words are drawn on both sides. -/
theorem stores_play_alike (settings : RoomSettings) {words words' : List Word}
    (corpus : words.Perm words') (distinct : (words.map (·.id)).Nodup) {p q : Supply}
    (ids : q.id = p.id) (injective : Function.Injective p.id) (clock : q.RunsOn) (steps : List Step)
    (alike : (Service.inMemory settings words p).DrawAlike (Service.inRows settings words' q) steps) :
    (Service.inRows settings words' q).shows steps =
      (Service.inMemory settings words p).shows steps :=
  (Service.twins_of_start settings corpus distinct ids injective clock).shows alike

/-- The first turn of a game of one, after a game was asked for by nobody and up to the word of the
next turn, which is covered up again. -/
def Step.firstTurn : List Step :=
  let game := "||||||"
  [.call .initUser (by simp), .call (.initGame "nobody") (by simp), .call (.initGame "|") (by simp),
    .call (.guess game "|" "pear") (by simp), .call (.guess game "|" "Apple") (by simp),
    .elsewhere (fun s => { s with now := s.now + 5000 })
      ⟨fun _ _ => rfl, fun _ => List.Subset.refl _⟩,
    .due 5000 (.nextTurn game), .leaderboard game "|", .word game "|"]

theorem stores_play_first_turn_alike :
    let words : List Word := [⟨"w", "apple", "🍎"⟩]
    let memory := Service.inMemory {} words .counting
    let rows := Service.inRows {} words .counting
    rows.shows Step.firstTurn = memory.shows Step.firstTurn ∧
      ((memory.shows Step.firstTurn).map (·.result)).drop 3 =
        [.ok (.answer (.post ⟨true, "SillyCat", "pear"⟩)),
          .ok (.answer (.post ⟨true, "SillyCat", "Apple"⟩)), .ok .nothing, .ok .nothing,
          .ok (.standings [⟨"SillyCat", true, false, 10⟩]), .ok (.word "*****")] := by
  refine ⟨stores_play_alike {} (.refl _) (by decide) rfl Supply.counting_injective
    Supply.counting_runsOn Step.firstTurn ?_, by decide +kernel⟩
  refine ⟨⟨by decide +kernel, by decide +kernel⟩, ?_⟩
  refine ⟨fun _ => ?_, fun _ => ?_, trivial, trivial, trivial, fun _ => ?_, trivial, trivial, trivial⟩
  all_goals
    unfold Service.DrawWordAlike
    decide +kernel

end GuessingRoom
