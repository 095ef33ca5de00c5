import Mathlib.Data.List.Infix
import GuessingRoom.Game.Operation
import GuessingRoom.Proofs.Bookkeeping

/-!
# Along a relation

An entry goes along a relation of books if the books it leaves stand in the relation to those it
found, whether it ends with a value or an error. For a relation that suits work on the books
(`IsCourse`, `CarriesRooms`, `CarriesGames`, `Carries`) this goes for every entry of the game. The relation that matters most is
`Books.Grows`: nothing that was put down of turns, messages and awards is taken back or changed.
-/

namespace GuessingRoom

namespace Entry

variable {α β : Type} {R : Books → Books → Prop}

/-- However the entry ends, it leaves books in the relation to those it found. -/
def Along (R : Books → Books → Prop) (e : Entry α) : Prop := ∀ b, R b (e b).2

theorem Along.yields {e : Entry α} (h : e.Along R) {b b' : Books} {a : α} (y : e.Yields b a b') :
    R b b' := by
  have := h b
  rwa [y] at this

theorem Along.fails {e : Entry α} (h : e.Along R) {b b' : Books} {x : GameError}
    (f : e.Fails b x b') : R b b' := by
  have := h b
  rwa [f] at this

theorem along_of {e : Entry α} (yields : ∀ b a b', e.Yields b a b' → R b b')
    (fails : ∀ b x b', e.Fails b x b' → R b b') : e.Along R := by
  intro b
  rcases e.yields_or_fails b with ⟨a, h⟩ | ⟨x, h⟩
  · exact yields b a _ h
  · exact fails b x _ h

end Entry

/-- A relation along which entries can be put together: to stay is to go along it, and so are to
draw, to commit what goes along it, and to abandon it. -/
structure IsCourse (R : Books → Books → Prop) : Prop where
  refl : ∀ b, R b b
  trans : ∀ {a b c}, R a b → R b c → R a c
  draw : ∀ b, R b { b with drawn := b.drawn + 1 }
  commit : ∀ b after, R b after → R b (Entry.committed b after)
  abandon : ∀ b after, R b after → R b (Entry.abandoned b after)

/-- A course along which games, seats and turns are put down. -/
structure CarriesRooms (R : Books → Books → Prop) : Prop extends IsCourse R where
  createGame : Entry.createGame.Along R
  addPlayer : ∀ game user, (Entry.addPlayer game user).Along R
  setState : ∀ game user state, (Entry.put (·.setState game user state)).Along R
  addTurn : ∀ game word, (Entry.addTurn game word).Along R

/-- A course along which every write to a game but that of an award goes. -/
structure CarriesGames (R : Books → Books → Prop) : Prop extends CarriesRooms R where
  addMessage : ∀ game turn player content, (Entry.addMessage game turn player content).Along R

/-- Users may be put down, and renamed, as well. -/
structure Carries (R : Books → Books → Prop) : Prop extends CarriesGames R where
  upsertUser : ∀ id nickname, (Entry.upsertUser id nickname).Along R

namespace Entry

variable {α β : Type} {R : Books → Books → Prop}

/-! ## Entries put together -/

section Course

variable (c : IsCourse R)
include c

theorem along_pure (a : α) : (pure a : Entry α).Along R := fun b => c.refl b

theorem along_throw (x : GameError) : (throw x : Entry α).Along R := fun b => c.refl b

theorem Along.bind {x : Entry α} {f : α → Entry β} (hx : x.Along R) (hf : ∀ a, (f a).Along R) :
    (x >>= f).Along R := by
  refine along_of (fun b v b' h => ?_) fun b e b' h => ?_
  · obtain ⟨a, b₁, first, rest⟩ := yields_bind.1 h
    exact c.trans (hx.yields first) ((hf a).yields rest)
  · rcases fails_bind.1 h with first | ⟨a, b₁, first, rest⟩
    · exact hx.fails first
    · exact c.trans (hx.yields first) ((hf a).fails rest)

/-- A check before the rest either ends the entry or lets it go on. -/
theorem Along.check {p : Prop} [Decidable p] {x : GameError} {k : β → Entry α} {e : Entry α}
    (h : e.Along R) : (if p then throw x >>= k else e : Entry α).Along R := by
  split
  · exact fun b => c.refl b
  · exact h

theorem Looks.along {e : Entry α} (h : e.Looks) : e.Along R := by
  intro b
  rw [h]
  exact c.refl b

theorem along_look (query : Store → Except Failure α) : (look query).Along R := (looks_look _).along c

theorem along_stamp : stamp.Along R := c.draw

theorem along_choose (items : List α) : (choose items).Along R := c.draw

theorem along_write {change : Store → Except Failure (α × Store)}
    (h : ∀ b a b', (write change).Yields b a b' → R b b') : (write change).Along R := by
  apply along_of h
  intro b x b' f
  rw [(fails_write f).1]
  exact c.refl b

/-- A write with a stamp goes along the relation if it does so when it succeeds. -/
theorem along_stamped {change : Stamp → Store → Except Failure (α × Store)}
    (h : ∀ b a b', (stamp >>= fun s => write (change s)).Yields b a b' → R b b') :
    (stamp >>= fun s => write (change s)).Along R := by
  apply along_of h
  intro b x b' f
  rw [(fails_stamped f).1]
  exact c.draw b

theorem Along.inUnit {e : Entry α} (h : e.Along R) : e.inUnit.Along R := by
  refine along_of (fun b a b' u => ?_) fun b x b' u => ?_
  · obtain ⟨after, whole, rfl⟩ := yields_inUnit.1 u
    exact c.commit b after (h.yields whole)
  · obtain ⟨after, whole, rfl⟩ := fails_inUnit.1 u
    exact c.abandon b after (h.fails whole)

/-! ## Rows that have to be there -/

theorem along_requireUser (id : Id) : (requireUser id).Along R := (looks_requireUser id).along c

theorem along_requireGame (id : Id) : (requireGame id).Along R := (looks_requireGame id).along c

theorem along_requireTurn (game : Id) : (requireTurn game).Along R := (looks_requireTurn game).along c

theorem along_requireWord (id : Id) : (requireWord id).Along R := (looks_requireWord id).along c

theorem along_drawWord : drawWord.Along R := by
  refine .bind c (along_look c _) fun words => .bind c (along_choose c words) fun found => ?_
  cases found with
  | none => exact along_throw c _
  | some word => exact along_pure c _

end Course

/-! ## Entries of the game -/

section Rooms

variable (c : CarriesRooms R)
include c

theorem along_openGame (user : Id) (word : Word) : (Operation.openGame user word).Along R := by
  refine .bind c.toIsCourse c.createGame fun game => ?_
  refine .bind c.toIsCourse (c.addPlayer _ _) fun _ => ?_
  exact .bind c.toIsCourse (c.addTurn _ _) fun _ => along_pure c.toIsCourse _

theorem along_takeSeat (settings : RoomSettings) (game : Id) (user : User) :
    (Operation.takeSeat settings game user).Along R := by
  refine .bind c.toIsCourse (along_look c.toIsCourse _) fun players => ?_
  refine .check c.toIsCourse (.check c.toIsCourse ?_)
  split
  · exact c.setState _ _ _
  · exact c.addPlayer _ _

end Rooms

/-- A guess that is judged puts down a message, and perhaps an award. -/
theorem along_judge (c : IsCourse R)
    (message : ∀ game turn player content, (addMessage game turn player content).Along R)
    (score : ∀ award, (addScore award).Along R) (settings : RoomSettings) (game : Id) (turn : Turn)
    (word : Word) (user : User) (content : String) :
    (judge settings game turn word user content).Along R := by
  refine .bind c (along_look c _) fun active => ?_
  refine .check c (.bind c (message _ _ _ _) fun message => ?_)
  split
  · exact along_pure c _
  · refine .bind c (along_look c _) fun scores => ?_
    refine .bind c ?_ fun verdict => along_pure c _
    unfold award
    split
    · exact along_pure c _
    · exact .bind c (score _) fun _ => along_pure c _

end Entry

/-! ## Growth -/

/-- Between the first books and the second ones turns, messages and awards were at most added. -/
structure Books.Grows (b b' : Books) : Prop where
  supply : b'.supply = b.supply
  drawn : b.drawn ≤ b'.drawn
  words : b'.ledger.words = b.ledger.words
  rounds : b.ledger.rounds <+: b'.ledger.rounds
  lines : b.ledger.lines <+: b'.ledger.lines
  awards : b.ledger.awards <+: b'.ledger.awards

namespace Books.Grows

open Entry

theorem refl (b : Books) : b.Grows b :=
  ⟨rfl, Nat.le_refl _, rfl, List.prefix_rfl, List.prefix_rfl, List.prefix_rfl⟩

theorem trans {a b c : Books} (h : a.Grows b) (h' : b.Grows c) : a.Grows c where
  supply := h'.supply.trans h.supply
  drawn := h.drawn.trans h'.drawn
  words := h'.words.trans h.words
  rounds := h.rounds.trans h'.rounds
  lines := h.lines.trans h'.lines
  awards := h.awards.trans h'.awards

theorem isCourse : IsCourse Books.Grows where
  refl := refl
  trans := trans
  draw b := { refl b with drawn := Nat.le_succ _ }
  commit b after h := by
    refine ⟨h.supply, h.drawn, ?_, ?_, ?_, ?_⟩ <;> rw [ledger_committed]
    exacts [h.words, h.rounds, h.lines, h.awards]
  abandon b after h := by
    refine ⟨h.supply, h.drawn, ?_, ?_, ?_, ?_⟩ <;> rw [ledger_abandoned]

/-- A write with a stamp lets the books grow if it lets the ledger grow. -/
theorem of_ledger {b : Books} {store : Store} {drawn : Nat} (later : b.drawn ≤ drawn)
    (words : store.ledger.words = b.ledger.words) (rounds : b.ledger.rounds <+: store.ledger.rounds)
    (lines : b.ledger.lines <+: store.ledger.lines)
    (awards : b.ledger.awards <+: store.ledger.awards) :
    b.Grows { b with store, drawn } :=
  ⟨rfl, later, words, rounds, lines, awards⟩

theorem carries : Carries Books.Grows where
  toIsCourse := isCourse
  upsertUser id nickname := by
    apply along_stamped isCourse
    intro b u b' h
    obtain ⟨store, rfl, users, -, -, e⟩ := upsertUser_yields h
    refine of_ledger (Nat.le_succ _) ?_ ?_ ?_ ?_ <;> rw [e]
  createGame := by
    apply along_stamped isCourse
    intro b game b' h
    obtain ⟨-, store, rfl, e⟩ := createGame_yields h
    refine of_ledger (Nat.le_succ _) ?_ ?_ ?_ ?_ <;> rw [e]
  addPlayer game user := by
    apply along_stamped isCourse
    intro b u b' h
    obtain ⟨-, store, rfl, e⟩ := addPlayer_yields h
    refine of_ledger (Nat.le_succ _) ?_ ?_ ?_ ?_ <;> rw [e]
  setState game user state := by
    apply along_write isCourse
    intro b u b' h
    obtain ⟨store, rfl, e⟩ := setState_yields h
    refine of_ledger (Nat.le_refl _) ?_ ?_ ?_ ?_ <;> rw [e]
  addTurn game word := by
    apply along_stamped isCourse
    intro b turn b' h
    obtain ⟨-, store, rfl, e⟩ := addTurn_yields h
    refine of_ledger (Nat.le_succ _) ?_ ?_ ?_ ?_ <;> rw [e]
    exact List.prefix_append _ _
  addMessage game turn player content := by
    apply along_stamped isCourse
    intro b message b' h
    obtain ⟨-, store, rfl, e⟩ := addMessage_yields h
    refine of_ledger (Nat.le_succ _) ?_ ?_ ?_ ?_ <;> rw [e]
    exact List.prefix_append _ _

theorem along_addScore (award : Award) : (addScore award).Along Books.Grows := by
  apply along_stamped isCourse
  intro b u b' h
  obtain ⟨store, rfl, e⟩ := addScore_yields h
  refine of_ledger (Nat.le_succ _) ?_ ?_ ?_ ?_ <;> rw [e]
  exact List.prefix_append _ _

end Books.Grows

end GuessingRoom
