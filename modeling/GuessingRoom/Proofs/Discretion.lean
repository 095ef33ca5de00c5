import Mathlib.Data.List.Forall2
import GuessingRoom.Store.Supply
import GuessingRoom.View

/-!
# What a view gives away

Whoever has not found the word sees its shape, and what the others say as long as they do not spell it
out. Two games with secrets of the same shape, in which the others have said the same but for that, are
alike to such a viewer (`Snapshot.Alike`), and nothing in the view tells them apart
(`View.derive_eq_of_alike`).
-/

namespace GuessingRoom

open Secret

/-- The second message next to the second secret is to the viewer what the first message is next to the
first secret: of the same author, and the same text unless the viewer is not to see either. -/
structure Message.Alike (viewer : Id) (secret : String) (m : Message) (secret' : String)
    (m' : Message) : Prop where
  author : m'.playerId = m.playerId
  own : m.playerId = viewer → m'.content = m.content
  others : m.playerId ≠ viewer →
    sameWord m.content secret = true ∧ sameWord m'.content secret' = true ∨
      sameWord m.content secret = false ∧ sameWord m'.content secret' = false ∧
        m'.content = m.content

/-- The games differ for the viewer at most in a word of which only the shape is shown, and in messages
that are covered up. Of the turns only the identifiers count, for they name different words. -/
structure Snapshot.Alike (viewer : Id) (s t : Snapshot) : Prop where
  game : t.gameId = s.gameId
  players : t.players = s.players
  turn : t.turn.id = s.turn.id
  hint : t.word.hint = s.word.hint
  scores : t.scores = s.scores
  shape : mask t.word.word = mask s.word.word
  messages : List.Forall₂ (fun m m' => m.Alike viewer s.word.word t.word.word m') s.messages t.messages

namespace Secret

variable {content secret : String} {viewer author : Id}

theorem visibleContent_of_sameWord (other : author ≠ viewer) (same : sameWord content secret = true) :
    visibleContent content secret viewer author = redacted := if_pos ⟨other.symm, same⟩

theorem visibleContent_of_not_sameWord (differs : sameWord content secret = false) :
    visibleContent content secret viewer author = content := by
  unfold visibleContent
  rw [differs]
  exact if_neg (by simp)

end Secret

namespace Message.Alike

variable {viewer : Id} {secret secret' : String} {m m' : Message}
  (h : m.Alike viewer secret secret' m')
include h

/-- What the viewer sees of the one message is seen of the other. -/
theorem visibleContent : Secret.visibleContent m'.content secret' viewer m'.playerId =
    Secret.visibleContent m.content secret viewer m.playerId := by
  rw [h.author]
  by_cases own : m.playerId = viewer
  · rw [own, visibleContent_self, visibleContent_self, h.own own]
  · rcases h.others own with ⟨same, same'⟩ | ⟨differs, differs', equal⟩
    · rw [visibleContent_of_sameWord own same, visibleContent_of_sameWord own same']
    · rw [visibleContent_of_not_sameWord differs, visibleContent_of_not_sameWord differs', equal]

theorem post (players : List Player) :
    View.post players secret' viewer m' = View.post players secret viewer m := by
  unfold View.post
  rw [h.visibleContent, h.author]

end Message.Alike

namespace Snapshot.Alike

variable {viewer : Id} {s t : Snapshot} (h : s.Alike viewer t)
include h

theorem posts : t.messages.reverse.map (View.post t.players t.word.word viewer) =
    s.messages.reverse.map (View.post s.players s.word.word viewer) := by
  have alike : List.Forall₂ (· = ·) (t.messages.map (View.post s.players t.word.word viewer))
      (s.messages.map (View.post s.players s.word.word viewer)) :=
    List.forall₂_map_left_iff.2 (List.forall₂_map_right_iff.2
      (h.messages.flip.imp fun _ _ alike => alike.post s.players))
  rw [List.forall₂_eq_eq_eq] at alike
  rw [List.map_reverse, List.map_reverse, h.players, alike]

theorem shownWord (lacks : Board.hasGuessed s.scores viewer s.turn.id = false) :
    View.shownWord t viewer = View.shownWord s viewer := by
  unfold View.shownWord
  rw [h.scores, h.turn, lacks]
  exact h.shape

end Snapshot.Alike

namespace View

/-- A seated viewer has a view. -/
theorem exists_derive {s : Snapshot} {viewer : Id} (seated : Board.isSeated s.players viewer = true) :
    ∃ v, derive s viewer = .ok v := by
  have active : (Board.activePlayers s.players).any (·.id == viewer) = true := by
    rw [Board.activePlayers, List.any_filter]
    simpa [Board.isSeated, Bool.and_comm] using seated
  unfold derive
  rw [if_pos active]
  exact ⟨_, rfl⟩

/-- Games that are alike to a viewer who has not found the word look the same to that viewer, in every
part of the view. -/
theorem derive_eq_of_alike {s t : Snapshot} {viewer : Id} (alike : s.Alike viewer t)
    (seated : Board.isSeated s.players viewer = true)
    (lacks : Board.hasGuessed s.scores viewer s.turn.id = false) :
    ∃ v, derive s viewer = .ok v ∧ derive t viewer = .ok v := by
  obtain ⟨v, derived⟩ := exists_derive seated
  refine ⟨v, derived, ?_⟩
  rw [← derived]
  unfold derive
  rw [alike.posts, alike.shownWord lacks, alike.game, alike.players, alike.turn, alike.hint,
    alike.scores]

/-- A game about a cat or a dog with two players, who have both tried once; the second also says
something else. -/
def tried (now : Time.Instant) (word : String) : Snapshot where
  gameId := "g"
  players := [⟨"ann", "Ann", .active, now⟩, ⟨"bob", "Bob", .active, now⟩]
  turn := ⟨"t", "g", word, now⟩
  word := ⟨word, word, "🐾"⟩
  messages := [⟨"m1", "g", "t", "ann", "cow", now⟩, ⟨"m2", "g", "t", "bob", word, now⟩,
    ⟨"m3", "g", "t", "bob", "got it", now⟩]
  scores := [⟨⟨"g", "t", "bob", "m2", 20⟩, now⟩]

theorem derive_tried :
    let s := tried (Supply.tick 0) "Cat"
    let t := tried (Supply.tick 0) "DOG"
    s.Alike "ann" t ∧ Board.isSeated s.players "ann" = true ∧
      Board.hasGuessed s.scores "ann" s.turn.id = false ∧
      ∃ v, derive s "ann" = .ok v ∧ derive t "ann" = .ok v := by
  intro s t
  have cow : Message.Alike "ann" "Cat" ⟨"m1", "g", "t", "ann", "cow", Supply.tick 0⟩ "DOG"
      ⟨"m1", "g", "t", "ann", "cow", Supply.tick 0⟩ := ⟨rfl, fun _ => rfl, fun other => absurd rfl other⟩
  have found : Message.Alike "ann" "Cat" ⟨"m2", "g", "t", "bob", "Cat", Supply.tick 0⟩ "DOG"
      ⟨"m2", "g", "t", "bob", "DOG", Supply.tick 0⟩ :=
    ⟨rfl, fun own => absurd own (by decide), fun _ => .inl (by decide)⟩
  have told : Message.Alike "ann" "Cat" ⟨"m3", "g", "t", "bob", "got it", Supply.tick 0⟩ "DOG"
      ⟨"m3", "g", "t", "bob", "got it", Supply.tick 0⟩ :=
    ⟨rfl, fun _ => rfl, fun _ => .inr (by decide)⟩
  have alike : s.Alike "ann" t :=
    ⟨rfl, rfl, rfl, rfl, rfl, by decide, .cons cow (.cons found (.cons told .nil))⟩
  exact ⟨alike, by decide, by decide, derive_eq_of_alike alike (by decide) (by decide)⟩

end View

end GuessingRoom
