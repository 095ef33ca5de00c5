import GuessingRoom.Proofs.Scenes

/-!
# Games do not affect each other

Of a run of many games everything is left out that does not concern a certain one. With the same
draws for it, that game is in the same scene as before, and the books hold the same of it
(`House.Beside`): what was left out made no difference (`House.Beside.other`), and what is left comes
to the same (`House.Beside.own`). So whatever is asked in the game is answered the same, all that its
players see, read and are still to read is the same, and its batches wait when they waited before,
whoever else is slow to read (`House.games_keep_apart`).
-/

namespace GuessingRoom

/-! ## The draws of a game -/

namespace Supply

/-- The draws of the first supply are, one after another, those of the second one that have the given
numbers. -/
def Follows (S' S : Supply) (draws : List Nat) : Prop :=
  ∀ i n, draws[i]? = some n → S'.stamp i = S.stamp n ∧ S'.choice i = S.choice n

/-- The supply of the given draws. -/
def drawing (S : Supply) (draws : List Nat) : Supply where
  id i := S.id (draws.getD i 0)
  time i := S.time (draws.getD i 0)
  choice i := S.choice (draws.getD i 0)
  storable i := S.storable (draws.getD i 0)

theorem follows_drawing (S : Supply) (draws : List Nat) : (S.drawing draws).Follows S draws := by
  intro i n here
  have same : draws.getD i 0 = n := by rw [List.getD_eq_getElem?_getD, here, Option.getD_some]
  unfold drawing stamp
  dsimp only
  rw [same]
  exact ⟨rfl, rfl⟩

theorem Follows.of_prefix {S' S : Supply} {draws more : List Nat} (h : S'.Follows S more)
    (before : draws <+: more) : S'.Follows S draws := by
  obtain ⟨rest, rfl⟩ := before
  intro i n here
  obtain ⟨lt, -⟩ := List.getElem?_eq_some_iff.1 here
  exact h i n ((List.getElem?_append_left lt).trans here)

end Supply

namespace House

variable {w v : House} {game : Id}

/-- Only the steps of calls have to do with the books. -/
theorem still_act (w : House) {a : Act} (still : ∀ game i, a ≠ .call game i) :
    (w.act a).service.books = w.service.books ∧ (w.act a).draws = w.draws := by
  cases a with
  | begin game play => exact ⟨rfl, rfl⟩
  | call game i => exact absurd rfl (still game i)
  | turn game due =>
    show (w.turn game due).service.books = _ ∧ (w.turn game due).draws = _
    unfold turn
    split <;> exact ⟨rfl, rfl⟩
  | batch game i =>
    show (w.batch game i).service.books = _ ∧ (w.batch game i).draws = _
    unfold batch
    split
    · rename_i q here
      exact ⟨(w.calm_step q.number).1.books, rfl⟩
    · exact ⟨rfl, rfl⟩
  | connect game player => exact ⟨rfl, rfl⟩
  | read game player =>
    show (w.read game player).service.books = _ ∧ (w.read game player).draws = _
    unfold read
    split <;> exact ⟨rfl, rfl⟩
  | wait time => exact ⟨rfl, rfl⟩

/-- Draws that were made stay made, from the same supply. -/
theorem Sound.grows (s : w.Sound) (a : Act) (game : Id) :
    (w.act a).service.books.supply = w.service.books.supply ∧
      w.draws game <+: (w.act a).draws game := by
  by_cases still : ∀ game i, a ≠ .call game i
  · obtain ⟨books, draws⟩ := w.still_act still
    rw [books, draws]
    exact ⟨rfl, List.prefix_refl _⟩
  · push Not at still
    obtain ⟨other, i, rfl⟩ := still
    show ((w.calls other)[i]?.elim w (w.proceed other i)).service.books.supply = _ ∧
      _ <+: ((w.calls other)[i]?.elim w (w.proceed other i)).draws game
    rcases here : (w.calls other)[i]? with _ | e
    · exact ⟨rfl, List.prefix_refl _⟩
    · have stays := s.calls other e (List.mem_of_getElem? here)
      obtain ⟨alike, -⟩ := stays.advance_self fun _ known => known
      refine ⟨alike.keeps.supply, ?_⟩
      show _ <+: Function.update w.draws other _ game
      rw [Function.update_apply]
      split
      · rename_i own
        rw [own]
        exact List.prefix_append _ _
      · exact List.prefix_refl _

theorem Sound.grows_run (s : w.Sound) (acts : List Act) (game : Id) :
    (acts.foldl House.act w).service.books.supply = w.service.books.supply ∧
      w.draws game <+: (acts.foldl House.act w).draws game := by
  induction acts generalizing w with
  | nil => exact ⟨rfl, List.prefix_refl _⟩
  | cons a acts ih =>
    obtain ⟨supply, made⟩ := s.grows a game
    obtain ⟨supply', made'⟩ := ih (s.act a)
    exact ⟨supply'.trans supply, made.trans made'⟩

/-! ## Two houses -/

/-- The game is in the same scene in both houses, and their books share it. All draws of the second
house were made for the game. -/
structure Beside (game : Id) (w v : House) : Prop where
  scene : v.scene game = w.scene game
  books : w.service.books.Shares game w.service.books.drawn v.service.books
  drawn : v.service.books.drawn = (w.draws game).length

namespace Beside

/-- The services are alike as far as the game goes, for as many draws as are alike. -/
theorem shares (h : Beside game w v) {count : Nat}
    (follows : v.service.books.supply.Follows w.service.books.supply
      (w.draws game ++ List.range' w.service.books.drawn count)) :
    w.service.Shares game (w.service.books.drawn + count) v.service where
  settings := congrArg Scene.settings h.scene
  books := by
    refine h.books.upTo fun i lt => ?_
    -- the draws to come stand behind those that were made for the game
    rw [h.drawn]
    refine follows _ _ ?_
    rw [List.getElem?_append_right (Nat.le_add_right _ i), Nat.add_sub_cancel_left,
      List.getElem?_range' (Nat.lt_of_add_lt_add_left lt), Nat.one_mul]
  connected := by
    have ears : v.service.hub.ears game = w.service.hub.ears game :=
      congrArg (fun c : Scene => c.lane.ears) h.scene
    rw [Hub.subscribers_eq, Hub.subscribers_eq, ears]

/-! ### The steps of calls -/

/-- What a step does in one house it does in the other. -/
theorem scene_goes (h : Beside game w v) (s : w.Sound) (s' : v.Sound) {limit : Nat}
    {after after' : Service} (alike : w.service.GoAlike game limit v.service after after') :
    (v.goes after').scene game = (w.goes after).scene game := by
  cases alike with
  | works b c => rw [scene_works, scene_works, h.scene]
  | queues items => rw [s'.scene_queues, s.scene_queues, if_pos rfl, if_pos rfl, h.scene]
  | schedules delay => rw [scene_schedules, scene_schedules, if_pos rfl, if_pos rfl, h.scene]

/-- What a step does is not seen in other games. -/
theorem scene_goes_other (s : w.Sound) {other : Id} (ne : game ≠ other) {limit : Nat}
    {t after after' : Service} (alike : w.service.GoAlike other limit t after after') :
    (w.goes after).scene game = w.scene game := by
  cases alike with
  | works b c => exact scene_works ..
  | queues items => rw [s.scene_queues, if_neg ne]
  | schedules delay => rw [scene_schedules, if_neg ne]

theorem proceed (h : Beside game w v) (s : w.Sound) (s' : v.Sound) {i : Nat}
    {e e' : Errand Service Call (Except GameError Reply)} (here : (w.calls game)[i]? = some e)
    (same : (e'.task, e'.rest) = (e.task, e.rest))
    (follows : v.service.books.supply.Follows w.service.books.supply
      ((w.proceed game i e).draws game)) :
    Beside game (w.proceed game i e) (v.proceed game i e') := by
  rw [Prod.mk.injEq] at same
  obtain ⟨task, rest⟩ := same
  have draws : (w.proceed game i e).draws game = w.draws game ++ List.range'
      w.service.books.drawn ((e.advance w.service).1.books.drawn - w.service.books.drawn) :=
    Function.update_self ..
  rw [draws] at follows
  have stays := s.calls game e (List.mem_of_getElem? here)
  obtain ⟨alike, goes, -⟩ := stays.advance rest (h.shares follows) (fun _ known => known) (by omega)
  have scene := h.scene_goes s s' alike
  have more := alike.keeps.drawn
  refine ⟨?_, ?_, ?_⟩
  · rw [scene_proceed, scene_proceed, if_pos rfl, if_pos rfl, scene, goes, task, h.scene]
  · exact (alike.shares (h.shares follows)).books.upTo fun i lt =>
      absurd lt (Nat.not_lt_of_le (Nat.le_add_right _ i))
  · have even := alike.draws
    rw [draws, List.length_append, List.length_range', ← h.drawn]
    show (e'.advance v.service).1.books.drawn = _
    omega

theorem proceed_other (h : Beside game w v) (s : w.Sound)
    (distinct : Function.Injective w.service.books.supply.id) {other : Id} (ne : game ≠ other)
    {i : Nat} {e : Errand Service Call (Except GameError Reply)}
    (here : (w.calls other)[i]? = some e) : Beside game (w.proceed other i e) v := by
  have stays := s.calls other e (List.mem_of_getElem? here)
  obtain ⟨alike, -⟩ := stays.advance_self fun _ known => known
  refine ⟨?_, h.books.beside distinct alike.keeps ne, ?_⟩
  · rw [scene_proceed, if_neg ne, scene_goes_other s ne alike, h.scene]
  · show _ = (Function.update w.draws other _ game).length
    rw [Function.update_of_ne ne, h.drawn]

/-! ### Whatever is done -/

/-- What is done in the game comes to the same in both houses. -/
theorem own (h : Beside game w v) (s : w.Sound) (s' : v.Sound) {a : Act}
    (own : a.concerns game = true)
    (follows : v.service.books.supply.Follows w.service.books.supply ((w.act a).draws game)) :
    Beside game (w.act a) (v.act a) := by
  by_cases still : ∀ game i, a ≠ .call game i
  · obtain ⟨books, draws⟩ := w.still_act still
    obtain ⟨books', -⟩ := v.still_act still
    refine ⟨?_, ?_, ?_⟩
    · rw [s.scene_act _ still, s'.scene_act _ still, if_pos own, if_pos own, h.scene]
    · rw [books, books']
      exact h.books
    · rw [books', draws]
      exact h.drawn
  · push Not at still
    obtain ⟨other, i, rfl⟩ := still
    obtain rfl : other = game := beq_iff_eq.1 own
    have calls : (v.calls other)[i]?.map (fun e => (e.task, e.rest)) =
        (w.calls other)[i]?.map fun e => (e.task, e.rest) := by
      rw [← List.getElem?_map, ← List.getElem?_map]
      exact congrArg (fun c : Scene => c.calls[i]?) h.scene
    have acted (w : House) :
        w.act (.call other i) = (w.calls other)[i]?.elim w (w.proceed other i) := rfl
    rw [acted] at follows
    rw [acted, acted]
    rcases here : (w.calls other)[i]? with _ | e
    · rw [here, Option.map_none, Option.map_eq_none_iff] at calls
      rw [calls]
      exact h
    · rw [here, Option.map_some, Option.map_eq_some_iff] at calls
      obtain ⟨e', here', same⟩ := calls
      rw [here] at follows
      rw [here']
      exact h.proceed s s' here same follows

/-- What is done in other games makes no difference. -/
theorem other (h : Beside game w v) (s : w.Sound)
    (distinct : Function.Injective w.service.books.supply.id) {a : Act}
    (other : a.concerns game ≠ true) : Beside game (w.act a) v := by
  by_cases still : ∀ game i, a ≠ .call game i
  · obtain ⟨books, draws⟩ := w.still_act still
    refine ⟨?_, ?_, ?_⟩
    · rw [s.scene_act _ still, if_neg other, h.scene]
    · rw [books]
      exact h.books
    · rw [draws]
      exact h.drawn
  · push Not at still
    obtain ⟨g, i, rfl⟩ := still
    have ne : game ≠ g := fun same => other (beq_iff_eq.2 same.symm)
    show Beside game ((w.calls g)[i]?.elim w (w.proceed g i)) v
    rcases here : (w.calls g)[i]? with _ | e
    · exact h
    · exact h.proceed_other s distinct ne here

/-- Whatever is done, it is enough to do what concerns the game. -/
theorem run (h : Beside game w v) (s : w.Sound) (s' : v.Sound)
    (distinct : Function.Injective w.service.books.supply.id) (acts : List Act)
    (follows : v.service.books.supply.Follows w.service.books.supply
      ((acts.foldl act w).draws game)) :
    Beside game (acts.foldl act w) ((acts.filter (·.concerns game)).foldl act v) := by
  induction acts generalizing w v with
  | nil => exact h
  | cons a acts ih =>
    have supply := (s.grows a game).1
    -- what was drawn so far is at the beginning of what will have been drawn
    have made := ((s.act a).grows_run acts game).2
    by_cases own : a.concerns game = true
    · rw [List.filter_cons_of_pos own]
      refine ih (h.own s s' own (follows.of_prefix made)) (s.act a) (s'.act a) ?_ ?_
      · rw [supply]
        exact distinct
      · rw [supply, (s'.grows a game).1]
        exact follows
    · rw [List.filter_cons_of_neg own]
      refine ih (h.other s distinct own) (s.act a) s' ?_ ?_ <;> rw [supply]
      · exact distinct
      · exact follows

end Beside

/-! ## The game as it is seen -/

/-- What a game comes to is the same in both houses. -/
structure Alike (game : Id) (w v : House) : Prop where
  /-- Every call has ended the same, or in neither house. -/
  answers : (v.calls game).map (fun e => (e.task, e.result?)) =
    (w.calls game).map fun e => (e.task, e.result?)
  /-- Whoever looks sees the same. -/
  views : ∀ viewer, ((Operation.view game viewer).run v.service).1 =
    ((Operation.view game viewer).run w.service).1
  rows : v.service.books.store.only game = w.service.books.store.only game
  queued : (v.queuedFor game).map (·.items) = (w.queuedFor game).map (·.items)
  /-- What is left of each batch, what is going out, and what waits for each player to read. -/
  lane : v.lane game = w.lane game
  heard : v.heard game = w.heard game
  dues : v.service.dues game = w.service.dues game
  /-- A batch has to wait in both houses or in neither. -/
  stalls : ∀ i, v.Stalls game i ↔ w.Stalls game i

open Entry Operation in
/-- A look leaves everything as it is. -/
theorem run_view (game viewer : Id) (s : Service) : ((Operation.view game viewer).run s).2 = s := by
  have kept : (Operation.view game viewer).Ends s fun _ t => t = s := by
    refine ends_looks (looks_requireGame game) (fun _ => rfl) fun _ _ => ?_
    refine ends_looks (looks_look _) (fun _ => rfl) fun players _ => ?_
    refine ends_check rfl fun _ => ?_
    refine ends_looks (looks_requireTurn game) (fun _ => rfl) fun turn _ => ?_
    refine ends_looks (looks_requireWord _) (fun _ => rfl) fun word _ => ?_
    refine ends_looks (looks_look _) (fun _ => rfl) fun messages _ => ?_
    exact ends_looks (looks_look _) (fun _ => rfl) fun scores _ => rfl
  exact kept

theorem Beside.alike (h : Beside game w v) (s : w.Sound) (s' : v.Sound)
    (follows : v.service.books.supply.Follows w.service.books.supply (w.draws game)) :
    Alike game w v where
  answers := by
    have calls : (v.calls game).map (fun e => (e.task, e.rest)) =
        (w.calls game).map fun e => (e.task, e.rest) := congrArg Scene.calls h.scene
    have ended := congrArg (List.map fun c : Call × Operation Reply =>
      (c.1, Errand.result? (⟨c.1, [], c.2⟩ : Errand Service Call (Except GameError Reply)))) calls
    rw [List.map_map, List.map_map] at ended
    exact ended
  views viewer := by
    have stays : Script.StaysIn game (fun _ => False) (Operation.view game viewer) :=
      Operation.stays_view viewer
    have shares : w.service.Shares game (w.service.books.drawn + 0) v.service :=
      h.shares (by rwa [List.range'_zero, List.append_nil])
    refine stays.run_eq shares (fun _ => False.elim) ?_
    have same := run_view game viewer w.service
    unfold Operation.run at same
    rw [same]
    exact Nat.le_refl _
  rows := h.books.rows
  queued := congrArg Scene.queued h.scene
  lane := congrArg Scene.lane h.scene
  heard := congrArg Scene.heard h.scene
  dues := congrArg Scene.dues h.scene
  stalls i := by
    have lane : v.lane game = w.lane game := congrArg Scene.lane h.scene
    have now : v.service.now = w.service.now := congrArg Scene.now h.scene
    rw [s.traffic.stalls_iff s.moored, s'.traffic.stalls_iff s'.moored, lane, now]

theorem sound_run (settings : RoomSettings) (books : Books) (acts : List Act) :
    (run settings books acts).Sound := by
  unfold run
  have start := Sound.start settings books
  generalize ({ service := { settings, books } } : House) = w at start
  induction acts generalizing w with
  | nil => exact start
  | cons a acts ih => exact ih _ (start.act a)

/-- Games do not affect each other. Whatever is done in whatever games, in whatever order, a game
comes to the same as if nothing had been done but what concerns it, given the same draws. -/
theorem games_keep_apart (settings : RoomSettings) (store : Store) (S S' : Supply)
    (distinct : Function.Injective S.id) (acts : List Act) (game : Id)
    (follows : S'.Follows S ((run settings { store, supply := S } acts).draws game)) :
    Alike game (run settings { store, supply := S } acts)
      (run settings { store, supply := S' } (acts.filter (·.concerns game))) := by
  let w : House := { service := { settings, books := { store, supply := S } } }
  let v : House := { service := { settings, books := { store, supply := S' } } }
  have start : w.Sound := .start settings _
  have beside : Beside game w v :=
    ⟨rfl, ⟨rfl, fun _ _ => Iff.rfl, fun _ _ => Iff.rfl,
      fun i lt => absurd lt (Nat.not_lt_of_le (Nat.le_add_right _ i))⟩, rfl⟩
  have after := beside.run start (.start settings _) distinct acts follows
  refine after.alike (sound_run settings _ acts) (sound_run settings _ _) ?_
  have supply : (run settings { store, supply := S } acts).service.books.supply = S :=
    (start.grows_run acts game).1
  have supply' : (run settings { store, supply := S' }
      (acts.filter (·.concerns game))).service.books.supply = S' :=
    ((Sound.start settings { store, supply := S' }).grows_run _ game).1
  show Supply.Follows (run settings { store, supply := S' } _).service.books.supply
    (run settings { store, supply := S } acts).service.books.supply _
  rw [supply, supply']
  exact follows

/-- Two games in which the same two players have their seats. -/
def twoGames : Store :=
  let start := Supply.tick 0
  let players := [⟨"a", "Ann", .active, start⟩, ⟨"b", "Bob", .active, start⟩]
  .memory {
    tables := {
      users := [⟨"a", "Ann", start, start⟩, ⟨"b", "Bob", start, start⟩]
      games := [⟨"g", start, start⟩, ⟨"h", start, start⟩]
      memberships := players.map (⟨"g", ·⟩) ++ players.map (⟨"h", ·⟩)
      turns := [⟨"t", "g", "w", start⟩, ⟨"u", "h", "w", start⟩] }
    words := [⟨"w", "apple", "🍎"⟩] }

/-- Ann speaks to Bob in both games, and Bob reads in only one of them. -/
def halfHeard : List Act :=
  [.connect "g" "b", .connect "h" "b", .begin "g" (.say "a" "one"), .begin "h" (.say "a" "two")] ++
    (List.replicate 7 [.call "g" 0, .call "h" 0]).flatten ++ [.begin "g" (.say "a" "three")] ++
    List.replicate 7 (.call "g" 1) ++
    (List.replicate 5 [.batch "g" 0, .batch "g" 1, .batch "h" 0]).flatten ++ [.read "h" "b"]

/-- In the game in which Bob does not read, what Ann says next has to wait, and the other game comes
to the same as without it. -/
theorem halfHeard_keeps_apart :
    Function.Injective Supply.counting.id ∧
      (Supply.counting.drawing [1]).Follows .counting
        ((run {} { store := twoGames, supply := .counting } halfHeard).draws "h") ∧
      Alike "h" (run {} { store := twoGames, supply := .counting } halfHeard)
        (run {} { store := twoGames, supply := Supply.counting.drawing [1] }
          (halfHeard.filter (·.concerns "h"))) ∧
      (run {} { store := twoGames, supply := .counting } halfHeard).Stalls "g" 1 ∧
      (run {} { store := twoGames, supply := .counting } halfHeard).heard "h" =
        [("b", .chat "a" "Ann" "two")] := by
  have draws : (run {} { store := twoGames, supply := .counting } halfHeard).draws "h" = [1] := by
    decide +kernel
  have follows : (Supply.counting.drawing [1]).Follows .counting
      ((run {} { store := twoGames, supply := .counting } halfHeard).draws "h") := by
    rw [draws]
    exact Supply.counting.follows_drawing [1]
  have sound := sound_run {} { store := twoGames, supply := .counting } halfHeard
  refine ⟨Supply.counting_injective, follows,
    games_keep_apart {} twoGames .counting _ Supply.counting_injective halfHeard "h" follows,
    (sound.traffic.stalls_iff sound.moored).2 ⟨⟨⟨[], some ⟨.chat "a" "Ann" "three", ["b"], false, 0⟩,
      false⟩, ?_⟩, ?_⟩, ?_⟩
  all_goals decide +kernel

end House

end GuessingRoom
