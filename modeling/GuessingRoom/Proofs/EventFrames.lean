import GuessingRoom.Http.EventStream
import GuessingRoom.Proofs.NoticeCodec

/-!
# What a client makes of an event stream

A client takes the text of an event stream line by line, and an empty line ends an event
(`Http.EventReader`). An event comes to the page with its name and its data, and one without data does not
come to it at all.

No text in a notice can be taken for the end of a line: what is sent of a notice is printable throughout
(`Json.printable_write`). So a client finds one event for each notice, in the order of the notices, with
the data rendered for the viewer, except that nothing comes to it for the end of a turn, of which no data
is sent (`Http.EventStream.one_event_each_iff`).
-/

namespace GuessingRoom

/-! ## Printable texts -/

/-- No control characters, such as those that end a line. -/
def Printable (cs : List Char) : Prop := ∀ c ∈ cs, 32 ≤ c.toNat

namespace Printable

theorem nil : Printable [] := by simp [Printable]

theorem cons {c : Char} {cs : List Char} (h : 32 ≤ c.toNat) (hs : Printable cs) : Printable (c :: cs) :=
  List.forall_mem_cons.2 ⟨h, hs⟩

theorem append {cs ds : List Char} (h : Printable cs) (h' : Printable ds) : Printable (cs ++ ds) :=
  List.forall_mem_append.2 ⟨h, h'⟩

theorem flatMap {α : Type} {l : List α} {f : α → List Char} (h : ∀ a ∈ l, Printable (f a)) :
    Printable (l.flatMap f) := by
  intro c mem
  obtain ⟨a, ha, hc⟩ := List.mem_flatMap.1 mem
  exact h a ha c hc

end Printable

namespace Text

theorem printable_write (n : Nat) : Printable (Decimal.write n) := by
  have digit (n : Nat) : Printable [Decimal.digitChar n] := by
    have all : ∀ k : Fin 10, 32 ≤ (Decimal.digitChar k).toNat := by decide
    have same : Decimal.digitChar (n % 10) = Decimal.digitChar n := by
      rw [Decimal.digitChar, Nat.mod_mod, ← Decimal.digitChar]
    exact .cons (same ▸ all ⟨n % 10, Nat.mod_lt _ (by decide)⟩) .nil
  fun_induction Decimal.write n with
  | case1 n => exact digit n
  | case2 n _ ih => exact ih.append (digit n)

theorem printable_writeInt (n : Int) : Printable (Decimal.writeInt n) := by
  unfold Decimal.writeInt
  split
  · exact .cons (by decide) (printable_write _)
  · exact printable_write _

theorem printable_writeFixed (width n : Nat) : Printable (Hexadecimal.writeFixed width n) := by
  have all : ∀ k : Fin 16, 32 ≤ (Hexadecimal.digitChar k).toNat := by decide
  induction width generalizing n with
  | zero => exact .nil
  | succ width ih => exact (ih _).append (.cons (all ⟨n % 16, Nat.mod_lt _ (by decide)⟩) .nil)

end Text

namespace Json

theorem printable_escape (c : Char) : Printable (escape c) := by
  unfold escape
  split_ifs with _ _ _ _ _ _ _ control
  iterate 7 exact .cons (by decide) (.cons (by decide) .nil)
  · exact .cons (by decide) (.cons (by decide) (Text.printable_writeFixed 4 c.toNat))
  · exact .cons (Nat.le_of_not_lt control) .nil

theorem printable_quote (cs : List Char) : Printable (quote cs) :=
  .cons (by decide) ((Printable.flatMap fun c _ => printable_escape c).append (.cons (by decide) .nil))

theorem printable_join {texts : List (List Char)} (h : ∀ cs ∈ texts, Printable cs) :
    Printable (join texts) := by
  induction texts with
  | nil => exact .nil
  | cons cs more ih =>
    obtain ⟨first, later⟩ := List.forall_mem_cons.1 h
    cases more with
    | nil => exact first
    | cons => exact first.append (.cons (by decide) (ih later))

mutual

/-- The text of a value has no control characters, whatever texts are in the value. -/
theorem printable_write : (j : Json) → Printable j.write
  | .text s => printable_quote _
  | .flag true => by simp [write, Printable]
  | .flag false => by simp [write, Printable]
  | .integer n => Text.printable_writeInt n
  | .list items =>
    .cons (by decide) ((printable_join (printable_writeItems items)).append (.cons (by decide) .nil))
  | .object members =>
    .cons (by decide)
      ((printable_join (printable_writeMembers members)).append (.cons (by decide) .nil))

theorem printable_writeItems : (items : List Json) → ∀ cs ∈ writeItems items, Printable cs
  | [] => nofun
  | item :: more =>
    List.forall_mem_cons.2 ⟨printable_write item, printable_writeItems more⟩

theorem printable_writeMembers : (members : List (String × Json)) →
    ∀ cs ∈ writeMembers members, Printable cs
  | [] => nofun
  | (_, value) :: more =>
    List.forall_mem_cons.2 ⟨(printable_quote _).append (.cons (by decide) (printable_write value)),
      printable_writeMembers more⟩

end

end Json

namespace Http

/-! ## The client -/

/-- An event as it comes to the page. -/
structure PageEvent where
  name : String
  data : String
deriving DecidableEq, Repr

/-- What a client has read of a stream: the line it is in, the fields of the event it is in, the data with
a line feed after each line, and the events before. -/
structure EventReader where
  line : List Char := []
  /-- The character before ended a line, and a line feed would belong to it. -/
  afterReturn : Bool := false
  name : List Char := []
  data : List Char := []
  events : List PageEvent := []
deriving DecidableEq, Repr

namespace EventReader

/-- The field that a line gives and its value, from which one leading space is taken off. A line without
a colon has no value, and one that begins with a colon gives no field. -/
def field (line : List Char) : List Char × List Char :=
  let value := (line.dropWhile (· != ':')).tail
  (line.takeWhile (· != ':'), if value.head? = some ' ' then value.tail else value)

/-- An event comes to the page if there is data, and its name is `message` unless it has another one. -/
def dispatch (r : EventReader) : EventReader :=
  { r with
    name := []
    data := []
    events :=
      if r.data.isEmpty then r.events
      else r.events ++
        [⟨if r.name.isEmpty then "message" else String.ofList r.name, String.ofList r.data.dropLast⟩] }

/-- Identifiers and times for connecting again play no part in what comes to the page. -/
def endLine (r : EventReader) : EventReader :=
  match r.line with
  | [] => r.dispatch
  | line =>
    let (name, value) := field line
    if name = ['e', 'v', 'e', 'n', 't'] then { r with line := [], name := value }
    else if name = ['d', 'a', 't', 'a'] then { r with line := [], data := r.data ++ value ++ ['\n'] }
    else { r with line := [] }

/-- A line ends with a line feed, a carriage return, or both. -/
def next (r : EventReader) (c : Char) : EventReader :=
  if c = '\n' then
    if r.afterReturn then { r with afterReturn := false } else r.endLine
  else if c = '\r' then { r.endLine with afterReturn := true }
  else { r with line := r.line ++ [c], afterReturn := false }

/-- The events that come to the page from a stream. -/
def received (stream : List Char) : List PageEvent := (stream.foldl next {}).events

/-! ### Lines -/

def SingleLine (cs : List Char) : Prop := ∀ c ∈ cs, c ≠ '\n' ∧ c ≠ '\r'

instance (cs : List Char) : Decidable (SingleLine cs) :=
  -- named, since the instance that search may find goes through all characters there are
  List.decidableBAll (fun c => c ≠ '\n' ∧ c ≠ '\r') cs

theorem singleLine_append {cs ds : List Char} (h : SingleLine cs) (h' : SingleLine ds) :
    SingleLine (cs ++ ds) :=
  List.forall_mem_append.2 ⟨h, h'⟩

theorem singleLine_of_printable {cs : List Char} (h : Printable cs) : SingleLine cs := by
  intro c mem
  have control : ¬ c.toNat < 32 := Nat.not_lt.2 (h c mem)
  constructor
  · rintro rfl
    exact control (by decide)
  · rintro rfl
    exact control (by decide)

variable {r : EventReader} (fresh : r.afterReturn = false)
include fresh

theorem foldl_singleLine {cs : List Char} (h : SingleLine cs) :
    cs.foldl next r = { r with line := r.line ++ cs } := by
  induction cs generalizing r with
  | nil => rw [List.append_nil, List.foldl_nil]
  | cons c cs ih =>
    obtain ⟨⟨feed, return_⟩, later⟩ := List.forall_mem_cons.1 h
    have one : r.next c = { r with line := r.line ++ [c] } := by
      rw [next, if_neg feed, if_neg return_, ← fresh]
    rw [List.foldl_cons, one]
    refine (ih (r := { r with line := r.line ++ [c] }) fresh later).trans ?_
    simp

theorem foldl_break (rest : List Char) : ('\n' :: rest).foldl next r = rest.foldl next r.endLine := by
  rw [List.foldl_cons, next, if_pos rfl, if_neg (by simp [fresh])]

omit fresh

theorem endLine_nil (empty : r.line = []) : r.endLine = r.dispatch := by
  rw [endLine, empty]

theorem endLine_event {name : List Char} (line : r.line = ['e', 'v', 'e', 'n', 't', ':', ' '] ++ name) :
    r.endLine = { r with line := [], name := name } := by
  rw [endLine, line]
  rfl

theorem endLine_data {data : List Char} (line : r.line = ['d', 'a', 't', 'a', ':', ' '] ++ data) :
    r.endLine = { r with line := [], data := r.data ++ data ++ ['\n'] } := by
  rw [endLine, line]
  rfl

end EventReader

/-! ## Frames -/

namespace EventStream

open EventReader (SingleLine received next singleLine_append)

/-- The frames on the wire, each of them followed by an empty line. -/
def wire (frames : List String) : List Char := frames.flatMap fun f => f.toList ++ ['\n', '\n']

/-- An event with a line for its data, even if there is none. -/
def lines (name data : String) : List Char :=
  ("event: " ++ name ++ "\ndata: " ++ data).toList ++ ['\n', '\n']

theorem wire_append (frames frames' : List String) :
    wire (frames ++ frames') = wire frames ++ wire frames' := List.flatMap_append

section Frame

variable {name data : String} (name_line : SingleLine name.toList) (events : List PageEvent)
include name_line

/-- An event with a line for its data comes to the page. -/
theorem foldl_lines (named : name ≠ "") (data_line : SingleLine data.toList) :
    (lines name data).foldl next { events } = { events := events ++ [⟨name, data⟩] } := by
  have text : lines name data = (['e', 'v', 'e', 'n', 't', ':', ' '] ++ name.toList) ++
      '\n' :: ((['d', 'a', 't', 'a', ':', ' '] ++ data.toList) ++ ['\n', '\n']) := by
    simp [lines]
  have head : SingleLine (['e', 'v', 'e', 'n', 't', ':', ' '] ++ name.toList) :=
    singleLine_append (by decide) name_line
  have body : SingleLine (['d', 'a', 't', 'a', ':', ' '] ++ data.toList) :=
    singleLine_append (by decide) data_line
  have tagged : name.toList ≠ [] := fun empty => named (String.toList_eq_nil_iff.1 empty)
  rw [text, List.foldl_append, EventReader.foldl_singleLine rfl head, EventReader.foldl_break rfl,
    EventReader.endLine_event rfl, List.foldl_append, EventReader.foldl_singleLine rfl body,
    EventReader.foldl_break rfl, EventReader.endLine_data rfl, EventReader.foldl_break rfl,
    EventReader.endLine_nil rfl]
  simp [EventReader.dispatch, tagged]

/-- What is written without data does not come to the page. -/
theorem foldl_frame_empty : ((frame name "").toList ++ ['\n', '\n']).foldl next { events } =
    { events } := by
  have text : (frame name "").toList ++ ['\n', '\n'] =
      (['e', 'v', 'e', 'n', 't', ':', ' '] ++ name.toList) ++ ['\n', '\n'] := by
    simp [frame]
  have head : SingleLine (['e', 'v', 'e', 'n', 't', ':', ' '] ++ name.toList) :=
    singleLine_append (by decide) name_line
  rw [text, List.foldl_append, EventReader.foldl_singleLine rfl head, EventReader.foldl_break rfl,
    EventReader.endLine_event rfl, EventReader.foldl_break rfl, EventReader.endLine_nil rfl]
  simp [EventReader.dispatch]

theorem foldl_frame (named : name ≠ "") (data_line : SingleLine data.toList) :
    ((frame name data).toList ++ ['\n', '\n']).foldl next { events } =
      { events := events ++ if data.isEmpty then [] else [⟨name, data⟩] } := by
  by_cases empty : data.isEmpty = true
  · rw [if_pos empty, String.isEmpty_iff.1 empty, foldl_frame_empty name_line, List.append_nil]
  · rw [frame, if_neg empty, if_neg empty]
    exact foldl_lines name_line events named data_line

end Frame

/-- The event can be written with a line for its name and one for its data. -/
structure Plain (e : PageEvent) : Prop where
  named : e.name ≠ ""
  name_line : SingleLine e.name.toList
  data_line : SingleLine e.data.toList

/-- Of events that are written one after another those with data come to the page. -/
theorem foldl_wire {l : List PageEvent} (plain : ∀ e ∈ l, Plain e) (events : List PageEvent) :
    (wire (l.map fun e => frame e.name e.data)).foldl next { events } =
      { events := events ++ l.filter (!·.data.isEmpty) } := by
  induction l generalizing events with
  | nil => rw [List.filter_nil, List.append_nil]; rfl
  | cons e l ih =>
    obtain ⟨first, later⟩ := List.forall_mem_cons.1 plain
    rw [List.map_cons, wire, List.flatMap_cons, List.foldl_append,
      foldl_frame first.name_line events first.named first.data_line, ← wire, ih later,
      List.filter_cons]
    cases e.data.isEmpty <;> simp

/-- Comments between the events do not come to the page. -/
theorem received_wire {l : List PageEvent} (plain : ∀ e ∈ l, Plain e) (comments : List String)
    (comment : comments = [] ∨ comments = [":"]) :
    received (wire ((l.map fun e => frame e.name e.data) ++ comments)) =
      l.filter (!·.data.isEmpty) := by
  rw [received, wire_append, List.foldl_append, foldl_wire plain]
  rcases comment with rfl | rfl <;> rfl

theorem received_lines {l : List PageEvent} (plain : ∀ e ∈ l, Plain e) :
    received (l.flatMap fun e => lines e.name e.data) = l := by
  have all (events : List PageEvent) : (l.flatMap fun e => lines e.name e.data).foldl next { events } =
      { events := events ++ l } := by
    induction l generalizing events with
    | nil => rw [List.append_nil]; rfl
    | cons e l ih =>
      obtain ⟨first, later⟩ := List.forall_mem_cons.1 plain
      rw [List.flatMap_cons, List.foldl_append,
        foldl_lines first.name_line events first.named first.data_line, ih later, List.append_assoc]
      rfl
  rw [received, all]
  rfl

/-! ## Notices -/

/-- The data of a notice for a viewer. -/
def shown (viewer : Id) : Notice → String
  | .chat player nickname content => Record.write (Post.mk (player == viewer) nickname content)
  | n => n.payload

/-- The event that is to come of a notice. -/
def seen (viewer : Id) (n : Notice) : PageEvent := ⟨n.kind.tag, shown viewer n⟩

/-- The event with which a stream begins. -/
def opened (v : View) : PageEvent := ⟨"init", Record.write v⟩

/-- What is sent to a viewer of a notice: one line, as the notice was encoded, or, of a chat line, a post
that can be read from it and that is the viewer's own if the chat line is. -/
structure Rendered (viewer : Id) (n : Notice) : Prop where
  renders : renderData viewer n.encode.1 n.encode.2 = .ok (shown viewer n)
  single_line : SingleLine (shown viewer n).toList
  as_encoded : n.kind ≠ .chat → shown viewer n = n.encode.2
  post : ∀ player nickname content, n = .chat player nickname content →
    ∃ post : Post, Record.read (shown viewer n).toList = .ok post ∧
      (post.me = true ↔ player = viewer) ∧ post.nickname = nickname ∧ post.content = content

/-- What a client makes of the notices that are sent to a viewer. -/
structure StreamLaw (viewer : Id) (ns : List Notice) : Prop where
  rendered : ∀ n ∈ ns, Rendered viewer n
  /-- With a line for the data of every event there is one event for each notice. -/
  with_lines : received ((ns.map (seen viewer)).flatMap fun e => lines e.name e.data) =
    ns.map (seen viewer)
  one_each_iff : received (wire (frames viewer (ns.map Notice.encode))) = ns.map (seen viewer) ↔
    .turnEnded ∉ ns
  but_turn_ends : received (wire (frames viewer (ns.map Notice.encode))) =
    (ns.filter (· ≠ .turnEnded)).map (seen viewer)
  /-- The view of the game comes first, and comments do not come to the page. -/
  read : ∀ (s : EventStream) (inbox : Inbox) (now : Nat), s.viewer = viewer →
    inbox.unread = ns.map Notice.encode → received (wire (s.read inbox now).1) =
      s.opening.toList.map opened ++ (ns.filter (· ≠ .turnEnded)).map (seen viewer)

theorem read_post (p : Post) : (Record.read (Record.write p).toList : Except Json.Fault Post) = .ok p := by
  have back : Json.ReadsBack (Record.shape Post) (Record.toJson p) := by
    have distinct : ["me", "nickname", "content"].Nodup := by decide
    refine Json.readsBack_record false rfl distinct fun m mem => ?_
    simp only [List.mem_cons, List.not_mem_nil, or_false] at mem
    rcases mem with rfl | rfl | rfl
    · exact ⟨.flag, rfl, Json.readsBack_flag _⟩
    · exact ⟨.text, rfl, Json.readsBack_text _⟩
    · exact ⟨.text, rfl, Json.readsBack_text _⟩
  rw [Record.read, Record.write, Json.render, String.toList_ofList, Json.Shape.read_write back]
  rfl

theorem singleLine_write {α : Type} [Record α] (a : α) : SingleLine (Record.write a).toList := by
  rw [Record.write, Json.render, String.toList_ofList]
  exact EventReader.singleLine_of_printable (Json.printable_write _)

theorem singleLine_shown (viewer : Id) (n : Notice) : SingleLine (shown viewer n).toList := by
  cases n with
  | chat => exact singleLine_write _
  | turnEnded => nofun
  | _ =>
    show SingleLine (Json.render _).toList
    rw [Json.render, String.toList_ofList]
    exact EventReader.singleLine_of_printable (Json.printable_write _)

theorem isEmpty_object (members : List (String × Json)) :
    (Json.object members).render.isEmpty = false := by
  rw [← Bool.not_eq_true, String.isEmpty_iff, ← String.toList_eq_nil_iff, Json.render,
    String.toList_ofList, Json.write]
  exact List.cons_ne_nil _ _

theorem isEmpty_shown (viewer : Id) (n : Notice) : (shown viewer n).isEmpty = true ↔ n = .turnEnded := by
  cases n with
  | turnEnded => exact iff_of_true rfl rfl
  | _ => exact iff_of_false (ne_true_of_eq_false (isEmpty_object _)) nofun

theorem renderData_encode (viewer : Id) (n : Notice) :
    renderData viewer n.encode.1 n.encode.2 = .ok (shown viewer n) := by
  rw [renderData, n.decode_encode]
  cases n <;> rfl

theorem rendered (viewer : Id) (n : Notice) : Rendered viewer n where
  renders := renderData_encode viewer n
  single_line := singleLine_shown viewer n
  as_encoded other := by
    cases n <;> first | rfl | exact absurd rfl other
  post player nickname content chat :=
    ⟨⟨player == viewer, nickname, content⟩, chat ▸ read_post _, beq_iff_eq, rfl, rfl⟩

theorem plain_seen (viewer : Id) (n : Notice) : Plain (seen viewer n) where
  named := by
    show n.kind.tag ≠ ""
    cases n.kind <;> decide
  name_line := by
    show SingleLine n.kind.tag.toList
    cases n.kind <;> decide
  data_line := singleLine_shown viewer n

theorem frames_encode (viewer : Id) (ns : List Notice) : frames viewer (ns.map Notice.encode) =
    (ns.map (seen viewer)).map fun e => frame e.name e.data := by
  induction ns with
  | nil => rfl
  | cons n ns ih =>
    have first := renderData_encode viewer n
    rw [List.map_cons, Notice.encode, frames]
    rw [Notice.encode] at first
    rw [first, ih]
    rfl

theorem filter_seen (viewer : Id) (ns : List Notice) :
    (ns.map (seen viewer)).filter (!·.data.isEmpty) =
      (ns.filter (· ≠ .turnEnded)).map (seen viewer) := by
  rw [List.filter_map]
  refine congrArg (List.map _) (List.filter_congr fun n _ => ?_)
  rw [Bool.eq_iff_iff]
  simp [seen, ← isEmpty_shown viewer n]

theorem plain_map_seen (viewer : Id) (ns : List Notice) : ∀ e ∈ ns.map (seen viewer), Plain e := by
  intro e mem
  obtain ⟨n, -, rfl⟩ := List.mem_map.1 mem
  exact plain_seen viewer n

theorem received_frames (viewer : Id) (ns : List Notice) :
    received (wire (frames viewer (ns.map Notice.encode))) =
      (ns.filter (· ≠ .turnEnded)).map (seen viewer) := by
  have found := received_wire (plain_map_seen viewer ns) [] (.inl rfl)
  rw [frames_encode, ← filter_seen, ← found, List.append_nil]

theorem received_read (s : EventStream) (inbox : Inbox) (now : Nat) {ns : List Notice}
    (unread : inbox.unread = ns.map Notice.encode) : received (wire (s.read inbox now).1) =
      s.opening.toList.map opened ++ (ns.filter (· ≠ .turnEnded)).map (seen s.viewer) := by
  have events : s.openingFrames ++ frames s.viewer inbox.unread =
      (s.opening.toList.map opened ++ ns.map (seen s.viewer)).map fun e => frame e.name e.data := by
    rw [unread, frames_encode, List.map_append, openingFrames]
    cases s.opening <;> rfl
  have begins (e : PageEvent) (mem : e ∈ s.opening.toList.map opened) :
      Plain e ∧ (!e.data.isEmpty) = true := by
    obtain ⟨v, -, rfl⟩ := List.mem_map.1 mem
    have name : SingleLine "init".toList := by decide
    refine ⟨⟨by simp [opened], name, singleLine_write v⟩, ?_⟩
    rw [opened, Record.write, Record.toJson, instRecordView, isEmpty_object]
    rfl
  have plain := List.forall_mem_append.2
    ⟨fun e mem => (begins e mem).1, plain_map_seen s.viewer ns⟩
  rw [read, events]
  dsimp only
  rw [received_wire plain, List.filter_append, filter_seen,
    List.filter_eq_self.2 fun e mem => (begins e mem).2]
  split
  · exact .inr rfl
  · exact .inl rfl

/-- A client finds one event for each notice exactly if no turn ends, and otherwise one for each notice
but the ends of turns. -/
theorem one_event_each_iff (viewer : Id) (ns : List Notice) : StreamLaw viewer ns where
  rendered n _ := rendered viewer n
  with_lines := received_lines (plain_map_seen viewer ns)
  one_each_iff := by
    rw [received_frames]
    constructor
    · intro same there
      have length := congrArg List.length same
      rw [List.length_map, List.length_map, List.length_filter_eq_length_iff] at length
      simpa using length _ there
    · intro absent
      refine congrArg (List.map _) (List.filter_eq_self.2 fun n there => ?_)
      exact decide_eq_true fun ended => absent (ended ▸ there)
  but_turn_ends := received_frames viewer ns
  read s inbox now own unread := own ▸ received_read s inbox now unread

/-- A chat line cannot be taken for an event of its own. -/
example : received (wire (frames "sam" [(Notice.chat "ann" "Ann" "\n\nevent: left\ndata: sam").encode])) =
    [⟨"chat", "\x7b\"me\":false,\"nickname\":\"Ann\",\"content\":" ++
      "\"\\n\\nevent: left\\ndata: sam\"\x7d"⟩] := by
  decide +kernel

/-- The end of a turn is sent without data, and nothing comes of it to the page. -/
theorem turn_end_does_not_come : frames "sam" [Notice.turnEnded.encode] = ["event: turn_ended"] ∧
    received (wire (frames "sam" [Notice.turnEnded.encode])) = [] ∧
      received (wire (frames "sam" [Notice.turnEnded.encode])) ≠ [seen "sam" .turnEnded] := by
  decide

end EventStream

end Http

end GuessingRoom
