import GuessingRoom.Proofs.ListenAddresses
import GuessingRoom.Proofs.NumberReading
import GuessingRoom.Proofs.Outcomes
import GuessingRoom.Settings

/-!
# How settings are read

Each variable of the environment that can be refused gives a value by a rule of its own (`Settings.Gives`).
The settings are there if and only if all of them do (`Settings.exists_read_iff`), they are what the
variables give (`Settings.read_eq_ok_iff`), and otherwise the first variable that gives nothing is reported
(`Settings.read_eq_error_iff`). All of this is `Settings.read_exactly`.
-/

namespace GuessingRoom

namespace Settings

open Text Text.Decimal

/-! ## What the variables give -/

section

variable {α : Type}

/-- The variable gives the value by a rule for texts, to which white space around a text does not count; if
it is not set, it gives the default. -/
def Gives (env : Environment) (key : String) (default : α) (rule : α → List Char → Prop) (a : α) : Prop :=
  match env key with
  | none => a = default
  | some raw => ∃ text, Trims raw.toList text ∧ rule a text

/-- The numerals of a number of so many bits. -/
def NumberOf (bits n : Nat) (text : List Char) : Prop := IsNumeral n text ∧ n < 2 ^ bits

def FlagOf (b : Bool) (text : List Char) : Prop := text = (if b then "true" else "false").toList

/-- The variable is set to no numeral of a number of so many bits, and this is reported. -/
def RefusesNumber (env : Environment) (key : String) (bits : Nat) (e : SettingsError) : Prop :=
  ∃ raw text fault, env key = some raw ∧ Trims raw.toList text ∧ Misspells (2 ^ bits - 1) text fault ∧
    e = .invalidNumber key raw fault

def RefusesFlag (env : Environment) (key : String) (e : SettingsError) : Prop :=
  ∃ raw text, env key = some raw ∧ Trims raw.toList text ∧ (∀ b, ¬ FlagOf b text) ∧ e = .invalidFlag key raw

variable {env env' : Environment} {key : String} {default a b : α} {rule : α → List Char → Prop}

theorem gives_of_none (unset : env key = none) : Gives env key default rule a ↔ a = default := by
  rw [Gives, unset]

theorem gives_of_some {raw : String} (set : env key = some raw) :
    Gives env key default rule a ↔ rule a (trim raw.toList) := by
  rw [Gives, set]
  exact ⟨fun ⟨text, trims, gives⟩ => trim_eq_iff.2 trims ▸ gives, fun gives => ⟨_, trim_eq_iff.1 rfl, gives⟩⟩

theorem gives_congr (same : env key = env' key) :
    Gives env key default rule a ↔ Gives env' key default rule a := by
  rw [Gives, Gives, same]

/-- Where the rule gives one value at most, so does the variable, also in another environment. -/
theorem Gives.unique (functional : ∀ a b text, rule a text → rule b text → a = b)
    (same : env key = env' key) (ha : Gives env key default rule a) (hb : Gives env' key default rule b) :
    a = b := by
  rw [← gives_congr same] at hb
  cases set : env key with
  | none => rw [(gives_of_none set).1 ha, (gives_of_none set).1 hb]
  | some raw => exact functional _ _ _ ((gives_of_some set).1 ha) ((gives_of_some set).1 hb)

end

theorem numberOf_functional (bits m n : Nat) (text : List Char) (hm : NumberOf bits m text)
    (hn : NumberOf bits n text) : m = n := by
  rw [← hm.1.value_eq, ← hn.1.value_eq]

theorem flagOf_true {text : List Char} : FlagOf true text ↔ text = ['t', 'r', 'u', 'e'] := Iff.rfl

theorem flagOf_false {text : List Char} : FlagOf false text ↔ text = ['f', 'a', 'l', 's', 'e'] := Iff.rfl

theorem flagOf_functional (b c : Bool) (text : List Char) (hb : FlagOf b text) (hc : FlagOf c text) :
    b = c := by
  cases b <;> cases c <;> simp_all [flagOf_true, flagOf_false]

section

variable {env : Environment} {key : String} {e : SettingsError}

theorem readNumber_eq_ok_iff (bits : Nat) {default n : Nat} :
    readNumber env key (2 ^ bits - 1) default = .ok n ↔ Gives env key default (NumberOf bits) n := by
  have pos : 0 < 2 ^ bits := Nat.two_pow_pos bits
  unfold readNumber
  cases set : env key with
  | none => rw [gives_of_none set, Except.ok.injEq, eq_comm]
  | some raw =>
    rw [gives_of_some set, NumberOf, ← Nat.le_sub_one_iff_lt pos, ← readAtMost_eq_ok_iff]
    cases reading : readAtMost (2 ^ bits - 1) (trim raw.toList) <;> simp [reading]

theorem readNumber_eq_error_iff (bits : Nat) {default : Nat} :
    readNumber env key (2 ^ bits - 1) default = .error e ↔ RefusesNumber env key bits e := by
  unfold readNumber RefusesNumber
  cases set : env key with
  | none => simp
  | some raw =>
    simp only [Option.some.injEq, ← trim_eq_iff, ← readAtMost_eq_error_iff, exists_and_left,
      exists_eq_left']
    cases reading : readAtMost (2 ^ bits - 1) (trim raw.toList) <;> simp [eq_comm]

theorem readFlag_eq_ok_iff {default b : Bool} :
    readFlag env key default = .ok b ↔ Gives env key default FlagOf b := by
  unfold readFlag
  cases set : env key with
  | none => rw [gives_of_none set, Except.ok.injEq, eq_comm]
  | some raw =>
    rw [gives_of_some set]
    dsimp only
    split
    · cases b <;> simp_all [flagOf_true, flagOf_false]
    · split <;> cases b <;> simp_all [flagOf_true, flagOf_false]

theorem readFlag_eq_error_iff {default : Bool} :
    readFlag env key default = .error e ↔ RefusesFlag env key e := by
  unfold readFlag RefusesFlag
  cases set : env key with
  | none => simp
  | some raw =>
    simp only [Option.some.injEq, ← trim_eq_iff, exists_and_left, exists_eq_left', Bool.forall_bool,
      flagOf_true, flagOf_false]
    split
    · simp_all
    · split <;> simp_all [eq_comm]

end

/-! ## The listen address -/

/-- The text of the address: the host as it is given and a socket number. -/
def addressText (env : Environment) (n : Nat) : List Char :=
  ((env "EMOGUESS_HOST").getD "0.0.0.0").toList ++ ':' :: Decimal.write n

/-- The variable for the socket number gives one, and with it the host is an address. -/
def Listens (env : Environment) (a : Address) : Prop :=
  ∃ n, Gives env "EMOGUESS_PORT" 9000 (NumberOf 16) n ∧ Address.read? (addressText env n) = some a

def RefusesAddress (env : Environment) (e : SettingsError) : Prop :=
  ∃ n, Gives env "EMOGUESS_PORT" 9000 (NumberOf 16) n ∧ Address.read? (addressText env n) = none ∧
    e = .invalidAddress (String.ofList (addressText env n))

theorem readAddress_eq_ok_iff {env : Environment} {n : Nat} {a : Address} :
    readAddress ((env "EMOGUESS_HOST").getD "0.0.0.0") n = .ok a ↔
      Address.read? (addressText env n) = some a := by
  unfold readAddress addressText
  dsimp only
  cases Address.read? (((env "EMOGUESS_HOST").getD "0.0.0.0").toList ++ ':' :: Decimal.write n) <;> simp

theorem readAddress_eq_error_iff {env : Environment} {n : Nat} {e : SettingsError} :
    readAddress ((env "EMOGUESS_HOST").getD "0.0.0.0") n = .error e ↔
      Address.read? (addressText env n) = none ∧ e = .invalidAddress (String.ofList (addressText env n)) := by
  unfold readAddress addressText
  dsimp only
  cases Address.read? (((env "EMOGUESS_HOST").getD "0.0.0.0").toList ++ ':' :: Decimal.write n) <;>
    simp [eq_comm]

theorem Listens.socket {env : Environment} {a : Address} (h : Listens env a) :
    Gives env "EMOGUESS_PORT" 9000 (NumberOf 16) a.socket := by
  obtain ⟨n, gives, address⟩ := h
  rwa [Address.socket_of_read? address]

theorem NumberOf.lt_of_gives {env : Environment} {key : String} {bits default n : Nat}
    (small : default < 2 ^ bits) (gives : Gives env key default (NumberOf bits) n) : n < 2 ^ bits := by
  cases set : env key with
  | none => rwa [(gives_of_none set).1 gives]
  | some raw => exact ((gives_of_some set).1 gives).2

/-- A host in dotted form is the address that it says, with the socket number that is given. -/
theorem listens_writeFour {env : Environment} {a b c d n : Nat} (ha : a < 256) (hb : b < 256) (hc : c < 256)
    (hd : d < 256) (host : env "EMOGUESS_HOST" = some (String.ofList (Address.writeFour a b c d)))
    (socket : Gives env "EMOGUESS_PORT" 9000 (NumberOf 16) n) : Listens env ⟨.v4 a b c d, n⟩ := by
  have small := NumberOf.lt_of_gives (by decide) socket
  refine ⟨n, socket, ?_⟩
  rw [addressText, host, Option.getD_some, String.toList_ofList]
  exact Address.read?_writeFour ha hb hc hd small

/-! ## All settings -/

/-- What may be refused. -/
inductive Item where
  | socket
  | address
  | capacity
  | turnDelay
  | kickDelay
  | secureCookies
deriving DecidableEq

namespace Item

def inOrder : List Item := [socket, address, capacity, turnDelay, kickDelay, secureCookies]

def earlier (item : Item) : List Item := inOrder.takeWhile (· ≠ item)

/-- What is not set is valid, as there is a default. -/
def Valid (env : Environment) : Item → Prop
  | socket => ∃ n, Gives env "EMOGUESS_PORT" 9000 (NumberOf 16) n
  | address => ∃ a, Listens env a
  | capacity => ∃ n, Gives env "EMOGUESS_ROOM_CAPACITY" 10 (NumberOf 64) n
  | turnDelay => ∃ n, Gives env "EMOGUESS_TURN_DELAY_SECS" 5 (NumberOf 64) n
  | kickDelay => ∃ n, Gives env "EMOGUESS_KICK_DELAY_SECS" 5 (NumberOf 64) n
  | secureCookies => ∃ b, Gives env "EMOGUESS_COOKIE_SECURE" true FlagOf b

def Refuses (env : Environment) (e : SettingsError) : Item → Prop
  | socket => RefusesNumber env "EMOGUESS_PORT" 16 e
  | address => RefusesAddress env e
  | capacity => RefusesNumber env "EMOGUESS_ROOM_CAPACITY" 64 e
  | turnDelay => RefusesNumber env "EMOGUESS_TURN_DELAY_SECS" 64 e
  | kickDelay => RefusesNumber env "EMOGUESS_KICK_DELAY_SECS" 64 e
  | secureCookies => RefusesFlag env "EMOGUESS_COOKIE_SECURE" e

end Item

/-- The settings are what the variables give, each by itself. -/
structure Describes (env : Environment) (s : Settings) : Prop where
  address : Listens env s.address
  databasePath : s.databasePath = (env "EMOGUESS_DB_PATH").getD "emoguess.db"
  secureCookies : Gives env "EMOGUESS_COOKIE_SECURE" true FlagOf s.secureCookies
  capacity : Gives env "EMOGUESS_ROOM_CAPACITY" 10 (NumberOf 64) s.room.capacity
  basePoints : s.room.basePoints = 10
  turnDelay : ∃ seconds, Gives env "EMOGUESS_TURN_DELAY_SECS" 5 (NumberOf 64) seconds ∧
    s.room.turnDelay = 1000 * seconds
  kickDelay : ∃ seconds, Gives env "EMOGUESS_KICK_DELAY_SECS" 5 (NumberOf 64) seconds ∧
    s.room.kickDelay = 1000 * seconds

section

variable {env : Environment}

theorem readSocket_eq_ok_iff {n : Nat} : readNumber env "EMOGUESS_PORT" 65535 9000 = .ok n ↔
    Gives env "EMOGUESS_PORT" 9000 (NumberOf 16) n :=
  readNumber_eq_ok_iff 16

theorem readWord_eq_ok_iff {key : String} {default n : Nat} :
    readNumber env key maxWord default = .ok n ↔ Gives env key default (NumberOf 64) n :=
  readNumber_eq_ok_iff 64

theorem readSocket_eq_error_iff {e : SettingsError} :
    readNumber env "EMOGUESS_PORT" 65535 9000 = .error e ↔ RefusesNumber env "EMOGUESS_PORT" 16 e :=
  readNumber_eq_error_iff 16

theorem readWord_eq_error_iff {key : String} {default : Nat} {e : SettingsError} :
    readNumber env key maxWord default = .error e ↔ RefusesNumber env key 64 e :=
  readNumber_eq_error_iff 64

theorem read_eq_ok_iff {s : Settings} : read env = .ok s ↔ Describes env s := by
  simp only [read, bind_eq_ok_iff, pure_eq_ok_iff, readSocket_eq_ok_iff, readWord_eq_ok_iff,
    readFlag_eq_ok_iff, readAddress_eq_ok_iff]
  constructor
  · rintro ⟨n, socket, a, address, capacity, hc, turn, ht, kick, hk, secure, hs, rfl⟩
    exact ⟨⟨n, socket, address⟩, rfl, hs, hc, rfl, ⟨turn, ht, rfl⟩, ⟨kick, hk, rfl⟩⟩
  · obtain ⟨a, path, secure, capacity, points, turnDelay, kickDelay⟩ := s
    rintro ⟨⟨n, socket, address⟩, rfl, hs, hc, rfl, ⟨turn, ht, rfl⟩, ⟨kick, hk, rfl⟩⟩
    exact ⟨n, socket, a, address, capacity, hc, turn, ht, kick, hk, secure, hs, rfl⟩

theorem exists_read_iff : (∃ s, read env = .ok s) ↔ ∀ item : Item, item.Valid env := by
  simp only [read_eq_ok_iff]
  constructor
  · rintro ⟨s, d⟩ item
    cases item with
    | socket => exact ⟨_, d.address.socket⟩
    | address => exact ⟨_, d.address⟩
    | capacity => exact ⟨_, d.capacity⟩
    | turnDelay => exact ⟨_, d.turnDelay.choose_spec.1⟩
    | kickDelay => exact ⟨_, d.kickDelay.choose_spec.1⟩
    | secureCookies => exact ⟨_, d.secureCookies⟩
  · intro valid
    obtain ⟨a, address⟩ := valid .address
    obtain ⟨capacity, hc⟩ := valid .capacity
    obtain ⟨turn, ht⟩ := valid .turnDelay
    obtain ⟨kick, hk⟩ := valid .kickDelay
    obtain ⟨secure, hs⟩ := valid .secureCookies
    exact ⟨⟨a, _, secure, ⟨capacity, 10, 1000 * turn, 1000 * kick⟩⟩, address, rfl, hs, hc, rfl,
      ⟨turn, ht, rfl⟩, ⟨kick, hk, rfl⟩⟩

theorem forall_earlier_iff {item : Item} {p : Item → Prop} :
    (∀ i ∈ item.earlier, p i) ↔ match item with
      | .socket => True
      | .address => p .socket
      | .capacity => p .socket ∧ p .address
      | .turnDelay => p .socket ∧ p .address ∧ p .capacity
      | .kickDelay => p .socket ∧ p .address ∧ p .capacity ∧ p .turnDelay
      | .secureCookies => p .socket ∧ p .address ∧ p .capacity ∧ p .turnDelay ∧ p .kickDelay := by
  cases item <;> simp [Item.earlier, Item.inOrder]

/-- The variables are looked at one after another, and the first that is refused is reported. -/
theorem read_eq_error_iff {e : SettingsError} :
    read env = .error e ↔ ∃ item : Item, item.Refuses env e ∧ ∀ i ∈ item.earlier, i.Valid env := by
  simp only [read, bind_eq_error_iff, readSocket_eq_ok_iff, readWord_eq_ok_iff, readAddress_eq_ok_iff,
    readSocket_eq_error_iff, readWord_eq_error_iff, readFlag_eq_error_iff, readAddress_eq_error_iff, pure,
    Except.pure, reduceCtorEq, and_false, exists_false, or_false, forall_earlier_iff]
  constructor
  · rintro (h | ⟨n, hn, h | ⟨a, ha, h | ⟨c, hc, h | ⟨t, ht, h | ⟨k, hk, h⟩⟩⟩⟩⟩)
    · exact ⟨.socket, h, trivial⟩
    · exact ⟨.address, ⟨n, hn, h⟩, n, hn⟩
    · exact ⟨.capacity, h, ⟨n, hn⟩, a, n, hn, ha⟩
    · exact ⟨.turnDelay, h, ⟨n, hn⟩, ⟨a, n, hn, ha⟩, c, hc⟩
    · exact ⟨.kickDelay, h, ⟨n, hn⟩, ⟨a, n, hn, ha⟩, ⟨c, hc⟩, t, ht⟩
    · exact ⟨.secureCookies, h, ⟨n, hn⟩, ⟨a, n, hn, ha⟩, ⟨c, hc⟩, ⟨t, ht⟩, k, hk⟩
  · rintro ⟨item, h, valid⟩
    cases item with
    | socket => exact .inl h
    | address =>
      obtain ⟨n, hn, h⟩ := h
      exact .inr ⟨n, hn, .inl h⟩
    | capacity =>
      obtain ⟨-, a, n, hn, ha⟩ := valid
      exact .inr ⟨n, hn, .inr ⟨a, ha, .inl h⟩⟩
    | turnDelay =>
      obtain ⟨-, ⟨a, n, hn, ha⟩, c, hc⟩ := valid
      exact .inr ⟨n, hn, .inr ⟨a, ha, .inr ⟨c, hc, .inl h⟩⟩⟩
    | kickDelay =>
      obtain ⟨-, ⟨a, n, hn, ha⟩, ⟨c, hc⟩, t, ht⟩ := valid
      exact .inr ⟨n, hn, .inr ⟨a, ha, .inr ⟨c, hc, .inr ⟨t, ht, .inl h⟩⟩⟩⟩
    | secureCookies =>
      obtain ⟨-, ⟨a, n, hn, ha⟩, ⟨c, hc⟩, ⟨t, ht⟩, k, hk⟩ := valid
      exact .inr ⟨n, hn, .inr ⟨a, ha, .inr ⟨c, hc, .inr ⟨t, ht, .inr ⟨k, hk, h⟩⟩⟩⟩⟩

end

/-! ## Fields by themselves -/

/-- Of two readings, every field is the same if its own variables are, whatever the others say. -/
structure AlikeByVariable (env env' : Environment) (s s' : Settings) : Prop where
  address : env "EMOGUESS_HOST" = env' "EMOGUESS_HOST" → env "EMOGUESS_PORT" = env' "EMOGUESS_PORT" →
    s.address = s'.address
  databasePath : env "EMOGUESS_DB_PATH" = env' "EMOGUESS_DB_PATH" → s.databasePath = s'.databasePath
  secureCookies : env "EMOGUESS_COOKIE_SECURE" = env' "EMOGUESS_COOKIE_SECURE" →
    s.secureCookies = s'.secureCookies
  capacity : env "EMOGUESS_ROOM_CAPACITY" = env' "EMOGUESS_ROOM_CAPACITY" →
    s.room.capacity = s'.room.capacity
  basePoints : s.room.basePoints = s'.room.basePoints
  turnDelay : env "EMOGUESS_TURN_DELAY_SECS" = env' "EMOGUESS_TURN_DELAY_SECS" →
    s.room.turnDelay = s'.room.turnDelay
  kickDelay : env "EMOGUESS_KICK_DELAY_SECS" = env' "EMOGUESS_KICK_DELAY_SECS" →
    s.room.kickDelay = s'.room.kickDelay

section

variable {env env' : Environment}

theorem Gives.same_number {key : String} {bits default m n : Nat} (same : env key = env' key)
    (hm : Gives env key default (NumberOf bits) m) (hn : Gives env' key default (NumberOf bits) n) : m = n :=
  hm.unique (numberOf_functional bits) same hn

theorem Listens.unique {a a' : Address} (host : env "EMOGUESS_HOST" = env' "EMOGUESS_HOST")
    (socket : env "EMOGUESS_PORT" = env' "EMOGUESS_PORT") (h : Listens env a) (h' : Listens env' a') :
    a = a' := by
  obtain ⟨n, gives, address⟩ := h
  obtain ⟨n', gives', address'⟩ := h'
  have same : addressText env n = addressText env' n' := by
    rw [gives.same_number socket gives', addressText, host, addressText]
  rw [same, address'] at address
  exact (Option.some.inj address).symm

theorem Describes.alike {s s' : Settings} (d : Describes env s) (d' : Describes env' s') :
    AlikeByVariable env env' s s' where
  address host socket := d.address.unique host socket d'.address
  databasePath same := by rw [d.databasePath, d'.databasePath, same]
  secureCookies same := d.secureCookies.unique flagOf_functional same d'.secureCookies
  capacity same := d.capacity.same_number same d'.capacity
  basePoints := by rw [d.basePoints, d'.basePoints]
  turnDelay same := by
    obtain ⟨seconds, gives, delay⟩ := d.turnDelay
    obtain ⟨seconds', gives', delay'⟩ := d'.turnDelay
    rw [delay, delay', gives.same_number same gives']
  kickDelay same := by
    obtain ⟨seconds, gives, delay⟩ := d.kickDelay
    obtain ⟨seconds', gives', delay'⟩ := d'.kickDelay
    rw [delay, delay', gives.same_number same gives']

end

/-- There are settings if and only if everything that may be refused is valid, and otherwise the first of it
that is not is reported. The settings are what the variables give, every field by its own variables, and the
socket number of the address is the one that is given; a host in dotted form is the address that it says. -/
theorem read_exactly (env : Environment) :
    ((∃ s, read env = .ok s) ↔ ∀ item : Item, item.Valid env) ∧
    (∀ e, read env = .error e ↔
      ∃ item : Item, item.Refuses env e ∧ ∀ i ∈ item.earlier, i.Valid env) ∧
    (∀ s, read env = .ok s ↔ Describes env s) ∧
    (∀ s, read env = .ok s → Gives env "EMOGUESS_PORT" 9000 (NumberOf 16) s.address.socket) ∧
    (∀ env' s s', read env = .ok s → read env' = .ok s' → AlikeByVariable env env' s s') ∧
    ∀ (a b c d : Fin 256) (n : Nat),
      env "EMOGUESS_HOST" = some (String.ofList (Address.writeFour a b c d)) →
      Gives env "EMOGUESS_PORT" 9000 (NumberOf 16) n →
      Listens env ⟨.v4 a b c d, n⟩ ∧ ∀ s, read env = .ok s → s.address = ⟨.v4 a b c d, n⟩ := by
  refine ⟨exists_read_iff, fun e => read_eq_error_iff, fun s => read_eq_ok_iff, fun s success => ?_,
    fun env' s s' success success' => ?_, fun a b c d n host socket => ?_⟩
  · exact (read_eq_ok_iff.1 success).address.socket
  · exact (read_eq_ok_iff.1 success).alike (read_eq_ok_iff.1 success')
  · have listens := listens_writeFour a.isLt b.isLt c.isLt d.isLt host socket
    refine ⟨listens, fun s success => ?_⟩
    exact (read_eq_ok_iff.1 success).address.unique rfl rfl listens

/-- Numbers at their upper bounds, with signs, zeros and white space around them; and one past the bound,
before a flag that is none either. -/
theorem read_exactly_at_the_bounds :
    let env : Environment := fun key => List.lookup key
      [("EMOGUESS_HOST", "192.0.2.255"), ("EMOGUESS_PORT", "\u3000+0065535\n"),
        ("EMOGUESS_ROOM_CAPACITY", "18446744073709551615"), ("EMOGUESS_COOKIE_SECURE", "false ")]
    let env' : Environment := fun key => List.lookup key
      [("EMOGUESS_HOST", "192.0.2.255"), ("EMOGUESS_PORT", "65536"), ("EMOGUESS_COOKIE_SECURE", "no")]
    let s : Settings := ⟨⟨.v4 192 0 2 255, 65535⟩, "emoguess.db", false,
      { capacity := 18446744073709551615 }⟩
    read env = .ok s ∧ (∀ item : Item, item.Valid env) ∧ Describes env s ∧
      Listens env ⟨.v4 192 0 2 255, 65535⟩ ∧
      read env' = .error (.invalidNumber "EMOGUESS_PORT" "65536" .tooLarge) ∧
      ¬ ∀ item : Item, item.Valid env' := by
  intro env env' s
  have success : read env = .ok s := by decide +kernel
  have failure : read env' = .error (.invalidNumber "EMOGUESS_PORT" "65536" .tooLarge) := by decide +kernel
  obtain ⟨valid, -, describes, socket, -, dotted⟩ := read_exactly env
  have host : env "EMOGUESS_HOST" = some (String.ofList (Address.writeFour 192 0 2 255)) := by
    decide +kernel
  refine ⟨success, valid.1 ⟨s, success⟩, (describes s).1 success,
    (dotted 192 0 2 255 65535 host (socket s success)).1, failure, fun all => ?_⟩
  obtain ⟨s', success'⟩ := (read_exactly env').1.2 all
  rw [failure] at success'
  cases success'

end Settings

end GuessingRoom
