import Mathlib.Data.Int.Order.Basic
import Mathlib.Logic.Function.Iterate
import Mathlib.Order.Bounds.Basic
import Mathlib.Order.MinMax
import GuessingRoom.Store.Migration

/-!
# Migrations run again

A run leaves a database that is either ready or stuck in a transaction, and in both cases a later run
comes to the same and changes nothing (`Database.migrate_migrate`). A database without tables becomes
ready unless version 1 is the highest it holds, as if the tables had been made; then every run fails and
leaves what there was (`Database.migrations_converge`).
-/

namespace GuessingRoom

namespace Database

/-! ## The highest version -/

theorem foldl_max_lt_iff {a b : Int} {versions : List Int} :
    versions.foldl max a < b ↔ a < b ∧ ∀ v ∈ versions, v < b := by
  induction versions generalizing a with
  | nil => simp
  | cons v versions ih => rw [List.foldl_cons, ih, List.forall_mem_cons, max_lt_iff, and_assoc]

/-- Where there is no version, the highest counts as 0. -/
theorem highest_lt_iff {b : Int} (pos : 0 < b) {versions : List Int} :
    highest versions < b ↔ ∀ v ∈ versions, v < b := by
  cases versions with
  | nil => simp [highest, pos]
  | cons v versions => rw [highest, foldl_max_lt_iff, List.forall_mem_cons]

theorem le_highest_of_mem {b v : Int} (pos : 0 < b) (le : b ≤ v) {versions : List Int}
    (mem : v ∈ versions) : b ≤ highest versions := by
  by_contra h
  have := (highest_lt_iff pos).1 (not_le.1 h) v mem
  omega

variable {d : Database}

theorem withVersions_of_some {versions : List Int} (h : d.versions = some versions) :
    d.withVersions = d := by
  cases d
  cases h
  rfl

/-! ## Ready and stuck databases -/

/-- All batches have run. -/
structure Ready (d : Database) : Prop where
  recorded : ∃ versions, d.versions = some versions
  current : 2 ≤ d.currentVersion

/-- A batch has failed and left its transaction open, and there are batches to run. -/
structure Stuck (d : Database) : Prop where
  recorded : ∃ versions, d.versions = some versions
  behind : d.currentVersion < 2
  within : d.inTransaction = true

section Batches

variable (version : Int) (change : Option RelationalTables → Except Failure RelationalTables)

/-- A batch either fails, with its transaction open, or makes its change and records its version. -/
theorem transaction_cases (d : Database) :
    (∃ f, transaction version change d = (.error f, { d with inTransaction := true })) ∨
      d.inTransaction = false ∧ ∃ tables, change d.tables = .ok tables ∧
        transaction version change d = (.ok (),
          { d with tables := some tables, versions := some (d.versions.getD [] ++ [version]) }) := by
  unfold transaction
  by_cases within : d.inTransaction = true
  · exact .inl ⟨.other _, by rw [if_pos within, ← within]⟩
  · rw [if_neg within]
    cases changed : change d.tables with
    | error f => exact .inl ⟨f, rfl⟩
    | ok tables => exact .inr ⟨Bool.eq_false_of_not_eq_true within, tables, rfl, rfl⟩

theorem transaction_of_within (h : d.inTransaction = true) :
    ∃ f, transaction version change d = (.error f, d) :=
  ⟨_, if_pos h⟩

end Batches

/-! ## One run -/

theorem migrate_of_two_le (h : 2 ≤ d.currentVersion) : migrate d = (.ok (), d.withVersions) := by
  have same : d.withVersions.currentVersion = d.currentVersion := rfl
  unfold migrate
  simp only [same, if_neg (show ¬ d.currentVersion < 1 by omega),
    if_neg (show ¬ d.currentVersion < 2 by omega)]

theorem migrate_of_one (h : d.currentVersion = 1) : migrate d = addWords d.withVersions := by
  have same : d.withVersions.currentVersion = d.currentVersion := rfl
  unfold migrate
  simp only [same, h, if_neg (show ¬ (1 : Int) < 1 by omega), if_pos (show (1 : Int) < 2 by omega)]

theorem migrate_of_no_tables {e : Database} {f : Failure} (h : d.currentVersion < 1)
    (fails : makeTables d.withVersions = (.error f, e)) : migrate d = (.error f, e) := by
  have same : d.withVersions.currentVersion = d.currentVersion := rfl
  unfold migrate
  simp only [same, if_pos h, fails]

theorem migrate_of_tables {e : Database} (h : d.currentVersion < 1)
    (runs : makeTables d.withVersions = (.ok (), e)) : migrate d = addWords e := by
  have same : d.withVersions.currentVersion = d.currentVersion := rfl
  unfold migrate
  simp only [same, if_pos h, if_pos (show d.currentVersion < 2 by omega), runs]

/-- A ready database is left as it is. -/
theorem Ready.migrate (h : d.Ready) : d.migrate = (.ok (), d) := by
  obtain ⟨versions, recorded⟩ := h.recorded
  rw [migrate_of_two_le h.current, withVersions_of_some recorded]

/-- A stuck database stays as it is, as no batch can begin. -/
theorem Stuck.migrate (h : d.Stuck) : ∃ f, d.migrate = (.error f, d) := by
  obtain ⟨versions, recorded⟩ := h.recorded
  by_cases tables : d.currentVersion < 1
  · obtain ⟨f, fails⟩ := transaction_of_within 1 _ h.within
    exact ⟨f, migrate_of_no_tables tables (by rw [withVersions_of_some recorded, makeTables, fails])⟩
  · have one : d.currentVersion = 1 := by
      have := h.behind
      omega
    rw [migrate_of_one one, withVersions_of_some recorded]
    exact transaction_of_within 2 _ h.within

/-- The words are put in, or the database is stuck. -/
theorem addWords_cases {versions : List Int} (recorded : d.versions = some versions)
    (behind : d.currentVersion < 2) :
    (∃ f, (addWords d).1 = .error f ∧ (addWords d).2.Stuck) ∨
      (addWords d).1 = .ok () ∧ (addWords d).2.Ready := by
  unfold addWords
  rcases transaction_cases 2 _ d with ⟨f, fails⟩ | ⟨-, tables, -, runs⟩
  · rw [fails]
    exact .inl ⟨f, rfl, ⟨⟨versions, recorded⟩, behind, rfl⟩⟩
  · rw [runs]
    have last : (2 : Int) ∈ d.versions.getD [] ++ [2] := by simp
    exact .inr ⟨rfl, ⟨_, rfl⟩, le_highest_of_mem (by decide) (Int.le_refl 2) last⟩

/-- Whatever the database was, it is ready after a run that succeeds and stuck after one that fails. -/
theorem migrate_cases (d : Database) :
    (∃ f, (migrate d).1 = .error f ∧ (migrate d).2.Stuck) ∨
      (migrate d).1 = .ok () ∧ (migrate d).2.Ready := by
  have recorded : d.withVersions.versions = some (d.versions.getD []) := rfl
  rcases lt_or_ge d.currentVersion 1 with tables | made
  · rcases transaction_cases 1 _ d.withVersions with ⟨f, fails⟩ | ⟨-, t, -, runs⟩
    · rw [migrate_of_no_tables tables fails]
      exact .inl ⟨f, rfl, ⟨_, recorded⟩, by exact tables.trans (by decide), rfl⟩
    · rw [migrate_of_tables tables runs]
      refine addWords_cases rfl ?_
      refine (highest_lt_iff (by decide)).2 fun v mem => ?_
      rcases List.mem_append.1 mem with held | added
      · exact ((highest_lt_iff (by decide)).1 tables v held).trans (by decide)
      · rw [List.mem_singleton.1 added]
        decide
  · rcases lt_or_ge d.currentVersion 2 with words | done
    · rw [migrate_of_one (by omega)]
      exact addWords_cases recorded words
    · rw [migrate_of_two_le done]
      exact .inr ⟨rfl, ⟨_, recorded⟩, done⟩

/-! ## Several runs -/

/-- A second run comes to what the first came to, and changes nothing. -/
theorem migrate_migrate (d : Database) :
    (migrate (migrate d).2).2 = (migrate d).2 ∧
      (migrate (migrate d).2).1.isOk = (migrate d).1.isOk := by
  rcases migrate_cases d with ⟨f, fails, stuck⟩ | ⟨runs, ready⟩
  · obtain ⟨g, again⟩ := stuck.migrate
    rw [again, fails]
    exact ⟨rfl, rfl⟩
  · rw [ready.migrate, runs]
    exact ⟨rfl, rfl⟩

/-- The database after so many runs. -/
def afterRuns (n : Nat) (d : Database) : Database := (fun d => (migrate d).2)^[n] d

theorem afterRuns_succ (n : Nat) (d : Database) : afterRuns (n + 1) d = (migrate d).2 := by
  induction n with
  | zero => rfl
  | succ n ih =>
    rw [afterRuns, Function.iterate_succ_apply', ← afterRuns, ih]
    exact (migrate_migrate d).1

/-- Every run comes to what the first comes to. -/
theorem isOk_migrate_afterRuns (n : Nat) (d : Database) :
    (migrate (afterRuns n d)).1.isOk = (migrate d).1.isOk := by
  cases n with
  | zero => rfl
  | succ n =>
    rw [afterRuns_succ]
    exact (migrate_migrate d).2

/-! ## Databases without tables -/

theorem migrate_empty {versions : Option (List Int)} (h : ∀ v ∈ versions.getD [], v < 1) :
    migrate { versions } =
      (.ok (), { versions := some (versions.getD [] ++ [1, 2]), tables := some { words := corpus } }) := by
  have before : ({ versions } : Database).currentVersion < 1 := (highest_lt_iff (by decide)).2 h
  have distinct : (corpus.map (·.id)).Nodup := by decide
  rw [migrate_of_tables before rfl]
  simp only [addWords, transaction, withVersions, Option.getD_some, Bool.false_eq_true,
    if_false, if_pos distinct, List.append_assoc, List.cons_append, List.nil_append]

theorem migrate_tableless {versions : Option (List Int)}
    (h : ({ versions } : Database).currentVersion = 1) :
    ∃ f, migrate { versions } =
      (.error f, { versions := some (versions.getD []), inTransaction := true }) := by
  rw [migrate_of_one h]
  exact ⟨_, rfl⟩

theorem currentVersion_eq_one_iff :
    d.currentVersion = 1 ↔ IsGreatest {v | v ∈ d.versions.getD []} 1 := by
  have one : d.currentVersion < 1 ↔ ∀ v ∈ d.versions.getD [], v < 1 := highest_lt_iff (by decide)
  have two : d.currentVersion < 2 ↔ ∀ v ∈ d.versions.getD [], v < 2 := highest_lt_iff (by decide)
  constructor
  · intro h
    have bound := two.1 (by omega)
    have reached : ∃ v ∈ d.versions.getD [], ¬ v < 1 := by
      by_contra none
      push Not at none
      have := one.2 none
      omega
    obtain ⟨v, mem, reached⟩ := reached
    have := bound v mem
    have same : v = 1 := by omega
    exact ⟨same ▸ mem, fun w held => by have := bound w held; omega⟩
  · intro h
    have reached : ¬ d.currentVersion < 1 := fun less => by simpa using one.1 less 1 h.1
    have bound : d.currentVersion < 2 := two.2 fun v held => by
      have : v ≤ 1 := h.2 held
      omega
    omega

/-- A database that holds versions and has no tables: whether a run succeeds does not depend on how many
there were before it, nor does the database after it. Where all versions are below 1 the runs make the
tables, put the words in and record both; from version 2 upwards they change nothing; and where version 1
is the highest they fail, with no table but that of the versions. A database that was once brought to the
current version is left as it is, whatever its tables have come to hold. -/
theorem migrations_converge :
    (∀ (versions : Option (List Int)) (n : Nat),
      let held := versions.getD []
      let done := (migrate { versions }).2
      ((migrate (afterRuns n { versions })).1.isOk = false ↔ IsGreatest {v | v ∈ held} 1) ∧
      afterRuns (n + 1) { versions } = done ∧
      ((∀ v ∈ held, v < 1) →
        done = { versions := some (held ++ [1, 2]), tables := some { words := corpus } }) ∧
      ((∃ v ∈ held, 2 ≤ v) → done = { versions }) ∧
      (IsGreatest {v | v ∈ held} 1 → done.versions = versions ∧ done.tableNames = ["schema_version"])) ∧
    ∀ start d : Database, (migrate start).1.isOk = true → d.versions = (migrate start).2.versions →
      migrate d = (.ok (), d) := by
  refine ⟨fun versions n => ⟨?_, afterRuns_succ n _, fun below => ?_, ?_, fun one => ?_⟩, ?_⟩
  · rw [isOk_migrate_afterRuns]
    have one := currentVersion_eq_one_iff (d := { versions })
    refine ⟨fun fails => one.1 ?_, fun greatest => ?_⟩
    · by_contra other
      rcases lt_or_ge ({ versions } : Database).currentVersion 1 with before | made
      · rw [migrate_empty ((highest_lt_iff (by decide)).1 before)] at fails
        cases fails
      · rw [migrate_of_two_le (by omega)] at fails
        cases fails
    · obtain ⟨f, fails⟩ := migrate_tableless (one.2 greatest)
      rw [fails]
      rfl
  · rw [migrate_empty below]
  · rintro ⟨v, mem, le⟩
    obtain _ | versions := versions
    · cases mem
    · rw [migrate_of_two_le (le_highest_of_mem (by decide) le mem), withVersions_of_some rfl]
  · obtain ⟨f, fails⟩ := migrate_tableless (currentVersion_eq_one_iff.2 one)
    obtain _ | versions := versions
    · cases one.1
    · rw [fails]
      exact ⟨rfl, rfl⟩
  · intro start d succeeds same
    rcases migrate_cases start with ⟨f, fails, -⟩ | ⟨-, ready⟩
    · rw [fails] at succeeds
      cases succeeds
    · refine Ready.migrate ⟨same ▸ ready.recorded, ?_⟩
      have current := ready.current
      rwa [currentVersion, ← same] at current

/-- Version 1 alone keeps every run from succeeding; versions below it do not; and a database that was
brought up to date is left alone when its words are gone and a user has come. -/
theorem migrations_converge_on_three :
    IsGreatest {v | v ∈ [1, -4, 1]} (1 : Int) ∧
    (migrate (afterRuns 7 { versions := some [1, -4, 1] })).1.isOk = false ∧
    (afterRuns 7 { versions := some [1, -4, 1] }).tableNames = ["schema_version"] ∧
    afterRuns 3 { versions := some [0, -4] } =
      { versions := some [0, -4, 1, 2], tables := some { words := corpus } } ∧
    afterRuns 5 { versions := some [7, 1] } = { versions := some [7, 1] } ∧
    let used : Database :=
      { versions := some [1, 2], tables := some { users := [⟨"u", "SillyCat", "", ""⟩] } }
    migrate used = (.ok (), used) := by
  have greatest : IsGreatest {v | v ∈ [1, -4, 1]} (1 : Int) := by simp [IsGreatest, upperBounds]
  have stuck := migrations_converge.1 (some [1, -4, 1])
  have made := migrations_converge.1 (some [0, -4]) 2
  have later := migrations_converge.1 (some [7, 1]) 4
  refine ⟨greatest, (stuck 7).1.2 greatest, ?_, ?_, ?_, ?_⟩
  · rw [(stuck 6).2.1]
    exact ((stuck 6).2.2.2.2 greatest).2
  · rw [made.2.1]
    exact made.2.2.1 (by decide)
  · rw [later.2.1]
    exact later.2.2.2.1 (by decide)
  · exact migrations_converge.2 {} _ (by decide) (by decide)

end Database

end GuessingRoom
