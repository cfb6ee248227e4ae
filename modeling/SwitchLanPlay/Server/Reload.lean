import SwitchLanPlay.Server.Accounts

/-! Reloads of the user table. `JsonAuthProvider.read` empties the table, waits for the file, and
assigns what it parses; reads overlap, and a lookup can come between the two assignments.
-/

namespace SwitchLanPlay.Server

open List
open Foundation

/-- `this.table` of a `JsonAuthProvider`, the number of reads it has started, and those of them
that wait for the file.
-/
structure UserTable where
  table : Json
  started : Nat
  pending : List Nat

/-- A step of `read`: it is called, or the file is there for the read with this number. The
contents are missing when the file could not be read or parsed.
-/
inductive ReadEvent where
  | start
  | finish (id : Nat) (contents : Option Json)

def UserTable.step (provider : UserTable) : ReadEvent → Option (UserTable × Unit)
  | .start =>
    some
      (⟨.object [], provider.started + 1, provider.pending ++ [provider.started]⟩, ())
  | .finish id contents =>
    if id ∈ provider.pending then
      some
        ({
            provider with
            table :=
              match contents with
              | none => provider.table
              | some contents => JsonAuthProvider.read (some contents)
            pending := provider.pending.erase id
          },
          ())
    else none

def UserTable.init : UserTable := ⟨.object [], 0, []⟩

def readMachine : Machine (Option UserTable) ReadEvent Unit := Machine.failing UserTable.step ()

def UserTable.Reached (events : List ReadEvent) (provider : UserTable) : Prop :=
  readMachine.run (some .init) events = some provider

def ReadEvent.loaded? : ReadEvent → Option Json
  | .finish _ (some contents) => some (JsonAuthProvider.read (some contents))
  | .finish _ none => none
  | .start => none

def loaded (events : List ReadEvent) : List Json := events.filterMap ReadEvent.loaded?

def SameAnswers (node : NodeRuntime) (left right : Json) : Prop :=
  ∀ username,
    JsonAuthProvider.getUserPasswordSHA1 node left username
    = JsonAuthProvider.getUserPasswordSHA1 node right username

def AnsweredFrom (node : NodeRuntime) (tables : List Json) (table : Json) : Prop :=
  ∀ username,
    ∃ other ∈ tables,
      JsonAuthProvider.getUserPasswordSHA1 node table username
      = JsonAuthProvider.getUserPasswordSHA1 node other username

/-- The read that starts behind `before` fails in `after`, and no table is loaded meanwhile. -/
def FailsAlone (started : Nat) (after : List ReadEvent) : Prop :=
  ∃ middle rest, after = middle ++ .finish started none :: rest ∧ loaded middle = []

/-- Once a table is loaded, every lookup is answered from the table of a successful parse, and a
failed reload leaves all answers as they were.
-/
structure AtomicReloads (node : NodeRuntime) (events : List ReadEvent) : Prop where
  complete
    : ∀ before after provider,
        events = before ++ after
        → UserTable.Reached before provider
        → loaded before ≠ []
        → AnsweredFrom node (loaded before) provider.table
  unchanged
    : ∀ before middle after old new,
        events = before ++ .start :: (middle ++ .finish old.started none :: after)
        → UserTable.Reached before old
        → loaded before ≠ []
        → loaded middle = []
        → UserTable.Reached (before ++ .start :: (middle ++ [.finish old.started none])) new
        → SameAnswers node old.table new.table

/-- A read that starts once a table is loaded has no effect on the answers: those of the empty
table are answers of tables loaded before, and if the read fails alone, they are those of the table
it replaces.
-/
def HarmlessStarts (node : NodeRuntime) (events : List ReadEvent) : Prop :=
  ∀ before after old,
    events = before ++ .start :: after
    → UserTable.Reached before old
    → loaded before ≠ []
    → AnsweredFrom node (loaded before) (.object [])
      ∧ (FailsAlone old.started after → SameAnswers node old.table (.object []))

-- The table along the reads

theorem loaded_concat (events : List ReadEvent) (event : ReadEvent)
    : loaded (events ++ [event]) = loaded events ++ event.loaded?.toList := by
  unfold loaded
  rw [filterMap_append]
  cases loads : event.loaded? <;> simp [loads]

/-- What one step does with the table. -/
theorem UserTable.step_eq_some {provider next : UserTable} {event : ReadEvent} {output : Unit}
    (stepped : provider.step event = some (next, output))
    : (event = .start ∧ next.table = .object [])
      ∨ (∃ id, event = .finish id none ∧ next.table = provider.table)
      ∨ ∃ id contents,
          event = .finish id (some contents)
          ∧ next.table = JsonAuthProvider.read (some contents) := by
  cases event with
  | start =>
    cases stepped
    exact .inl ⟨rfl, rfl⟩
  | finish id contents =>
    simp only [UserTable.step] at stepped
    split at stepped
    · cases stepped
      cases contents with
      | none => exact .inr (.inl ⟨id, rfl, rfl⟩)
      | some contents => exact .inr (.inr ⟨id, contents, rfl, rfl⟩)
    · cases stepped

/-- Behind a start the table is empty as long as nothing is loaded. -/
theorem UserTable.table_after_start {before middle : List ReadEvent} {provider : UserTable}
    (reached : UserTable.Reached (before ++ .start :: middle) provider) (quiet : loaded middle = [])
    : provider.table = .object [] := by
  induction middle using reverseRecOn generalizing provider with
  | nil =>
    obtain ⟨old, _, _, stepped⟩ := Machine.failing_run_concat_eq_some.mp reached
    cases stepped
    rfl
  | append_singleton middle event ih =>
    rw [loaded_concat, append_eq_nil_iff] at quiet
    rw [← cons_append, ← append_assoc] at reached
    obtain ⟨old, output, earlier, stepped⟩ := Machine.failing_run_concat_eq_some.mp reached
    rcases step_eq_some stepped with
      ⟨-, empty⟩ | ⟨id, -, same⟩ | ⟨id, contents, rfl, -⟩
    · exact empty
    · rw [same]
      exact ih earlier quiet.1
    · cases quiet.2

/-- Under harmless starts a loaded table is one that was parsed, or the empty one between the two
assignments, whose answers are those of parsed ones.
-/
theorem HarmlessStarts.answeredFrom {node : NodeRuntime} {events : List ReadEvent}
    (harmless : HarmlessStarts node events) {before after : List ReadEvent}
    (split : events = before ++ after) {provider : UserTable}
    (reached : UserTable.Reached before provider) (some_ : loaded before ≠ [])
    : AnsweredFrom node (loaded before) provider.table := by
  induction before using reverseRecOn generalizing after provider with
  | nil => exact absurd rfl some_
  | append_singleton before event ih =>
    obtain ⟨old, output, earlier, stepped⟩ := Machine.failing_run_concat_eq_some.mp reached
    have split : events = before ++ event :: after := by simp [split]
    rw [loaded_concat] at some_ ⊢
    rcases UserTable.step_eq_some stepped with
      ⟨rfl, empty⟩ | ⟨id, rfl, same⟩ | ⟨id, contents, rfl, new⟩
    · rw [ReadEvent.loaded?, Option.toList_none, append_nil] at some_ ⊢
      rw [empty]
      exact (harmless before after old split earlier some_).1
    · rw [ReadEvent.loaded?, Option.toList_none, append_nil] at some_ ⊢
      rw [same]
      exact ih split earlier some_
    · intro username
      refine ⟨provider.table, ?_, rfl⟩
      rw [new]
      exact mem_append_right _ (mem_singleton_self _)

/-- Reloads are atomic if and only if no read with an effect on the answers starts once a table is
loaded: `read` empties the table before it waits.
-/
theorem reloads_atomic_iff (node : NodeRuntime) {events : List ReadEvent} {final : UserTable}
    (reached : UserTable.Reached events final)
    : AtomicReloads node events ↔ HarmlessStarts node events := by
  constructor
  · intro atomic before after old split earlier some_
    constructor
    · obtain ⟨next, step⟩ : ∃ next, UserTable.Reached (before ++ [.start]) next :=
        ⟨_, Machine.failing_run_concat_eq_some.mpr ⟨old, (), earlier, rfl⟩⟩
      have answered := atomic.complete (before ++ [.start]) after next (by simp [split]) step
        (by rwa [loaded_concat, ReadEvent.loaded?, Option.toList_none, List.append_nil])
      rwa [loaded_concat, ReadEvent.loaded?, Option.toList_none, List.append_nil,
        UserTable.table_after_start step rfl] at answered
    · rintro ⟨middle, rest, rfl, quiet⟩
      have whole : events
          = (before ++ .start :: (middle ++ [.finish old.started none])) ++ rest := by
        simp [split]
      rw [whole] at reached
      obtain ⟨new, later, -⟩ := Machine.failing_run_append_eq_some.mp reached
      have emptied : new.table = .object [] :=
        UserTable.table_after_start later (by rw [loaded_concat, quiet]; rfl)
      rw [← emptied]
      exact atomic.unchanged before middle rest old new split earlier some_ quiet later
  · intro harmless
    refine ⟨fun before after provider split => harmless.answeredFrom split, ?_⟩
    intro before middle after old new split earlier some_ quiet later
    have emptied : new.table = .object [] := by
      refine UserTable.table_after_start later ?_
      rw [loaded_concat, quiet]
      rfl
    rw [emptied]
    exact (harmless before _ old split earlier some_).2 ⟨middle, after, rfl, quiet⟩

def oneUser : Json := .object [("bob", .string "pw")]

theorem reloads_atomic_iff_loadedOnce
    : UserTable.Reached [.start, .finish 0 (some oneUser)] ⟨oneUser, 1, []⟩
      ∧ ∀ node, AtomicReloads node [.start, .finish 0 (some oneUser)] := by
  have reached : UserTable.Reached [.start, .finish 0 (some oneUser)] ⟨oneUser, 1, []⟩ := rfl
  refine ⟨reached, fun node => (reloads_atomic_iff node reached).mpr ?_⟩
  -- the one start has no load before it
  intro before after old split earlier some_
  rcases before with _ | ⟨first, _ | ⟨second, more⟩⟩
  · exact absurd rfl some_
  · cases split
  · simp at split

/-- The file is written again and is not yet complete when it is read: the parse fails, and the user
that was loaded is gone, before the read ends and behind it.
-/
theorem failed_reload_forgets_users
    : UserTable.Reached [.start, .finish 0 (some oneUser)] ⟨oneUser, 1, []⟩
      ∧ UserTable.Reached [.start, .finish 0 (some oneUser), .start] ⟨.object [], 2, [1]⟩
      ∧ UserTable.Reached [.start, .finish 0 (some oneUser), .start, .finish 1 none]
          ⟨.object [], 2, []⟩
      ∧ ∀ node,
          (∃ key, JsonAuthProvider.getUserPasswordSHA1 node oneUser "bob" = .ok key)
          ∧ ∀ key, JsonAuthProvider.getUserPasswordSHA1 node (.object []) "bob" ≠ .ok key := by
  refine ⟨rfl, rfl, rfl, fun node => ⟨⟨_, rfl⟩, fun key found => ?_⟩⟩
  have missing : (Json.object []).property node "bob"
      = .ok (if node.inherits (.object []) "bob" then .builtin else .undefined) := rfl
  rw [JsonAuthProvider.getUserPasswordSHA1, missing] at found
  cases inherited : node.inherits (.object []) "bob" <;> rw [inherited] at found <;> cases found

end SwitchLanPlay.Server
