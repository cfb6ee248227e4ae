import Mathlib

/-! Deterministic machines that answer every input. A run is a list of inputs; rules lift
what one step preserves to whole runs, with or without the history of inputs.
-/

namespace SwitchLanPlay.Foundation

open List

variable {σ ι ο : Type*}

variable {inputs : List ι} {state : σ} {input : ι}

/-- A machine with state `σ` that answers each input with one output. -/
structure Machine (σ ι ο : Type*) where
  step : σ → ι → σ × ο

namespace Machine

def run (machine : Machine σ ι ο) (state : σ) (inputs : List ι) : σ :=
  inputs.foldl (fun current input => (machine.step current input).1) state

def outputs (machine : Machine σ ι ο) : σ → List ι → List ο
  | _, [] => []
  | state, input :: rest =>
    (machine.step state input).2 :: machine.outputs (machine.step state input).1 rest

variable (machine : Machine σ ι ο)

@[simp] theorem run_nil (state : σ) : machine.run state [] = state := rfl

@[simp] theorem run_cons (state : σ) (input : ι) (rest : List ι)
    : machine.run state (input :: rest) = machine.run (machine.step state input).1 rest := rfl

theorem run_append (state : σ) (front rest : List ι)
    : machine.run state (front ++ rest) = machine.run (machine.run state front) rest := foldl_append

theorem run_concat (state : σ) (front : List ι) (input : ι)
    : machine.run state (front ++ [input])
      = (machine.step (machine.run state front) input).1 := by
  rw [run_append]
  rfl

theorem outputs_append (state : σ) (front rest : List ι)
    : machine.outputs state (front ++ rest)
      = machine.outputs state front ++ machine.outputs (machine.run state front) rest := by
  induction front generalizing state with
  | nil => rfl
  | cons input front ih => simp [outputs, ih]

theorem outputs_concat (state : σ) (front : List ι) (input : ι)
    : machine.outputs state (front ++ [input])
      = machine.outputs state front ++ [(machine.step (machine.run state front) input).2] := by
  rw [outputs_append]
  rfl

def inputsWith (machine : Machine σ ι ο) (accepts : ο → Bool) (state : σ)
    (inputs : List ι)
    : List ι :=
  ((inputs.zip (machine.outputs state inputs)).filter (fun answered => accepts answered.2)).map
    Prod.fst

theorem length_outputs (state : σ) (inputs : List ι)
    : (machine.outputs state inputs).length = inputs.length := by
  induction inputs generalizing state with
  | nil => rfl
  | cons input rest ih => rw [outputs, length_cons, ih, length_cons]

theorem inputsWith_concat (accepts : ο → Bool) (state : σ) (front : List ι) (input : ι)
    : machine.inputsWith accepts state (front ++ [input])
      = machine.inputsWith accepts state front
        ++ if accepts (machine.step (machine.run state front) input).2 then [input] else [] := by
  unfold inputsWith
  rw [outputs_concat, zip_append (machine.length_outputs state front).symm,
    filter_append, map_append]
  congr 1
  cases accepted : accepts (machine.step (machine.run state front) input).2 with
  | true => simp [accepted]
  | false => simp [accepted]

/-- A relation between the inputs so far and the state holds of every run when it holds
at the start and every step extends it.
-/
theorem run_induction {start : σ} (relation : List ι → σ → Prop) (initial : relation [] start)
    (preserved
      : ∀ history state input,
          relation history state
          → relation (history ++ [input]) (machine.step state input).1)
    (inputs : List ι)
    : relation inputs (machine.run start inputs) := by
  induction inputs using reverseRecOn with
  | nil => exact initial
  | append_singleton history input ih =>
    rw [run_concat]
    exact preserved history _ input ih

/-- A state predicate that every step preserves holds after every run. -/
theorem run_invariant (invariant : σ → Prop)
    (preserved : ∀ state input, invariant state → invariant (machine.step state input).1)
    {start : σ} (initial : invariant start) (inputs : List ι)
    : invariant (machine.run start inputs) :=
  machine.run_induction (fun _ state => invariant state) initial
    (fun _ state input holds => preserved state input holds) inputs

/-- Two machines that make the same step at every point of a run make the same run. -/
theorem run_outputs_eq (left right : Machine σ ι ο)
    (same
      : ∀ before input after,
          inputs = before ++ input :: after
          → left.step (left.run state before) input = right.step (left.run state before) input)
    : left.run state inputs = right.run state inputs
      ∧ left.outputs state inputs = right.outputs state inputs := by
  induction inputs generalizing state with
  | nil => exact ⟨rfl, rfl⟩
  | cons input rest ih =>
    have here : left.step state input = right.step state input := same [] input rest rfl
    have later := @ih (left.step state input).1
      (fun before next after split => same (input :: before) next after (by rw [split]; rfl))
    simp only [run_cons, outputs, ← here, later.1, later.2, and_self]

/-- Every output belongs to one input and the state before it. -/
theorem mem_outputs_iff {output : ο}
    : output ∈ machine.outputs state inputs
      ↔ ∃ before input after,
          inputs = before ++ input :: after
          ∧ (machine.step (machine.run state before) input).2 = output := by
  constructor
  · intro member
    induction inputs generalizing state with
    | nil => cases member
    | cons input rest ih =>
      rcases mem_cons.mp member with rfl | later
      · exact ⟨[], input, rest, rfl, rfl⟩
      · obtain ⟨before, next, after, rfl, same⟩ := ih later
        exact ⟨input :: before, next, after, rfl, same⟩
  · rintro ⟨before, input, after, rfl, same⟩
    rw [outputs_append]
    exact mem_append_right _ (same ▸ mem_cons_self)

end Machine

/-- Outputs of which one part is never longer than another agree in both as a whole exactly
when every single one does.
-/
theorem flatMap_eq_flatMap_iff {α β : Type*} {items : List α} {left right : α → List β}
    (shorter : ∀ item ∈ items, (left item).length ≤ (right item).length)
    : items.flatMap left = items.flatMap right ↔ ∀ item ∈ items, left item = right item := by
  have total {items : List α}
      (shorter : ∀ item ∈ items, (left item).length ≤ (right item).length)
      : (items.flatMap left).length ≤ (items.flatMap right).length := by
    induction items with
    | nil => exact le_rfl
    | cons item items ih =>
      rw [forall_mem_cons] at shorter
      rw [flatMap_cons, flatMap_cons, length_append, length_append]
      exact Nat.add_le_add shorter.1 (ih shorter.2)
  induction items with
  | nil => exact iff_of_true rfl fun _ member => absurd member not_mem_nil
  | cons item items ih =>
    rw [forall_mem_cons] at shorter ⊢
    have later := total shorter.2
    rw [flatMap_cons, flatMap_cons]
    constructor
    · intro same
      have lengths := congrArg List.length same
      rw [length_append, length_append] at lengths
      obtain ⟨here, rest⟩ := append_inj same (by have := shorter.1; omega)
      exact ⟨here, (ih shorter.2).mp rest⟩
    · rintro ⟨here, rest⟩
      rw [here, (ih shorter.2).mpr rest]

/-- An input of a history with one more input is one of the history, or the last. -/
theorem exists_split_concat_iff {holds : List ι → ι → Prop} {history : List ι}
    : (∃ before event after, history ++ [input] = before ++ event :: after ∧ holds before event)
      ↔ (∃ before event after, history = before ++ event :: after ∧ holds before event)
        ∨ holds history input := by
  constructor
  · rintro ⟨before, event, after, split, here⟩
    rcases eq_nil_or_concat after with rfl | ⟨rest, last, rfl⟩
    · obtain ⟨rfl, same⟩ := append_inj' split rfl
      cases singleton_inj.mp same
      exact Or.inr here
    · rw [concat_eq_append, ← cons_append, ← append_assoc] at split
      obtain ⟨rfl, _⟩ := append_inj' split rfl
      exact Or.inl ⟨before, event, rest, rfl, here⟩
  · rintro (⟨before, event, after, rfl, here⟩ | here)
    · exact ⟨before, event, after ++ [input], by simp, here⟩
    · exact ⟨history, input, [], rfl, here⟩

theorem forall_split_concat_iff {holds : List ι → ι → Prop} {history : List ι}
    : (∀ before event after, history ++ [input] = before ++ event :: after → holds before event)
      ↔ (∀ before event after, history = before ++ event :: after → holds before event)
        ∧ holds history input := by
  constructor
  · intro all
    refine ⟨?_, all history input [] rfl⟩
    intro before event after split
    exact all before event (after ++ [input]) (by simp [split])
  · rintro ⟨earlier, last⟩ before event after split
    by_contra fails
    have failing
        : ∃ before event after,
            history ++ [input] = before ++ event :: after ∧ ¬ holds before event :=
      ⟨before, event, after, split, fails⟩
    rcases exists_split_concat_iff.mp failing with ⟨front, next, rest, cut, fails⟩ | fails
    · exact fails (earlier front next rest cut)
    · exact fails last

/-- A property that a history gains, starting without it, is gained at one of its inputs. -/
theorem exists_crossing (property : List ι → Prop) (initially : ¬ property [])
    (gained : property inputs)
    : ∃ before input after,
        inputs = before ++ input :: after
        ∧ ¬ property before
        ∧ property (before ++ [input]) := by
  induction inputs using reverseRecOn with
  | nil => exact absurd gained initially
  | append_singleton history input ih =>
    by_cases already : property history
    · obtain ⟨before, crossing, after, split, absent, reached⟩ := ih already
      exact ⟨before, crossing, after ++ [input], by simp [split], absent, reached⟩
    · exact ⟨history, input, [], rfl, already, gained⟩

/-- When each input keeps a property under a guard of its own, the property holds at every
front of a history exactly when every input of the history met its guard.
-/
theorem forall_fronts_iff (property : List ι → Prop) (guard : List ι → ι → Prop)
    (initially : property [])
    (step
      : ∀ history input, property history → (property (history ++ [input]) ↔ guard history input))
    (inputs : List ι)
    : (∀ before after, inputs = before ++ after → property before)
      ↔ ∀ before input after, inputs = before ++ input :: after → guard before input := by
  constructor
  · intro holds before input after split
    have here := holds before (input :: after) split
    exact (step before input here).mp (holds (before ++ [input]) after (by simp [split]))
  · intro guarded before
    induction before using reverseRecOn with
    | nil => exact fun _ _ => initially
    | append_singleton before input ih =>
      intro after split
      have rest : inputs = before ++ input :: after := by simp [split]
      exact (step before input (ih (input :: after) rest)).mpr (guarded before input after rest)

-- Steps that may fail

section Failing

/-- The machine of a step that may fail; it stays in its failure, with one output for all inputs. -/
def Machine.failing (step : σ → ι → Option (σ × ο)) (failed : ο) : Machine (Option σ) ι ο where
  step state input :=
    match state.bind (fun state => step state input) with
    | none => (none, failed)
    | some (next, output) => (some next, output)

variable {step : σ → ι → Option (σ × ο)} {failed : ο}

namespace Machine

theorem failing_step_eq_some {current : Option σ} {next : σ}
    : ((Machine.failing step failed).step current input).1 = some next
      ↔ ∃ state output, current = some state ∧ step state input = some (next, output) := by
  cases current with
  | none => simp [failing]
  | some state =>
    cases outcome : step state input with
    | none => simp [failing, outcome]
    | some outcome => simp [failing, outcome, Prod.ext_iff]

theorem failing_run_none (inputs : List ι) : (failing step failed).run none inputs = none := by
  induction inputs with
  | nil => rfl
  | cons input inputs ih => exact ih

/-- A step that does not fail makes the runs of a machine that cannot fail. -/
theorem failing_of_total {machine : Machine σ ι ο}
    (total : ∀ state input, step state input = some (machine.step state input)) (start : σ)
    (inputs : List ι)
    : (Machine.failing step failed).run (some start) inputs = some (machine.run start inputs)
      ∧ (Machine.failing step failed).outputs (some start) inputs
        = machine.outputs start inputs := by
  induction inputs generalizing start with
  | nil => exact ⟨rfl, rfl⟩
  | cons input rest ih =>
    have here
        : (failing step failed).step (some start) input
          = (some (machine.step start input).1, (machine.step start input).2) := by
      simp [failing, total]
    obtain ⟨run, outputs⟩ := ih (machine.step start input).1
    rw [run_cons, run_cons, Machine.outputs, Machine.outputs, here, run, outputs]
    exact ⟨rfl, rfl⟩

/-- A run reaches a state through the state behind its front. -/
theorem failing_run_append_eq_some {start final : σ} {front rest : List ι}
    : (Machine.failing step failed).run (some start) (front ++ rest) = some final
      ↔ ∃ state,
          (Machine.failing step failed).run (some start) front = some state
          ∧ (Machine.failing step failed).run (some state) rest = some final := by
  rw [run_append]
  cases (failing step failed).run (some start) front with
  | none => simp [failing_run_none]
  | some state => simp

/-- A run reaches a state through a first step that succeeds. -/
theorem failing_run_cons_eq_some {start final : σ} {rest : List ι}
    : (Machine.failing step failed).run (some start) (input :: rest) = some final
      ↔ ∃ next output,
          step start input = some (next, output)
          ∧ (Machine.failing step failed).run (some next) rest = some final := by
  rw [run_cons]
  cases outcome : step start input with
  | none =>
    have stuck : ((failing step failed).step (some start) input).1 = none := by
      simp [failing, outcome]
    simp [stuck, failing_run_none]
  | some pair =>
    have here : ((failing step failed).step (some start) input).1 = some pair.1 := by
      simp [failing, outcome]
    simp [here, Prod.ext_iff]

theorem failing_outputs_cons {start next : σ} {output : ο}
    (stepped : step start input = some (next, output)) (rest : List ι)
    : (Machine.failing step failed).outputs (some start) (input :: rest)
      = output :: (Machine.failing step failed).outputs (some next) rest := by
  have here : (failing step failed).step (some start) input = (some next, output) := by
    simp [failing, stepped]
  rw [outputs, here]

/-- A run with one more input reaches a state through a last step that succeeds. -/
theorem failing_run_concat_eq_some {start next : σ}
    : (failing step failed).run (some start) (inputs ++ [input]) = some next
      ↔ ∃ state output,
          (failing step failed).run (some start) inputs = some state
          ∧ step state input = some (next, output) := by
  rw [run_concat, failing_step_eq_some]

/-- A relation between the inputs so far, the outputs so far and the state that every step that
succeeds extends holds of what a run reaches.
-/
theorem failing_outputs_induction (relation : List ι → List ο → σ → Prop) {start : σ}
    (initial : relation [] [] start)
    (preserved
      : ∀ history outputs state input next output,
          relation history outputs state
          → step state input = some (next, output)
          → relation (history ++ [input]) (outputs ++ [output]) next)
    (reached : (Machine.failing step failed).run (some start) inputs = some state)
    : relation inputs ((Machine.failing step failed).outputs (some start) inputs) state := by
  induction inputs using reverseRecOn generalizing state with
  | nil =>
    cases reached
    exact initial
  | append_singleton history input ih =>
    obtain ⟨before, output, earlier, stepped⟩ := failing_run_concat_eq_some.mp reached
    have last : ((failing step failed).step (some before) input).2 = output := by
      simp [failing, stepped]
    rw [outputs_concat, earlier, last]
    exact preserved history _ before input state output (ih earlier) stepped

/-- A relation between the inputs so far and the state that every step that succeeds extends holds
of what a run reaches.
-/
theorem failing_run_induction (relation : List ι → σ → Prop) {start : σ}
    (initial : relation [] start)
    (preserved
      : ∀ history state input next output,
          relation history state
          → step state input = some (next, output)
          → relation (history ++ [input]) next)
    (reached : (failing step failed).run (some start) inputs = some state)
    : relation inputs state :=
  failing_outputs_induction (fun history _ => relation history) initial
    (fun history _ => preserved history) reached

/-- A state predicate that every step that succeeds preserves holds of what a run reaches. -/
theorem failing_run_invariant (invariant : σ → Prop)
    (preserved
      : ∀ state input next output,
          invariant state → step state input = some (next, output) → invariant next)
    {start : σ} (initial : invariant start)
    (reached : (failing step failed).run (some start) inputs = some state)
    : invariant state :=
  failing_run_induction (fun _ state => invariant state) initial
    (fun _ state input next output => preserved state input next output) reached

/-- A state predicate that every step under a guard preserves holds of what a run reaches whose
steps all meet the guard.
-/
theorem failing_run_guarded (invariant : σ → Prop) (guard : σ → ι → Prop) {start : σ}
    (initial : invariant start)
    (preserved
      : ∀ history state input next output,
          (failing step failed).run (some start) history = some state
          → invariant state
          → guard state input
          → step state input = some (next, output)
          → invariant next)
    (guarded
      : ∀ before input after,
          inputs = before ++ input :: after
          → ∀ state,
              (failing step failed).run (some start) before = some state
              → guard state input)
    (reached : (failing step failed).run (some start) inputs = some state)
    : invariant state := by
  induction inputs using reverseRecOn generalizing state with
  | nil =>
    cases reached
    exact initial
  | append_singleton history input ih =>
    obtain ⟨before, output, earlier, stepped⟩ := failing_run_concat_eq_some.mp reached
    refine preserved history before input state output earlier (ih ?_ earlier)
      (guarded history input [] rfl before earlier) stepped
    intro front next rest split
    refine guarded front next (rest ++ [input]) ?_
    rw [split, append_assoc, cons_append]

/-- Inputs of a kind whose steps all succeed are run to their end. -/
theorem failing_run_map {α : Type*} (toInput : α → ι) (relation : List α → σ → Prop)
    {start : σ} (initial : relation [] start)
    (succeeds
      : ∀ items state item,
          relation items state
          → ∃ next output,
              step state (toInput item) = some (next, output)
              ∧ relation (items ++ [item]) next)
    (items : List α)
    : ∃ final,
        (failing step failed).run (some start) (items.map toInput) = some final
        ∧ relation items final := by
  induction items using reverseRecOn with
  | nil => exact ⟨start, rfl, initial⟩
  | append_singleton items item ih =>
    obtain ⟨state, reached, related⟩ := ih
    obtain ⟨next, output, stepped, related⟩ := succeeds items state item related
    refine ⟨next, ?_, related⟩
    rw [map_append, map_singleton, run_concat, reached]
    exact failing_step_eq_some.mpr ⟨state, output, rfl, stepped⟩

/-- When a step from a reached state keeps a property exactly under a guard, all states that a run
passes have the property exactly when all of its steps meet the guard.
-/
theorem failing_fronts_iff (step : σ → ι → Option (σ × ο)) (failed : ο) (start : σ)
    (property : σ → Prop) (guard : σ → ι → Prop) (initially : property start)
    (kept
      : ∀ history state input,
          (Machine.failing step failed).run (some start) history = some state
          → property state
          → ((∀ next output, step state input = some (next, output) → property next)
            ↔ guard state input))
    (inputs : List ι)
    : (∀ before after,
        inputs = before ++ after
        → ∀ state,
            (Machine.failing step failed).run (some start) before = some state → property state)
      ↔ ∀ before input after,
          inputs = before ++ input :: after
          → ∀ state,
              (Machine.failing step failed).run (some start) before = some state
              → guard state input := by
  refine forall_fronts_iff
    (fun before =>
      ∀ state,
        (failing step failed).run (some start) before = some state → property state)
    (fun before input =>
      ∀ state,
        (failing step failed).run (some start) before = some state → guard state input)
    ?_ ?_ inputs
  · rintro _ ⟨⟩
    exact initially
  · intro history input holds
    rw [run_concat]
    simp only [failing_step_eq_some]
    constructor
    · intro after state reached
      refine (kept history state input reached (holds state reached)).mp ?_
      intro next output outcome
      exact after next ⟨state, output, reached, outcome⟩
    · rintro guarded next ⟨state, output, reached, outcome⟩
      exact (kept history state input reached (holds state reached)).mpr (guarded state reached)
        next output outcome

end Machine

end Failing

end SwitchLanPlay.Foundation
