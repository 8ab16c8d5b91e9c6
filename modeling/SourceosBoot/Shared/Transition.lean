import Mathlib.Data.List.Forall2
import SourceosBoot.Shared.Python

set_option autoImplicit false

-- A step is total: an event that is declined or that raises is answered too, and the state it
-- leaves is the state the next event finds.

namespace Transition

structure System (σ ε ρ : Type) where
  step : σ → ε → ρ × σ

namespace System

variable {σ ε ρ : Type} (system : System σ ε ρ)

def run : σ → List ε → σ
  | state, [] => state
  | state, event :: rest => run (system.step state event).2 rest

def trace : σ → List ε → List (ε × ρ)
  | _, [] => []
  | state, event :: rest =>
    (event, (system.step state event).1) :: trace (system.step state event).2 rest

@[simp] theorem run_nil (state : σ) : system.run state [] = state := rfl

@[simp] theorem run_cons (state : σ) (event : ε) (rest : List ε) :
    system.run state (event :: rest) = system.run (system.step state event).2 rest := rfl

theorem run_append (state : σ) (front back : List ε) :
    system.run state (front ++ back) = system.run (system.run state front) back := by
  induction front generalizing state with
  | nil => rfl
  | cons event rest ih => exact ih (system.step state event).2

theorem mem_trace (state : σ) (events : List ε) (entry : ε × ρ)
    (listed : entry ∈ system.trace state events) :
    ∃ front back, events = front ++ entry.1 :: back ∧
      entry.2 = (system.step (system.run state front) entry.1).1 := by
  induction events generalizing state with
  | nil => simp [trace] at listed
  | cons event rest ih =>
    rcases List.mem_cons.mp listed with rfl | later
    · exact ⟨[], rest, rfl, rfl⟩
    · obtain ⟨front, back, rfl, answer⟩ := ih _ later
      exact ⟨event :: front, back, rfl, answer⟩

theorem run_invariant_among (Allowed : ε → Prop) (Holds : σ → Prop)
    (preserved : ∀ state event, Allowed event → Holds state → Holds (system.step state event).2)
    (state : σ) (initial : Holds state) (events : List ε)
    (allowed : ∀ event ∈ events, Allowed event) : Holds (system.run state events) := by
  induction events generalizing state with
  | nil => exact initial
  | cons event rest ih =>
    apply ih
    · exact preserved state event (allowed event (by simp)) initial
    · intro later listed
      exact allowed later (List.mem_cons_of_mem _ listed)

theorem run_history (Holds : List (ε × ρ) → σ → Prop)
    (preserved : ∀ past state event, Holds past state →
      Holds (past ++ [(event, (system.step state event).1)]) (system.step state event).2)
    (state : σ) (initial : Holds [] state) (events : List ε) :
    Holds (system.trace state events) (system.run state events) := by
  -- The entries so far are generalized: the induction appends to them at the end.
  have extended (past : List (ε × ρ)) (state : σ) (holds : Holds past state) :
      Holds (past ++ system.trace state events) (system.run state events) := by
    induction events generalizing past state with
    | nil => simpa [trace] using holds
    | cons event rest ih =>
      have next := ih _ _ (preserved past state event holds)
      simpa [trace] using next
  exact extended [] state initial

theorem run_enters (Holds : σ → Prop) (state : σ) (initial : ¬ Holds state) (events : List ε)
    (final : Holds (system.run state events)) :
    ∃ front event back, events = front ++ event :: back ∧ ¬ Holds (system.run state front) ∧
      Holds (system.step (system.run state front) event).2 := by
  induction events generalizing state with
  | nil => exact absurd final initial
  | cons event rest ih =>
    by_cases entered : Holds (system.step state event).2
    · exact ⟨[], event, rest, rfl, initial, entered⟩
    · obtain ⟨front, later, back, rfl, before, after⟩ := ih _ entered final
      exact ⟨event :: front, later, back, rfl, before, after⟩

theorem run_related {τ κ : Type} (image : System τ ε κ) (Related : σ → τ → Prop)
    (Answers : ρ → κ → Prop)
    (preserved : ∀ state other event, Related state other →
      Answers (system.step state event).1 (image.step other event).1 ∧
        Related (system.step state event).2 (image.step other event).2)
    (state : σ) (other : τ) (related : Related state other) (events : List ε) :
    List.Forall₂ (fun entry mirrored => mirrored.1 = entry.1 ∧ Answers entry.2 mirrored.2)
        (system.trace state events) (image.trace other events) ∧
      Related (system.run state events) (image.run other events) := by
  induction events generalizing state other with
  | nil => exact ⟨.nil, related⟩
  | cons event rest ih =>
    obtain ⟨answers, next⟩ := preserved state other event related
    obtain ⟨later, final⟩ := ih _ _ next
    exact ⟨.cons ⟨rfl, answers⟩ later, final⟩

end System

-- An object driven by method calls; the answer of a call is its result or its exception.
def object {σ ε α : Type} (call : ε → Python.Effect σ α) :
    System σ ε (Except Python.Raised α) where
  step := fun state event =>
    (Python.answer ((call event).run state), Python.left ((call event).run state))

end Transition
