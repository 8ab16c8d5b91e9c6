import SourceosBoot.Shared.Transition

set_option autoImplicit false

-- Where a declined event leaves no mark, the accepted events of a run give the run again, with the
-- same answers.

namespace Transition

namespace System

variable {σ ε ρ : Type} (system : System σ ε ρ) (accepts : ρ → Bool)

def accepted (state : σ) (events : List ε) : List ε :=
  ((system.trace state events).filter fun entry => accepts entry.2).map Prod.fst

/-- In the states of `Holds`, which steps do not leave, what is declined changes nothing. -/
structure Inert (Holds : σ → Prop) : Prop where
  stays : ∀ state event, Holds state → Holds (system.step state event).2
  declined : ∀ state event, Holds state → accepts (system.step state event).1 = false →
    (system.step state event).2 = state

@[simp] theorem length_trace (state : σ) (events : List ε) :
    (system.trace state events).length = events.length := by
  induction events generalizing state with
  | nil => rfl
  | cons event rest ih => simp [trace, ih]

variable {system accepts}

theorem accepted_taken {state : σ} {event : ε} (rest : List ε)
    (taken : accepts (system.step state event).1 = true) :
    system.accepted accepts state (event :: rest) =
      event :: system.accepted accepts (system.step state event).2 rest := by
  simp [accepted, trace, taken]

theorem accepted_declined {state : σ} {event : ε} (rest : List ε)
    (declined : accepts (system.step state event).1 = false) :
    system.accepted accepts state (event :: rest) =
      system.accepted accepts (system.step state event).2 rest := by
  simp [accepted, trace, declined]

variable {Holds : σ → Prop} (inert : system.Inert accepts Holds)
include inert

theorem Inert.run_accepted {state : σ} (holds : Holds state) (events : List ε) :
    system.run state (system.accepted accepts state events) = system.run state events := by
  induction events generalizing state with
  | nil => rfl
  | cons event rest ih =>
    have later := ih (inert.stays state event holds)
    cases taken : accepts (system.step state event).1 with
    | true => rw [accepted_taken rest taken, run_cons, run_cons, later]
    | false =>
      rw [inert.declined state event holds taken] at later
      rw [accepted_declined rest taken, run_cons, inert.declined state event holds taken, later]

theorem Inert.trace_accepted {state : σ} (holds : Holds state) (events : List ε) :
    system.trace state (system.accepted accepts state events) =
      (system.trace state events).filter fun entry => accepts entry.2 := by
  induction events generalizing state with
  | nil => rfl
  | cons event rest ih =>
    have later := ih (inert.stays state event holds)
    cases taken : accepts (system.step state event).1 with
    | true =>
      rw [accepted_taken rest taken, trace, trace, later]
      simp [taken]
    | false =>
      rw [inert.declined state event holds taken] at later
      rw [accepted_declined rest taken, inert.declined state event holds taken, later, trace,
        inert.declined state event holds taken]
      simp [taken]

end System

end Transition
