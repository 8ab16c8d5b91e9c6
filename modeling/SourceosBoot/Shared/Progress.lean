import Mathlib.Logic.Relation
import SourceosBoot.Shared.Transition

set_option autoImplicit false

-- What a run reaches when a step goes along an edge of a graph or stays, and how often it can move
-- when every move climbs.

namespace Transition

namespace System

variable {σ ε ρ : Type} (system : System σ ε ρ)

/-- Steps follow the edges between the views of states, and every edge is some step. -/
structure Follows {α : Type} (view : σ → α) (Leads : α → α → Prop) : Prop where
  along : ∀ state event, view (system.step state event).2 = view state ∨
    Leads (view state) (view (system.step state event).2)
  realized : ∀ state target, Leads (view state) target →
    ∃ event, view (system.step state event).2 = target

variable {system}

theorem Follows.reaches_iff {α : Type} {view : σ → α} {Leads : α → α → Prop}
    (follows : system.Follows view Leads) (state : σ) (target : α) :
    (∃ events, view (system.run state events) = target) ↔
      Relation.ReflTransGen Leads (view state) target := by
  constructor
  · rintro ⟨events, rfl⟩
    induction events generalizing state with
    | nil => exact .refl
    | cons event rest ih =>
      rcases follows.along state event with stays | leads
      · rw [← stays]
        exact ih _
      · exact .head leads (ih _)
  · intro path
    induction path with
    | refl => exact ⟨[], rfl⟩
    | tail _ leads ih =>
      obtain ⟨events, reached⟩ := ih
      obtain ⟨event, stepped⟩ := follows.realized (system.run state events) _ (reached ▸ leads)
      exact ⟨events ++ [event], by rw [system.run_append]; exact stepped⟩

variable (system)

/-- A step that moves climbs, and no other step changes the rank. -/
structure Climbs (rank : σ → Nat) (moves : ρ → Bool) : Prop where
  up : ∀ state event, moves (system.step state event).1 = true →
    rank state < rank (system.step state event).2
  level : ∀ state event, moves (system.step state event).1 = false →
    rank (system.step state event).2 = rank state

def moved (moves : ρ → Bool) (state : σ) (events : List ε) : Nat :=
  (system.trace state events).countP fun entry => moves entry.2

variable {system} {rank : σ → Nat} {moves : ρ → Bool}

theorem Climbs.moved_le (climbs : system.Climbs rank moves) (state : σ) (events : List ε) :
    rank state + system.moved moves state events ≤ rank (system.run state events) := by
  induction events generalizing state with
  | nil => simp [moved, trace]
  | cons event rest ih =>
    have later := ih (system.step state event).2
    have counted : system.moved moves state (event :: rest) =
        system.moved moves (system.step state event).2 rest +
          if moves (system.step state event).1 then 1 else 0 := by
      rw [moved, moved, trace, List.countP_cons]
    rw [counted, run_cons]
    cases moving : moves (system.step state event).1 with
    | true =>
      have up := climbs.up state event moving
      rw [if_pos rfl]
      omega
    | false =>
      have level := climbs.level state event moving
      simp only [Bool.false_eq_true, if_false]
      omega

theorem Climbs.returned (climbs : system.Climbs rank moves) {state : σ} {events : List ε}
    (same : rank (system.run state events) = rank state) :
    ∀ entry ∈ system.trace state events, moves entry.2 = false := by
  have bound := climbs.moved_le state events
  have still : system.moved moves state events = 0 := by omega
  intro entry listed
  simpa using List.countP_eq_zero.mp still entry listed

theorem Climbs.rank_le (climbs : system.Climbs rank moves) (state : σ) (events : List ε) :
    rank state ≤ rank (system.run state events) :=
  Nat.le_of_add_right_le (climbs.moved_le state events)

section Answered

variable (climbs : system.Climbs rank moves) (key : ρ → Nat)
  (reads : ∀ state event, moves (system.step state event).1 = true →
    key (system.step state event).1 = rank (system.step state event).2)
include climbs reads

theorem Climbs.above (state : σ) (events : List ε) (entry : ε × ρ)
    (listed : entry ∈ system.trace state events) (moving : moves entry.2 = true) :
    rank state < key entry.2 := by
  obtain ⟨front, _, _, answer⟩ := system.mem_trace state events entry listed
  rw [answer] at moving ⊢
  rw [reads _ _ moving]
  exact Nat.lt_of_le_of_lt (climbs.rank_le state front) (climbs.up _ _ moving)

theorem Climbs.ordered (state : σ) (events : List ε) :
    ((system.trace state events).filter fun entry => moves entry.2).Pairwise
      fun earlier later => key earlier.2 < key later.2 := by
  induction events generalizing state with
  | nil => exact .nil
  | cons event rest ih =>
    rw [trace, List.filter_cons]
    split
    case isTrue moving =>
      refine .cons (fun later listed => ?_) (ih _)
      rw [List.mem_filter] at listed
      rw [reads state event moving]
      exact climbs.above key reads _ rest later listed.1 listed.2
    case isFalse => exact ih _

end Answered

end System

end Transition
