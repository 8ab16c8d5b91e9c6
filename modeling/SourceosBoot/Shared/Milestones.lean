import Mathlib.Data.List.Forall2
import SourceosBoot.Shared.Transition

set_option autoImplicit false

-- A state asks for a list of gates. If a step adds at most the gate it has just passed, then what
-- the last state asks for has been passed in order.

namespace Transition

variable {γ η : Type} {Passes : γ → η → Prop}

/-- Different entries of the history pass the gates, in the order of the gates. -/
abbrev PassedInOrder (Passes : γ → η → Prop) (gates : List γ) (history : List η) : Prop :=
  List.SublistForall₂ Passes gates history

theorem PassedInOrder.fewer {gates fewer : List γ} {history : List η}
    (passed : PassedInOrder Passes gates history) (kept : fewer.Sublist gates) :
    PassedInOrder Passes fewer history := by
  induction passed generalizing fewer with
  | nil =>
    rw [List.sublist_nil.mp kept]
    exact .nil
  | cons passes _ ih =>
    cases kept with
    | cons _ kept => exact .cons_right (ih kept)
    | cons_cons _ kept => exact .cons passes (ih kept)
  | cons_right _ ih => exact .cons_right (ih kept)

theorem PassedInOrder.later {gates : List γ} {history : List η}
    (passed : PassedInOrder Passes gates history) (entry : η) :
    PassedInOrder Passes gates (history ++ [entry]) := by
  have ⟨entries, each, among⟩ := List.sublistForall₂_iff.mp passed
  exact List.sublistForall₂_iff.mpr
    ⟨entries, each, among.trans (List.sublist_append_left history [entry])⟩

theorem PassedInOrder.concat {gates : List γ} {history : List η} {gate : γ} {entry : η}
    (passed : PassedInOrder Passes gates history) (passes : Passes gate entry) :
    PassedInOrder Passes (gates ++ [gate]) (history ++ [entry]) := by
  have ⟨entries, each, among⟩ := List.sublistForall₂_iff.mp passed
  apply List.sublistForall₂_iff.mpr
  exact ⟨entries ++ [entry], List.rel_append each (.cons passes .nil), among.append_right [entry]⟩

namespace System

variable {σ ε ρ : Type} (system : System σ ε ρ)

theorem run_gates {Passes : γ → ε × ρ → Prop} (required : σ → List γ)
    (step : ∀ state event,
      (required (system.step state event).2).Sublist (required state) ∨
      ∃ gate, Passes gate (event, (system.step state event).1) ∧
        (required (system.step state event).2).Sublist (required state ++ [gate]))
    (state : σ) (initial : required state = []) (events : List ε) :
    PassedInOrder Passes (required (system.run state events)) (system.trace state events) := by
  apply system.run_history (fun history state => PassedInOrder Passes (required state) history)
  · intro past state event passed
    rcases step state event with kept | ⟨gate, passes, kept⟩
    · exact (passed.later _).fewer kept
    · exact (passed.concat passes).fewer kept
  · rw [initial]
    exact .nil

end System

end Transition
