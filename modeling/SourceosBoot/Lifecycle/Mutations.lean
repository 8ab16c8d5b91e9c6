import Mathlib.Data.List.Sort
import SourceosBoot.Lifecycle.Progression

set_option autoImplicit false

namespace SourceosBoot.Lifecycle

open Transition

theorem rule_lands : ∀ rule ∈ transitionTable, ∀ other ∈ transitionTable,
    rule.name = other.name → stage rule.toState = stage other.toState := by
  decide +kernel

theorem rule_changes : ∀ rule ∈ transitionTable, rule.name ∈ hostMutating →
    rule.fromState ≠ rule.toState := by
  decide +kernel

section Step

variable (position : LifecyclePosition) (attempt : Attempt)

theorem move_rule (moving : moves (engine.step position attempt).1 = true) :
    stage (engine.step position attempt).1.toState = rank (engine.step position attempt).2 ∧
    ∃ rule ∈ transitionTable, (engine.step position attempt).1.transition.name = rule.name ∧
      (engine.step position attempt).1.toState = rule.toState := by
  have attempted := step_attempted position attempt
  generalize engine.step position attempt = outcome at attempted moving ⊢
  cases attempted with
  | refused _ disallowed _ => simp [moves, disallowed] at moving
  | granted rule tabled _ named _ _ _ => exact ⟨rfl, rule, tabled, named, rfl⟩

theorem mutation_moves (effects : (engine.step position attempt).1.sideEffects.isSome = true) :
    moves (engine.step position attempt).1 = true ∧
      (engine.step position attempt).1.transition.name ∈ hostMutating := by
  have attempted := step_attempted position attempt
  generalize engine.step position attempt = outcome at attempted effects ⊢
  cases attempted with
  | refused _ _ harmless => simp [harmless] at effects
  | granted rule tabled leaves named _ _ _ =>
    have mutating : attempt.request.transitionName ∈ hostMutating := by
      by_contra spared
      exact Option.isSome_iff_ne_none.mp effects (if_neg spared)
    refine ⟨?_, mutating⟩
    rw [moves_granted, leaves]
    simpa using rule_changes rule tabled (named ▸ mutating)

end Step

def mutationStage (transitionName : String) : Nat :=
  if transitionName = "execute" then stage "executed" else stage "rolled-back"

theorem rule_mutation : ∀ rule ∈ transitionTable, rule.name ∈ hostMutating →
    stage rule.toState = mutationStage rule.name := by
  decide +kernel

theorem mutations_in_order {names : List String} (mutating : names ⊆ hostMutating)
    (ordered : names.Pairwise fun earlier later => mutationStage earlier < mutationStage later) :
    names.Sublist hostMutating := by
  have irreflexive : Std.Irrefl fun earlier later : String =>
      mutationStage earlier < mutationStage later := ⟨fun _ => Nat.lt_irrefl _⟩
  have antisymmetric : Std.Antisymm fun earlier later : String =>
      mutationStage earlier < mutationStage later :=
    ⟨fun _ _ before after => absurd after (Nat.lt_asymm before)⟩
  have listed : hostMutating.Pairwise fun earlier later =>
      mutationStage earlier < mutationStage later := by decide
  exact List.sublist_of_subperm_of_pairwise (List.subperm_of_subset ordered.nodup mutating) ordered
    listed

def transitionNames (entries : List (Attempt × LifecycleStateRecord)) : List String :=
  entries.map fun entry => entry.2.transition.name

structure OnceOnly (position : LifecyclePosition) (attempts : List Attempt) : Prop where
  moves : (transitionNames
    ((engine.trace position attempts).filter fun entry => moves entry.2)).Nodup
  mutations : (transitionNames
    ((engine.trace position attempts).filter fun entry => entry.2.sideEffects.isSome)).Sublist
      hostMutating

section Entry

variable {position : LifecyclePosition} {attempts : List Attempt}
  {entry : Attempt × LifecycleStateRecord} (listed : entry ∈ engine.trace position attempts)
include listed

theorem traced_rule (moving : moves entry.2 = true) :
    ∃ rule ∈ transitionTable, entry.2.transition.name = rule.name ∧
      entry.2.toState = rule.toState := by
  obtain ⟨front, _, _, answer⟩ := engine.mem_trace position attempts entry listed
  rw [answer] at moving ⊢
  exact (move_rule _ _ moving).2

theorem traced_mutation (effects : entry.2.sideEffects.isSome = true) :
    moves entry.2 = true ∧ entry.2.transition.name ∈ hostMutating := by
  obtain ⟨front, _, _, answer⟩ := engine.mem_trace position attempts entry listed
  rw [answer] at effects ⊢
  exact mutation_moves _ _ effects

end Entry

theorem moves_ordered (position : LifecyclePosition) (attempts : List Attempt) :
    ((engine.trace position attempts).filter fun entry => moves entry.2).Pairwise
      fun earlier later => stage earlier.2.toState < stage later.2.toState :=
  engine_climbs.ordered (fun answer => stage answer.toState)
    (fun state attempt moving => (move_rule state attempt moving).1) position attempts

theorem mutations_ordered (position : LifecyclePosition) (attempts : List Attempt) :
    ((engine.trace position attempts).filter fun entry => entry.2.sideEffects.isSome).Pairwise
      fun earlier later => stage earlier.2.toState < stage later.2.toState := by
  have among : (engine.trace position attempts).filter (fun entry => entry.2.sideEffects.isSome) =
      ((engine.trace position attempts).filter fun entry => moves entry.2).filter
        fun entry => entry.2.sideEffects.isSome := by
    rw [List.filter_filter]
    refine List.filter_congr fun entry listed => ?_
    cases effects : entry.2.sideEffects.isSome with
    | false => rfl
    | true => rw [(traced_mutation listed effects).1]; rfl
  rw [among]
  exact (moves_ordered position attempts).filter _

/--
Whatever is requested, a transition moves the object once at most, and a host is
changed by no more than one execution and then one rollback.
-/
theorem each_transition_once (position : LifecyclePosition) (attempts : List Attempt) :
    OnceOnly position attempts := by
  constructor
  case moves =>
    rw [transitionNames, List.Nodup, List.pairwise_map]
    refine (moves_ordered position attempts).imp_of_mem fun first second before same => ?_
    rw [List.mem_filter] at first second
    obtain ⟨rule, tabled, named, lands⟩ := traced_rule first.1 first.2
    obtain ⟨other, otherTabled, otherNamed, otherLands⟩ := traced_rule second.1 second.2
    have together := rule_lands rule tabled other otherTabled (by rw [← named, same, otherNamed])
    rw [lands, otherLands] at before
    omega
  case mutations =>
    have mutating {entry : Attempt × LifecycleStateRecord} (listed : entry ∈
        (engine.trace position attempts).filter fun entry => entry.2.sideEffects.isSome) :
        entry.2.transition.name ∈ hostMutating ∧
          stage entry.2.toState = mutationStage entry.2.transition.name := by
      rw [List.mem_filter] at listed
      obtain ⟨moving, mutating⟩ := traced_mutation listed.1 listed.2
      obtain ⟨rule, tabled, named, lands⟩ := traced_rule listed.1 moving
      rw [named] at mutating ⊢
      rw [lands]
      exact ⟨mutating, rule_mutation rule tabled mutating⟩
    apply mutations_in_order
    · intro name listed
      obtain ⟨entry, kept, rfl⟩ := List.mem_map.mp listed
      exact (mutating kept).1
    · rw [transitionNames, List.pairwise_map]
      refine (mutations_ordered position attempts).imp_of_mem fun first second before => ?_
      rwa [(mutating first).2, (mutating second).2] at before

end SourceosBoot.Lifecycle
