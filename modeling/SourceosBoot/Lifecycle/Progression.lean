import SourceosBoot.Lifecycle.Admission
import SourceosBoot.Lifecycle.Promotion
import SourceosBoot.Shared.Progress

set_option autoImplicit false

namespace SourceosBoot.Lifecycle

open Transition

def Leads (state target : Option String) : Prop :=
  ∃ rule ∈ transitionTable, state = some rule.fromState ∧ target = some rule.toState

def TransitionRule.attempt (rule : TransitionRule) : Attempt where
  request := {
    transitionName := rule.name
    toState := some rule.toState
    proofsPresent := rule.requiredProofs
    approvalRef := some "urn:srcos:approval:granted" }
  stamp := ⟨"00000000-0000-4000-8000-000000000000", "2026-01-01T00:00:00Z"⟩

theorem matching_rule {rule : TransitionRule} (tabled : rule ∈ transitionTable)
    {request : TransitionRequest} (named : request.transitionName = rule.name)
    (aimed : request.toState = some rule.toState) :
    matching (some rule.fromState) request = [rule] := by
  have listed : rule ∈ matching (some rule.fromState) request := by
    simp [matching, tabled, named, aimed]
  apply (head?_sole (transitionTable_nodup.filter _) (matching_targeted aimed) rule).mp
  change (matching (some rule.fromState) request).head? = some rule
  cases found : matching (some rule.fromState) request with
  | nil => simp [found] at listed
  | cons first rest =>
    have same := matching_targeted aimed first (by simp [found]) rule listed
    simp [same]

theorem rule_realized {rule : TransitionRule} (tabled : rule ∈ transitionTable)
    (position : LifecyclePosition) (stands : position.currentState = some rule.fromState) :
    (engine.step position rule.attempt).2.currentState = some rule.toState := by
  have admits : Admits position.currentState rule.attempt.request rule := by
    constructor
    case capable =>
      change "cap:operator" ≠ bottomCapability
      decide
    case sole =>
      rw [stands]
      exact matching_rule tabled rfl rfl
    case approved => exact fun _ => ⟨"urn:srcos:approval:granted", rfl, by simp⟩
    case proven => exact fun _ needed => needed
  have granted := admits.allowed
  change (advance position (applyTransition position rule.attempt.request
    rule.attempt.stamp)).currentState = some rule.toState
  rw [applyTransition, granted]
  rfl

theorem engine_follows : engine.Follows LifecyclePosition.currentState Leads where
  along := by
    intro position attempt
    have attempted := step_attempted position attempt
    generalize engine.step position attempt = outcome at attempted ⊢
    cases attempted with
    | refused _ _ _ => exact .inl rfl
    | granted rule tabled leaves _ _ _ _ => exact .inr ⟨rule, tabled, leaves, rfl⟩
  realized := by
    rintro position _ ⟨rule, tabled, stands, rfl⟩
    exact ⟨rule.attempt, rule_realized tabled position stands⟩

/-- From any state, by requests of any kind: where the table leads, and nowhere else. -/
theorem reaches_iff_table_leads (position : LifecyclePosition) (target : Option String) :
    (∃ attempts, (engine.run position attempts).currentState = target) ↔
      Relation.ReflTransGen Leads position.currentState target :=
  engine_follows.reaches_iff position target

def stage : String → Nat
  | "resolved" => 1
  | "built" => 2
  | "signed" => 3
  | "assigned" => 4
  | "planned" => 5
  | "fetched" => 6
  | "loaded" => 7
  | "executed" => 8
  | "attested" => 9
  | "compliant" | "noncompliant" => 10
  | "rollback-available" => 11
  | "rolled-back" => 12
  | _ => 0

def rank (position : LifecyclePosition) : Nat := position.currentState.elim 0 stage

-- The one rule that leads nowhere else is `validate-token`.
def moves (answer : LifecycleStateRecord) : Bool :=
  answer.transition.allowed && decide (answer.fromState ≠ some answer.toState)

theorem rule_climbs : ∀ rule ∈ transitionTable,
    rule.fromState = rule.toState ∨ stage rule.fromState < stage rule.toState := by
  decide +kernel

theorem rule_unblocked : ∀ rule ∈ transitionTable, rule.toState ≠ "blocked" := by decide

theorem rule_leaves : ∀ rule ∈ transitionTable, rule.fromState ≠ "rolled-back" := by decide

theorem stage_le (state : String) : stage state ≤ 12 := by
  unfold stage
  split <;> decide

theorem rank_le (position : LifecyclePosition) : rank position ≤ 12 := by
  unfold rank
  cases position.currentState with
  | none => decide
  | some state => exact stage_le state

theorem moves_granted (position : LifecyclePosition) (attempt : Attempt) (rule : TransitionRule) :
    moves (record position attempt.request attempt.stamp
        (permitted position.currentState attempt.request rule)) =
      decide (position.currentState ≠ some rule.toState) := rfl

theorem engine_climbs : engine.Climbs rank moves where
  up := by
    intro position attempt
    have attempted := step_attempted position attempt
    generalize engine.step position attempt = outcome at attempted ⊢
    cases attempted with
    | refused answer disallowed _ =>
      intro moving
      simp [moves, disallowed] at moving
    | granted rule tabled leaves _ _ _ _ =>
      intro moving
      rcases rule_climbs rule tabled with stays | climbs
      · rw [moves_granted, leaves, stays] at moving
        simp at moving
      · simpa [rank, leaves] using climbs
  level := by
    intro position attempt
    have attempted := step_attempted position attempt
    generalize engine.step position attempt = outcome at attempted ⊢
    cases attempted with
    | refused _ _ _ => exact fun _ => rfl
    | granted rule tabled leaves _ _ _ _ =>
      intro still
      have stays : position.currentState = some rule.toState := by
        simpa [moves_granted] using still
      simp [rank, stays]

theorem rolledBack_refused (position : LifecyclePosition) (attempt : Attempt)
    (ended : position.currentState = some "rolled-back") :
    (engine.step position attempt).1.transition.allowed = false ∧
      (engine.step position attempt).2 = position := by
  have attempted := step_attempted position attempt
  generalize engine.step position attempt = outcome at attempted ⊢
  cases attempted with
  | refused _ disallowed _ => exact ⟨disallowed, rfl⟩
  | granted rule tabled leaves _ _ _ _ =>
    rw [ended] at leaves
    exact absurd (Option.some.inj leaves).symm (rule_leaves rule tabled)

theorem rolledBack_stays (position : LifecyclePosition)
    (ended : position.currentState = some "rolled-back") (attempts : List Attempt) :
    (engine.run position attempts).currentState = some "rolled-back" := by
  apply engine.run_invariant_among (fun _ => True) (·.currentState = some "rolled-back")
  · intro state attempt _ holds
    rw [(rolledBack_refused state attempt holds).2]
    exact holds
  · exact ended
  · simp

theorem step_unblocked (position : LifecyclePosition) (attempt : Attempt)
    (unblocked : position.currentState ≠ some "blocked") :
    (engine.step position attempt).2.currentState ≠ some "blocked" := by
  rcases engine_follows.along position attempt with stays | ⟨rule, tabled, _, target⟩
  · rwa [stays]
  · rw [target]
    exact fun blocked => rule_unblocked rule tabled (Option.some.inj blocked)

structure ForwardOnly (position : LifecyclePosition) (attempts : List Attempt) : Prop where
  bounded : rank position + engine.moved moves position attempts ≤ 12
  neverBack : ∀ front back, attempts = front ++ back →
    (engine.run position front).currentState = (engine.run position attempts).currentState →
    ∀ entry ∈ engine.trace (engine.run position front) back, moves entry.2 = false
  settled : ∀ front back, attempts = front ++ back →
    (engine.run position front).currentState = some "rolled-back" →
    ∀ entry ∈ engine.trace (engine.run position front) back, entry.2.transition.allowed = false
  unblocked : position.currentState ≠ some "blocked" →
    (engine.run position attempts).currentState ≠ some "blocked"

theorem release_moves_forward (position : LifecyclePosition) (attempts : List Attempt) :
    ForwardOnly position attempts := by
  constructor
  case bounded => exact (engine_climbs.moved_le position attempts).trans (rank_le _)
  case neverBack =>
    rintro front back rfl same
    apply engine_climbs.returned
    rw [← engine.run_append, rank, rank, same]
  case settled =>
    rintro front back rfl ended entry listed
    obtain ⟨before, _, _, answer⟩ := engine.mem_trace _ back entry listed
    rw [answer]
    exact (rolledBack_refused _ entry.1 (rolledBack_stays _ ended before)).1
  case unblocked =>
    intro unblocked
    apply engine.run_invariant_among (fun _ => True) (·.currentState ≠ some "blocked")
    · exact fun state attempt _ holds => step_unblocked state attempt holds
    · exact unblocked
    · simp

-- The longest way there is.
example : engine.moved moves draftRelease (releaseAttempts ++ [
    attemptOf "mark-rollback-available" none [] none,
    attemptOf "rollback" none [] (some "urn:approval:4")]) = 12 := by decide +kernel

end SourceosBoot.Lifecycle
