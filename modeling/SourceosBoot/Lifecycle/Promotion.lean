import SourceosBoot.Lifecycle.StateMachine
import SourceosBoot.Shared.Milestones

set_option autoImplicit false

-- The caller applies one request after the other, and advances its own position by an allowed
-- record.

namespace SourceosBoot.Lifecycle

open Transition

structure Attempt where
  request : TransitionRequest
  stamp : Stamp
  deriving DecidableEq, Repr

def advance (position : LifecyclePosition) (answer : LifecycleStateRecord) : LifecyclePosition :=
  if answer.transition.allowed then { position with currentState := some answer.toState }
  else position

def engine : System LifecyclePosition Attempt LifecycleStateRecord where
  step := fun position attempt =>
    let answer := applyTransition position attempt.request attempt.stamp
    (answer, advance position answer)

structure Gate where
  name : String
  approvalRequired : Bool := false
  requiredProofs : List String := []
  deriving DecidableEq, Repr

def buildGate : Gate := { name := "build", requiredProofs := ["sbomRef"] }
def signGate : Gate :=
  { name := "sign", approvalRequired := true,
    requiredProofs := ["signatureRef", "katelloManifestRef"] }
def assignGate : Gate :=
  { name := "assign", approvalRequired := true, requiredProofs := ["trustChainAdmissionRef"] }
def fetchGate : Gate := { name := "fetch", requiredProofs := ["artifactDigestRef"] }
def executeGate : Gate := { name := "execute", approvalRequired := true }
def attestGate : Gate := { name := "attest", requiredProofs := ["attestationRef"] }

def deploymentGates : List Gate := [buildGate, signGate, assignGate, fetchGate, executeGate]

def deployedStates : List String :=
  ["executed", "attested", "compliant", "noncompliant", "rollback-available", "rolled-back"]
def attestedStates : List String := ["attested", "compliant", "noncompliant"]

def Approved (approvalRef : Option String) : Prop :=
  ∃ approval, approvalRef = some approval ∧ approval ≠ ""

structure Gate.Passed (gate : Gate) (entry : Attempt × LifecycleStateRecord) : Prop where
  allowed : entry.2.transition.allowed = true
  name : entry.1.request.transitionName = gate.name
  approved : gate.approvalRequired = true → Approved entry.1.request.approvalRef
  proven : ∀ proof ∈ gate.requiredProofs, proof ∈ entry.1.request.proofsPresent

structure ThroughGates (position : LifecyclePosition) (attempts : List Attempt) : Prop where
  deployed : ∀ state ∈ deployedStates, (engine.run position attempts).currentState = some state →
    PassedInOrder Gate.Passed deploymentGates (engine.trace position attempts)
  attested : ∀ state ∈ attestedStates, (engine.run position attempts).currentState = some state →
    PassedInOrder Gate.Passed (deploymentGates ++ [attestGate]) (engine.trace position attempts)
  capable : ∀ entry ∈ engine.trace position attempts,
    entry.2.transition.allowed = true → entry.1.request.capability ≠ bottomCapability
  approved : ∀ entry ∈ engine.trace position attempts, entry.2.sideEffects ≠ none →
    entry.2.transition.allowed = true ∧ Approved entry.2.policy.approvalRef

-- The lane by attestation and the lane from `executed` join at `rollback-available`, which
-- therefore asks for what they have in common.
def gatesTo : String → List Gate
  | "built" => [buildGate]
  | "signed" => [buildGate, signGate]
  | "assigned" | "planned" => [buildGate, signGate, assignGate]
  | "fetched" | "loaded" => [buildGate, signGate, assignGate, fetchGate]
  | "executed" | "rollback-available" | "rolled-back" => deploymentGates
  | "attested" | "compliant" | "noncompliant" => deploymentGates ++ [attestGate]
  | _ => []

def required (position : LifecyclePosition) : List Gate := position.currentState.elim [] gatesTo

def TransitionRule.gate (rule : TransitionRule) : Gate :=
  ⟨rule.name, rule.approvalRequired, rule.requiredProofs⟩

theorem rule_gates :
    ∀ rule ∈ transitionTable,
      (gatesTo rule.toState).Sublist (gatesTo rule.fromState ++ [rule.gate]) := by
  decide +kernel

theorem rule_mutating :
    ∀ rule ∈ transitionTable, rule.name ∈ hostMutating → rule.approvalRequired = true := by
  decide +kernel

theorem deployed_gates : ∀ state ∈ deployedStates, deploymentGates.Sublist (gatesTo state) := by
  decide +kernel

theorem attested_gates :
    ∀ state ∈ attestedStates, (deploymentGates ++ [attestGate]).Sublist (gatesTo state) := by
  decide +kernel

variable (position : LifecyclePosition) (attempt : Attempt)

inductive Attempted : LifecycleStateRecord × LifecyclePosition → Prop
  | refused (answer : LifecycleStateRecord) (disallowed : answer.transition.allowed = false)
      (harmless : answer.sideEffects = none) : Attempted (answer, position)
  | granted (rule : TransitionRule) (tabled : rule ∈ transitionTable)
      (leaves : position.currentState = some rule.fromState)
      (named : attempt.request.transitionName = rule.name)
      (capable : attempt.request.capability ≠ bottomCapability)
      (approved : rule.approvalRequired = true → Approved attempt.request.approvalRef)
      (proven : ∀ proof ∈ rule.requiredProofs, proof ∈ attempt.request.proofsPresent) :
      Attempted (record position attempt.request attempt.stamp
          (permitted position.currentState attempt.request rule),
        { position with currentState := some rule.toState })

theorem step_attempted : Attempted position attempt (engine.step position attempt) := by
  have decided := decision_decided position.currentState attempt.request
  simp only [engine, applyTransition]
  generalize decision position.currentState attempt.request = answer at decided
  cases decided with
  | bottom _ | illegal _ _ | unapproved _ _ _ _ _ | unproven _ _ _ _ _ => exact .refused _ rfl rfl
  | granted rule capable listed approved proven =>
    have ⟨tabled, leaves, named⟩ := mem_index.mp (lookup_mem listed)
    exact .granted rule tabled leaves.symm named.symm capable
      (fun gated => (given_iff _).mp (approved gated)) proven

theorem step_gates :
    (required (engine.step position attempt).2).Sublist (required position) ∨
    ∃ gate : Gate, gate.Passed (attempt, (engine.step position attempt).1) ∧
      (required (engine.step position attempt).2).Sublist (required position ++ [gate]) := by
  have attempted := step_attempted position attempt
  generalize engine.step position attempt = outcome at attempted ⊢
  cases attempted with
  | refused _ _ _ => exact .inl (.refl _)
  | granted rule tabled leaves named _ approved proven =>
    right
    use rule.gate
    constructor
    · exact ⟨rfl, named, approved, proven⟩
    · rw [required, required, leaves]
      exact rule_gates rule tabled

theorem step_capable (allowed : (engine.step position attempt).1.transition.allowed = true) :
    attempt.request.capability ≠ bottomCapability := by
  have attempted := step_attempted position attempt
  generalize engine.step position attempt = outcome at attempted allowed
  cases attempted with
  | refused _ disallowed _ => simp [disallowed] at allowed
  | granted _ _ _ _ capable _ _ => exact capable

theorem step_effects (effects : (engine.step position attempt).1.sideEffects ≠ none) :
    (engine.step position attempt).1.transition.allowed = true ∧
      Approved (engine.step position attempt).1.policy.approvalRef := by
  have attempted := step_attempted position attempt
  generalize engine.step position attempt = outcome at attempted effects ⊢
  cases attempted with
  | refused _ _ harmless => exact absurd harmless effects
  | granted rule tabled _ named _ approved _ =>
    have mutating : attempt.request.transitionName ∈ hostMutating := by
      by_contra spared
      exact effects (if_neg spared)
    exact ⟨rfl, approved (rule_mutating rule tabled (named ▸ mutating))⟩

theorem no_release_around_a_gate (position : LifecyclePosition)
    (draft : position.currentState = some "draft") (attempts : List Attempt) :
    ThroughGates position attempts := by
  have unasked : required position = [] := by
    rw [required, draft]
    rfl
  have passed := engine.run_gates required step_gates position unasked attempts
  constructor
  · intro state deployed reached
    rw [required, reached] at passed
    exact passed.fewer (deployed_gates state deployed)
  · intro state attested reached
    rw [required, reached] at passed
    exact passed.fewer (attested_gates state attested)
  · intro entry listed allowed
    have ⟨front, _, _, answer⟩ := engine.mem_trace position attempts entry listed
    exact step_capable (engine.run position front) entry.1 (answer ▸ allowed)
  · intro entry listed effects
    have ⟨front, _, _, answer⟩ := engine.mem_trace position attempts entry listed
    rw [answer] at effects ⊢
    exact step_effects (engine.run position front) entry.1 effects

def draftRelease : LifecyclePosition where
  currentState := some "draft"
  subjectRef := some "urn:srcos:device:m2-demo"
  objectRef := some "urn:srcos:release-set:demo-1"
  objectKind := some "ReleaseSet"

def attemptOf (transitionName : String) (toState : Option String) (proofsPresent : List String)
    (approvalRef : Option String) : Attempt where
  request := { transitionName, toState, proofsPresent, approvalRef }
  stamp := ⟨"00000000-0000-4000-8000-000000000000", "2026-01-01T00:00:00Z"⟩

def releaseAttempts : List Attempt := [
  attemptOf "resolve-bom" (some "resolved") [] none,
  attemptOf "build" (some "built") ["sbomRef"] none,
  -- refused: the approval is empty
  attemptOf "sign" (some "signed") ["signatureRef", "katelloManifestRef"] (some ""),
  attemptOf "sign" (some "signed") ["signatureRef", "katelloManifestRef"]
    (some "urn:approval:1"),
  attemptOf "assign" (some "assigned") ["trustChainAdmissionRef"] (some "urn:approval:2"),
  attemptOf "plan" (some "planned") [] none,
  attemptOf "fetch" (some "fetched") ["artifactDigestRef"] none,
  attemptOf "load-only" (some "loaded") [] none,
  attemptOf "execute" (some "executed") [] (some "urn:approval:3"),
  attemptOf "attest" (some "attested") ["attestationRef"] none,
  -- refused: the transition has two targets
  attemptOf "evaluate-compliance" none [] none,
  attemptOf "evaluate-compliance" (some "compliant") [] none]

theorem no_release_around_a_gate_example :
    (engine.run draftRelease releaseAttempts).currentState = some "compliant" ∧
      ThroughGates draftRelease releaseAttempts :=
  ⟨by decide +kernel, no_release_around_a_gate draftRelease rfl releaseAttempts⟩

end SourceosBoot.Lifecycle
