import SourceosBoot.Lifecycle.Progression
import SourceosBoot.Shared.Journal

set_option autoImplicit false

namespace SourceosBoot.Lifecycle

open Transition

def granted (answer : LifecycleStateRecord) : Bool := answer.transition.allowed

def recordPrefix : String := "urn:srcos:lifecycle-state-record:"

/-- The attempt as its record shows it; the capability is not written down. -/
def LifecycleStateRecord.attempt (answer : LifecycleStateRecord) : Attempt where
  request := {
    transitionName := answer.transition.name
    toState := some answer.toState
    proofsPresent := answer.proofs.present
    approvalRef := answer.policy.approvalRef
    policyRef := answer.policy.policyRef
    policyHash := answer.policy.policyHash }
  stamp := ⟨String.ofList (answer.recordId.toList.drop recordPrefix.length), answer.capturedAt⟩

theorem granted_inert : engine.Inert granted fun _ => True where
  stays := fun _ _ _ => trivial
  declined := by
    intro position attempt _
    have attempted := step_attempted position attempt
    generalize engine.step position attempt = outcome at attempted ⊢
    cases attempted with
    | refused _ _ _ => exact fun _ => rfl
    | granted _ _ _ _ _ _ _ => exact fun declined => by cases declined

theorem stamp_retold (stamp : Stamp) :
    String.ofList ((recordPrefix ++ stamp.uuid4).toList.drop recordPrefix.length) =
      stamp.uuid4 := by
  rw [String.toList_append, ← String.length_toList, List.drop_left, String.ofList_toList]

def grant (position : LifecyclePosition) (attempt : Attempt) (rule : TransitionRule) :
    LifecycleStateRecord :=
  record position attempt.request attempt.stamp
    (permitted position.currentState attempt.request rule)

theorem grant_same {position : LifecyclePosition} {attempt other : Attempt} {rule : TransitionRule}
    (stamp : other.stamp = attempt.stamp)
    (name : other.request.transitionName = attempt.request.transitionName)
    (proofs : other.request.proofsPresent = attempt.request.proofsPresent)
    (approval : other.request.approvalRef = attempt.request.approvalRef)
    (policyRef : other.request.policyRef = attempt.request.policyRef)
    (policyHash : other.request.policyHash = attempt.request.policyHash) :
    grant position other rule = grant position attempt rule := by
  obtain ⟨request, _⟩ := attempt
  obtain ⟨otherRequest, _⟩ := other
  cases request
  cases otherRequest
  subst stamp name proofs approval policyRef policyHash
  rfl

theorem grant_retold (position : LifecyclePosition) (attempt : Attempt) (rule : TransitionRule) :
    grant position (grant position attempt rule).attempt rule = grant position attempt rule := by
  refine grant_same ?_ rfl rfl rfl rfl rfl
  have uuid := stamp_retold attempt.stamp
  change Stamp.mk _ attempt.stamp.now = attempt.stamp
  exact congrArg (Stamp.mk · attempt.stamp.now) uuid

theorem granted_retold : engine.Retold granted LifecycleStateRecord.attempt := by
  intro position attempt allowed
  have attempted := step_attempted position attempt
  generalize engine.step position attempt = outcome at attempted allowed ⊢
  cases attempted with
  | refused _ disallowed _ => simp [granted, disallowed] at allowed
  | granted rule tabled leaves named capable approved proven =>
    have admits :
        Admits position.currentState (grant position attempt rule).attempt.request rule := by
      constructor
      case capable =>
        change "cap:operator" ≠ bottomCapability
        decide
      case sole =>
        rw [leaves]
        exact matching_rule tabled named rfl
      case approved => exact approved
      case proven => exact proven
    have again := grant_retold position attempt rule
    have stepped : (engine.step position (grant position attempt rule).attempt).1 =
        grant position attempt rule := by
      change applyTransition position _ _ = _
      rw [applyTransition, admits.allowed]
      exact again
    exact Prod.ext stepped (congrArg (advance position) stepped)

def auditTrail (position : LifecyclePosition) (log : List LifecycleStateRecord) :
    Option LifecyclePosition :=
  engine.audit granted LifecycleStateRecord.attempt position log

def Linked : Option String → List LifecycleStateRecord → Option String → Prop
  | state, [], final => state = final
  | state, answer :: rest, final =>
    answer.fromState = state ∧ Linked (some answer.toState) rest final

theorem step_linked (position : LifecyclePosition) (attempt : Attempt)
    (allowed : granted (engine.step position attempt).1 = true) :
    (engine.step position attempt).1.fromState = position.currentState ∧
      (engine.step position attempt).2.currentState =
        some (engine.step position attempt).1.toState := by
  have attempted := step_attempted position attempt
  generalize engine.step position attempt = outcome at attempted allowed ⊢
  cases attempted with
  | refused _ disallowed _ => simp [granted, disallowed] at allowed
  | granted _ _ _ _ _ _ _ => exact ⟨rfl, rfl⟩

theorem audit_linked {position final : LifecyclePosition} {log : List LifecycleStateRecord}
    (passed : auditTrail position log = some final) :
    Linked position.currentState log final.currentState := by
  induction log generalizing position with
  | nil =>
    cases passed
    rfl
  | cons answer rest ih =>
    rw [auditTrail, System.audit] at passed
    split at passed
    next again =>
      obtain ⟨allowed, same⟩ := again
      obtain ⟨leaves, reaches⟩ := step_linked position answer.attempt (by rw [same, allowed])
      rw [same] at leaves reaches
      exact ⟨leaves, reaches ▸ ih passed⟩
    next => cases passed

/--
The audit asks for the records alone. It passes the granted records of the runs and
nothing else, and finds the position the run has ended in.
-/
theorem audit_takes_journals (position final : LifecyclePosition)
    (log : List LifecycleStateRecord) :
    (auditTrail position log = some final ↔
      ∃ attempts, log = engine.journal granted position attempts ∧
        final = engine.run position attempts) ∧
    (auditTrail position log = some final →
      Linked position.currentState log final.currentState) :=
  ⟨System.audit_iff granted_inert granted_retold trivial log final, audit_linked⟩

-- A record that claims another target than the rule has does not pass.
example : auditTrail draftRelease ((engine.journal granted draftRelease releaseAttempts).map
    fun answer => { answer with toState := "executed" }) = none := by decide +kernel

end SourceosBoot.Lifecycle
