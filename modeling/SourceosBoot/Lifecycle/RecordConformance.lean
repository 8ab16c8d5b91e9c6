import SourceosBoot.Lifecycle.StateMachine
import SourceosBoot.Shared.Text

set_option autoImplicit false

-- The mirror of the record schema that the tests keep, against every record the engine emits. What
-- the caller says of the object is copied as it comes.

namespace SourceosBoot.Lifecycle

open Python

def schemaStates : List String :=
  ["draft", "resolved", "built", "signed", "assigned", "planned", "fetched", "loaded", "executed",
    "attested", "compliant", "noncompliant", "rollback-available", "rolled-back", "blocked"]

def schemaTransitions : List String :=
  ["resolve-bom", "build", "sign", "assign", "validate-token", "plan", "fetch", "load-only",
    "execute", "attest", "evaluate-compliance", "mark-rollback-available", "rollback", "refuse"]

def schemaObjectKinds : List String :=
  ["ReleaseSet", "BootReleaseSet", "SignedBootManifest", "EnrollmentToken", "BootPlan",
    "ArtifactCacheRecord", "AdapterRecord", "Fingerprint"]

def recordRequired : List String :=
  ["schemaVersion", "kind", "recordId", "capturedAt", "subjectRef", "objectRef", "objectKind",
    "fromState", "toState", "transition", "proofs", "policy"]

def hasKeys (keys : List String) (value : Json) : Bool :=
  keys.all fun key => (value.get? key).isSome

def onlyKeys (keys : List String) : Json → Bool
  | .obj members => members.all fun member => member.1 ∈ keys
  | _ => false

def textWhere (holds : String → Bool) : Option Json → Bool
  | some (.str text) => holds text
  | _ => false

def isNull : Option Json → Bool
  | some .null => true
  | _ => false

def isTruth : Option Json → Bool
  | some (.bool _) => true
  | _ => false

/-- `assert_conformant`; a failed assertion or a missing key is `false`. -/
def assertConformant (rec : Json) : Bool :=
  let transition := rec.memberOrNull "transition"
  let proofs := rec.memberOrNull "proofs"
  let policy := rec.memberOrNull "policy"
  hasKeys recordRequired rec &&
    textWhere (· = "v0.1") (rec.get? "schemaVersion") &&
    textWhere (· = "LifecycleStateRecord") (rec.get? "kind") &&
    textWhere (startswith · "urn:srcos:lifecycle-state-record:") (rec.get? "recordId") &&
    (isNull (rec.get? "fromState") || textWhere (· ∈ schemaStates) (rec.get? "fromState")) &&
    textWhere (· ∈ schemaStates) (rec.get? "toState") &&
    textWhere (· ∈ schemaObjectKinds) (rec.get? "objectKind") &&
    onlyKeys ["name", "allowed", "reason", "refusalRef"] transition &&
    hasKeys ["name", "allowed", "reason"] transition &&
    textWhere (· ∈ schemaTransitions) (transition.get? "name") &&
    isTruth (transition.get? "allowed") &&
    hasKeys ["required", "present"] proofs &&
    hasKeys ["policyRef", "policyHash", "approvalRequired"] policy &&
    isTruth (policy.get? "approvalRequired")

theorem assertConformant_iff (rec : LifecycleStateRecord) :
    assertConformant rec.toDict = true ↔
      startswith rec.recordId "urn:srcos:lifecycle-state-record:" = true ∧
      (∀ state ∈ rec.fromState, state ∈ schemaStates) ∧ rec.toState ∈ schemaStates ∧
      rec.objectKind ∈ schemaObjectKinds ∧ rec.transition.name ∈ schemaTransitions := by
  -- The keys and the types are those of every record; the values decide the rest.
  have required : hasKeys recordRequired rec.toDict = true := rfl
  have version : textWhere (· = "v0.1") (rec.toDict.get? "schemaVersion") = true := rfl
  have named : textWhere (· = "LifecycleStateRecord") (rec.toDict.get? "kind") = true := rfl
  have recordId : rec.toDict.get? "recordId" = some (.str rec.recordId) := rfl
  have fromState : rec.toDict.get? "fromState" = some (optionalText rec.fromState) := rfl
  have toState : rec.toDict.get? "toState" = some (.str rec.toState) := rfl
  have objectKind : rec.toDict.get? "objectKind" = some (.str rec.objectKind) := rfl
  have closed : onlyKeys ["name", "allowed", "reason", "refusalRef"]
      (rec.toDict.memberOrNull "transition") = true := rfl
  have transition : hasKeys ["name", "allowed", "reason"] (rec.toDict.memberOrNull "transition") =
      true := rfl
  have name : (rec.toDict.memberOrNull "transition").get? "name" = some (.str rec.transition.name) :=
    rfl
  have allowed : isTruth ((rec.toDict.memberOrNull "transition").get? "allowed") = true := rfl
  have proofs : hasKeys ["required", "present"] (rec.toDict.memberOrNull "proofs") = true := rfl
  have policy : hasKeys ["policyRef", "policyHash", "approvalRequired"]
      (rec.toDict.memberOrNull "policy") = true := rfl
  have approval : isTruth ((rec.toDict.memberOrNull "policy").get? "approvalRequired") = true := rfl
  have known : (isNull (some (optionalText rec.fromState)) ||
      textWhere (· ∈ schemaStates) (some (optionalText rec.fromState))) = true ↔
      ∀ state ∈ rec.fromState, state ∈ schemaStates := by
    cases rec.fromState <;> simp [optionalText, isNull, textWhere]
  simp only [assertConformant, required, version, named, recordId, fromState, toState, objectKind,
    closed, transition, name, allowed, proofs, policy, approval, Bool.and_eq_true, known, and_true,
    true_and]
  simp [textWhere, and_assoc]

theorem table_in_schema : ∀ rule ∈ transitionTable,
    rule.name ∈ schemaTransitions ∧ rule.toState ∈ schemaStates := by decide

theorem Decided.in_schema {fromState : Option String} {request : TransitionRequest}
    {answer : Answer} (decided : Decided fromState request answer) :
    answer.toState ∈ schemaStates ∧ answer.transitionName ∈ schemaTransitions := by
  -- Every refusal has the same state and name; a grant has those of a rule of the table.
  cases decided with
  | bottom | illegal | unapproved | unproven =>
    exact ⟨by simp [capabilityBottom, illegalTransition, approvalMissing, evidenceMissing, refusal,
      schemaStates], by simp [capabilityBottom, illegalTransition, approvalMissing,
      evidenceMissing, refusal, schemaTransitions]⟩
  | granted rule _ listed =>
    obtain ⟨inTable, _, named⟩ := mem_index.mp (lookup_mem listed)
    obtain ⟨name, toState⟩ := table_in_schema rule inTable
    exact ⟨toState, by rwa [permitted, ← named]⟩

theorem record_conformant_iff (position : LifecyclePosition) (request : TransitionRequest)
    (stamp : Stamp) :
    assertConformant (applyTransition position request stamp).toDict = true ↔
      (∀ state ∈ position.currentState, state ∈ schemaStates) ∧
      ∀ objectKind ∈ position.objectKind, objectKind ∈ schemaObjectKinds := by
  obtain ⟨toState, name⟩ := (decision_decided position.currentState request).in_schema
  have recordId : startswith
      (applyTransition position request stamp).recordId "urn:srcos:lifecycle-state-record:" = true :=
    startswith_append (by decide) stamp.uuid4
  have objectKind : (applyTransition position request stamp).objectKind ∈ schemaObjectKinds ↔
      ∀ objectKind ∈ position.objectKind, objectKind ∈ schemaObjectKinds := by
    have copied : (applyTransition position request stamp).objectKind =
        position.objectKind.getD "ReleaseSet" := rfl
    rw [copied]
    cases position.objectKind with
    | none => exact iff_of_true (by decide) nofun
    | some objectKind => simp
  rw [assertConformant_iff, objectKind]
  constructor
  · rintro ⟨_, fromState, _, kinds, _⟩
    exact ⟨fromState, kinds⟩
  · rintro ⟨fromState, kinds⟩
    exact ⟨recordId, fromState, toState, kinds, name⟩

def retiredDevice : LifecyclePosition where
  currentState := some "retired"
  subjectRef := some "urn:srcos:device:m2-demo"
  objectRef := some "urn:srcos:release-set:demo-1"
  objectKind := some "ReleaseSet"

theorem unknown_state_not_conformant :
    assertConformant (applyTransition retiredDevice { transitionName := "build" }
      ⟨"4b0a3a3e-6a0e-4d0e-9d4f-0f0f0f0f0f0f", "2026-07-29T10:00:00Z"⟩).toDict = false := by
  rw [Bool.eq_false_iff, ne_eq, assertConformant_iff]
  rintro ⟨_, fromState, _⟩
  exact absurd (fromState "retired" rfl) (by decide)

end SourceosBoot.Lifecycle
