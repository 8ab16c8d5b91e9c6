import SourceosBoot.Shared.Json

set_option autoImplicit false

namespace SourceosBoot.Lifecycle

open Python

def schemaVersion : String := "v0.1"
def kind : String := "LifecycleStateRecord"
def bottomCapability : String := "⊥"

structure TransitionRule where
  name : String
  fromState : String
  toState : String
  approvalRequired : Bool := false
  requiredProofs : List String := []
  deriving DecidableEq, Repr

def transitionTable : List TransitionRule := [
  -- construction
  { name := "resolve-bom", fromState := "draft", toState := "resolved" },
  { name := "build", fromState := "resolved", toState := "built", requiredProofs := ["sbomRef"] },
  { name := "sign", fromState := "built", toState := "signed", approvalRequired := true,
    requiredProofs := ["signatureRef", "katelloManifestRef"] },
  -- assignment
  { name := "assign", fromState := "signed", toState := "assigned", approvalRequired := true,
    requiredProofs := ["trustChainAdmissionRef"] },
  -- deployment
  { name := "validate-token", fromState := "assigned", toState := "assigned" },
  { name := "plan", fromState := "assigned", toState := "planned" },
  { name := "fetch", fromState := "planned", toState := "fetched",
    requiredProofs := ["artifactDigestRef"] },
  { name := "load-only", fromState := "fetched", toState := "loaded" },
  { name := "execute", fromState := "loaded", toState := "executed", approvalRequired := true },
  -- attestation and compliance
  { name := "attest", fromState := "executed", toState := "attested",
    requiredProofs := ["attestationRef"] },
  { name := "evaluate-compliance", fromState := "attested", toState := "compliant" },
  { name := "evaluate-compliance", fromState := "attested", toState := "noncompliant" },
  -- rollback
  { name := "mark-rollback-available", fromState := "compliant", toState := "rollback-available" },
  { name := "mark-rollback-available", fromState := "noncompliant",
    toState := "rollback-available" },
  { name := "mark-rollback-available", fromState := "executed", toState := "rollback-available" },
  { name := "rollback", fromState := "rollback-available", toState := "rolled-back",
    approvalRequired := true }]

-- The entry of `_INDEX`: the rules under one key, in the order of the table.
def index (fromState : Option String) (transitionName : String) : List TransitionRule :=
  transitionTable.filter fun rule =>
    some rule.fromState = fromState ∧ rule.name = transitionName

def lookup (fromState : Option String) (transitionName : String) (toState : Option String) :
    Option TransitionRule :=
  let candidates := index fromState transitionName
  match toState with
  | none => if candidates.length = 1 then candidates.head? else none
  | some toState => candidates.find? (·.toState = toState)

structure TransitionRequest where
  transitionName : String
  capability : String := "cap:operator"
  toState : Option String := none
  proofsPresent : List String := []
  approvalRef : Option String := none
  policyRef : String := "urn:srcos:policy:lifecycle:v0.1"
  policyHash : String := "sha256:" ++ String.ofList (List.replicate 64 '0')
  deriving DecidableEq, Repr

/-- The record a transition is applied to; an absent member is `none`. -/
structure LifecyclePosition where
  currentState : Option String
  subjectRef : Option String := none
  objectRef : Option String := none
  objectKind : Option String := none
  deriving DecidableEq, Repr

structure Stamp where
  uuid4 : String
  now : String
  deriving DecidableEq, Repr

structure SideEffects where
  hostMutation : Bool
  diskWrite : Bool
  reboot : Bool
  networkFetch : Bool
  deriving DecidableEq, Repr

structure TransitionEntry where
  name : String
  allowed : Bool
  reason : String
  refusalRef : Option String
  deriving DecidableEq, Repr

structure ProofsEntry where
  required : List String
  present : List String
  missing : List String
  deriving DecidableEq, Repr

structure PolicyEntry where
  policyRef : String
  policyHash : String
  approvalRequired : Bool
  approvalRef : Option String
  deriving DecidableEq, Repr

structure LifecycleStateRecord where
  recordId : String
  capturedAt : String
  subjectRef : String
  objectRef : String
  objectKind : String
  fromState : Option String
  toState : String
  transition : TransitionEntry
  proofs : ProofsEntry
  policy : PolicyEntry
  sideEffects : Option SideEffects
  deriving DecidableEq, Repr

def optionalText (text : Option String) : Json := text.elim .null .str

def texts (items : List String) : Json := .arr (items.map .str)

def SideEffects.toDict (effects : SideEffects) : Json := .obj [
  ("hostMutation", .bool effects.hostMutation),
  ("diskWrite", .bool effects.diskWrite),
  ("reboot", .bool effects.reboot),
  ("networkFetch", .bool effects.networkFetch)]

def LifecycleStateRecord.toDict (rec : LifecycleStateRecord) : Json := .obj ([
  ("schemaVersion", .str schemaVersion),
  ("kind", .str kind),
  ("recordId", .str rec.recordId),
  ("capturedAt", .str rec.capturedAt),
  ("subjectRef", .str rec.subjectRef),
  ("objectRef", .str rec.objectRef),
  ("objectKind", .str rec.objectKind),
  ("fromState", optionalText rec.fromState),
  ("toState", .str rec.toState),
  ("transition", .obj [
    ("name", .str rec.transition.name),
    ("allowed", .bool rec.transition.allowed),
    ("reason", .str rec.transition.reason),
    ("refusalRef", optionalText rec.transition.refusalRef)]),
  ("proofs", .obj [
    ("required", texts rec.proofs.required),
    ("present", texts rec.proofs.present),
    ("missing", texts rec.proofs.missing)]),
  ("policy", .obj [
    ("policyRef", .str rec.policy.policyRef),
    ("policyHash", .str rec.policy.policyHash),
    ("approvalRequired", .bool rec.policy.approvalRequired),
    ("approvalRef", optionalText rec.policy.approvalRef)])] ++
  rec.sideEffects.elim [] fun effects => [("sideEffects", effects.toDict)])

def missingFrom (required present : List String) : List String :=
  required.filter (· ∉ present)

structure Answer where
  toState : String
  transitionName : String
  allowed : Bool
  reason : String
  refusalRef : Option String
  requiredProofs : List String := []
  approvalRequired : Bool := false
  approvalRef : Option String := none
  sideEffects : Option SideEffects := none

def record (position : LifecyclePosition) (request : TransitionRequest) (stamp : Stamp)
    (answer : Answer) : LifecycleStateRecord where
  recordId := s!"urn:srcos:lifecycle-state-record:{stamp.uuid4}"
  capturedAt := stamp.now
  subjectRef := position.subjectRef.getD "urn:srcos:actor:unknown"
  objectRef := position.objectRef.getD "urn:srcos:object:unknown"
  objectKind := position.objectKind.getD "ReleaseSet"
  fromState := position.currentState
  toState := answer.toState
  transition := ⟨answer.transitionName, answer.allowed, answer.reason, answer.refusalRef⟩
  proofs := ⟨answer.requiredProofs, request.proofsPresent,
    missingFrom answer.requiredProofs request.proofsPresent⟩
  policy := ⟨request.policyRef, request.policyHash, answer.approvalRequired, answer.approvalRef⟩
  sideEffects := answer.sideEffects

def given (text : Option String) : Bool := text.any (· ≠ "")

theorem given_iff (text : Option String) :
    given text = true ↔ ∃ ref, text = some ref ∧ ref ≠ "" := by
  simp [given, Option.any_eq_true]

def shown (text : Option String) : String := text.getD "None"
def shownRepr (text : Option String) : String := text.elim "None" Python.repr

def hostMutating : List String := ["execute", "rollback"]

def refusal (reason refusalRef : String) : Answer where
  toState := "blocked"
  transitionName := "refuse"
  allowed := false
  reason
  refusalRef := some refusalRef

def capabilityBottom : Answer := refusal
  ("capability floor: transition attempted under bottom capability " ++
    "(⊥); exec under bottom is strict (Inception I3 absorption)")
  "urn:srcos:refusal:capability-bottom"

def illegalTransition (fromState : Option String) (request : TransitionRequest) : Answer :=
  let target := if given request.toState then s!", -> {shownRepr request.toState}" else ""
  refusal
    (s!"illegal transition: ({shownRepr fromState}, {Python.repr request.transitionName}" ++
      target ++ ") is not in the allowed-transition table")
    "urn:srcos:refusal:illegal-transition"

def approvalMissing (fromState : Option String) (request : TransitionRequest)
    (rule : TransitionRule) : Answer :=
  { refusal (s!"approval required: transition {Python.repr request.transitionName} " ++
      s!"({shown fromState} -> {rule.toState}) needs an approvalRef")
      "urn:srcos:refusal:approval-required" with
    requiredProofs := rule.requiredProofs
    approvalRequired := true }

def evidenceMissing (request : TransitionRequest) (rule : TransitionRule) : Answer :=
  let missing := missingFrom rule.requiredProofs request.proofsPresent
  { refusal
      (s!"evidence gate: transition {Python.repr request.transitionName} missing required proofs " ++
        s!"{(texts missing).repr} (Katello manifest / trust-chain admission produce these)")
      "urn:srcos:refusal:missing-evidence" with
    requiredProofs := rule.requiredProofs
    approvalRequired := rule.approvalRequired
    approvalRef := request.approvalRef }

def permitted (fromState : Option String) (request : TransitionRequest) (rule : TransitionRule) :
    Answer where
  toState := rule.toState
  transitionName := request.transitionName
  allowed := true
  reason := s!"transition {Python.repr request.transitionName} permitted: " ++
    s!"{shown fromState} -> {rule.toState}"
  refusalRef := none
  requiredProofs := rule.requiredProofs
  approvalRequired := rule.approvalRequired
  approvalRef := request.approvalRef
  sideEffects := if request.transitionName ∈ hostMutating then
      some ⟨true, true, request.transitionName = "execute", false⟩
    else none

def decision (fromState : Option String) (request : TransitionRequest) : Answer :=
  if request.capability = bottomCapability then capabilityBottom
  else match lookup fromState request.transitionName request.toState with
  | none => illegalTransition fromState request
  | some rule =>
    if rule.approvalRequired ∧ ¬ given request.approvalRef then
      approvalMissing fromState request rule
    else if missingFrom rule.requiredProofs request.proofsPresent ≠ [] then
      evidenceMissing request rule
    else permitted fromState request rule

def applyTransition (position : LifecyclePosition) (request : TransitionRequest)
    (stamp : Stamp) : LifecycleStateRecord :=
  record position request stamp (decision position.currentState request)

section Lookup

variable {fromState toState : Option String} {transitionName : String} {rule : TransitionRule}

theorem mem_index :
    rule ∈ index fromState transitionName ↔
      rule ∈ transitionTable ∧ some rule.fromState = fromState ∧ rule.name = transitionName := by
  simp [index]

theorem lookup_mem (found : lookup fromState transitionName toState = some rule) :
    rule ∈ index fromState transitionName := by
  cases toState with
  | none =>
    simp only [lookup] at found
    by_cases single : (index fromState transitionName).length = 1
    · rw [if_pos single] at found
      exact List.mem_of_mem_head? found
    · simp [single] at found
  | some target => exact List.mem_of_find?_eq_some found

end Lookup

theorem missingFrom_nil {required present : List String} :
    missingFrom required present = [] ↔ ∀ proof ∈ required, proof ∈ present := by
  simp [missingFrom, List.filter_eq_nil_iff]

inductive Decided (fromState : Option String) (request : TransitionRequest) : Answer → Prop
  | bottom (floor : request.capability = bottomCapability) :
      Decided fromState request capabilityBottom
  | illegal (capable : request.capability ≠ bottomCapability)
      (unlisted : lookup fromState request.transitionName request.toState = none) :
      Decided fromState request (illegalTransition fromState request)
  | unapproved (rule : TransitionRule) (capable : request.capability ≠ bottomCapability)
      (listed : lookup fromState request.transitionName request.toState = some rule)
      (gated : rule.approvalRequired = true) (missing : given request.approvalRef = false) :
      Decided fromState request (approvalMissing fromState request rule)
  | unproven (rule : TransitionRule) (capable : request.capability ≠ bottomCapability)
      (listed : lookup fromState request.transitionName request.toState = some rule)
      (approved : rule.approvalRequired = true → given request.approvalRef = true)
      (missing : ¬ ∀ proof ∈ rule.requiredProofs, proof ∈ request.proofsPresent) :
      Decided fromState request (evidenceMissing request rule)
  | granted (rule : TransitionRule) (capable : request.capability ≠ bottomCapability)
      (listed : lookup fromState request.transitionName request.toState = some rule)
      (approved : rule.approvalRequired = true → given request.approvalRef = true)
      (proven : ∀ proof ∈ rule.requiredProofs, proof ∈ request.proofsPresent) :
      Decided fromState request (permitted fromState request rule)

theorem decision_decided (fromState : Option String) (request : TransitionRequest) :
    Decided fromState request (decision fromState request) := by
  rw [decision]
  by_cases floor : request.capability = bottomCapability
  · rw [if_pos floor]
    exact .bottom floor
  · rw [if_neg floor]
    cases listed : lookup fromState request.transitionName request.toState with
    | none => exact .illegal floor listed
    | some rule =>
      by_cases unapproved : rule.approvalRequired = true ∧ ¬ given request.approvalRef
      · simp only [if_pos unapproved]
        exact .unapproved rule floor listed unapproved.1 (by simpa using unapproved.2)
      · have approved : rule.approvalRequired = true → given request.approvalRef = true := by
          simpa using unapproved
        by_cases proven : missingFrom rule.requiredProofs request.proofsPresent = []
        · simp only [if_neg unapproved, proven, ne_eq, not_true_eq_false, if_false]
          exact .granted rule floor listed approved (missingFrom_nil.mp proven)
        · simp only [if_neg unapproved, ne_eq, proven, not_false_eq_true, if_true]
          exact .unproven rule floor listed approved (missingFrom_nil.not.mp proven)

end SourceosBoot.Lifecycle
