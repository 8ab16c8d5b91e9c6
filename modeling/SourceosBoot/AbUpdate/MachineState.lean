import Mathlib.Tactic.Simps.Basic
import Mathlib.Tactic.SplitIfs
import SourceosBoot.Shared.Python

set_option autoImplicit false

-- Field by field after `ab_update_machine.py`. The slot dictionary holds exactly the two labels
-- once the constructor has accepted it, so it is a table here.

namespace SourceosBoot.AbUpdate

open Python

def specVersion : String := "0.1.0"

def armedCandidatePriority : Int := 15
def armedActivePriority : Int := 14

inductive Phase
  | idle | writing | candidateReady | armed | trying | promoted | rolledBack | refused
  deriving DecidableEq, Repr

def Phase.name : Phase → String
  | .idle => "idle"
  | .writing => "writing"
  | .candidateReady => "candidate_ready"
  | .armed => "armed"
  | .trying => "trying"
  | .promoted => "promoted"
  | .rolledBack => "rolled_back"
  | .refused => "refused"

def terminalPhases : List Phase := [.promoted, .rolledBack, .refused]

def phaseToOutcome : Phase → String
  | .idle | .writing | .candidateReady | .armed | .trying => "pending"
  | .promoted => "promoted"
  | .rolledBack => "rolled-back"
  | .refused => "refused"

def rollbackReasons : List String :=
  ["probe-failed", "watchdog-expired", "attempts-exhausted", "write-failed",
    "digest-mismatch", "operator-abort"]

def invariantViolation : ExceptionClass := .user "InvariantViolation"

inductive SlotLabel
  | A | B
  deriving DecidableEq, Repr

namespace SlotLabel

def name : SlotLabel → String
  | .A => "A"
  | .B => "B"

def lower : SlotLabel → String
  | .A => "a"
  | .B => "b"

def other : SlotLabel → SlotLabel
  | .A => .B
  | .B => .A

@[simp] theorem other_ne (label : SlotLabel) : label.other ≠ label := by cases label <;> decide

@[simp] theorem ne_other (label : SlotLabel) : label ≠ label.other := (other_ne label).symm

@[simp] theorem other_other (label : SlotLabel) : label.other.other = label := by
  cases label <;> rfl

theorem eq_or_other (left right : SlotLabel) : left = right ∨ left = right.other := by
  cases left <;> cases right <;> decide

end SlotLabel

inductive Role
  | active | candidate
  deriving DecidableEq, Repr

def Role.name : Role → String
  | .active => "active"
  | .candidate => "candidate"

-- The slot lifecycle, `SLOT_STATES`.
inductive Lifecycle
  | empty | writing | written | trying | good | unbootable
  deriving DecidableEq, Repr

def Lifecycle.name : Lifecycle → String
  | .empty => "empty"
  | .writing => "writing"
  | .written => "written"
  | .trying => "trying"
  | .good => "good"
  | .unbootable => "unbootable"

structure SlotState where
  slot : SlotLabel
  role : Role
  state : Lifecycle
  bootPriority : Int
  triesRemaining : Int
  successful : Bool
  currentlyRunning : Bool
  payloadDigest : Option String := none
  payloadRef : Option String := none
  version : Option String := none
  lastProbeVerdict : Option String := none
  deriving DecidableEq, Repr

/-- A dictionary with the keys "A" and "B", the key `first` inserted first. -/
structure SlotTable where
  first : SlotLabel
  get : SlotLabel → SlotState
  labelled : ∀ label, (get label).slot = label

namespace SlotTable

def ofPair (left right : SlotState) (apart : right.slot = left.slot.other) : SlotTable where
  first := left.slot
  get := fun label => if label = left.slot then left else right
  labelled := by
    intro label
    rcases SlotLabel.eq_or_other label left.slot with same | same
    · simp [same]
    · simp [same, apart]

def values (slots : SlotTable) : List SlotState :=
  [slots.get slots.first, slots.get slots.first.other]

def replace (slots : SlotTable) (label : SlotLabel) (changes : SlotState → SlotState)
    (keeps : ∀ slot, (changes slot).slot = slot.slot) : SlotTable where
  -- `slots[label] = replace(slots[label], **changes)`.
  first := slots.first
  get := fun key => if key = label then changes (slots.get label) else slots.get key
  labelled := by
    intro key
    by_cases same : key = label
    · simp [same, keeps, slots.labelled]
    · simp [same, slots.labelled]

theorem ext_get {left right : SlotTable} (first : left.first = right.first)
    (get : ∀ label, left.get label = right.get label) : left = right := by
  cases left
  cases right
  obtain rfl : _ = _ := first
  obtain rfl : _ = _ := funext get
  rfl

@[simp] theorem ofPair_get (left right : SlotState) (apart : right.slot = left.slot.other)
    (label : SlotLabel) :
    (ofPair left right apart).get label = if label = left.slot then left else right := rfl

@[simp] theorem replace_first (slots : SlotTable) (label : SlotLabel)
    (changes : SlotState → SlotState) (keeps : ∀ slot, (changes slot).slot = slot.slot) :
    (slots.replace label changes keeps).first = slots.first := rfl

@[simp] theorem replace_get (slots : SlotTable) (label key : SlotLabel)
    (changes : SlotState → SlotState) (keeps : ∀ slot, (changes slot).slot = slot.slot) :
    (slots.replace label changes keeps).get key =
      if key = label then changes (slots.get label) else slots.get key := rfl

end SlotTable

inductive AttemptResult
  | pass | probeFailed | watchdogExpired | writeFailed | aborted
  deriving DecidableEq, Repr

def AttemptResult.name : AttemptResult → String
  | .pass => "pass"
  | .probeFailed => "probe-failed"
  | .watchdogExpired => "watchdog-expired"
  | .writeFailed => "write-failed"
  | .aborted => "aborted"

structure AttemptRecord where
  attemptNumber : Nat
  startedAt : String
  result : AttemptResult
  fellBackTo : Option SlotLabel
  triesRemainingAfter : Int
  detail : Option String := none
  deriving DecidableEq, Repr

inductive EventName
  | begin | writeComplete | writeFailed | arm | bootAttempt | probePass | probeFail
  | watchdogExpired | operatorAbort
  deriving DecidableEq, Repr

def EventName.name : EventName → String
  | .begin => "begin"
  | .writeComplete => "write_complete"
  | .writeFailed => "write_failed"
  | .arm => "arm"
  | .bootAttempt => "boot_attempt"
  | .probePass => "probe_pass"
  | .probeFail => "probe_fail"
  | .watchdogExpired => "watchdog_expired"
  | .operatorAbort => "operator_abort"

structure TransitionRule where
  event : EventName
  fromPhase : Phase
  toPhase : Phase
  guard : Option String := none
  deriving DecidableEq, Repr

def transitionTable : List TransitionRule :=
  [ ⟨.begin, .idle, .writing, none⟩,
    ⟨.writeComplete, .writing, .candidateReady, some "digest_matches"⟩,
    ⟨.writeComplete, .writing, .rolledBack, some "digest_mismatch"⟩,
    ⟨.writeFailed, .writing, .rolledBack, none⟩,
    ⟨.arm, .candidateReady, .armed, none⟩,
    ⟨.bootAttempt, .armed, .trying, none⟩,
    ⟨.probePass, .trying, .promoted, none⟩,
    ⟨.probeFail, .trying, .armed, some "tries_remain"⟩,
    ⟨.probeFail, .trying, .refused, some "tries_exhausted"⟩,
    ⟨.watchdogExpired, .trying, .armed, some "tries_remain"⟩,
    ⟨.watchdogExpired, .trying, .refused, some "tries_exhausted"⟩,
    ⟨.operatorAbort, .writing, .rolledBack, none⟩,
    ⟨.operatorAbort, .candidateReady, .rolledBack, none⟩,
    ⟨.operatorAbort, .armed, .rolledBack, none⟩,
    ⟨.operatorAbort, .trying, .rolledBack, none⟩ ]

def index (phase : Phase) (event : EventName) : List TransitionRule :=
  -- `_INDEX[(from_phase, event)]`, the rules of the table in its order.
  transitionTable.filter fun rule => rule.fromPhase = phase ∧ rule.event = event

structure TransitionResult where
  allowed : Bool
  event : EventName
  fromPhase : Phase
  toPhase : Phase
  reason : String
  fellBackTo : Option SlotLabel := none
  deriving DecidableEq, Repr

/-- The keyword arguments `machine_from_slot_documents` hands on. `clock` lists what the caller's
clock answers, reading by reading. -/
structure MachineArguments where
  transactionId : String
  healthProbeRef : String
  healthProbeDigest : String
  maxAttempts : Int := 2
  clock : Nat → String

-- The fields of the dataclass that no method writes.
structure Configuration extends MachineArguments where
  targetRef : String

/-- The machine object. A label is `none` where the source has the empty string. -/
structure Machine where
  config : Configuration
  slots : SlotTable
  clockReads : Nat := 0
  phase : Phase := .idle
  fromSlot : Option SlotLabel := none
  toSlot : Option SlotLabel := none
  preservedDigest : String := ""
  candidateDigest : String := ""
  attempts : List AttemptRecord := []
  rollbackReason : Option String := none
  openedAt : Option String := none
  settledAt : Option String := none

namespace Machine

@[simps] def write (machine : Machine) (label : SlotLabel) (changes : SlotState → SlotState)
    (keeps : ∀ slot, (changes slot).slot = slot.slot := by intro slot; rfl) : Machine :=
  { machine with slots := machine.slots.replace label changes keeps }

@[simps] def setPhase (machine : Machine) (phase : Phase) : Machine :=
  { machine with phase := phase }

@[simps] def setFromSlot (machine : Machine) (label : SlotLabel) : Machine :=
  { machine with fromSlot := some label }

@[simps] def setToSlot (machine : Machine) (label : SlotLabel) : Machine :=
  { machine with toSlot := some label }

@[simps] def setDigests (machine : Machine) (preserved candidate : String) : Machine :=
  { machine with preservedDigest := preserved, candidateDigest := candidate }

@[simps] def setOpenedAt (machine : Machine) (time : String) : Machine :=
  { machine with openedAt := some time }

@[simps] def setSettledAt (machine : Machine) (time : String) : Machine :=
  { machine with settledAt := some time }

@[simps] def setRollbackReason (machine : Machine) (reason : Option String) : Machine :=
  { machine with rollbackReason := reason }

@[simps] def addAttempt (machine : Machine) (attempt : AttemptRecord) : Machine :=
  { machine with attempts := machine.attempts ++ [attempt] }

@[simps] def tick (machine : Machine) : Machine :=
  { machine with clockReads := machine.clockReads + 1 }

theorem ext_slots {left right : Machine} (rest : left = { right with slots := left.slots })
    (first : left.slots.first = right.slots.first)
    (get : ∀ label, left.slots.get label = right.slots.get label) : left = right := by
  rw [rest, SlotTable.ext_get first get]

def time (machine : Machine) : String :=
  machine.config.clock machine.clockReads

end Machine

def labelText : Option SlotLabel → String
  | none => ""
  | some label => label.name

def optionText : Option String → String
  | none => "None"
  | some text => text

theorem apart_of_keys {key₁ key₂ : String} {slot₁ slot₂ : SlotState}
    (keys : (key₁ = "A" ∧ key₂ = "B") ∨ (key₁ = "B" ∧ key₂ = "A"))
    (left : slot₁.slot.name = key₁) (right : slot₂.slot.name = key₂) :
    slot₂.slot = slot₁.slot.other := by
  subst left right
  cases h₁ : slot₁.slot <;> cases h₂ : slot₂.slot <;> simp_all [SlotLabel.name, SlotLabel.other]

-- The constructor's checks on the dictionary itself: its keys, and each value under its label.
def slotTable : List (String × SlotState) → Except Raised SlotTable
  | [(key₁, slot₁), (key₂, slot₂)] =>
    if keys : (key₁ = "A" ∧ key₂ = "B") ∨ (key₁ = "B" ∧ key₂ = "A") then
      if left : slot₁.slot.name = key₁ then
        if right : slot₂.slot.name = key₂ then
          .ok (SlotTable.ofPair slot₁ slot₂ (apart_of_keys keys left right))
        else raise .valueError s!"slot keyed {Python.repr key₂} carries label '{slot₂.slot.name}'"
      else raise .valueError s!"slot keyed {Python.repr key₁} carries label '{slot₁.slot.name}'"
    else raise .valueError "a target has exactly two slots, labelled A and B"
  | _ => raise .valueError "a target has exactly two slots, labelled A and B"

theorem slotTable_ok {items : List (String × SlotState)} {slots : SlotTable}
    (table : slotTable items = .ok slots) :
    ∃ left right, ∃ apart : right.slot = left.slot.other,
      items = [(left.slot.name, left), (right.slot.name, right)] ∧
        slots = .ofPair left right apart := by
  unfold slotTable at table
  split at table
  · rename_i leftKey left rightKey right
    split_ifs at table with keys labelLeft labelRight
    · cases table
      obtain rfl := labelLeft
      obtain rfl := labelRight
      exact ⟨left, right, _, rfl, rfl⟩
    all_goals exact absurd table (by simp [raise])
  · exact absurd table (by simp [raise])

theorem slotTable_pair (left right : SlotState) (apart : right.slot = left.slot.other) :
    slotTable [(left.slot.name, left), (right.slot.name, right)] =
      .ok (.ofPair left right apart) := by
  have keys : left.slot.name = "A" ∧ right.slot.name = "B" ∨
      left.slot.name = "B" ∧ right.slot.name = "A" := by
    cases label : left.slot <;> simp [apart, label, SlotLabel.other, SlotLabel.name]
  simp [slotTable, keys]

namespace Machine

def postInit (config : Configuration) (items : List (String × SlotState)) :
    Except Raised Machine := do
  let slots ← slotTable items
  match slots.values.filter fun slot => slot.role = .active with
  | [active] =>
    raiseWhen (active.successful = false) invariantViolation
      ("the active slot is not marked successful — there is nothing " ++
        "known-good to fall back to, so no update may be started")
    raiseWhen (config.maxAttempts < 1 ∨ config.maxAttempts > 7) .valueError
      "max_attempts must be within the GPT tries width (1..7)"
    return { config := config, slots := slots }
  | _ => raise .valueError "exactly one slot must hold role 'active'"

def nextSlot (machine : Machine) (wanted : SlotState → Bool) : Except Raised SlotState :=
  match machine.slots.values.find? wanted with
  | some slot => .ok slot
  | none => raise .stopIteration ""

def active (machine : Machine) : Except Raised SlotState :=
  machine.nextSlot fun slot => slot.role = .active

def candidate (machine : Machine) : Except Raised SlotState :=
  machine.nextSlot fun slot => slot.role = .candidate

def running (machine : Machine) : Except Raised SlotState :=
  machine.nextSlot fun slot => slot.currentlyRunning

def assertPreserved (machine : Machine) : Except Raised Unit :=
  -- The clauses of `_assert_invariants` about the slot the transaction falls back to.
  match machine.fromSlot with
  | none => .ok ()
  | some label => do
    let preserved := machine.slots.get label
    raiseWhen (preserved.payloadDigest ≠ some machine.preservedDigest) invariantViolation
      (s!"the good slot was overwritten: transaction opened with {machine.preservedDigest} " ++
        s!"in slot {label.name}, which now holds {optionText preserved.payloadDigest}")
    raiseWhen (preserved.successful = false) invariantViolation
      (s!"slot {label.name} lost its successful marking mid-transaction " ++
        "— the fallback is no longer provably good")

def assertSlot (slot : SlotState) : Except Raised Unit := do
  raiseWhen (slot.state = .writing ∧ slot.role ≠ .candidate) invariantViolation
    (s!"slot {slot.slot.name} is being written while holding role '{slot.role.name}' " ++
      "— only the candidate is ever a write target")
  raiseWhen (slot.state = .unbootable ∧ slot.bootPriority ≠ 0) invariantViolation
    s!"slot {slot.slot.name} is unbootable but still selectable (bootPriority={slot.bootPriority})"

def assertTrial (machine : Machine) : Except Raised Unit :=
  -- The clauses of `_assert_invariants` about the order of the slots while on trial.
  if machine.phase = .armed ∨ machine.phase = .trying then do
    let candidate ← machine.candidate
    let active ← machine.active
    raiseWhen (candidate.bootPriority ≤ active.bootPriority) invariantViolation
      (s!"boot priority tie or inversion while on trial: candidate " ++
        s!"{candidate.slot.name}={candidate.bootPriority}, active " ++
        s!"{active.slot.name}={active.bootPriority} — slot selection is " ++
        "undefined, so which payload boots is not a recorded fact")
    raiseWhen (active.bootPriority < 1) invariantViolation
      (s!"the fallback slot {active.slot.name} was made unselectable " ++
        "(bootPriority=0) while a candidate is on trial")
  else .ok ()

def assertInvariants (machine : Machine) : Except Raised Unit := do
  machine.assertPreserved
  raiseWhen (machine.slots.values.countP (fun slot => slot.currentlyRunning) ≠ 1)
    invariantViolation "exactly one slot may be currently running"
  raiseWhen (machine.slots.values.countP (fun slot => slot.role = .active) ≠ 1)
    invariantViolation "exactly one slot may hold role 'active'"
  machine.slots.values.forM assertSlot
  machine.assertTrial

end Machine

end SourceosBoot.AbUpdate
