import SourceosBoot.AbUpdate.MachineState

set_option autoImplicit false

namespace SourceosBoot.AbUpdate

open Python

namespace Machine

def observed : Option String → Except Raised String
  | some digest => .ok digest
  | none => raise .keyError "'observed_digest'"

def guard (machine : Machine) (name : String) (observedDigest : Option String) :
    Except Raised Bool :=
  if name = "digest_matches" then do
    let digest ← observed observedDigest
    return digest = machine.candidateDigest
  else if name = "digest_mismatch" then do
    let digest ← observed observedDigest
    return digest ≠ machine.candidateDigest
  else if name = "tries_remain" then do
    let candidate ← machine.candidate
    return candidate.triesRemaining > 0
  else if name = "tries_exhausted" then do
    let candidate ← machine.candidate
    return candidate.triesRemaining = 0
  else raise invariantViolation s!"unknown guard {Python.repr name}"

-- The loop of `_resolve` over the rules of one phase and event.
def resolveAmong (machine : Machine) (observedDigest : Option String) :
    List TransitionRule → Except Raised (Option TransitionRule)
  | [] => .ok none
  | rule :: rest => do
    let holds ← match rule.guard with
      | none => .ok true
      | some name => machine.guard name observedDigest
    if holds then return some rule else machine.resolveAmong observedDigest rest

def resolve (machine : Machine) (event : EventName) (observedDigest : Option String) :
    Except Raised (Option TransitionRule) :=
  machine.resolveAmong observedDigest (index machine.phase event)

def refuse (machine : Machine) (event : EventName) (reason : String) : TransitionResult where
  allowed := false
  event := event
  fromPhase := machine.phase
  toPhase := machine.phase
  reason := reason

def offer (machine : Machine) (event : EventName) (observedDigest : Option String) :
    Except Raised (TransitionResult ⊕ TransitionRule) :=
  -- `_offer`: a refusal on the left, the admitted rule on the right.
  if machine.phase ∈ terminalPhases then
    .ok (.inl (machine.refuse event
      (s!"transaction is terminal in phase '{machine.phase.name}'; no further " ++
        "attempt will be made (this is what ends the boot loop)")))
  else do
    match ← machine.resolve event observedDigest with
    | none =>
      return .inl (machine.refuse event
        s!"event '{event.name}' is illegal in phase '{machine.phase.name}'")
    | some rule => return .inr rule

end Machine

def getSlot (label : Option SlotLabel) : Effect Machine SlotState :=
  ask fun machine =>
    match label with
    | some label => .ok (machine.slots.get label)
    | none => raise .keyError "''"

def setSlot (label : Option SlotLabel) (changes : SlotState → SlotState)
    (keeps : ∀ slot, (changes slot).slot = slot.slot := by intro slot; rfl) :
    Effect Machine Unit :=
  -- `_set_slot`: no caller changes the label of a slot.
  match label with
  | some label => modify fun machine => machine.write label changes keeps
  | none => throw ⟨.keyError, "''"⟩

def readClock : Effect Machine String :=
  modifyGet fun machine => (machine.time, machine.tick)

def recordAttempt (result : AttemptResult) (fellBackTo : Option SlotLabel)
    (detail : Option String) : Effect Machine Unit := do
  let startedAt ← readClock
  let candidate ← ask Machine.candidate
  modify fun machine => machine.addAttempt {
    attemptNumber := machine.attempts.length + 1
    startedAt := startedAt
    result := result
    fellBackTo := fellBackTo
    triesRemainingAfter := candidate.triesRemaining
    detail := detail }

def markCandidateUnbootable : Effect Machine Unit := do
  setSlot (← get).toSlot fun slot =>
    { slot with
      state := .unbootable
      bootPriority := 0
      triesRemaining := 0
      successful := false }
  setSlot (← get).fromSlot fun slot => { slot with bootPriority := armedCandidatePriority }
  -- The slots trade places only where the candidate was the one running.
  if (← getSlot (← get).fromSlot).currentlyRunning = false then
    setSlot (← get).toSlot fun slot => { slot with currentlyRunning := false }
    setSlot (← get).fromSlot fun slot => { slot with currentlyRunning := true }

def settle (phase : Phase) (reason : Option String) : Effect Machine Unit := do
  match reason with
  | some text =>
    if text ∉ rollbackReasons then
      throw ⟨invariantViolation, s!"unattributed rollback reason {Python.repr text}"⟩
  | none => pure ()
  modify fun machine => (machine.setPhase phase).setRollbackReason reason
  let settledAt ← readClock
  modify fun machine => machine.setSettledAt settledAt
  ask Machine.assertInvariants

def begin (payloadDigest : String) (payloadRef version : Option String) :
    Effect Machine TransitionResult := do
  match ← ask (fun machine => machine.offer .begin none) with
  | .inl refusal => return refusal
  | .inr rule =>
    let active ← ask Machine.active
    modify fun machine => machine.setFromSlot active.slot
    let candidate ← ask Machine.candidate
    modify fun machine => machine.setToSlot candidate.slot
    modify fun machine => machine.setDigests (active.payloadDigest.getD "") payloadDigest
    let openedAt ← readClock
    modify fun machine => machine.setOpenedAt openedAt
    -- The rank and the tries of the target are left as they are.
    setSlot (← get).toSlot fun slot =>
      { slot with
        state := .writing
        successful := false
        payloadDigest := some payloadDigest
        payloadRef := payloadRef
        version := version
        lastProbeVerdict := none }
    modify fun machine => machine.setPhase rule.toPhase
    ask Machine.assertInvariants
    let machine ← get
    return {
      allowed := true
      event := .begin
      fromPhase := .idle
      toPhase := machine.phase
      reason := s!"writing candidate payload to slot {labelText machine.toSlot}" }

def writeComplete (observedDigest : String) : Effect Machine TransitionResult := do
  match ← ask (fun machine => machine.offer .writeComplete (some observedDigest)) with
  | .inl refusal => return refusal
  | .inr rule =>
    let fromPhase := (← get).phase
    if rule.toPhase = .rolledBack then
      markCandidateUnbootable
      settle .rolledBack (some "digest-mismatch")
      let machine ← get
      return {
        allowed := true
        event := .writeComplete
        fromPhase := fromPhase
        toPhase := machine.phase
        reason := s!"digest mismatch: expected {machine.candidateDigest}, wrote " ++
          s!"{observedDigest}; candidate never armed, target stays on " ++
          s!"slot {labelText machine.fromSlot}"
        fellBackTo := machine.fromSlot }
    else
      setSlot (← get).toSlot fun slot => { slot with state := .written }
      modify fun machine => machine.setPhase rule.toPhase
      ask Machine.assertInvariants
      return {
        allowed := true
        event := .writeComplete
        fromPhase := fromPhase
        toPhase := (← get).phase
        reason := "candidate written and digest-verified" }

def writeFailed (detail : String) : Effect Machine TransitionResult := do
  match ← ask (fun machine => machine.offer .writeFailed none) with
  | .inl refusal => return refusal
  | .inr _ =>
    let fromPhase := (← get).phase
    markCandidateUnbootable
    settle .rolledBack (some "write-failed")
    let machine ← get
    return {
      allowed := true
      event := .writeFailed
      fromPhase := fromPhase
      toPhase := machine.phase
      reason := s!"{detail}; target stays on slot {labelText machine.fromSlot}"
      fellBackTo := machine.fromSlot }

def arm : Effect Machine TransitionResult := do
  match ← ask (fun machine => machine.offer .arm none) with
  | .inl refusal => return refusal
  | .inr rule =>
    let before ← get
    setSlot before.fromSlot fun slot => { slot with bootPriority := armedActivePriority }
    setSlot before.toSlot fun slot =>
      { slot with
        bootPriority := armedCandidatePriority
        triesRemaining := before.config.maxAttempts
        successful := false }
    modify fun machine => machine.setPhase rule.toPhase
    ask Machine.assertInvariants
    let machine ← get
    return {
      allowed := true
      event := .arm
      fromPhase := before.phase
      toPhase := machine.phase
      reason := s!"candidate armed with {machine.config.maxAttempts} attempt(s)" }

def bootAttempt : Effect Machine TransitionResult := do
  match ← ask (fun machine => machine.offer .bootAttempt none) with
  | .inl refusal => return refusal
  | .inr rule =>
    let before ← get
    let candidate ← ask Machine.candidate
    -- A refusal of its own: the table has no guard on the boot of a spent candidate.
    if candidate.triesRemaining ≤ 0 then
      return before.refuse .bootAttempt "candidate has no attempts remaining"
    else
      setSlot before.toSlot fun slot =>
        { slot with
          triesRemaining := candidate.triesRemaining - 1
          state := .trying
          currentlyRunning := true }
      setSlot before.fromSlot fun slot => { slot with currentlyRunning := false }
      modify fun machine => machine.setPhase rule.toPhase
      ask Machine.assertInvariants
      let machine ← get
      return {
        allowed := true
        event := .bootAttempt
        fromPhase := before.phase
        toPhase := machine.phase
        reason := s!"attempt {machine.attempts.length + 1} of {machine.config.maxAttempts}" }

def probePass (detail : Option String) : Effect Machine TransitionResult := do
  match ← ask (fun machine => machine.offer .probePass none) with
  | .inl refusal => return refusal
  | .inr _ =>
    let before ← get
    recordAttempt .pass none detail
    setSlot before.toSlot fun slot =>
      { slot with
        role := .active
        state := .good
        successful := true
        bootPriority := 15
        triesRemaining := 0
        lastProbeVerdict := some "pass" }
    setSlot before.fromSlot fun slot => { slot with role := .candidate, bootPriority := 14 }
    settle .promoted none
    return {
      allowed := true
      event := .probePass
      fromPhase := before.phase
      toPhase := (← get).phase
      reason := s!"promoted slot {labelText before.toSlot}; slot {labelText before.fromSlot} " ++
        "retained bootable as the fallback" }

def failAttempt (event : EventName) (result : AttemptResult) (detail : String) :
    Effect Machine TransitionResult := do
  match ← ask (fun machine => machine.offer event none) with
  | .inl refusal => return refusal
  | .inr rule =>
    let before ← get
    recordAttempt result before.fromSlot (some detail)
    setSlot before.toSlot fun slot =>
      { slot with currentlyRunning := false, state := .written, lastProbeVerdict := some "fail" }
    setSlot before.fromSlot fun slot => { slot with currentlyRunning := true }
    if rule.toPhase = .refused then
      markCandidateUnbootable
      settle .refused (some "attempts-exhausted")
      let machine ← get
      return {
        allowed := true
        event := event
        fromPhase := before.phase
        toPhase := machine.phase
        reason := s!"{detail}; attempt budget exhausted after {machine.attempts.length} " ++
          "attempt(s) — candidate marked unbootable, target stays on slot " ++
          labelText machine.fromSlot
        fellBackTo := machine.fromSlot }
    else
      modify fun machine => machine.setPhase rule.toPhase
      ask Machine.assertInvariants
      let machine ← get
      let candidate ← ask Machine.candidate
      return {
        allowed := true
        event := event
        fromPhase := before.phase
        toPhase := machine.phase
        reason := s!"{detail}; rolled back to slot {labelText machine.fromSlot}, " ++
          s!"{candidate.triesRemaining} attempt(s) remaining"
        fellBackTo := machine.fromSlot }

def probeFail (detail : String) : Effect Machine TransitionResult :=
  failAttempt .probeFail .probeFailed detail

def watchdogExpired (detail expiryAction : String) : Effect Machine TransitionResult := do
  if expiryAction ∉ ["reboot", "reboot-to-fallback"] then
    throw ⟨.valueError, s!"unknown expiry_action {Python.repr expiryAction}"⟩
  else
    let machine ← get
    -- The tries are given up before the event is offered, so the offer finds none.
    if expiryAction = "reboot-to-fallback" ∧ machine.phase = .trying then
      setSlot machine.toSlot fun slot => { slot with triesRemaining := 0 }
    failAttempt .watchdogExpired .watchdogExpired detail

def operatorAbort (detail : String) : Effect Machine TransitionResult := do
  match ← ask (fun machine => machine.offer .operatorAbort none) with
  | .inl refusal => return refusal
  | .inr _ =>
    let before ← get
    if before.phase = .trying then
      recordAttempt .aborted before.fromSlot (some detail)
    markCandidateUnbootable
    settle .rolledBack (some "operator-abort")
    let machine ← get
    return {
      allowed := true
      event := .operatorAbort
      fromPhase := before.phase
      toPhase := machine.phase
      reason := s!"{detail}; target returned to slot {labelText machine.fromSlot}"
      fellBackTo := machine.fromSlot }

inductive Event
  | begin (payloadDigest : String) (payloadRef version : Option String)
  | writeComplete (observedDigest : String)
  | writeFailed (detail : String)
  | arm
  | bootAttempt
  | probePass (detail : Option String)
  | probeFail (detail : String)
  | watchdogExpired (detail expiryAction : String)
  | operatorAbort (detail : String)
  deriving DecidableEq, Repr

def call : Event → Effect Machine TransitionResult
  | .begin payloadDigest payloadRef version => begin payloadDigest payloadRef version
  | .writeComplete observedDigest => writeComplete observedDigest
  | .writeFailed detail => writeFailed detail
  | .arm => arm
  | .bootAttempt => bootAttempt
  | .probePass detail => probePass detail
  | .probeFail detail => probeFail detail
  | .watchdogExpired detail expiryAction => watchdogExpired detail expiryAction
  | .operatorAbort detail => operatorAbort detail

namespace Machine

@[simps!] def opened (machine : Machine) (fallback : SlotLabel) (payloadDigest : String)
    (payloadRef version : Option String) : Machine :=
  ((((((machine.setFromSlot fallback).setToSlot fallback.other).setDigests
    ((machine.slots.get fallback).payloadDigest.getD "") payloadDigest).tick).setOpenedAt
      machine.time).write fallback.other fun slot =>
        { slot with
          state := .writing
          successful := false
          payloadDigest := some payloadDigest
          payloadRef := payloadRef
          version := version
          lastProbeVerdict := none }).setPhase .writing

@[simps!] def written (machine : Machine) (fallback : SlotLabel) : Machine :=
  (machine.write fallback.other fun slot => { slot with state := .written }).setPhase
    .candidateReady

@[simps!] def armedOn (machine : Machine) (fallback : SlotLabel) : Machine :=
  ((machine.write fallback fun slot => { slot with bootPriority := armedActivePriority }).write
    fallback.other fun slot =>
      { slot with
        bootPriority := armedCandidatePriority
        triesRemaining := machine.config.maxAttempts
        successful := false }).setPhase .armed

@[simps!] def booted (machine : Machine) (fallback : SlotLabel) : Machine :=
  ((machine.write fallback.other fun slot =>
      { slot with
        triesRemaining := (machine.slots.get fallback.other).triesRemaining - 1
        state := .trying
        currentlyRunning := true }).write
    fallback fun slot => { slot with currentlyRunning := false }).setPhase .trying

@[simps!] def recorded (machine : Machine) (fallback : SlotLabel) (result : AttemptResult)
    (fellBackTo : Option SlotLabel) (detail : Option String) : Machine :=
  machine.tick.addAttempt {
    attemptNumber := machine.attempts.length + 1
    startedAt := machine.time
    result := result
    fellBackTo := fellBackTo
    triesRemainingAfter := (machine.slots.get fallback.other).triesRemaining
    detail := detail }

@[simps!] def returned (machine : Machine) (fallback : SlotLabel) : Machine :=
  (machine.write fallback.other fun slot =>
    { slot with
      currentlyRunning := false
      state := .written
      lastProbeVerdict := some "fail" }).write
    fallback fun slot => { slot with currentlyRunning := true }

@[simps!] def failed (machine : Machine) (fallback : SlotLabel) (result : AttemptResult)
    (detail : String) : Machine :=
  (machine.recorded fallback result (some fallback) (some detail)).returned fallback

@[simps!] def retired (machine : Machine) (fallback : SlotLabel) : Machine :=
  (machine.write fallback.other fun slot =>
    { slot with
      state := .unbootable
      bootPriority := 0
      triesRemaining := 0
      successful := false
      currentlyRunning :=
        slot.currentlyRunning && (machine.slots.get fallback).currentlyRunning }).write
    fallback fun slot =>
      { slot with bootPriority := armedCandidatePriority, currentlyRunning := true }

@[simps!] def settled (machine : Machine) (phase : Phase) (reason : Option String) : Machine :=
  (((machine.setPhase phase).setRollbackReason reason).tick).setSettledAt machine.time

@[simps!] def spent (machine : Machine) (fallback : SlotLabel) : Machine :=
  machine.write fallback.other fun slot => { slot with triesRemaining := 0 }

@[simps!] def promotedFrom (machine : Machine) (fallback : SlotLabel) (detail : Option String) : Machine :=
  (((machine.recorded fallback .pass none detail).write fallback.other fun slot =>
    { slot with
      role := .active
      state := .good
      successful := true
      bootPriority := 15
      triesRemaining := 0
      lastProbeVerdict := some "pass" }).write
    fallback fun slot => { slot with role := .candidate, bootPriority := 14 }).settled
      .promoted none

end Machine

end SourceosBoot.AbUpdate
