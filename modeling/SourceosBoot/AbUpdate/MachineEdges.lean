import SourceosBoot.AbUpdate.MachineEvents
import SourceosBoot.Shared.Transition

set_option autoImplicit false

-- `Edge` lists every accepted event with the state it writes, before the runtime check looks at it.
-- By `call_cases` nothing else happens: an event without an edge writes nothing.

namespace SourceosBoot.AbUpdate

open Python

inductive Failure : Event → AttemptResult → String → Prop
  | probe (detail : String) : Failure (.probeFail detail) .probeFailed detail
  | watchdog (detail expiryAction : String)
      (known : expiryAction ∈ ["reboot", "reboot-to-fallback"]) :
      Failure (.watchdogExpired detail expiryAction) .watchdogExpired detail

-- The expiry that gives up every remaining try at once.
def Event.rebootsToFallback : Event → Bool
  | .watchdogExpired _ expiryAction => expiryAction = "reboot-to-fallback"
  | _ => false

/-- `Edge fallback machine event fellBackTo after`: the event is accepted and writes `after`. -/
inductive Edge (fallback : SlotLabel) (machine : Machine) :
    Event → Option SlotLabel → Machine → Prop
  | begin (payloadDigest : String) (payloadRef version : Option String)
      (phase : machine.phase = .idle) :
      Edge fallback machine (.begin payloadDigest payloadRef version) none
        (machine.opened fallback payloadDigest payloadRef version)
  | verified (observedDigest : String) (phase : machine.phase = .writing)
      (same : observedDigest = machine.candidateDigest) :
      Edge fallback machine (.writeComplete observedDigest) none (machine.written fallback)
  | mismatched (observedDigest : String) (phase : machine.phase = .writing)
      (different : observedDigest ≠ machine.candidateDigest) :
      Edge fallback machine (.writeComplete observedDigest) (some fallback)
        ((machine.retired fallback).settled .rolledBack (some "digest-mismatch"))
  | unwritten (detail : String) (phase : machine.phase = .writing) :
      Edge fallback machine (.writeFailed detail) (some fallback)
        ((machine.retired fallback).settled .rolledBack (some "write-failed"))
  | arm (phase : machine.phase = .candidateReady) :
      Edge fallback machine .arm none (machine.armedOn fallback)
  | boot (phase : machine.phase = .armed)
      (remaining : 0 < (machine.slots.get fallback.other).triesRemaining) :
      Edge fallback machine .bootAttempt none (machine.booted fallback)
  | promote (detail : Option String) (phase : machine.phase = .trying) :
      Edge fallback machine (.probePass detail) none (machine.promotedFrom fallback detail)
  | retry (event : Event) (result : AttemptResult) (detail : String)
      (failure : Failure event result detail) (patient : event.rebootsToFallback = false)
      (phase : machine.phase = .trying)
      (remaining : 0 < (machine.slots.get fallback.other).triesRemaining) :
      Edge fallback machine event (some fallback)
        ((machine.failed fallback result detail).setPhase .armed)
  | exhaust (event : Event) (result : AttemptResult) (detail : String)
      (failure : Failure event result detail) (phase : machine.phase = .trying)
      (finished : event.rebootsToFallback = true ∨
        (machine.slots.get fallback.other).triesRemaining = 0) :
      Edge fallback machine event (some fallback)
        ((((machine.spent fallback).failed fallback result detail).retired fallback).settled
          .refused (some "attempts-exhausted"))
  -- An abort records an attempt only where one is in progress.
  | abort (detail : String)
      (phase : machine.phase = .writing ∨ machine.phase = .candidateReady ∨
        machine.phase = .armed) :
      Edge fallback machine (.operatorAbort detail) (some fallback)
        ((machine.retired fallback).settled .rolledBack (some "operator-abort"))
  | abortTrial (detail : String) (phase : machine.phase = .trying) :
      Edge fallback machine (.operatorAbort detail) (some fallback)
        (((machine.recorded fallback .aborted (some fallback) (some detail)).retired
          fallback).settled .rolledBack (some "operator-abort"))

theorem abortable {phase : Phase}
    (early : phase = .writing ∨ phase = .candidateReady ∨ phase = .armed) :
    phase ≠ .idle ∧ phase ≠ .trying ∧ phase ∉ terminalPhases := by
  rcases early with rfl | rfl | rfl <;> decide

theorem pending_not_promoted {phase : Phase} (pending : phase ∉ terminalPhases) :
    phase ≠ .promoted := by
  rintro rfl
  exact pending (by decide)

structure HoldsRoles (machine : Machine) (fallback : SlotLabel) : Prop where
  active : (machine.slots.get fallback).role = .active
  candidate : (machine.slots.get fallback.other).role = .candidate

structure Standing (fallback : SlotLabel) (machine : Machine) : Prop where
  unopened : machine.phase = .idle → machine.fromSlot = none ∧ machine.toSlot = none
  opened : machine.phase ≠ .idle →
    machine.fromSlot = some fallback ∧ machine.toSlot = some fallback.other
  roles : machine.phase ≠ .promoted → HoldsRoles machine fallback
  swapped : machine.phase = .promoted → HoldsRoles machine fallback.other

theorem HoldsRoles.active_ok {machine : Machine} {fallback : SlotLabel}
    (roles : HoldsRoles machine fallback) :
    machine.active = .ok (machine.slots.get fallback) := by
  rcases SlotLabel.eq_or_other machine.slots.first fallback with first | first <;>
    simp [Machine.active, Machine.nextSlot, SlotTable.values, first, roles.active, roles.candidate]

theorem HoldsRoles.candidate_ok {machine : Machine} {fallback : SlotLabel}
    (roles : HoldsRoles machine fallback) :
    machine.candidate = .ok (machine.slots.get fallback.other) := by
  rcases SlotLabel.eq_or_other machine.slots.first fallback with first | first <;>
    simp [Machine.candidate, Machine.nextSlot, SlotTable.values, first, roles.active,
      roles.candidate]

section Admission

variable (machine : Machine) (event : EventName) (observedDigest : Option String)

theorem offer_terminal (terminal : machine.phase ∈ terminalPhases) :
    ∃ reason, machine.offer event observedDigest = .ok (.inl (machine.refuse event reason)) :=
  ⟨_, if_pos terminal⟩

theorem offer_resolved (rule : TransitionRule) (pending : machine.phase ∉ terminalPhases)
    (resolved : machine.resolve event observedDigest = .ok (some rule)) :
    machine.offer event observedDigest = .ok (.inr rule) := by
  rw [Machine.offer, if_neg pending, resolved]
  rfl

theorem offer_unresolved (resolved : machine.resolve event observedDigest = .ok none) :
    ∃ reason, machine.offer event observedDigest = .ok (.inl (machine.refuse event reason)) := by
  by_cases terminal : machine.phase ∈ terminalPhases
  · exact offer_terminal machine event observedDigest terminal
  · exact ⟨_, by rw [Machine.offer, if_neg terminal, resolved]; rfl⟩

theorem offer_unlisted (unlisted : index machine.phase event = []) :
    ∃ reason, machine.offer event observedDigest = .ok (.inl (machine.refuse event reason)) :=
  offer_unresolved machine event observedDigest (by rw [Machine.resolve, unlisted]; rfl)

theorem offer_unguarded (phase toPhase : Phase) (standing : machine.phase = phase)
    (pending : phase ∉ terminalPhases)
    (only : index phase event = [⟨event, phase, toPhase, none⟩]) :
    machine.offer event observedDigest = .ok (.inr ⟨event, phase, toPhase, none⟩) :=
  offer_resolved machine event observedDigest _ (by rwa [standing])
    (by rw [Machine.resolve, standing, only]; rfl)

theorem offer_write_complete (digest : String) (phase : machine.phase = .writing) :
    machine.offer .writeComplete (some digest) = .ok (.inr
      (if digest = machine.candidateDigest then
        ⟨.writeComplete, .writing, .candidateReady, some "digest_matches"⟩
      else ⟨.writeComplete, .writing, .rolledBack, some "digest_mismatch"⟩)) := by
  have rules : index .writing .writeComplete =
      [⟨.writeComplete, .writing, .candidateReady, some "digest_matches"⟩,
        ⟨.writeComplete, .writing, .rolledBack, some "digest_mismatch"⟩] := by decide
  apply offer_resolved machine _ _ _ (by rw [phase]; decide)
  rw [Machine.resolve, phase, rules]
  by_cases same : digest = machine.candidateDigest <;>
    simp [Machine.resolveAmong, Machine.guard, Machine.observed, same, bind, Except.bind, pure,
      Except.pure]

theorem resolve_failure (slot : SlotState) (phase : machine.phase = .trying)
    (listed : index .trying event =
      [⟨event, .trying, .armed, some "tries_remain"⟩,
        ⟨event, .trying, .refused, some "tries_exhausted"⟩])
    (candidate : machine.candidate = .ok slot) :
    machine.resolve event observedDigest = .ok
      (if 0 < slot.triesRemaining then some ⟨event, .trying, .armed, some "tries_remain"⟩
      else if slot.triesRemaining = 0 then
        some ⟨event, .trying, .refused, some "tries_exhausted"⟩
      else none) := by
  rw [Machine.resolve, phase, listed]
  by_cases more : 0 < slot.triesRemaining <;> by_cases finished : slot.triesRemaining = 0 <;>
    simp [Machine.resolveAmong, Machine.guard, candidate, more, finished, bind, Except.bind, pure,
      Except.pure]

end Admission

section Steps

variable (machine : Machine) (fallback : SlotLabel)

def checked (machine : Machine) (result : TransitionResult) :
    EStateM.Result Raised Machine TransitionResult :=
  -- The runtime check decides between the result and a raise; the writes stand either way.
  match machine.assertInvariants with
  | .ok () => .ok result machine
  | .error raised => .error raised machine

theorem offer_then {α : Type} {event : EventName} {observedDigest : Option String}
    {outcome : TransitionResult ⊕ TransitionRule}
    (offered : machine.offer event observedDigest = .ok outcome)
    (next : TransitionResult ⊕ TransitionRule → Effect Machine α) :
    (ask (fun machine => machine.offer event observedDigest) >>= next).run machine =
      (next outcome).run machine :=
  ask_then _ machine outcome offered next

theorem active_then {α : Type} {slot : SlotState} (active : machine.active = .ok slot)
    (next : SlotState → Effect Machine α) :
    (ask Machine.active >>= next).run machine = (next slot).run machine :=
  ask_then _ machine slot active next

theorem candidate_then {α : Type} {slot : SlotState} (candidate : machine.candidate = .ok slot)
    (next : SlotState → Effect Machine α) :
    (ask Machine.candidate >>= next).run machine = (next slot).run machine :=
  ask_then _ machine slot candidate next

theorem setSlot_then {α : Type} (label : SlotLabel) (changes : SlotState → SlotState)
    (keeps : ∀ slot, (changes slot).slot = slot.slot) (next : Unit → Effect Machine α) :
    (setSlot (some label) changes keeps >>= next).run machine =
      (next ()).run (machine.write label changes keeps) := rfl

theorem readClock_then {α : Type} (next : String → Effect Machine α) :
    (readClock >>= next).run machine = (next machine.time).run machine.tick := rfl

theorem assert_then (result : TransitionResult) (next : Unit → Effect Machine TransitionResult)
    (returns : (next ()).run machine = .ok result machine) :
    (ask Machine.assertInvariants >>= next).run machine = checked machine result := by
  rw [EStateM.run_bind, ask_run, checked]
  cases machine.assertInvariants with
  | ok _ => exact returns
  | error raised => rfl

theorem settle_then (phase : Phase) (reason : Option String) (result : TransitionResult)
    (next : Unit → Effect Machine TransitionResult)
    (attributed : ∀ text ∈ reason, text ∈ rollbackReasons)
    (returns : (next ()).run (machine.settled phase reason) =
      .ok result (machine.settled phase reason)) :
    (settle phase reason >>= next).run machine =
      checked (machine.settled phase reason) result := by
  have settled : (settle phase reason).run machine =
      (ask Machine.assertInvariants).run (machine.settled phase reason) := by
    cases reason with
    | none => rfl
    | some text =>
      simp only [settle, attributed text rfl, not_true_eq_false, if_false]
      rfl
  rw [← assert_then _ result next returns, EStateM.run_bind, EStateM.run_bind, settled]

theorem recordAttempt_run (roles : HoldsRoles machine fallback) (result : AttemptResult)
    (fellBackTo : Option SlotLabel) (detail : Option String) :
    (recordAttempt result fellBackTo detail).run machine =
      .ok () (machine.recorded fallback result fellBackTo detail) := by
  have candidate : machine.tick.candidate = .ok (machine.slots.get fallback.other) :=
    roles.candidate_ok
  rw [recordAttempt, readClock_then, candidate_then _ candidate]
  rfl

theorem markCandidateUnbootable_run (fromSlot : machine.fromSlot = some fallback)
    (toSlot : machine.toSlot = some fallback.other) :
    markCandidateUnbootable.run machine = .ok () (machine.retired fallback) := by
  have running (machine : Machine) : (getSlot (some fallback)).run machine =
    .ok (machine.slots.get fallback) machine := rfl
  simp only [markCandidateUnbootable, get_then, toSlot, setSlot_then, Machine.write_fromSlot,
    fromSlot, run_then (running _), Machine.write_slots, SlotTable.replace_get,
    SlotLabel.ne_other, if_true, if_false]
  -- Where the fallback runs already, the two last writes of `retired` change nothing.
  cases running : (machine.slots.get fallback).currentlyRunning with
  | false =>
    simp only [if_true, get_then, Machine.write_toSlot, toSlot, setSlot_then,
      Machine.write_fromSlot, fromSlot]
    refine congrArg (EStateM.Result.ok ()) (Machine.ext_slots rfl rfl ?_)
    intro label
    rcases SlotLabel.eq_or_other label fallback with rfl | rfl <;> simp [Machine.retired, running]
  | true =>
    refine congrArg (EStateM.Result.ok ()) (Machine.ext_slots rfl rfl ?_)
    intro label
    rcases SlotLabel.eq_or_other label fallback with rfl | rfl <;> simp [Machine.retired, running]

end Steps

def Event.name : Event → EventName
  | .begin _ _ _ => .begin
  | .writeComplete _ => .writeComplete
  | .writeFailed _ => .writeFailed
  | .arm => .arm
  | .bootAttempt => .bootAttempt
  | .probePass _ => .probePass
  | .probeFail _ => .probeFail
  | .watchdogExpired _ _ => .watchdogExpired
  | .operatorAbort _ => .operatorAbort

def accepted (machine after : Machine) (event : Event) (fellBackTo : Option SlotLabel)
    (reason : String) : TransitionResult where
  allowed := true
  event := event.name
  fromPhase := machine.phase
  toPhase := after.phase
  reason := reason
  fellBackTo := fellBackTo

/-- The event is admitted, writes `after` and is then judged by the runtime check. -/
def Takes (machine : Machine) (event : Event) (fellBackTo : Option SlotLabel)
    (after : Machine) : Prop :=
  ∃ reason, (call event).run machine =
    checked after (accepted machine after event fellBackTo reason)

section Runs

variable {machine : Machine} {fallback : SlotLabel} (standing : Standing fallback machine)
include standing

theorem begin_takes (payloadDigest : String) (payloadRef version : Option String)
    (phase : machine.phase = .idle) :
    Takes machine (.begin payloadDigest payloadRef version) none
      (machine.opened fallback payloadDigest payloadRef version) := by
  have roles := standing.roles (by simp [phase])
  have offered := offer_unguarded machine .begin none .idle .writing phase (by decide) (by decide)
  have candidate : (machine.setFromSlot fallback).candidate = _ := roles.candidate_ok
  apply Exists.intro
  simp only [call, begin, offer_then _ offered, active_then _ roles.active_ok, machine.slots.labelled,
    modify_then, candidate_then _ candidate, readClock_then, get_then, Machine.setOpenedAt_toSlot,
    Machine.tick_toSlot, Machine.setDigests_toSlot, Machine.setToSlot_toSlot, setSlot_then,
    accepted, phase]
  refine assert_then (machine.opened fallback payloadDigest payloadRef version) _ _ ?_
  rfl

theorem verified_takes (observedDigest : String) (phase : machine.phase = .writing)
    (same : observedDigest = machine.candidateDigest) :
    Takes machine (.writeComplete observedDigest) none (machine.written fallback) := by
  have offered := offer_write_complete machine observedDigest phase
  rw [if_pos same] at offered
  have toSlot := (standing.opened (by simp [phase])).2
  apply Exists.intro
  simp only [call, writeComplete, offer_then _ offered, get_then, reduceCtorEq, if_false, toSlot,
    setSlot_then, modify_then, accepted]
  refine assert_then (machine.written fallback) _ _ ?_
  rfl

theorem mismatched_takes (observedDigest : String) (phase : machine.phase = .writing)
    (different : observedDigest ≠ machine.candidateDigest) :
    Takes machine (.writeComplete observedDigest) (some fallback)
      ((machine.retired fallback).settled .rolledBack (some "digest-mismatch")) := by
  have offered := offer_write_complete machine observedDigest phase
  rw [if_neg different] at offered
  obtain ⟨fromSlot, toSlot⟩ := standing.opened (by simp [phase])
  have marked := markCandidateUnbootable_run machine fallback fromSlot toSlot
  apply Exists.intro
  simp only [call, writeComplete, offer_then _ offered, get_then, if_true, run_then marked, accepted,
    ← fromSlot]
  refine settle_then _ _ _ _ _ (by simp [rollbackReasons]) ?_
  rfl

theorem unwritten_takes (detail : String) (phase : machine.phase = .writing) :
    Takes machine (.writeFailed detail) (some fallback)
      ((machine.retired fallback).settled .rolledBack (some "write-failed")) := by
  have offered := offer_unguarded machine .writeFailed none .writing .rolledBack phase
    (by decide) (by decide)
  obtain ⟨fromSlot, toSlot⟩ := standing.opened (by simp [phase])
  have marked := markCandidateUnbootable_run machine fallback fromSlot toSlot
  apply Exists.intro
  simp only [call, writeFailed, offer_then _ offered, get_then, run_then marked, accepted,
    ← fromSlot]
  refine settle_then _ _ _ _ _ (by simp [rollbackReasons]) ?_
  rfl

theorem arm_takes (phase : machine.phase = .candidateReady) :
    Takes machine .arm none (machine.armedOn fallback) := by
  have offered := offer_unguarded machine .arm none .candidateReady .armed phase
    (by decide) (by decide)
  obtain ⟨fromSlot, toSlot⟩ := standing.opened (by simp [phase])
  apply Exists.intro
  simp only [call, arm, offer_then _ offered, get_then, fromSlot, toSlot, setSlot_then,
    modify_then, accepted]
  refine assert_then (machine.armedOn fallback) _ _ ?_
  rfl

theorem boot_takes (phase : machine.phase = .armed)
    (remaining : 0 < (machine.slots.get fallback.other).triesRemaining) :
    Takes machine .bootAttempt none (machine.booted fallback) := by
  have offered := offer_unguarded machine .bootAttempt none .armed .trying phase
    (by decide) (by decide)
  obtain ⟨fromSlot, toSlot⟩ := standing.opened (by simp [phase])
  have candidate := (standing.roles (by simp [phase])).candidate_ok
  have some_left : ¬ (machine.slots.get fallback.other).triesRemaining ≤ 0 := by omega
  apply Exists.intro
  simp only [call, bootAttempt, offer_then _ offered, get_then, candidate_then _ candidate,
    some_left, if_false, fromSlot, toSlot, setSlot_then, modify_then, accepted]
  refine assert_then (machine.booted fallback) _ _ ?_
  rfl

theorem promote_takes (detail : Option String) (phase : machine.phase = .trying) :
    Takes machine (.probePass detail) none (machine.promotedFrom fallback detail) := by
  have offered := offer_unguarded machine .probePass none .trying .promoted phase
    (by decide) (by decide)
  obtain ⟨fromSlot, toSlot⟩ := standing.opened (by simp [phase])
  have recorded := recordAttempt_run machine fallback (standing.roles (by simp [phase]))
    .pass none detail
  apply Exists.intro
  simp only [call, probePass, offer_then _ offered, get_then, run_then recorded, fromSlot,
    toSlot, setSlot_then, accepted]
  refine settle_then _ _ _ _ _ (by simp) ?_
  rfl

theorem abort_takes (detail : String)
    (phase : machine.phase = .writing ∨ machine.phase = .candidateReady ∨
      machine.phase = .armed) :
    Takes machine (.operatorAbort detail) (some fallback)
      ((machine.retired fallback).settled .rolledBack (some "operator-abort")) := by
  have offered : machine.offer .operatorAbort none =
      .ok (.inr ⟨.operatorAbort, machine.phase, .rolledBack, none⟩) := by
    rcases phase with phase | phase | phase <;> rw [phase] <;>
      exact offer_unguarded machine .operatorAbort none _ .rolledBack phase (by decide) (by decide)
  obtain ⟨opened, early, _⟩ := abortable phase
  obtain ⟨fromSlot, toSlot⟩ := standing.opened opened
  have marked := markCandidateUnbootable_run machine fallback fromSlot toSlot
  apply Exists.intro
  simp only [call, operatorAbort, offer_then _ offered, get_then, early, if_false,
    run_then marked, accepted, ← fromSlot]
  refine settle_then _ _ _ _ _ (by simp [rollbackReasons]) ?_
  rfl

theorem abortTrial_takes (detail : String) (phase : machine.phase = .trying) :
    Takes machine (.operatorAbort detail) (some fallback)
      (((machine.recorded fallback .aborted (some fallback) (some detail)).retired
        fallback).settled .rolledBack (some "operator-abort")) := by
  have offered := offer_unguarded machine .operatorAbort none .trying .rolledBack phase
    (by decide) (by decide)
  obtain ⟨fromSlot, toSlot⟩ := standing.opened (by simp [phase])
  have recorded := recordAttempt_run machine fallback (standing.roles (by simp [phase]))
    .aborted (some fallback) (some detail)
  have marked := markCandidateUnbootable_run
    (machine.recorded fallback .aborted (some fallback) (some detail)) fallback fromSlot toSlot
  apply Exists.intro
  simp only [call, operatorAbort, offer_then _ offered, get_then, phase, if_true, fromSlot,
    run_then recorded, run_then marked, accepted]
  refine settle_then _ _ _ _ _ (by simp [rollbackReasons]) ?_
  simp only [get_then, Machine.settled_fromSlot, Machine.retired_fromSlot,
    Machine.recorded_fromSlot, fromSlot]
  rfl

theorem failAttempt_retry (event : EventName) (result : AttemptResult) (detail : String)
    (listed : index .trying event =
      [⟨event, .trying, .armed, some "tries_remain"⟩,
        ⟨event, .trying, .refused, some "tries_exhausted"⟩])
    (phase : machine.phase = .trying)
    (remaining : 0 < (machine.slots.get fallback.other).triesRemaining) :
    ∃ reason, (failAttempt event result detail).run machine =
      checked ((machine.failed fallback result detail).setPhase .armed)
        ⟨true, event, machine.phase, .armed, reason, some fallback⟩ := by
  have roles := standing.roles (by simp [phase])
  have resolved := resolve_failure machine event none _ phase listed roles.candidate_ok
  rw [if_pos remaining] at resolved
  have offered := offer_resolved machine event none _ (by simp [phase, terminalPhases]) resolved
  obtain ⟨fromSlot, toSlot⟩ := standing.opened (by simp [phase])
  have recorded := recordAttempt_run machine fallback roles result (some fallback) (some detail)
  have seated : HoldsRoles ((machine.failed fallback result detail).setPhase .armed) fallback := by
    constructor <;> simp [roles.active, roles.candidate]
  apply Exists.intro
  simp only [failAttempt, offer_then _ offered, get_then, fromSlot, run_then recorded, toSlot,
    setSlot_then, reduceCtorEq, if_false, modify_then]
  refine assert_then ((machine.failed fallback result detail).setPhase .armed) _ _ ?_
  rw [get_then, candidate_then _ seated.candidate_ok]
  simp only [Machine.setPhase_fromSlot, Machine.failed_fromSlot, fromSlot]
  rfl

theorem failAttempt_exhaust (event : EventName) (result : AttemptResult) (detail : String)
    (listed : index .trying event =
      [⟨event, .trying, .armed, some "tries_remain"⟩,
        ⟨event, .trying, .refused, some "tries_exhausted"⟩])
    (phase : machine.phase = .trying)
    (finished : (machine.slots.get fallback.other).triesRemaining = 0) :
    ∃ reason, (failAttempt event result detail).run machine =
      checked (((machine.failed fallback result detail).retired fallback).settled .refused
          (some "attempts-exhausted"))
        ⟨true, event, machine.phase, .refused, reason, some fallback⟩ := by
  have roles := standing.roles (by simp [phase])
  have resolved := resolve_failure machine event none _ phase listed roles.candidate_ok
  rw [finished, if_neg (by omega), if_pos rfl] at resolved
  have offered := offer_resolved machine event none _ (by simp [phase, terminalPhases]) resolved
  obtain ⟨fromSlot, toSlot⟩ := standing.opened (by simp [phase])
  have recorded := recordAttempt_run machine fallback roles result (some fallback) (some detail)
  have marked := markCandidateUnbootable_run (machine.failed fallback result detail) fallback
    fromSlot toSlot
  apply Exists.intro
  simp only [failAttempt, offer_then _ offered, get_then, fromSlot, run_then recorded, toSlot,
    setSlot_then, if_true]
  change (markCandidateUnbootable >>= _).run (machine.failed fallback result detail) = _
  rw [run_then marked]
  refine settle_then _ _ _ _ _ (by simp [rollbackReasons]) ?_
  simp only [get_then, Machine.settled_fromSlot, Machine.retired_fromSlot,
    Machine.failed_fromSlot, fromSlot]
  rfl

omit standing in
theorem spent_of_finished (finished : (machine.slots.get fallback.other).triesRemaining = 0) :
    machine.spent fallback = machine := by
  refine Machine.ext_slots rfl rfl ?_
  intro label
  by_cases same : label = fallback.other
  · subst same
    simp [← finished]
  · simp [same]

theorem Standing.spent : Standing fallback (machine.spent fallback) where
  unopened := standing.unopened
  opened := standing.opened
  roles := fun phase =>
    ⟨by simp [(standing.roles phase).active], by simp [(standing.roles phase).candidate]⟩
  swapped := fun phase =>
    ⟨by simp [(standing.swapped phase).active], by simpa using (standing.swapped phase).candidate⟩

theorem retry_takes (event : Event) (result : AttemptResult) (detail : String)
    (failure : Failure event result detail) (patient : event.rebootsToFallback = false)
    (phase : machine.phase = .trying)
    (remaining : 0 < (machine.slots.get fallback.other).triesRemaining) :
    Takes machine event (some fallback) ((machine.failed fallback result detail).setPhase .armed) := by
  cases failure with
  | probe =>
    exact failAttempt_retry standing .probeFail .probeFailed detail (by decide) phase remaining
  | watchdog _ expiryAction known =>
    have reboot : expiryAction ≠ "reboot-to-fallback" := by
      simpa [Event.rebootsToFallback] using patient
    have same : (call (.watchdogExpired detail expiryAction)).run machine =
        (failAttempt .watchdogExpired .watchdogExpired detail).run machine := by
      simp only [call, watchdogExpired, known, not_true_eq_false, if_false, get_then, reboot,
        false_and]
    rw [Takes, same]
    exact failAttempt_retry standing .watchdogExpired .watchdogExpired detail (by decide) phase
      remaining

theorem exhaust_takes (event : Event) (result : AttemptResult) (detail : String)
    (failure : Failure event result detail) (phase : machine.phase = .trying)
    (finished : event.rebootsToFallback = true ∨
      (machine.slots.get fallback.other).triesRemaining = 0) :
    Takes machine event (some fallback)
      ((((machine.spent fallback).failed fallback result detail).retired fallback).settled
        .refused (some "attempts-exhausted")) := by
  -- A probe failure finds the tries spent; the fallback reboot spends them itself.
  cases failure with
  | probe =>
    have finished := finished.resolve_left (by simp [Event.rebootsToFallback])
    rw [spent_of_finished finished]
    exact failAttempt_exhaust standing .probeFail .probeFailed detail (by decide) phase finished
  | watchdog _ expiryAction known =>
    have same : (call (.watchdogExpired detail expiryAction)).run machine =
        (failAttempt .watchdogExpired .watchdogExpired detail).run (machine.spent fallback) := by
      have toSlot := (standing.opened (by simp [phase])).2
      by_cases fallbackReboot : expiryAction = "reboot-to-fallback"
      · subst fallbackReboot
        simp only [call, watchdogExpired, known, not_true_eq_false, if_false, get_then, phase,
          and_self, if_true, toSlot, setSlot_then]
        rfl
      · have finished := finished.resolve_left (by simp [Event.rebootsToFallback, fallbackReboot])
        rw [spent_of_finished finished]
        simp only [call, watchdogExpired, known, not_true_eq_false, if_false, get_then,
          fallbackReboot, false_and]
    rw [Takes, same]
    exact failAttempt_exhaust standing.spent .watchdogExpired .watchdogExpired detail (by decide)
      phase (by simp)

theorem edge_takes {event : Event} {fellBackTo : Option SlotLabel} {after : Machine}
    (edge : Edge fallback machine event fellBackTo after) :
    Takes machine event fellBackTo after := by
  cases edge with
  | begin payloadDigest payloadRef version phase =>
    exact begin_takes standing payloadDigest payloadRef version phase
  | verified observedDigest phase same => exact verified_takes standing observedDigest phase same
  | mismatched observedDigest phase different =>
    exact mismatched_takes standing observedDigest phase different
  | unwritten detail phase => exact unwritten_takes standing detail phase
  | arm phase => exact arm_takes standing phase
  | boot phase remaining => exact boot_takes standing phase remaining
  | promote detail phase => exact promote_takes standing detail phase
  | retry _ result detail failure patient phase remaining =>
    exact retry_takes standing _ result detail failure patient phase remaining
  | exhaust _ result detail failure phase finished =>
    exact exhaust_takes standing _ result detail failure phase finished
  | abort detail phase => exact abort_takes standing detail phase
  | abortTrial detail phase => exact abortTrial_takes standing detail phase

end Runs

def Event.observedDigest : Event → Option String
  | .writeComplete observedDigest => some observedDigest
  | _ => none

-- The arguments no method raises a `ValueError` for.
def Event.Known : Event → Prop
  | .watchdogExpired _ expiryAction => expiryAction ∈ ["reboot", "reboot-to-fallback"]
  | _ => True

def Declined (machine : Machine) (event : Event) : Prop :=
  ∃ reason, (call event).run machine = .ok (machine.refuse event.name reason) machine

section Refusals

variable (machine : Machine)

theorem declined_of_offer (event : Event) (known : event.Known)
    (calm : event.rebootsToFallback = true → machine.phase ≠ .trying)
    (offered : ∃ reason, machine.offer event.name event.observedDigest =
      .ok (.inl (machine.refuse event.name reason))) :
    Declined machine event := by
  obtain ⟨reason, offered⟩ := offered
  refine ⟨reason, ?_⟩
  cases event with
  | watchdogExpired detail expiryAction =>
    have still : ¬ (expiryAction = "reboot-to-fallback" ∧ machine.phase = .trying) := by
      rintro ⟨rfl, trying⟩
      exact calm rfl trying
    have known : expiryAction ∈ ["reboot", "reboot-to-fallback"] := known
    simp only [call, watchdogExpired, known, not_true_eq_false, if_false, get_then, still,
      failAttempt]
    exact offer_then _ offered _
  | _ => exact offer_then _ offered _

theorem declined_unlisted (event : Event) (known : event.Known)
    (unlisted : index machine.phase event.name = [])
    (calm : event.rebootsToFallback = true → machine.phase ≠ .trying) :
    Declined machine event :=
  declined_of_offer machine event known calm
    (offer_unlisted machine event.name event.observedDigest unlisted)

theorem declined_elsewhere (event : Event) (known : event.Known) (source : Phase)
    (elsewhere : machine.phase ≠ source)
    (only : transitionTable.all (fun rule =>
      rule.event = event.name → rule.fromPhase = source) = true)
    (calm : event.rebootsToFallback = true → machine.phase ≠ .trying) :
    Declined machine event := by
  apply declined_unlisted machine event known _ calm
  simp only [List.all_eq_true, decide_eq_true_eq] at only
  refine List.filter_eq_nil_iff.mpr fun rule listed => ?_
  simp only [decide_eq_true_eq, not_and]
  intro standing named
  exact elsewhere (standing.symm.trans (only rule listed named))

theorem declined_terminal (event : Event) (known : event.Known)
    (terminal : machine.phase ∈ terminalPhases) : Declined machine event :=
  declined_of_offer machine event known
    (fun _ trying => by simp [trying, terminalPhases] at terminal)
    (offer_terminal machine event.name event.observedDigest terminal)

theorem unknown_raises (event : Event) (unknown : ¬ event.Known) :
    ∃ message, (call event).run machine = .error ⟨.valueError, message⟩ machine := by
  cases event with
  | watchdogExpired detail expiryAction =>
    have unknown : expiryAction ∉ ["reboot", "reboot-to-fallback"] := unknown
    exact ⟨_, by simp only [call, watchdogExpired, unknown, not_false_eq_true, if_true]; rfl⟩
  | _ => exact absurd trivial unknown

variable {machine} {fallback : SlotLabel} (standing : Standing fallback machine)
include standing

theorem boot_declined (phase : machine.phase = .armed)
    (spent : ¬ 0 < (machine.slots.get fallback.other).triesRemaining) :
    Declined machine .bootAttempt := by
  have offered := offer_unguarded machine .bootAttempt none .armed .trying phase
    (by decide) (by decide)
  have candidate := (standing.roles (by simp [phase])).candidate_ok
  have none_left : (machine.slots.get fallback.other).triesRemaining ≤ 0 := by omega
  refine ⟨"candidate has no attempts remaining", ?_⟩
  simp only [call, bootAttempt, offer_then _ offered, get_then, candidate_then _ candidate,
    none_left, if_true]
  rfl

theorem failure_declined (event : Event) (known : event.Known)
    (listed : index .trying event.name =
      [⟨event.name, .trying, .armed, some "tries_remain"⟩,
        ⟨event.name, .trying, .refused, some "tries_exhausted"⟩])
    (patient : event.rebootsToFallback = false) (phase : machine.phase = .trying)
    (spent : ¬ 0 < (machine.slots.get fallback.other).triesRemaining)
    (notOver : (machine.slots.get fallback.other).triesRemaining ≠ 0) :
    Declined machine event := by
  -- Neither guard holds of a negative count.
  have candidate := (standing.roles (by simp [phase])).candidate_ok
  have resolved := resolve_failure machine event.name event.observedDigest _ phase listed candidate
  rw [if_neg spent, if_neg notOver] at resolved
  exact declined_of_offer machine event known (by simp [patient])
    (offer_unresolved machine event.name event.observedDigest resolved)

theorem declined_of_no_edge (event : Event) (known : event.Known)
    (stuck : ¬ ∃ fellBackTo after, Edge fallback machine event fellBackTo after) :
    Declined machine event := by
  have elsewhere (source : Phase) (edge : machine.phase = source →
      ∃ fellBackTo after, Edge fallback machine event fellBackTo after) :
      machine.phase ≠ source := fun phase => stuck (edge phase)
  cases event with
  | begin payloadDigest payloadRef version =>
    have idle := elsewhere .idle fun phase => ⟨_, _, .begin _ _ _ phase⟩
    exact declined_elsewhere machine _ known .idle idle rfl (by simp [Event.rebootsToFallback])
  | writeComplete observedDigest =>
    have writing := elsewhere .writing fun phase => by
      by_cases same : observedDigest = machine.candidateDigest
      · exact ⟨_, _, .verified _ phase same⟩
      · exact ⟨_, _, .mismatched _ phase same⟩
    exact declined_elsewhere machine _ known .writing writing rfl (by simp [Event.rebootsToFallback])
  | writeFailed detail =>
    have writing := elsewhere .writing fun phase => ⟨_, _, .unwritten _ phase⟩
    exact declined_elsewhere machine _ known .writing writing rfl (by simp [Event.rebootsToFallback])
  | arm =>
    have candidateReady := elsewhere .candidateReady fun phase => ⟨_, _, .arm phase⟩
    exact declined_elsewhere machine _ known .candidateReady candidateReady rfl (by simp [Event.rebootsToFallback])
  | bootAttempt =>
    by_cases armed : machine.phase = .armed
    · exact boot_declined standing armed fun remaining => stuck ⟨_, _, .boot armed remaining⟩
    · exact declined_elsewhere machine _ known .armed armed rfl (by simp [Event.rebootsToFallback])
  | probePass detail =>
    have trying := elsewhere .trying fun phase => ⟨_, _, .promote _ phase⟩
    exact declined_elsewhere machine _ known .trying trying rfl (by simp [Event.rebootsToFallback])
  | probeFail detail =>
    by_cases trying : machine.phase = .trying
    · exact failure_declined standing _ known rfl rfl trying
        (fun remaining => stuck ⟨_, _, .retry _ _ _ (.probe _) rfl trying remaining⟩)
        (fun finished => stuck ⟨_, _, .exhaust _ _ _ (.probe _) trying (.inr finished)⟩)
    · exact declined_elsewhere machine _ known .trying trying rfl (by simp [Event.rebootsToFallback])
  | watchdogExpired detail expiryAction =>
    by_cases trying : machine.phase = .trying
    · have failure := Failure.watchdog detail expiryAction known
      by_cases hasty : (Event.watchdogExpired detail expiryAction).rebootsToFallback = true
      · exact (stuck ⟨_, _, .exhaust _ _ _ failure trying (.inl hasty)⟩).elim
      have patient := Bool.eq_false_iff.mpr hasty
      exact failure_declined standing _ known rfl patient trying
        (fun remaining => stuck ⟨_, _, .retry _ _ _ failure patient trying remaining⟩)
        (fun finished => stuck ⟨_, _, .exhaust _ _ _ failure trying (.inr finished)⟩)
    · exact declined_elsewhere machine _ known .trying trying rfl fun _ => trying
  | operatorAbort detail =>
    by_cases terminal : machine.phase ∈ terminalPhases
    · exact declined_terminal machine _ known terminal
    · have idle : machine.phase = .idle := by
        cases phase : machine.phase with
        | idle => rfl
        | writing => exact (stuck ⟨_, _, .abort _ (.inl phase)⟩).elim
        | candidateReady => exact (stuck ⟨_, _, .abort _ (.inr (.inl phase))⟩).elim
        | armed => exact (stuck ⟨_, _, .abort _ (.inr (.inr phase))⟩).elim
        | trying => exact (stuck ⟨_, _, .abortTrial _ phase⟩).elim
        | promoted | rolledBack | refused => simp [phase, terminalPhases] at terminal
      exact declined_unlisted machine _ known (by rw [idle]; rfl) (by simp [Event.rebootsToFallback])

end Refusals

/-- Every call of an event method: a refusal, a `ValueError`, or one edge. -/
theorem call_cases (machine : Machine) (fallback : SlotLabel)
    (standing : Standing fallback machine) (event : Event) :
    Declined machine event ∨
    (¬ event.Known ∧
      ∃ message, (call event).run machine = .error ⟨.valueError, message⟩ machine) ∨
    (event.Known ∧ ∃ fellBackTo after, Edge fallback machine event fellBackTo after ∧
      Takes machine event fellBackTo after) := by
  by_cases known : event.Known
  · by_cases admitted : ∃ fellBackTo after, Edge fallback machine event fellBackTo after
    · obtain ⟨fellBackTo, after, edge⟩ := admitted
      exact .inr (.inr ⟨known, fellBackTo, after, edge, edge_takes standing edge⟩)
    · exact .inl (declined_of_no_edge standing event known admitted)
  · exact .inr (.inl ⟨known, unknown_raises machine event known⟩)

end SourceosBoot.AbUpdate
