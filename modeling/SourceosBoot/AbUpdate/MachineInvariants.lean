import Mathlib.Tactic.Common
import SourceosBoot.AbUpdate.MachineRuns

set_option autoImplicit false

-- The clauses of `_assert_invariants` are not closed under the transitions. `Stage` says what each
-- phase knows about the two slots, `Fit` what the starting pair must bring along; together they
-- imply every clause, and both survive every edge.

namespace SourceosBoot.AbUpdate

open Python Transition

structure Checked (machine : Machine) : Prop where
  preserved : ∀ label ∈ machine.fromSlot,
    (machine.slots.get label).payloadDigest = some machine.preservedDigest ∧
      (machine.slots.get label).successful = true
  oneRunning : machine.slots.values.countP (fun slot => slot.currentlyRunning) = 1
  oneActive : machine.slots.values.countP (fun slot => slot.role = .active) = 1
  writesCandidate : ∀ label, (machine.slots.get label).state = .writing →
    (machine.slots.get label).role = .candidate
  unselectable : ∀ label, (machine.slots.get label).state = .unbootable →
    (machine.slots.get label).bootPriority = 0
  trial : machine.phase = .armed ∨ machine.phase = .trying →
    ∃ candidate active, machine.candidate = .ok candidate ∧ machine.active = .ok active ∧
      active.bootPriority < candidate.bootPriority ∧ 1 ≤ active.bootPriority

theorem SlotTable.forall_values (slots : SlotTable) (holds : SlotState → Prop) :
    (∀ slot ∈ slots.values, holds slot) ↔ ∀ label, holds (slots.get label) := by
  refine ⟨fun each label => each _ ?_, fun each slot listed => ?_⟩
  · rcases SlotLabel.eq_or_other label slots.first with rfl | rfl <;> simp [SlotTable.values]
  · simp only [SlotTable.values, List.mem_cons, List.not_mem_nil, or_false] at listed
    rcases listed with rfl | rfl <;> exact each _

theorem SlotTable.count_one (slots : SlotTable) (wanted : SlotState → Bool) (label : SlotLabel) :
    slots.values.countP wanted = 1 ↔
      wanted (slots.get label) = !wanted (slots.get label.other) := by
  rcases SlotLabel.eq_or_other label slots.first with same | same <;>
    cases first : wanted (slots.get slots.first) <;>
    cases second : wanted (slots.get slots.first.other) <;>
    simp [SlotTable.values, same, first, second]

theorem assertPreserved_ok (machine : Machine) :
    machine.assertPreserved = .ok () ↔ ∀ label ∈ machine.fromSlot,
      (machine.slots.get label).payloadDigest = some machine.preservedDigest ∧
        (machine.slots.get label).successful = true := by
  cases fromSlot : machine.fromSlot <;>
    simp [Machine.assertPreserved, fromSlot, then_ok]

theorem assertSlot_ok (slot : SlotState) :
    Machine.assertSlot slot = .ok () ↔
      (slot.state = .writing → slot.role = .candidate) ∧
        (slot.state = .unbootable → slot.bootPriority = 0) := by
  simp [Machine.assertSlot, then_ok]

theorem assertTrial_ok (machine : Machine) :
    machine.assertTrial = .ok () ↔ (machine.phase = .armed ∨ machine.phase = .trying →
      ∃ candidate active, machine.candidate = .ok candidate ∧ machine.active = .ok active ∧
        active.bootPriority < candidate.bootPriority ∧ 1 ≤ active.bootPriority) := by
  by_cases onTrial : machine.phase = .armed ∨ machine.phase = .trying
  · simp only [Machine.assertTrial, onTrial, if_true, bind_ok machine.candidate,
      bind_ok machine.active, then_ok, raiseWhen_ok, Int.not_le, Int.not_lt, forall_const]
    constructor
    · rintro ⟨candidate, found, active, known, order, usable⟩
      exact ⟨candidate, active, found, known, order, usable⟩
    · rintro ⟨candidate, active, found, known, order, usable⟩
      exact ⟨candidate, found, active, known, order, usable⟩
  · simp [Machine.assertTrial, onTrial]

theorem assertInvariants_ok (machine : Machine) :
    machine.assertInvariants = .ok () ↔ Checked machine := by
  simp only [Machine.assertInvariants, then_ok, forM_ok, raiseWhen_ok, assertPreserved_ok,
    assertTrial_ok, assertSlot_ok, SlotTable.forall_values, ne_eq, not_not]
  constructor
  · rintro ⟨preserved, oneRunning, oneActive, slots, trial⟩
    exact {
      preserved := preserved
      oneRunning := oneRunning
      oneActive := oneActive
      writesCandidate := fun label => (slots label).1
      unselectable := fun label => (slots label).2
      trial := trial }
  · intro checked
    exact ⟨checked.preserved, checked.oneRunning, checked.oneActive,
      fun label => ⟨checked.writesCandidate label, checked.unselectable label⟩, checked.trial⟩

def Phase.targetState : Phase → Lifecycle
  | .idle | .writing => .writing
  | .candidateReady | .armed => .written
  | .trying => .trying
  | .promoted => .good
  | .rolledBack | .refused => .unbootable

structure Stage (fallback : SlotLabel) (machine : Machine) : Prop where
  digest : machine.phase ≠ .idle →
    (machine.slots.get fallback.other).payloadDigest = some machine.candidateDigest
  state : machine.phase ≠ .idle →
    (machine.slots.get fallback.other).state = machine.phase.targetState
  successful : machine.phase ≠ .idle →
    ((machine.slots.get fallback.other).successful = true ↔ machine.phase = .promoted)
  trial : machine.phase = .armed ∨ machine.phase = .trying ∨ machine.phase = .promoted →
    (machine.slots.get fallback.other).bootPriority = armedCandidatePriority ∧
      (machine.slots.get fallback).bootPriority = armedActivePriority
  retired : machine.phase = .rolledBack ∨ machine.phase = .refused →
    (machine.slots.get fallback.other).bootPriority = 0 ∧
      (machine.slots.get fallback.other).triesRemaining = 0 ∧
      (machine.slots.get fallback).bootPriority = armedCandidatePriority
  armed : machine.phase = .armed → 0 < (machine.slots.get fallback.other).triesRemaining
  trying : machine.phase = .trying → 0 ≤ (machine.slots.get fallback.other).triesRemaining
  explained : machine.phase = .rolledBack ∨ machine.phase = .refused →
    ∃ text ∈ rollbackReasons, machine.rollbackReason = some text
  unexplained : machine.phase ≠ .rolledBack → machine.phase ≠ .refused →
    machine.rollbackReason = none
  away : machine.phase = .trying ∨ machine.phase = .promoted →
    (machine.slots.get fallback.other).currentlyRunning = true ∧
      (machine.slots.get fallback).currentlyRunning = false
  home : machine.phase = .rolledBack ∨ machine.phase = .refused →
    (machine.slots.get fallback).currentlyRunning = true
  budget : 1 ≤ machine.config.maxAttempts

theorem Initial.stage {fallback : SlotLabel} {machine : Machine}
    (initial : Initial fallback machine) : Stage fallback machine := by
  have idle := initial.idle
  have budget := initial.someAttempts
  have unexplained : machine.rollbackReason = none := by rw [initial.fresh]
  constructor <;> simp_all

theorem Edge.stage {fallback : SlotLabel} {machine after : Machine} {event : Event}
    {fellBackTo : Option SlotLabel} (edge : Edge fallback machine event fellBackTo after)
    (stage : Stage fallback machine) : Stage fallback after := by
  have budget := stage.budget
  cases edge with
  | begin _ _ _ phase =>
    have unexplained := stage.unexplained (by simp [phase]) (by simp [phase])
    constructor <;> simp [unexplained, budget, Phase.targetState]
  | verified _ phase =>
    have digest := stage.digest (by simp [phase])
    have successful := stage.successful (by simp [phase])
    have unexplained := stage.unexplained (by simp [phase]) (by simp [phase])
    constructor <;> simp [digest, successful, unexplained, budget, phase, Phase.targetState]
  | mismatched _ phase | unwritten _ phase =>
    have digest := stage.digest (by simp [phase])
    constructor <;> simp [digest, budget, Phase.targetState, rollbackReasons]
  | arm phase =>
    have digest := stage.digest (by simp [phase])
    have state := stage.state (by simp [phase])
    have unexplained := stage.unexplained (by simp [phase]) (by simp [phase])
    have attempts : 0 < machine.config.maxAttempts := by omega
    constructor <;> simp [digest, state, unexplained, attempts, budget, phase, Phase.targetState]
  | boot phase remaining =>
    have digest := stage.digest (by simp [phase])
    have successful := stage.successful (by simp [phase])
    have trial := stage.trial (by simp [phase])
    have unexplained := stage.unexplained (by simp [phase]) (by simp [phase])
    have left : 1 ≤ (machine.slots.get fallback.other).triesRemaining := by omega
    constructor <;> simp [digest, successful, trial, unexplained, budget, left, phase,
      Phase.targetState]
  | promote _ phase =>
    have digest := stage.digest (by simp [phase])
    have away := stage.away (by simp [phase])
    constructor <;> simp [digest, budget, away, armedCandidatePriority, armedActivePriority,
      Phase.targetState]
  | retry _ _ _ _ _ phase remaining =>
    have digest := stage.digest (by simp [phase])
    have successful := stage.successful (by simp [phase])
    have trial := stage.trial (by simp [phase])
    have unexplained := stage.unexplained (by simp [phase]) (by simp [phase])
    constructor <;> simp [digest, successful, trial, unexplained, budget, remaining, phase,
      Phase.targetState]
  | exhaust _ _ _ _ phase | abortTrial _ phase =>
    have digest := stage.digest (by simp [phase])
    constructor <;> simp [digest, budget, Phase.targetState, rollbackReasons]
  | abort _ phase =>
    have digest := stage.digest (abortable phase).1
    constructor <;> simp [digest, budget, Phase.targetState, rollbackReasons]

def OneRunning (fallback : SlotLabel) (machine : Machine) : Prop :=
  (machine.slots.get fallback).currentlyRunning =
    !(machine.slots.get fallback.other).currentlyRunning

/-- What the constructor does not ask for, but the check will. -/
structure Fit (fallback : SlotLabel) (machine : Machine) : Prop where
  digest : (machine.slots.get fallback).payloadDigest ≠ none
  notWriting : (machine.slots.get fallback).state ≠ .writing
  notUnbootable : (machine.slots.get fallback).state ≠ .unbootable
  oneRunning : OneRunning fallback machine

theorem Edge.oneRunning {fallback : SlotLabel} {machine after : Machine} {event : Event}
    {fellBackTo : Option SlotLabel} (edge : Edge fallback machine event fellBackTo after)
    (oneRunning : OneRunning fallback machine) : OneRunning fallback after := by
  unfold OneRunning at *
  cases edge <;> simp [oneRunning]

theorem Edge.fit {fallback : SlotLabel} {machine after : Machine} {event : Event}
    {fellBackTo : Option SlotLabel} (edge : Edge fallback machine event fellBackTo after)
    (fit : Fit fallback machine) : Fit fallback after where
  digest := edge.kept.payloadDigest ▸ fit.digest
  notWriting := edge.kept.state ▸ fit.notWriting
  notUnbootable := edge.kept.state ▸ fit.notUnbootable
  oneRunning := edge.oneRunning fit.oneRunning

def Pinned (fallback : SlotLabel) (machine : Machine) : Prop :=
  -- The digest the check compares is the one the fallback holds.
  machine.phase ≠ .idle →
    machine.preservedDigest = (machine.slots.get fallback).payloadDigest.getD ""

theorem Edge.pinned {fallback : SlotLabel} {machine after : Machine} {event : Event}
    {fellBackTo : Option SlotLabel} (edge : Edge fallback machine event fellBackTo after)
    (pinned : Pinned fallback machine) : Pinned fallback after := by
  unfold Pinned at *
  cases edge with
  | abort _ phase => rcases phase with phase | phase | phase <;> simp_all
  | _ => simp_all

structure Sound (fallback : SlotLabel) (machine : Machine) : Prop where
  standing : Standing fallback machine
  stage : Stage fallback machine
  pinned : Pinned fallback machine
  successful : (machine.slots.get fallback).successful = true
  fit : Fit fallback machine

theorem Initial.sound {fallback : SlotLabel} {machine : Machine}
    (initial : Initial fallback machine) (fit : Fit fallback machine) : Sound fallback machine where
  standing := initial.standing
  stage := initial.stage
  pinned := fun opened => absurd initial.idle opened
  successful := initial.successful
  fit := fit

theorem Edge.sound {fallback : SlotLabel} {machine after : Machine} {event : Event}
    {fellBackTo : Option SlotLabel} (edge : Edge fallback machine event fellBackTo after)
    (sound : Sound fallback machine) : Sound fallback after where
  standing := edge.standing sound.standing
  stage := edge.stage sound.stage
  pinned := edge.pinned sound.pinned
  successful := edge.kept.successful.trans sound.successful
  fit := edge.fit sound.fit

theorem Sound.checked {fallback : SlotLabel} {machine : Machine} (sound : Sound fallback machine)
    (opened : machine.phase ≠ .idle) : Checked machine := by
  obtain ⟨standing, stage, pinned, successful, fit⟩ := sound
  obtain ⟨fromSlot, toSlot⟩ := standing.opened opened
  have target := stage.state opened
  constructor
  case preserved =>
    intro label named
    obtain rfl : fallback = label := by simpa [fromSlot] using named
    obtain ⟨digest, held⟩ := Option.ne_none_iff_exists'.mp fit.digest
    exact ⟨by simp [pinned opened, held], successful⟩
  case oneRunning => exact (machine.slots.count_one _ fallback).mpr fit.oneRunning
  case oneActive =>
    rw [machine.slots.count_one _ fallback]
    by_cases promoted : machine.phase = .promoted
    · obtain ⟨active, candidate⟩ := standing.swapped promoted
      rw [SlotLabel.other_other] at candidate
      simp [active, candidate]
    · obtain ⟨active, candidate⟩ := standing.roles promoted
      simp [active, candidate]
  case writesCandidate =>
    intro label writing
    rcases SlotLabel.eq_or_other label fallback with rfl | rfl
    · exact absurd writing fit.notWriting
    · refine (standing.roles fun promoted => ?_).candidate
      simp [target, promoted, Phase.targetState] at writing
  case unselectable =>
    intro label unbootable
    rcases SlotLabel.eq_or_other label fallback with rfl | rfl
    · exact absurd unbootable fit.notUnbootable
    · refine (stage.retired ?_).1
      revert opened
      cases phase : machine.phase <;> simp_all [Phase.targetState]
  case trial =>
    intro onTrial
    have roles := standing.roles (by rcases onTrial with phase | phase <;> simp [phase])
    obtain ⟨candidate, active⟩ := stage.trial (onTrial.elim .inl (.inr ∘ .inl))
    refine ⟨_, _, roles.candidate_ok, roles.active_ok, ?_, ?_⟩
    · rw [candidate, active]
      decide
    · rw [active]
      decide

theorem run_sound {fallback : SlotLabel} {machine : Machine} (sound : Sound fallback machine)
    (events : List Event) : Sound fallback (device.run machine events) :=
  (run_edges (Sound fallback) (fun _ sound edge => edge.sound sound) sound.standing sound events).2

theorem Sound.answers {fallback : SlotLabel} {machine : Machine} (sound : Sound fallback machine)
    (event : Event) :
    (∃ result, device.step machine event = (.ok result, machine) ∧ result.allowed = false) ∨
    (∃ message, ¬ event.Known ∧
      device.step machine event = (.error ⟨.valueError, message⟩, machine)) ∨
    ∃ fellBackTo after reason, event.Known ∧ Edge fallback machine event fellBackTo after ∧
      device.step machine event = (.ok (accepted machine after event fellBackTo reason), after) := by
  cases step_answered sound.standing event with
  | declined result refused step => exact .inl ⟨result, step, refused⟩
  | unknown message unknown step => exact .inr (.inl ⟨message, unknown, step⟩)
  | taken known fellBackTo after edge takes =>
    have passes := (assertInvariants_ok after).mpr ((edge.sound sound).checked edge.leaves_idle)
    obtain ⟨reason, step⟩ := takes.passes passes
    exact .inr (.inr ⟨fellBackTo, after, reason, known, edge, step⟩)

end SourceosBoot.AbUpdate
