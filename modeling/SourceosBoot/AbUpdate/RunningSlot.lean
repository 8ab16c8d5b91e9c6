import SourceosBoot.AbUpdate.ContractPairs

set_option autoImplicit false

-- The write target is found by its role. Whether it is also the slot that runs is a matter of the
-- starting pair: a device restarted during a trial runs its candidate.

namespace SourceosBoot.AbUpdate

open Python Transition

structure SparesRunning (machine : Machine) : Prop where
  writing : ∀ events label,
    ((device.run machine events).slots.get label).state = .writing →
      ((device.run machine events).slots.get label).currentlyRunning = false
  payload : ∀ events payloadDigest payloadRef version result after label,
    device.step (device.run machine events) (.begin payloadDigest payloadRef version) =
      (.ok result, after) → result.allowed = true →
    ((device.run machine events).slots.get label).currentlyRunning = true →
    (after.slots.get label).payloadDigest =
      ((device.run machine events).slots.get label).payloadDigest

-- The candidate stands still, and the slot fallen back to is not half written.
structure Restful (machine : Machine) : Prop where
  candidate : ∀ label, (machine.slots.get label).role = .candidate →
    (machine.slots.get label).currentlyRunning = false
  active : ∀ label, (machine.slots.get label).role = .active →
    (machine.slots.get label).state ≠ .writing

structure Spared (fallback : SlotLabel) (machine : Machine) : Prop where
  active : (machine.slots.get fallback).state ≠ .writing
  target : (machine.slots.get fallback.other).state = .writing →
    (machine.slots.get fallback.other).currentlyRunning = false
  unopened : machine.phase = .idle → (machine.slots.get fallback.other).currentlyRunning = false

theorem Edge.spared {fallback : SlotLabel} {machine after : Machine} {event : Event}
    {fellBackTo : Option SlotLabel} (edge : Edge fallback machine event fellBackTo after)
    (spared : Spared fallback machine) : Spared fallback after := by
  have kept := edge.kept.state ▸ spared.active
  have target := spared.target
  have unopened := spared.unopened
  constructor
  · exact kept
  · cases edge <;> simp_all
  · intro idle
    exact absurd idle edge.leaves_idle

theorem Initial.spared {fallback : SlotLabel} {machine : Machine}
    (initial : Initial fallback machine) (restful : Restful machine) : Spared fallback machine where
  active := restful.active fallback initial.roles.active
  target := fun _ => restful.candidate fallback.other initial.roles.candidate
  unopened := fun _ => restful.candidate fallback.other initial.roles.candidate

theorem run_spared {fallback : SlotLabel} {machine : Machine}
    (initial : Initial fallback machine) (restful : Restful machine) (events : List Event) :
    Standing fallback (device.run machine events) ∧ Spared fallback (device.run machine events) :=
  run_edges (Spared fallback) (fun _ spared edge => edge.spared spared) initial.standing
    (initial.spared restful) events

theorem Initial.spares_running {fallback : SlotLabel} {machine : Machine}
    (initial : Initial fallback machine) (restful : Restful machine) : SparesRunning machine where
  writing := by
    intro events label writing
    have spared := (run_spared initial restful events).2
    rcases SlotLabel.eq_or_other label fallback with rfl | rfl
    · exact absurd writing spared.active
    · exact spared.target writing
  payload := by
    intro events payloadDigest payloadRef version result after label step allowed running
    have ⟨standing, spared⟩ := run_spared initial restful events
    cases step_answered standing (.begin payloadDigest payloadRef version) with
    | declined refusal refused declined =>
      simp_all
    | unknown _ unknown => exact absurd trivial unknown
    | taken _ _ written edge takes =>
      have left := takes.left
      rw [step] at left
      subst left
      -- The edge of `begin` starts in the phase idle, where only the fallback runs.
      rcases SlotLabel.eq_or_other label fallback with rfl | rfl
      · exact edge.kept.payloadDigest
      · have idle : (device.run machine events).phase = .idle := by
          cases edge with
          | begin _ _ _ phase => exact phase
          | retry _ _ _ failure => nomatch failure
          | exhaust _ _ _ failure => nomatch failure
        simp [spared.unopened idle] at running

theorem Initial.restful {fallback : SlotLabel} {machine : Machine}
    (initial : Initial fallback machine) (law : SparesRunning machine) : Restful machine := by
  have opening : Edge fallback machine (.begin "" none none) none _ := .begin "" none none initial.idle
  have standing := opening.standing initial.standing
  have opened : device.run machine [.begin "" none none] = machine.opened fallback "" none none :=
    (edge_takes initial.standing opening).left
  constructor
  · intro label candidate
    rcases SlotLabel.eq_or_other label fallback with rfl | rfl
    · simp [initial.roles.active] at candidate
    · have still := law.writing [.begin "" none none] fallback.other
      simpa [opened] using still
  · intro label active writing
    rcases SlotLabel.eq_or_other label fallback with rfl | rfl
    · -- A failed write sets the fallback running and leaves its state as it was.
      have failing := @Edge.unwritten label (machine.opened label "" none none) "" rfl
      have failed : device.run machine [.begin "" none none, .writeFailed ""] = _ :=
        (congrArg (fun later => device.run later [.writeFailed ""]) opened).trans
          (edge_takes standing failing).left
      have still := law.writing [.begin "" none none, .writeFailed ""] label
      simp [failed, writing] at still
    · simp [initial.roles.candidate] at active

theorem running_slot_spared_iff (config : Configuration) (items : List (String × SlotState))
    (machine : Machine) (built : Machine.postInit config items = .ok machine) :
    SparesRunning machine ↔ Restful machine := by
  have ⟨_, initial⟩ := postInit_initial config items machine built
  exact ⟨initial.restful, initial.spares_running⟩

theorem running_slot_spared_iff_fixture : SparesRunning fixtureMachine ↔ Restful fixtureMachine :=
  running_slot_spared_iff fixtureConfiguration _ fixtureMachine fixtureMachine_built

def trialMachine : Machine :=
  device.run exampleMachine
    [.begin badDigest none none, .writeComplete badDigest, .arm, .bootAttempt]

def restartedMachine : Machine where
  config := exampleMachine.config
  slots := .ofPair (trialMachine.slots.get .A) (trialMachine.slots.get .B) rfl

set_option maxRecDepth 4000 in
/-- Rebuilt from the documents of a trial, the machine writes to the slot it is running. -/
theorem restarted_trial_writes_running :
    machineFromSlotDocuments (trialMachine.toSlotDocuments Char.isAlphanum) exampleArguments =
        .ok (some restartedMachine) ∧
      ¬ SparesRunning restartedMachine := by
  refine ⟨rfl, ?_⟩
  intro law
  exact absurd (law.writing [.begin goodDigest none none] .B (by decide +kernel)) (by decide +kernel)

end SourceosBoot.AbUpdate
