import SourceosBoot.AbUpdate.MachineInvariants

set_option autoImplicit false

-- Every handler writes first and checks last, so what an `InvariantViolation` finds stays written.

namespace SourceosBoot.AbUpdate

open Python Transition

theorem assertInvariants_raises {fallback : SlotLabel} {machine : Machine}
    (standing : Standing fallback machine) :
    RaisesOnly invariantViolation machine.assertInvariants := by
  refine .bind ?_ fun _ _ => .bind (.raiseWhen _ _) fun _ _ => .bind (.raiseWhen _ _) fun _ _ =>
    .bind (.forM fun slot => .bind (.raiseWhen _ _) fun _ _ => .raiseWhen _ _) fun _ _ => ?_
  · unfold Machine.assertPreserved
    cases machine.fromSlot with
    | none => exact .ok ()
    | some label => exact .bind (.raiseWhen _ _) fun _ _ => .raiseWhen _ _
  · by_cases onTrial : machine.phase = .armed ∨ machine.phase = .trying
    · have roles := standing.roles (by rcases onTrial with phase | phase <;> simp [phase])
      rw [Machine.assertTrial, if_pos onTrial, roles.candidate_ok, roles.active_ok]
      exact .bind (.ok _) fun _ _ => .bind (.ok _) fun _ _ =>
        .bind (.raiseWhen _ _) fun _ _ => .raiseWhen _ _
    · rw [Machine.assertTrial, if_neg onTrial]
      exact .ok ()

theorem step_raises {fallback : SlotLabel} {machine after : Machine}
    (standing : Standing fallback machine) (event : Event) (raised : Raised)
    (step : device.step machine event = (.error raised, after)) :
    (raised.cls = .valueError ∧ after = machine) ∨
    (raised.cls = invariantViolation ∧ after.assertInvariants = .error raised) := by
  cases step_answered standing event with
  | declined result refused answered => simp [step] at answered
  | unknown message unknown answered =>
    obtain ⟨rfl, rfl⟩ : raised = ⟨.valueError, message⟩ ∧ after = machine := by
      simpa [step] using answered
    exact .inl ⟨rfl, rfl⟩
  | taken known fellBackTo written edge takes =>
    cases verdict : written.assertInvariants with
    | ok _ =>
      obtain ⟨reason, passed⟩ := takes.passes verdict
      simp [step] at passed
    | error found =>
      have stopped := takes.raises found verdict
      obtain ⟨rfl, rfl⟩ : raised = found ∧ after = written := by simpa [step] using stopped
      exact .inr ⟨assertInvariants_raises (edge.standing standing) raised verdict, verdict⟩

def RaisesUnchanged (classes : List ExceptionClass) (machine : Machine) : Prop :=
  ∀ events event raised,
    (device.step (device.run machine events) event).1 = .error raised → raised.cls ∈ classes →
      (device.step (device.run machine events) event).2 = device.run machine events

def FitPair (machine : Machine) : Prop :=
  -- The starting pair the check will accept, whichever slot is the active one.
  ∀ fallback, (machine.slots.get fallback).role = .active → Fit fallback machine

theorem valueError_unchanged {fallback : SlotLabel} {machine : Machine}
    (standing : Standing fallback machine) : RaisesUnchanged [.valueError] machine := by
  intro events event raised answered listed
  have valueError : raised.cls = .valueError := List.mem_singleton.mp listed
  rcases step_raises (run_standing standing events) event raised (Prod.ext answered rfl) with
    ⟨_, unchanged⟩ | ⟨violation, _⟩
  · exact unchanged
  · exact absurd (valueError.symm.trans violation) (by decide)

theorem Sound.unchanged {fallback : SlotLabel} {machine : Machine} (sound : Sound fallback machine)
    (classes : List ExceptionClass) : RaisesUnchanged classes machine := by
  intro events event raised answered _
  rcases (run_sound sound events).answers event with
    ⟨result, step, _⟩ | ⟨message, _, step⟩ | ⟨_, after, reason, _, _, step⟩
  · simp [step]
  · simp [step]
  · simp [step] at answered

theorem RaisesUnchanged.checked {fallback : SlotLabel} {machine after : Machine}
    {classes : List ExceptionClass} (unchanged : RaisesUnchanged classes machine)
    (violations : invariantViolation ∈ classes) (standing : Standing fallback machine)
    (events : List Event) (event : Event) (fellBackTo : Option SlotLabel)
    (edge : Edge fallback (device.run machine events) event fellBackTo after)
    (moved : after.phase ≠ (device.run machine events).phase) : Checked after := by
  -- An edge that moves to another phase without a raise has passed the check.
  have standing := run_standing standing events
  have takes := edge_takes standing edge
  rw [← assertInvariants_ok]
  cases verdict : after.assertInvariants with
  | ok _ => rfl
  | error raised =>
    have step := takes.raises raised verdict
    have violation := assertInvariants_raises (edge.standing standing) raised verdict
    have same := unchanged events event raised (by rw [step]) (violation ▸ violations)
    rw [step] at same
    exact absurd (congrArg Machine.phase same) moved

theorem fit_of_unchanged {fallback : SlotLabel} {machine : Machine}
    (initial : Initial fallback machine) (classes : List ExceptionClass)
    (violations : invariantViolation ∈ classes) (unchanged : RaisesUnchanged classes machine) :
    Fit fallback machine := by
  have standing := initial.standing
  -- `begin` meets every clause but the one on priorities, `write_failed` then meets that one.
  have begin := @Edge.begin fallback _ "" none none initial.idle
  have opened := unchanged.checked violations standing [] _ _ begin (by simp [initial.idle])
  obtain ⟨held, _⟩ := opened.preserved fallback rfl
  have begun : device.run machine [.begin "" none none] = machine.opened fallback "" none none :=
    (edge_takes standing begin).left
  have unwritten : Edge fallback (device.run machine [.begin "" none none]) (.writeFailed "") _ _ :=
    .unwritten "" (by rw [begun]; rfl)
  have retired := unchanged.checked violations standing _ _ _ unwritten (by rw [begun]; simp)
  rw [begun] at retired
  constructor
  case digest =>
    intro missing
    simp [missing] at held
  case notWriting =>
    intro writing
    have role := opened.writesCandidate fallback (by simpa using writing)
    simp [initial.roles.active] at role
  case notUnbootable =>
    intro unbootable
    have priority := retired.unselectable fallback (by simpa using unbootable)
    simp [armedCandidatePriority] at priority
  case oneRunning =>
    have running := (SlotTable.count_one _ _ fallback).mp opened.oneRunning
    simpa [OneRunning] using running

/--
A `ValueError` always leaves the machine as it was. An `InvariantViolation` does
exactly for the starting pairs the check accepts, and none is raised for them;
for the others it leaves the state that failed the check.
-/
theorem raising_event_leaves_machine (config : Configuration) (items : List (String × SlotState))
    (machine : Machine) (built : Machine.postInit config items = .ok machine) :
    RaisesUnchanged [.valueError] machine ∧
    (RaisesUnchanged [invariantViolation, .valueError] machine ↔ FitPair machine) ∧
    ∀ events event raised,
      (device.step (device.run machine events) event).1 = .error raised →
      raised.cls = invariantViolation →
      (device.step (device.run machine events) event).2.assertInvariants = .error raised ∧
        ¬ FitPair machine := by
  obtain ⟨fallback, initial⟩ := postInit_initial config items machine built
  have fitted : FitPair machine ↔ Fit fallback machine := by
    refine ⟨fun fit => fit fallback initial.roles.active, fun fit label active => ?_⟩
    rcases SlotLabel.eq_or_other label fallback with rfl | rfl
    · exact fit
    · simp [initial.roles.candidate] at active
  refine ⟨valueError_unchanged initial.standing, ⟨fun unchanged => ?_, fun fit => ?_⟩, ?_⟩
  · exact fitted.mpr (fit_of_unchanged initial _ (by simp) unchanged)
  · exact (initial.sound (fitted.mp fit)).unchanged _
  · intro events event raised answered violation
    refine ⟨?_, fun fit => ?_⟩
    · rcases step_raises (run_standing initial.standing events) event raised (Prod.ext answered rfl)
        with ⟨valueError, _⟩ | ⟨_, verdict⟩
      · exact absurd (violation.symm.trans valueError) (by decide)
      · exact verdict
    · rcases (run_sound (initial.sound (fitted.mp fit)) events).answers event with
        ⟨result, step, _⟩ | ⟨message, _, step⟩ | ⟨_, _, _, _, _, step⟩
      · simp [step] at answered
      · obtain rfl : raised = ⟨.valueError, message⟩ := by simpa [step] using answered.symm
        exact absurd (show ExceptionClass.valueError = invariantViolation from violation) (by decide)
      · simp [step] at answered

theorem raising_event_leaves_machine_fixture :
    RaisesUnchanged [.valueError] fixtureMachine ∧
    (RaisesUnchanged [invariantViolation, .valueError] fixtureMachine ↔ FitPair fixtureMachine) ∧
    ∀ events event raised,
      (device.step (device.run fixtureMachine events) event).1 = .error raised →
      raised.cls = invariantViolation →
      (device.step (device.run fixtureMachine events) event).2.assertInvariants = .error raised ∧
        ¬ FitPair fixtureMachine :=
  raising_event_leaves_machine fixtureConfiguration _ fixtureMachine fixtureMachine_built

theorem raising_begin_stays_open :
    ¬ ∀ config items machine, Machine.postInit config items = .ok machine →
      RaisesUnchanged [invariantViolation, .valueError] machine := by
  -- With no slot running, `begin` raises after it has opened the transaction.
  intro claimed
  have unchanged := claimed fixtureConfiguration
    [("A", { provenSlot with currentlyRunning := false }), ("B", emptySlot)] _ rfl
    [] (.begin badDigest none none)
    ⟨invariantViolation, "exactly one slot may be currently running"⟩ rfl (by decide)
  exact absurd (congrArg Machine.phase unchanged) (by decide)

end SourceosBoot.AbUpdate
