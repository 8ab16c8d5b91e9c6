import SourceosBoot.Rollback.RollbackExecutor

set_option autoImplicit false

-- A command that cannot be run at all takes the report with it, and a plan without commands is
-- reported as applied.

namespace SourceosBoot.Rollback

open Python

def ProcessEnd.exitedZero : ProcessEnd → Bool
  | .completed returncode _ _ => returncode = 0
  | _ => false

def ProcessEnd.isRaised : ProcessEnd → Bool
  | .raised _ => true
  | _ => false

def ProcessEnd.status : ProcessEnd → StepStatus
  | .completed returncode _ _ => if returncode = 0 then .ok else .failed
  | .timeoutExpired => .timeout
  | .raised _ => .failed

namespace RollbackExecutor

variable (self : RollbackExecutor) (host : Host)

def ends (launched : List Launch) : List String → List ProcessEnd
  | [] => []
  | step :: rest => host.shell launched (self.launch step) ::
      ends (launched ++ [self.launch step]) rest

def ReportsTruthfully (plan : AsahiRollbackPlan) (session : Session) : Prop :=
  ∃ result later, (self.execute host plan false).run session = .ok result later ∧
    result.steps.map (·.step) = plan.commands ∧
    result.steps.map (·.status) =
      (self.ends host session.launched plan.commands).map ProcessEnd.status ∧
    (result.outcome = .applied ↔ plan.commands ≠ [] ∧
      ∀ ended ∈ self.ends host session.launched plan.commands, ended.exitedZero = true) ∧
    (result.outcome = .applied ∨ result.outcome = .failed)

section Step

variable {self host} {session : Session} {step : String}

theorem runStep_reports
    (returned : (host.shell session.launched (self.launch step)).isRaised = false) :
    ∃ result, (self.runStep host step).run session =
        .ok result { session with launched := session.launched ++ [self.launch step] } ∧
      result.step = step ∧
      result.status = (host.shell session.launched (self.launch step)).status := by
  rw [runStep, get_then]
  simp only [EStateM.run_bind, EStateM.run_set]
  cases ended : host.shell session.launched (self.launch step) with
  | completed | timeoutExpired => exact ⟨_, rfl, rfl, rfl⟩
  | raised => simp [ended, ProcessEnd.isRaised] at returned

theorem runStep_raises
    (raised : (host.shell session.launched (self.launch step)).isRaised = true) :
    ∃ exception later, (self.runStep host step).run session = .error exception later := by
  rw [runStep, get_then]
  simp only [EStateM.run_bind, EStateM.run_set]
  cases ended : host.shell session.launched (self.launch step) with
  | raised exception => exact ⟨_, _, rfl⟩
  | _ => simp [ended, ProcessEnd.isRaised] at raised

end Step

theorem ProcessEnd.status_ok (ended : ProcessEnd) :
    ended.status = .ok ↔ ended.exitedZero = true := by
  cases ended <;> simp [ProcessEnd.status, ProcessEnd.exitedZero]

theorem runSteps_reports (steps : List String) (results : List RollbackStepResult)
    (overallOk : Bool) (session : Session)
    (returned : ∀ ended ∈ self.ends host session.launched (steps.filter (!isComment ·)),
      ended.isRaised = false) :
    ∃ reported later, (self.runSteps host false steps results overallOk).run session =
        .ok (results ++ reported,
          overallOk && reported.all (fun result => decide (result.status = .ok))) later ∧
      reported.map (·.step) = steps.filter (!isComment ·) ∧
      reported.map (·.status) =
        (self.ends host session.launched (steps.filter (!isComment ·))).map ProcessEnd.status := by
  induction steps generalizing results overallOk session with
  | nil => exact ⟨[], session, by simp [runSteps], rfl, rfl⟩
  | cons step rest ih =>
    by_cases comment : isComment step = true
    · rw [List.filter_cons_of_neg (by simpa using comment)] at returned ⊢
      simpa only [runSteps, if_pos comment] using ih results overallOk session returned
    · rw [List.filter_cons_of_pos (by simpa using comment)] at returned ⊢
      rw [ends, List.forall_mem_cons] at returned
      obtain ⟨result, ran, named, told⟩ := runStep_reports returned.1
      obtain ⟨reported, later, ended, names, statuses⟩ :=
        ih (results ++ [result]) (overallOk && result.status = .ok)
          { session with launched := session.launched ++ [self.launch step] } returned.2
      refine ⟨result :: reported, later, ?_, by rw [List.map_cons, named, names],
        by rw [ends, List.map_cons, List.map_cons, told, statuses]⟩
      rw [runSteps, if_neg comment, if_neg (by decide), run_then ran, ended]
      simp [Bool.and_assoc]

theorem runSteps_raises (steps : List String) (results : List RollbackStepResult)
    (overallOk : Bool) (session : Session)
    (raised : ∃ ended ∈ self.ends host session.launched (steps.filter (!isComment ·)),
      ended.isRaised = true) :
    ∃ exception later, (self.runSteps host false steps results overallOk).run session =
      .error exception later := by
  induction steps generalizing results overallOk session with
  | nil => simp [ends] at raised
  | cons step rest ih =>
    by_cases comment : isComment step = true
    · rw [List.filter_cons_of_neg (by simpa using comment)] at raised
      simpa only [runSteps, if_pos comment] using ih results overallOk session raised
    · rw [List.filter_cons_of_pos (by simpa using comment), ends, List.exists_mem_cons_iff]
        at raised
      rw [runSteps, if_neg comment, if_neg (by decide)]
      cases now : (host.shell session.launched (self.launch step)).isRaised with
      | true =>
        obtain ⟨exception, later, ran⟩ := runStep_raises now
        exact ⟨exception, later, run_raised ran _⟩
      | false =>
        obtain ⟨result, ran, _⟩ := runStep_reports now
        rw [run_then ran]
        exact ih _ _ _ (raised.resolve_left (by simp [now]))

section Execute

variable {self host} {plan : AsahiRollbackPlan} (allowed : plan.allowed = true) (session : Session)
include allowed

theorem execute_reports
    (returned : ∀ ended ∈ self.ends host session.launched plan.commands, ended.isRaised = false) :
    ∃ result later, (self.execute host plan false).run session = .ok result later ∧
      result.steps.map (·.step) = plan.commands ∧
      result.steps.map (·.status) =
        (self.ends host session.launched plan.commands).map ProcessEnd.status ∧
      result.outcome = if (self.ends host session.launched plan.commands).all
        ProcessEnd.exitedZero then .applied else .failed := by
  obtain ⟨reported, later, ran, names, statuses⟩ :=
    runSteps_reports self host plan.steps [] true session returned
  have ok : reported.all (fun result => decide (result.status = .ok)) =
      (self.ends host session.launched plan.commands).all ProcessEnd.exitedZero := by
    have told := congrArg (List.all · fun status => decide (status = .ok)) statuses
    simp only [List.all_map, Function.comp_def, ProcessEnd.status_ok, Bool.decide_eq_true] at told
    exact told
  rw [execute, if_pos allowed, run_then ran]
  exact ⟨_, _, rfl, names, statuses, by simp [ok]⟩

theorem execute_raises
    (raised : ∃ ended ∈ self.ends host session.launched plan.commands, ended.isRaised = true) :
    ∃ exception later, (self.execute host plan false).run session = .error exception later := by
  obtain ⟨exception, later, ran⟩ := runSteps_raises self host plan.steps [] true session raised
  rw [execute, if_pos allowed, run_raised ran]
  exact ⟨exception, later, rfl⟩

theorem execute_reports_iff :
    self.ReportsTruthfully host plan session ↔ plan.commands ≠ [] ∧
      ∀ ended ∈ self.ends host session.launched plan.commands, ended.isRaised = false := by
  by_cases returned :
      ∀ ended ∈ self.ends host session.launched plan.commands, ended.isRaised = false
  · obtain ⟨result, later, executed, names, statuses, outcome⟩ :=
      execute_reports allowed session returned
    have applied : result.outcome = .applied ↔
        ∀ ended ∈ self.ends host session.launched plan.commands, ended.exitedZero = true := by
      rw [outcome, ← List.all_eq_true]
      split_ifs with all <;> simp [all]
    constructor
    · rintro ⟨_, _, ran, _, _, exact, _⟩
      rw [executed] at ran
      cases ran
      refine ⟨fun none => ?_, returned⟩
      exact (exact.mp (applied.mpr (by simp [none, ends]))).1 none
    · rintro ⟨nonempty, _⟩
      refine ⟨result, later, executed, names, statuses, ?_, ?_⟩
      · rw [applied]
        exact ⟨fun all => ⟨nonempty, all⟩, fun both => both.2⟩
      · rw [outcome]
        split_ifs <;> simp
  · refine iff_of_false ?_ fun both => returned both.2
    rintro ⟨result, later, executed, _⟩
    obtain ⟨exception, after, ran⟩ := execute_raises allowed session (by simpa using returned)
    rw [ran] at executed
    cases executed

end Execute

def switchPlan : AsahiRollbackPlan :=
  ⟨asahiBootSchema, ⟨bootChainType, none, none, false⟩, none, none, "allowed", "ready",
    [rollbackCommand, "# confirm system is reachable"]⟩

theorem switch_reported : ReportsTruthfully {} emptyDevice switchPlan {} := by
  refine (execute_reports_iff (by decide) {}).mpr ⟨by decide, ?_⟩
  have commands : switchPlan.commands = [rollbackCommand] := by decide
  simp [commands, ends, emptyDevice, ProcessEnd.isRaised]

def garblingDevice : Host :=
  { emptyDevice with
    shell := fun _ _ => .raised ⟨.user "UnicodeDecodeError",
      "'utf-8' codec can't decode byte 0xff in position 0: invalid start byte"⟩ }

def commentPlan : AsahiRollbackPlan := { switchPlan with steps := ["# nothing to run"] }

-- The report is lost in the first case, and says "applied" of nothing in the second.
theorem reports_untruthful : ¬ ReportsTruthfully {} garblingDevice switchPlan {} ∧
    ¬ ReportsTruthfully {} emptyDevice commentPlan {} := by
  constructor
  · rintro ⟨result, later, executed, _⟩
    obtain ⟨exception, after, ran⟩ := @execute_raises {} garblingDevice switchPlan (by decide) {}
      ⟨garblingDevice.shell [] ⟨rollbackCommand, 300⟩, .head _, rfl⟩
    rw [ran] at executed
    cases executed
  · rintro ⟨result, later, executed, _, _, exact, _⟩
    have applied : result.outcome = .applied := by
      cases executed
      rfl
    exact (exact.mp applied).1 (by decide)

end RollbackExecutor

end SourceosBoot.Rollback
