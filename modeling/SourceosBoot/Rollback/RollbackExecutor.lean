import SourceosBoot.Rollback.AsahiBootChain

set_option autoImplicit false

namespace SourceosBoot.Rollback

open Python

def rollbackEngineId : String := "sourceos.boot.asahi-rollback"
def rollbackSpecVersion : String := "0.1.0"

/-- `subprocess.run(command, shell=True, timeout=timeout)`. -/
structure Launch where
  command : String
  timeout : Int
  deriving DecidableEq, Repr

inductive ProcessEnd
  | completed (returncode : Int) (stdout stderr : String)
  | timeoutExpired
  | raised (exception : Raised)

/-- Whatever the command does may depend on what was launched before it. -/
structure Host where
  fs : FileSystem
  shell : List Launch → Launch → ProcessEnd
  uuid4 : String
  now : String
  elapsedMs : Int

structure Session where
  launched : List Launch := []
  stdout : List Json := []
  stderr : List String := []

inductive StepStatus
  | ok | failed | skipped | timeout | dryRun
  deriving DecidableEq, Repr

def StepStatus.name : StepStatus → String
  | .ok => "ok"
  | .failed => "failed"
  | .skipped => "skipped"
  | .timeout => "timeout"
  | .dryRun => "dry_run"

structure RollbackStepResult where
  step : String
  status : StepStatus
  returncode : Option Int := none
  stdout : String := ""
  stderr : String := ""
  reason : String := ""
  deriving DecidableEq, Repr

def RollbackStepResult.toDict (result : RollbackStepResult) : Json := .obj (
  [("step", .str result.step), ("status", .str result.status.name)] ++
  (result.returncode.elim [] fun code => [("returncode", .int code)]) ++
  ([("stdout", result.stdout), ("stderr", result.stderr), ("reason", result.reason)].filter
    (·.2 ≠ "")).map fun member => (member.1, .str member.2))

inductive Outcome
  | applied | denied | dryRun | failed
  deriving DecidableEq, Repr

def Outcome.name : Outcome → String
  | .applied => "applied"
  | .denied => "denied"
  | .dryRun => "dry_run"
  | .failed => "failed"

structure RollbackExecutionResult where
  executionId : String
  plan : AsahiRollbackPlan
  outcome : Outcome
  steps : List RollbackStepResult
  durationMs : Int
  issuedAt : String
  deriving DecidableEq, Repr

namespace RollbackExecutionResult

def toDict (result : RollbackExecutionResult) : Json := .obj [
  ("executionId", .str result.executionId),
  ("engineId", .str rollbackEngineId),
  ("specVersion", .str rollbackSpecVersion),
  ("outcome", .str result.outcome.name),
  ("plan", result.plan.toDict),
  ("steps", .arr (result.steps.map RollbackStepResult.toDict)),
  ("durationMs", .int result.durationMs),
  ("issuedAt", .str result.issuedAt)]

def ok (result : RollbackExecutionResult) : Bool :=
  result.outcome = .applied ∨ result.outcome = .dryRun

end RollbackExecutionResult

def isComment (step : String) : Bool := startswith step "#"

def AsahiRollbackPlan.commands (plan : AsahiRollbackPlan) : List String :=
  plan.steps.filter (!isComment ·)

def clip (text : String) : String := String.ofList ((strip text).toList.take 500)

structure RollbackExecutor where
  timeoutS : Int := 300

namespace RollbackExecutor

variable (self : RollbackExecutor) (host : Host)

def launch (step : String) : Launch := ⟨step, self.timeoutS⟩

def runStep (step : String) : Effect Session RollbackStepResult := do
  let session ← get
  set { session with launched := session.launched ++ [self.launch step] }
  match host.shell session.launched (self.launch step) with
  | .completed returncode stdout stderr => return {
      step
      status := if returncode = 0 then .ok else .failed
      returncode := some returncode
      stdout := clip stdout
      stderr := clip stderr }
  | .timeoutExpired => return {
      step
      status := .timeout
      reason := s!"timed out after {self.timeoutS}s" }
  | .raised exception => throw exception

def runSteps (dryRun : Bool) :
    List String → List RollbackStepResult → Bool → Effect Session (List RollbackStepResult × Bool)
  | [], results, overallOk => return (results, overallOk)
  | step :: rest, results, overallOk =>
    if isComment step then runSteps dryRun rest results overallOk
    else if dryRun then
      runSteps dryRun rest (results ++ [{ step, status := .dryRun, reason := "dry_run=True" }])
        overallOk
    else do
      let result ← self.runStep host step
      runSteps dryRun rest (results ++ [result]) (overallOk && result.status = .ok)

def execute (plan : AsahiRollbackPlan) (dryRun : Bool) :
    Effect Session RollbackExecutionResult := do
  if plan.allowed then
    let (results, overallOk) ← self.runSteps host dryRun plan.steps [] true
    let outcome := if dryRun then .dryRun else if overallOk then .applied else .failed
    return ⟨host.uuid4, plan, outcome, results, host.elapsedMs, host.now⟩
  else return ⟨host.uuid4, plan, .denied, [], 0, host.now⟩

theorem runStep_launched (step : String) (session : Session) :
    left ((self.runStep host step).run session) =
      { session with launched := session.launched ++ [self.launch step] } := by
  rw [runStep, get_then]
  simp only [EStateM.run_bind, EStateM.run_set]
  cases host.shell session.launched (self.launch step) <;> rfl

theorem runSteps_launched (steps : List String) (results : List RollbackStepResult)
    (overallOk : Bool) (session : Session) :
    ∃ ran, ran <+: steps.filter (!isComment ·) ∧
      (left ((self.runSteps host false steps results overallOk).run session)).launched =
        session.launched ++ ran.map self.launch ∧
      ((∃ value later, (self.runSteps host false steps results overallOk).run session =
        .ok value later) → ran = steps.filter (!isComment ·)) ∧
      (steps.filter (!isComment ·) ≠ [] → ran ≠ []) := by
  induction steps generalizing results overallOk session with
  | nil => exact ⟨[], by simp, by simp [runSteps], by simp, by simp⟩
  | cons step rest ih =>
    by_cases comment : isComment step = true
    · simpa [runSteps, comment] using ih results overallOk session
    · rw [runSteps, if_neg comment, if_neg (by decide)]
      have launched := runStep_launched self host step session
      rw [List.filter_cons_of_pos (by simpa using comment)]
      cases known : (self.runStep host step).run session with
      | error raised later =>
        rw [known, left_error] at launched
        rw [run_raised known, left_error, launched]
        exact ⟨[step], by simp, rfl, by simp, by simp⟩
      | ok result later =>
        rw [known, left_ok] at launched
        rw [run_then known]
        obtain ⟨ran, started, log, all, _⟩ :=
          ih (results ++ [result]) (overallOk && result.status = .ok) later
        refine ⟨step :: ran, by simpa using started, ?_, fun ended => by rw [all ended], by simp⟩
        rw [log, launched]
        simp

theorem runSteps_dryRun (steps : List String) (results : List RollbackStepResult)
    (overallOk : Bool) (session : Session) :
    ∃ value, (self.runSteps host true steps results overallOk).run session =
      .ok value session := by
  induction steps generalizing results with
  | nil => exact ⟨_, rfl⟩
  | cons step rest ih =>
    by_cases comment : isComment step = true
    · simpa [runSteps, comment] using ih results
    · simpa [runSteps, comment] using ih _

variable {self host} {plan : AsahiRollbackPlan}

theorem execute_denied (denied : plan.allowed = false) (dryRun : Bool) (session : Session) :
    (self.execute host plan dryRun).run session =
      .ok ⟨host.uuid4, plan, .denied, [], 0, host.now⟩ session := by
  simp [execute, denied]

theorem execute_dryRun (allowed : plan.allowed = true) (session : Session) :
    ∃ result, (self.execute host plan true).run session = .ok result session ∧
      result.outcome = .dryRun := by
  obtain ⟨value, ran⟩ := runSteps_dryRun self host plan.steps [] true session
  rw [execute, if_pos allowed, run_then ran]
  exact ⟨_, rfl, rfl⟩

theorem execute_left (allowed : plan.allowed = true) (dryRun : Bool) (session : Session) :
    left ((self.execute host plan dryRun).run session) =
      left ((self.runSteps host dryRun plan.steps [] true).run session) := by
  rw [execute, if_pos allowed]
  cases known : (self.runSteps host dryRun plan.steps [] true).run session with
  | ok value later => rw [run_then known]; rfl
  | error raised later => rw [run_raised known]; rfl

theorem execute_launched (shape : AsahiBootChain.PlanShape plan) (session : Session) :
    (left ((self.execute host plan false).run session)).launched =
      session.launched ++ (if plan.allowed then plan.commands else []).map self.launch := by
  cases shape with
  | denied gate steps =>
    have denied : plan.allowed = false := by simp [AsahiRollbackPlan.allowed, gate]
    simp [execute_denied denied, denied]
  | allowed comments gate steps informational =>
    have allowed : plan.allowed = true := by simp [AsahiRollbackPlan.allowed, gate]
    have commands : plan.steps.filter (!isComment ·) = [rollbackCommand] := by
      rw [steps, List.filter_cons_of_pos (by decide), List.filter_eq_nil_iff.mpr]
      simpa [isComment] using informational
    obtain ⟨ran, started, log, _, some⟩ :=
      runSteps_launched self host plan.steps [] true session
    rw [commands] at started some
    -- the plan has a single command, so the first to raise is also the last
    have all : ran = [rollbackCommand] := by
      rcases List.prefix_cons_iff.mp started with none | ⟨rest, rfl, nothing⟩
      · exact absurd none (some (by simp))
      · rw [List.prefix_nil.mp nothing]
    rw [execute_left allowed, log, all, if_pos allowed, AsahiRollbackPlan.commands, commands]

theorem execute_ok_iff {session later : Session} {result : RollbackExecutionResult}
    (executed : (self.execute host plan false).run session = .ok result later) :
    result.ok = true ↔ result.outcome = .applied := by
  have wet : result.outcome ≠ .dryRun := by
    cases allowed : plan.allowed with
    | false =>
      rw [execute_denied allowed] at executed
      cases executed
      simp
    | true =>
      rw [execute, if_pos allowed] at executed
      cases known : (self.runSteps host false plan.steps [] true).run session with
      | error raised after =>
        rw [run_raised known] at executed
        cases executed
      | ok value after =>
        rw [run_then known] at executed
        cases executed
        cases value.2 <;> simp
  simp [RollbackExecutionResult.ok, wet]

variable (self : RollbackExecutor) (host : Host) (plan : AsahiRollbackPlan) (dryRun : Bool)
  (session : Session)

def Launches : Prop :=
  (left ((self.execute host plan dryRun).run session)).launched ≠ session.launched

def HonoursSafety : Prop :=
  self.Launches host plan dryRun session →
    plan.allowed = true ∧ dryRun = false ∧ plan.chain.efiVarsMutable = false

-- The chain's flag is not among the conditions: `execute` asks the plan's gate only.
theorem launches_iff :
    self.Launches host plan dryRun session ↔
      plan.allowed = true ∧ dryRun = false ∧ plan.commands ≠ [] := by
  cases allowed : plan.allowed with
  | false => simp [Launches, execute_denied allowed]
  | true =>
    cases dryRun with
    | true =>
      have ⟨result, executed, _⟩ := @execute_dryRun self host plan allowed session
      simp [Launches, executed]
    | false =>
      have ⟨ran, started, log, _, nonempty⟩ :=
        runSteps_launched self host plan.steps [] true session
      rw [Launches, execute_left allowed, log]
      simp only [AsahiRollbackPlan.commands, true_and]
      constructor
      · intro launched none
        rw [none] at started
        exact launched (by simp [List.prefix_nil.mp started])
      · intro commands
        simpa using nonempty commands

theorem execute_honours_safety_iff :
    self.HonoursSafety host plan dryRun session ↔
      ¬ (plan.allowed = true ∧ dryRun = false ∧ plan.chain.efiVarsMutable = true ∧
        plan.commands ≠ []) := by
  rw [HonoursSafety, launches_iff]
  cases plan.chain.efiVarsMutable <;> tauto

def mutableChainPlan : AsahiRollbackPlan :=
  ⟨asahiBootSchema, ⟨bootChainType, none, none, true⟩, none, none, "allowed", "by hand",
    [rollbackCommand]⟩

def emptyDevice : Host where
  fs := ⟨fun _ => false, fun _ => false, fun _ => .ok [], fun path => .ok path⟩
  shell := fun _ _ => .completed 0 "" ""
  uuid4 := "00000000-0000-4000-8000-000000000000"
  now := "2026-01-01T00:00:00Z"
  elapsedMs := 0

theorem mutable_chain_executed : ¬ HonoursSafety {} emptyDevice mutableChainPlan false {} := by
  intro honoured
  have launched : Launches {} emptyDevice mutableChainPlan false {} :=
    (launches_iff _ _ _ _ _).mpr ⟨by decide, rfl, by decide⟩
  exact absurd (honoured launched).2.2 (by decide)

end RollbackExecutor

end SourceosBoot.Rollback
