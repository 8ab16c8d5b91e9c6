import SourceosBoot.Rollback.RollbackExecutor

set_option autoImplicit false

-- A handler finds a name only if `cli.py` imports or defines it, and `main` turns every exception
-- of a handler into exit code 2.

namespace SourceosBoot.Rollback

open Python

def cliImports : List String :=
  ["annotations", "argparse", "hashlib", "json", "sys", "Path", "Any", "DeviceClaim",
    "SourceOSBootAdapter", "AsahiBootChain", "AsahiBootChainInfo", "BOOT_CHAIN_TYPE"]

def cliDefinitions : List String :=
  ["load_json", "canonical_json_sha256", "adapt_nlboot", "plan_control_plane",
    "_AB_UPDATE_EVENTS", "_load_ab_update_machine", "ab_update_plan", "ab_update_replay",
    "_asahi_chain", "rollback_plan", "rollback_execute", "build_parser", "main"]

def builtins : List String :=
  ["Exception", "SystemExit", "ValueError", "dict", "enumerate", "int", "isinstance", "list",
    "print", "str", "__name__"]

def cliNames : List String := cliImports ++ cliDefinitions ++ builtins

def resolve (names : List String) (name : String) : Effect Session Unit :=
  if name ∈ names then pure () else throw ⟨.nameError, s!"name '{name}' is not defined"⟩

def printJson (names : List String) (document : Json) : Effect Session Unit := do
  resolve names "print"
  resolve names "json"
  modify fun session => { session with stdout := session.stdout ++ [document] }

def nixosChain : AsahiBootChain where
  chain := {
    chainType := bootChainType
    m1n1Version := none
    ubootVersion := none
    efiVarsMutable := false }

def asahiChain (names : List String) : Effect Session AsahiBootChain := do
  resolve names "AsahiBootChain"
  resolve names "AsahiBootChainInfo"
  resolve names "BOOT_CHAIN_TYPE"
  return nixosChain

def planOnHost (names : List String) (host : Host) : Effect Session AsahiRollbackPlan := do
  resolve names "_asahi_chain"
  let chain ← asahiChain names
  ask fun _ => chain.planRollback host.fs

def rollbackPlan (names : List String) (host : Host) : Effect Session Int := do
  let plan ← planOnHost names host
  printJson names plan.toDict
  return if plan.allowed then 0 else 2

def rollbackExecute (names : List String) (host : Host) (execute : Bool) (timeout : Int) :
    Effect Session Int := do
  let plan ← planOnHost names host
  -- The name is looked up only now, when the plan has been made.
  resolve names "RollbackExecutor"
  let executor : RollbackExecutor := { timeoutS := timeout }
  let result ← executor.execute host plan (!execute)
  printJson names result.toDict
  return if result.ok then 0 else 2

inductive RollbackArgs
  | plan
  | execute (execute : Bool) (timeout : Int)
  deriving DecidableEq, Repr

def func (names : List String) (host : Host) : RollbackArgs → Effect Session Int
  | .plan => rollbackPlan names host
  | .execute execute timeout => rollbackExecute names host execute timeout

-- `except Exception as exc`: the message is printed, and the code is 2.
def exit : EStateM.Result Raised Session Int → Int × Session
  | .ok code later => (code, later)
  | .error raised later =>
    (2, { later with stderr := later.stderr ++ [s!"sourceos-boot: {raised.message}"] })

def main (names : List String) (host : Host) (args : RollbackArgs) (session : Session) :
    Int × Session :=
  exit ((func names host args).run session)

def planned (host : Host) : Except Raised AsahiRollbackPlan := nixosChain.planRollback host.fs

def plannedCommands (host : Host) : List String :=
  match planned host with
  | .ok plan => if plan.allowed then plan.commands else []
  | .error _ => []

theorem plannedCommands_ok {host : Host} {plan : AsahiRollbackPlan}
    (found : planned host = .ok plan) :
    plannedCommands host = if plan.allowed then plan.commands else [] := by
  rw [plannedCommands, found]

def PlanAllowed (host : Host) : Prop := ∃ plan, planned host = .ok plan ∧ plan.allowed = true

def Applies (host : Host) (timeout : Int) (session : Session) : Prop :=
  ∃ plan result later, planned host = .ok plan ∧
    (RollbackExecutor.execute ⟨timeout⟩ host plan false).run session = .ok result later ∧
    result.outcome = .applied

def RunsPlan (names : List String) (host : Host) (execute : Bool) (timeout : Int)
    (session : Session) : Prop :=
  let ended := main names host (.execute execute timeout) session
  if execute then
    ended.2.launched = session.launched ++ (plannedCommands host).map (⟨·, timeout⟩) ∧
      (ended.1 = 0 ↔ Applies host timeout session)
  else
    ended.2.launched = session.launched ∧ (ended.1 = 0 ↔ PlanAllowed host) ∧
      (ended.1 = 0 ↔ (main names host .plan session).1 = 0)

def planNames : List String :=
  ["_asahi_chain", "AsahiBootChain", "AsahiBootChainInfo", "BOOT_CHAIN_TYPE", "print", "json"]

def executeNames : List String := "RollbackExecutor" :: planNames

theorem resolve_then {names : List String} {name : String} (bound : name ∈ names)
    (session : Session) {β : Type} (next : Unit → Effect Session β) :
    (resolve names name >>= next).run session = (next ()).run session := by
  rw [resolve, if_pos bound]
  rfl

theorem resolve_missing {names : List String} {name : String} (missing : name ∉ names)
    (session : Session) :
    (resolve names name).run session =
      .error ⟨.nameError, s!"name '{name}' is not defined"⟩ session := by
  rw [resolve, if_neg missing]
  rfl

section Plan

variable {names : List String} {host : Host} (bound : ∀ name ∈ planNames, name ∈ names)
include bound

theorem planOnHost_run (session : Session) :
    (planOnHost names host).run session = (ask fun _ => planned host).run session := by
  rw [planOnHost, resolve_then (bound _ (by decide))]
  have chain : (asahiChain names).run session = .ok nixosChain session := by
    rw [asahiChain, resolve_then (bound _ (by decide)), resolve_then (bound _ (by decide)),
      resolve_then (bound _ (by decide))]
    rfl
  rw [run_then chain]
  rfl

theorem planOnHost_ok {plan : AsahiRollbackPlan} (found : planned host = .ok plan)
    (session : Session) : (planOnHost names host).run session = .ok plan session := by
  rw [planOnHost_run bound, ask_run, found]

theorem planOnHost_raised {raised : Raised} (failed : planned host = .error raised)
    (session : Session) : (planOnHost names host).run session = .error raised session := by
  rw [planOnHost_run bound, ask_run, failed]

theorem printJson_run (document : Json) (session : Session) :
    (printJson names document).run session =
      .ok () { session with stdout := session.stdout ++ [document] } := by
  rw [printJson, resolve_then (bound _ (by decide)), resolve_then (bound _ (by decide))]
  rfl

theorem main_plan_code (session : Session) :
    (main names host .plan session).1 = 0 ↔ PlanAllowed host := by
  rw [main, func, rollbackPlan]
  cases found : planned host with
  | error raised =>
    rw [run_raised (planOnHost_raised bound found session)]
    simp [PlanAllowed, found, exit]
  | ok plan =>
    rw [run_then (planOnHost_ok bound found session), run_then (printJson_run bound _ session)]
    cases allowed : plan.allowed <;> simp [PlanAllowed, found, allowed, exit, EStateM.run_pure]

end Plan

section Execute

variable {names : List String} {host : Host} (bound : ∀ name ∈ executeNames, name ∈ names)
include bound

theorem main_execute_raised {raised : Raised} (failed : planned host = .error raised)
    (execute : Bool) (timeout : Int) (session : Session) :
    main names host (.execute execute timeout) session =
      (2, { session with stderr := session.stderr ++ [s!"sourceos-boot: {raised.message}"] }) := by
  have planBound : ∀ name ∈ planNames, name ∈ names := fun name listed =>
    bound name (List.mem_cons_of_mem _ listed)
  rw [main, func, rollbackExecute, run_raised (planOnHost_raised planBound failed session)]
  rfl

theorem main_execute_ok {plan : AsahiRollbackPlan} (found : planned host = .ok plan)
    (execute : Bool) (timeout : Int) (session : Session) :
    let outcome := (RollbackExecutor.execute ⟨timeout⟩ host plan (!execute)).run session
    let ended := main names host (.execute execute timeout) session
    ended.2.launched = (left outcome).launched ∧
      (ended.1 = 0 ↔ ∃ result later, outcome = .ok result later ∧ result.ok = true) := by
  have planBound : ∀ name ∈ planNames, name ∈ names := fun name listed =>
    bound name (List.mem_cons_of_mem _ listed)
  dsimp only
  rw [main, func, rollbackExecute, run_then (planOnHost_ok planBound found session),
    resolve_then (bound _ (by decide))]
  cases known : (RollbackExecutor.execute ⟨timeout⟩ host plan (!execute)).run session with
  | error raised later =>
    rw [run_raised known]
    simp [exit]
  | ok result later =>
    rw [run_then known, run_then (printJson_run planBound _ later)]
    cases fine : result.ok <;> simp [exit, fine, EStateM.run_pure]

theorem main_execute_launched (timeout : Int) (session : Session) :
    (main names host (.execute true timeout) session).2.launched =
      session.launched ++ (plannedCommands host).map (⟨·, timeout⟩) := by
  cases found : planned host with
  | error raised => simp [main_execute_raised bound found, plannedCommands, found]
  | ok plan =>
    have shape := AsahiBootChain.planRollback_shape found
    rw [(main_execute_ok bound found true timeout session).1, plannedCommands_ok found]
    exact RollbackExecutor.execute_launched shape session

theorem main_execute_applied (timeout : Int) (session : Session) :
    (main names host (.execute true timeout) session).1 = 0 ↔ Applies host timeout session := by
  cases found : planned host with
  | error raised => simp [main_execute_raised bound found, Applies, found]
  | ok plan =>
    rw [(main_execute_ok bound found true timeout session).2, Bool.not_true]
    constructor
    · rintro ⟨result, later, executed, fine⟩
      exact ⟨plan, result, later, found, executed,
        (RollbackExecutor.execute_ok_iff executed).mp fine⟩
    · rintro ⟨_, result, later, found', executed, applied⟩
      cases found.symm.trans found'
      exact ⟨result, later, executed, (RollbackExecutor.execute_ok_iff executed).mpr applied⟩

theorem main_rehearse (timeout : Int) (session : Session) :
    (main names host (.execute false timeout) session).2.launched = session.launched ∧
      ((main names host (.execute false timeout) session).1 = 0 ↔ PlanAllowed host) := by
  cases found : planned host with
  | error raised => simp [main_execute_raised bound found, PlanAllowed, found]
  | ok plan =>
    rw [(main_execute_ok bound found false timeout session).1,
      (main_execute_ok bound found false timeout session).2, Bool.not_false]
    cases allowed : plan.allowed with
    | false =>
      simp [RollbackExecutor.execute_denied allowed, PlanAllowed, found, allowed,
        RollbackExecutionResult.ok]
    | true =>
      obtain ⟨result, executed, dry⟩ :=
        @RollbackExecutor.execute_dryRun ⟨timeout⟩ host plan allowed session
      simp [executed, PlanAllowed, found, allowed, RollbackExecutionResult.ok, dry]

theorem runsPlan_of_bound (execute : Bool) (timeout : Int) (session : Session) :
    RunsPlan names host execute timeout session := by
  have planBound : ∀ name ∈ planNames, name ∈ names := fun name listed =>
    bound name (List.mem_cons_of_mem _ listed)
  cases execute with
  | true => exact ⟨main_execute_launched bound timeout session,
      main_execute_applied bound timeout session⟩
  | false =>
    obtain ⟨nothing, code⟩ := @main_rehearse names host bound timeout session
    exact ⟨nothing, code, code.trans (main_plan_code planBound session).symm⟩

end Execute

theorem planNames_bound : ∀ name ∈ planNames, name ∈ cliNames := by decide

theorem rollbackExecutor_missing : "RollbackExecutor" ∉ cliNames := by decide

theorem main_execute_raises (host : Host) (execute : Bool) (timeout : Int) (session : Session) :
    ∃ message, main cliNames host (.execute execute timeout) session =
      (2, { session with stderr := session.stderr ++ [message] }) := by
  -- Whatever the host and the arguments, the handler raises before it launches anything.
  rw [main, func, rollbackExecute]
  cases found : planned host with
  | error raised =>
    rw [run_raised (planOnHost_raised planNames_bound found session)]
    exact ⟨_, rfl⟩
  | ok plan =>
    rw [run_then (planOnHost_ok planNames_bound found session),
      run_raised (resolve_missing rollbackExecutor_missing session)]
    exact ⟨_, rfl⟩

theorem plannedCommands_eq_nil_iff (host : Host) :
    plannedCommands host = [] ↔ ¬ PlanAllowed host := by
  cases found : planned host with
  | error raised => simp [plannedCommands, PlanAllowed, found]
  | ok plan =>
    rw [plannedCommands_ok found]
    cases AsahiBootChain.planRollback_shape found with
    | denied gate steps => simp [PlanAllowed, found, AsahiRollbackPlan.allowed, gate]
    | allowed comments gate steps informational =>
      have allowed : plan.allowed = true := by simp [AsahiRollbackPlan.allowed, gate]
      rw [if_pos allowed, AsahiRollbackPlan.commands, steps,
        List.filter_cons_of_pos (by decide)]
      simp [PlanAllowed, found, allowed]

theorem not_applies {host : Host} (disallowed : ¬ PlanAllowed host) (timeout : Int)
    (session : Session) : ¬ Applies host timeout session := by
  rintro ⟨plan, result, later, found, executed, applied⟩
  have denied : plan.allowed = false := by
    simpa using fun allows => disallowed ⟨plan, found, allows⟩
  rw [RollbackExecutor.execute_denied denied] at executed
  cases executed
  cases applied

def twoGenerations : Host where
  -- Two generations, the second of them current, and commands that succeed.
  fs := {
    isdir := fun path => path = "/nix/var/nix/profiles/system"
    islink := fun path => path = "/run/current-system"
    listdir := fun _ => .ok ["system-1-link", "system-2-link"]
    realpath := fun path =>
      .ok (if path = "/nix/var/nix/profiles/system/system-1-link" then "/nix/store/gen-1"
        else "/nix/store/gen-2") }
  shell := fun _ _ => .completed 0 "activating configuration..." ""
  uuid4 := "00000000-0000-4000-8000-000000000000"
  now := "2026-06-01T00:00:00Z"
  elapsedMs := 0

theorem rollback_execute_launches_nothing :
    plannedCommands twoGenerations = ["nixos-rebuild switch --rollback"] ∧
      (main cliNames twoGenerations (.execute true 300) {}).1 = 2 ∧
      (main cliNames twoGenerations (.execute true 300) {}).2.launched = [] ∧
      ¬ RunsPlan cliNames twoGenerations true 300 {} := by
  have planned : plannedCommands twoGenerations = ["nixos-rebuild switch --rollback"] := by
    decide +kernel
  have ended : main cliNames twoGenerations (.execute true 300) {} =
      (2, { stderr := ["sourceos-boot: name 'RollbackExecutor' is not defined"] }) := by rfl
  refine ⟨planned, by rw [ended], by rw [ended], fun runs => ?_⟩
  have launched := runs.1
  rw [ended, planned] at launched
  cases launched

/-- The command does what it is for on exactly the devices on which there is nothing to do. -/
theorem rollback_execute_runs_plan_iff (host : Host) (execute : Bool) (timeout : Int)
    (session : Session) :
    RunsPlan cliNames host execute timeout session ↔ nixosChain.NothingBefore host.fs := by
  obtain ⟨message, raises⟩ := main_execute_raises host execute timeout session
  have allowed : PlanAllowed host ↔ ¬ nixosChain.NothingBefore host.fs :=
    AsahiBootChain.planRollback_allowed_iff (by decide)
  rw [iff_not_comm.mp allowed]
  cases execute with
  | true =>
    simp only [RunsPlan, raises, if_true]
    constructor
    · rintro ⟨launched, _⟩
      rw [← plannedCommands_eq_nil_iff, ← List.map_eq_nil_iff]
      exact List.self_eq_append_right.mp launched
    · intro disallowed
      simp [(plannedCommands_eq_nil_iff host).mpr disallowed, not_applies disallowed]
  | false =>
    simp [RunsPlan, raises, main_plan_code planNames_bound]

end SourceosBoot.Rollback
