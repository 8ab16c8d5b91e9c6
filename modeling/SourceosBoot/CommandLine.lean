import SourceosBoot.AbUpdate.Planning
import SourceosBoot.ControlPlane.Command
import SourceosBoot.Nlboot.Handoff
import SourceosBoot.Rollback.Cli

set_option autoImplicit false

namespace SourceosBoot.CommandLine

open Python AbUpdate ControlPlane Nlboot

abbrev Session := Rollback.Session

inductive Command
  | rollback (args : Rollback.RollbackArgs)
  | adaptNlboot (args : HandoffArguments)
  | planControlPlane (bootReleaseSet : JsonFile)
  | abUpdatePlan (args : PlanArguments)
  | abUpdateReplay (args : ReplayArguments)

structure World where
  host : Rollback.Host
  outside : Outside
  observedAt : String
  beyond : Call → Effect Machine TransitionResult

section Streams

variable {α : Type}

def onStdout (action : Effect (List Json) α) : Effect Session α :=
  zoom Rollback.Session.stdout (fun stdout session => { session with stdout }) action

def onScreen (action : Effect Screen α) : Effect Session α :=
  zoom (fun session => ⟨session.stdout, session.stderr⟩)
    (fun screen session => { session with stdout := screen.stdout, stderr := screen.stderr }) action

end Streams

def coded (action : Effect Session Int) : Effect Session (Option Int) := do
  return some (← action)

def func (world : World) : Command → Effect Session (Option Int)
  | .rollback args => coded <| Rollback.func Rollback.cliNames world.host args
  | .adaptNlboot args =>
    coded <| onStdout (Nlboot.adaptNlboot world.outside.sha256 world.observedAt args)
  | .planControlPlane bootReleaseSet =>
    coded <| onStdout (ControlPlane.planControlPlane bootReleaseSet)
  | .abUpdatePlan args => onScreen (AbUpdate.abUpdatePlan world.outside args)
  | .abUpdateReplay args => onStdout (AbUpdate.abUpdateReplay world.outside world.beyond args)

def main (world : World) (command : Command) (session : Session) : Option (Int × Session) :=
  match (func world command).run session with
  | .ok none _ => none
  | .ok (some code) later => some (code, later)
  | .error raised later => some (Rollback.exit (.error raised later))

def printing (session : Session) (document : Json) : Session :=
  { session with stdout := session.stdout ++ [document] }

def failing (session : Session) (message : String) : Session :=
  { session with stderr := session.stderr ++ [s!"sourceos-boot: {message}"] }

def ReplaysAs (world : World) (args : ReplayArguments) (document : Json) : Prop :=
  ∃ machine healthProbe events log later transaction,
    loadAbUpdateMachine world.outside args = .ok (some machine, healthProbe) ∧
    args.events.content = .arr events ∧
    replayed world.beyond events machine = .ok (log, later) ∧
    later.toTransactionDocument = .ok transaction ∧
    document = replayOutput world.outside later log (carryingProbe healthProbe transaction)

def Answers (world : World) (code : Int) (document : Json) : Command → Prop
  | .rollback .plan => ∃ plan, Rollback.planned world.host = .ok plan ∧
      code = (if plan.allowed then 0 else 2) ∧ document = plan.toDict
  -- The executor is not among the names of the module.
  | .rollback (.execute _ _) => False
  | .adaptNlboot args => code = 0 ∧ ∃ manifest token authorization patch evidence,
      HandsOver world.outside.sha256 args manifest token authorization patch evidence ∧
      document = handoffOutput authorization patch evidence
  | .planControlPlane bootReleaseSet => code = 0 ∧ ∃ doc plan, loadJson bootReleaseSet = .ok doc ∧
      buildControlPlaneBootPlan doc = .ok plan ∧ document = controlPlaneOutput plan.shown
  | .abUpdatePlan args => code = 0 ∧ PlansAs world.outside args document
  | .abUpdateReplay args => code = 0 ∧ ReplaysAs world args document

def Unannotated (world : World) : Command → Prop
  | .abUpdatePlan args => args.Unannotated world.outside
  | .abUpdateReplay args =>
    ∃ healthProbe, loadAbUpdateMachine world.outside args = .ok (none, healthProbe)
  | _ => False

theorem Answers.code {world : World} {code : Int} {document : Json} {command : Command}
    (answers : Answers world code document command) :
    code = 0 ∨ code = 2 ∧ command = .rollback .plan := by
  cases command with
  | rollback args =>
    cases args with
    | plan =>
      obtain ⟨plan, _, rfl, _⟩ := answers
      cases plan.allowed <;> simp
    | execute _ _ => exact answers.elim
  | _ => exact .inl answers.1

theorem coded_run (action : Effect Session Int) (session : Session) :
    (coded action).run session = match action.run session with
      | .ok code later => .ok (some code) later
      | .error raised later => .error raised later := by
  rw [coded, EStateM.run_bind]
  cases action.run session <;> rfl

-- On the rollback commands this is the `main` of the rollback modules.
theorem main_rollback (world : World) (args : Rollback.RollbackArgs) (session : Session) :
    main world (.rollback args) session =
      some (Rollback.main Rollback.cliNames world.host args session) := by
  simp only [main, func, coded_run, Rollback.main]
  cases (Rollback.func Rollback.cliNames world.host args).run session <;> rfl

theorem coded_ok (action : Effect Session Int) (session later : Session) (code : Int) :
    (coded action).run session = .ok (some code) later ↔ action.run session = .ok code later := by
  rw [coded_run]
  cases action.run session <;> simp

theorem coded_steady {action : Effect Session Int} (steady : Steady action) :
    Steady (coded action) := by
  obtain ⟨outcome, ends⟩ := steady
  cases outcome with
  | error raised => exact .error raised fun session => by rw [coded_run, ends]; rfl
  | ok pair => exact .ok (some pair.1) pair.2 fun session => by rw [coded_run, ends]; rfl

theorem onStdout_ok {α : Type} (action : Effect (List Json) α) (session later : Session)
    (value : α) : (onStdout action).run session = .ok value later ↔
      ∃ shown, action.run session.stdout = .ok value shown ∧
        later = { session with stdout := shown } :=
  zoom_ok _ _ _ _ _ _

theorem onScreen_ok {α : Type} (action : Effect Screen α) (session later : Session)
    (value : α) : (onScreen action).run session = .ok value later ↔
      ∃ screen, action.run ⟨session.stdout, session.stderr⟩ = .ok value screen ∧
        later = { session with stdout := screen.stdout, stderr := screen.stderr } :=
  zoom_ok _ _ _ _ _ _

theorem replay_ok (world : World) (args : ReplayArguments) (printed shown : List Json)
    (code : Int) :
    (AbUpdate.abUpdateReplay world.outside world.beyond args).run printed =
        .ok (some code) shown ↔
      code = 0 ∧ ∃ document, ReplaysAs world args document ∧ shown = printed ++ [document] := by
  constructor
  · intro ran
    simp only [AbUpdate.abUpdateReplay, ask_then_ok] at ran
    obtain ⟨⟨found, healthProbe⟩, loaded, ran⟩ := ran
    cases found with
    | none => cases ran
    | some machine =>
      simp only [ask_then_ok, loadList_ok] at ran
      obtain ⟨events, listed, ⟨log, later⟩, looped, transaction, rendered, ended⟩ := ran
      cases ended
      exact ⟨rfl, _, ⟨machine, healthProbe, events, log, later, transaction, loaded, listed, looped,
        rendered, rfl⟩, rfl⟩
  · rintro ⟨rfl, _, ⟨machine, healthProbe, events, log, later, transaction, loaded, listed, looped,
      rendered, rfl⟩, rfl⟩
    exact (abUpdateReplay_ok loaded listed printed _).mpr
      ⟨log, later, transaction, looped, rendered, rfl⟩

theorem replay_steady (world : World) (args : ReplayArguments) :
    Steady (AbUpdate.abUpdateReplay world.outside world.beyond args) := by
  refine .ask_then fun loaded _ => ?_
  obtain ⟨found, healthProbe⟩ := loaded
  cases found with
  | none => exact .ok none id fun _ => rfl
  | some machine =>
    exact .ask_then fun _ _ => .ask_then fun _ _ => .ask_then fun _ _ => .ok (some 0) _ fun _ => rfl

section Rollback

open Rollback

variable (host : Host)

theorem rollback_plan_steady : Steady (rollbackPlan cliNames host) := by
  cases found : planned host with
  | error raised =>
    exact .error raised fun session => run_raised (planOnHost_raised planNames_bound found session) _
  | ok plan =>
    refine .ok (if plan.allowed then 0 else 2) (printing · plan.toDict) fun session => ?_
    rw [rollbackPlan, run_then (planOnHost_ok planNames_bound found session),
      run_then (printJson_run planNames_bound _ session)]
    rfl

theorem rollback_plan_ok (session later : Session) (code : Int) :
    (rollbackPlan cliNames host).run session = .ok code later ↔
      ∃ plan, planned host = .ok plan ∧ code = (if plan.allowed then 0 else 2) ∧
        later = printing session plan.toDict := by
  cases found : planned host with
  | error raised =>
    rw [rollbackPlan, run_raised (planOnHost_raised planNames_bound found session)]
    simp
  | ok plan =>
    rw [rollbackPlan, run_then (planOnHost_ok planNames_bound found session),
      run_then (printJson_run planNames_bound _ session)]
    constructor
    · rintro ⟨⟩
      exact ⟨plan, rfl, rfl, rfl⟩
    · rintro ⟨_, ⟨⟩, rfl, rfl⟩
      rfl

theorem rollback_execute_raises (execute : Bool) (timeout : Int) :
    ∃ raised, ∀ session, (rollbackExecute cliNames host execute timeout).run session =
      .error raised session := by
  cases found : planned host with
  | error raised =>
    exact ⟨raised, fun session => run_raised (planOnHost_raised planNames_bound found session) _⟩
  | ok plan =>
    refine ⟨⟨.nameError, "name 'RollbackExecutor' is not defined"⟩, fun session => ?_⟩
    rw [rollbackExecute, run_then (planOnHost_ok planNames_bound found session),
      run_raised (resolve_missing rollbackExecutor_missing session)]
    rfl

end Rollback

theorem func_steady (world : World) (command : Command) : Steady (func world command) := by
  cases command with
  | rollback args =>
    cases args with
    | plan => exact coded_steady (rollback_plan_steady world.host)
    | execute execute timeout =>
      obtain ⟨raised, raises⟩ := rollback_execute_raises world.host execute timeout
      exact coded_steady (.error raised raises)
  | adaptNlboot args => exact coded_steady (.zoom (fun _ => rfl) (handoff_steady _ _ args))
  | planControlPlane file => exact coded_steady (.zoom (fun _ => rfl) (command_steady file))
  | abUpdatePlan args => exact .zoom (fun _ => rfl) (plan_steady _ args)
  | abUpdateReplay args => exact .zoom (fun _ => rfl) (replay_steady world args)

theorem func_ok (world : World) (command : Command) (session later : Session) (code : Int) :
    (func world command).run session = .ok (some code) later ↔
      ∃ document, Answers world code document command ∧ later = printing session document := by
  cases command with
  | rollback args =>
    cases args with
    | plan =>
      refine (coded_ok _ _ _ _).trans ((rollback_plan_ok _ _ _ _).trans ?_)
      simp only [Answers]
      constructor
      · rintro ⟨plan, found, rfl, rfl⟩
        exact ⟨_, ⟨plan, found, rfl, rfl⟩, rfl⟩
      · rintro ⟨_, ⟨plan, found, rfl, rfl⟩, rfl⟩
        exact ⟨plan, found, rfl, rfl⟩
    | execute execute timeout =>
      obtain ⟨raised, raises⟩ := rollback_execute_raises world.host execute timeout
      refine (coded_ok _ _ _ _).trans ?_
      simp [Answers, Rollback.func, raises]
  | adaptNlboot args =>
    simp only [func, coded_ok, onStdout_ok, handoff_run, Answers]
    constructor
    · rintro ⟨_, ⟨rfl, manifest, token, authorization, patch, evidence, handed, rfl⟩, rfl⟩
      exact ⟨_, ⟨rfl, manifest, token, authorization, patch, evidence, handed, rfl⟩, rfl⟩
    · rintro ⟨_, ⟨rfl, manifest, token, authorization, patch, evidence, handed, rfl⟩, rfl⟩
      exact ⟨_, ⟨rfl, manifest, token, authorization, patch, evidence, handed, rfl⟩, rfl⟩
  | planControlPlane file =>
    simp only [func, coded_ok, onStdout_ok, command_run, Answers]
    constructor
    · rintro ⟨_, ⟨rfl, doc, plan, read, built, rfl⟩, rfl⟩
      exact ⟨_, ⟨rfl, doc, plan, read, built, rfl⟩, rfl⟩
    · rintro ⟨_, ⟨rfl, doc, plan, read, built, rfl⟩, rfl⟩
      exact ⟨_, ⟨rfl, doc, plan, read, built, rfl⟩, rfl⟩
  | abUpdatePlan args =>
    simp only [func, onScreen_ok, plan_run, Answers]
    constructor
    · rintro ⟨_, ⟨rfl, document, plans, rfl⟩, rfl⟩
      exact ⟨document, ⟨rfl, plans⟩, rfl⟩
    · rintro ⟨document, ⟨rfl, plans⟩, rfl⟩
      exact ⟨_, ⟨rfl, document, plans, rfl⟩, rfl⟩
  | abUpdateReplay args =>
    simp only [func, onStdout_ok, replay_ok, Answers]
    constructor
    · rintro ⟨_, ⟨rfl, document, replays, rfl⟩, rfl⟩
      exact ⟨document, ⟨rfl, replays⟩, rfl⟩
    · rintro ⟨document, ⟨rfl, replays⟩, rfl⟩
      exact ⟨_, ⟨rfl, document, replays, rfl⟩, rfl⟩

theorem coded_some (action : Effect Session Int) (session later : Session) :
    (coded action).run session ≠ .ok none later := by
  rw [coded_run]
  cases action.run session <;> simp

theorem func_none {world : World} {command : Command} {session later : Session}
    (unknown : (func world command).run session = .ok none later) : Unannotated world command := by
  cases command with
  | rollback args => exact (coded_some _ _ _ unknown).elim
  | adaptNlboot args => exact (coded_some _ _ _ unknown).elim
  | planControlPlane file => exact (coded_some _ _ _ unknown).elim
  | abUpdatePlan args =>
    obtain ⟨_, ran, _⟩ := (onScreen_ok _ _ _ _).mp unknown
    exact plan_unannotated ran
  | abUpdateReplay args =>
    simp only [func, onStdout_ok, AbUpdate.abUpdateReplay, ask_then_ok] at unknown
    obtain ⟨_, ⟨⟨found, healthProbe⟩, loaded, ran⟩, _⟩ := unknown
    cases found with
    | none => exact ⟨healthProbe, loaded⟩
    | some machine =>
      simp only [ask_then_ok] at ran
      obtain ⟨_, _, _, _, _, _, ended⟩ := ran
      cases ended

/--
A command prints its one document and ends with 0, or with 2 for a rollback plan
that is denied; or it prints one line, where it has no document, and ends with 2.
Which of these it is does not depend on what was printed before.
-/
theorem main_prints_once (world : World) (command : Command) :
    (∃ code document, (code = 0 ∨ code = 2 ∧ command = .rollback .plan) ∧
      Answers world code document command ∧
      ∀ session, main world command session = some (code, printing session document)) ∨
    (∃ message, (∀ code document, ¬ Answers world code document command) ∧
      ∀ session, main world command session = some (2, failing session message)) ∨
    Unannotated world command := by
  obtain ⟨outcome, ends⟩ := func_steady world command
  rcases outcome with raised | ⟨code, change⟩
  · refine .inr (.inl ⟨raised.message, ?_, ?_⟩)
    · intro code document answers
      have ran := (func_ok world command {} _ code).mpr ⟨document, answers, rfl⟩
      rw [ends] at ran
      cases ran
    · intro session
      rw [main, ends]
      rfl
  · cases code with
    | none => exact .inr (.inr (func_none (ends {})))
    | some code =>
      obtain ⟨document, answers, _⟩ := (func_ok world command {} _ code).mp (ends {})
      refine .inl ⟨code, document, answers.code, answers, fun session => ?_⟩
      rw [main, (func_ok world command session _ code).mpr ⟨document, answers, rfl⟩]

end SourceosBoot.CommandLine
