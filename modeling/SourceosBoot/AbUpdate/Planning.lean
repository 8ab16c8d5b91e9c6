import SourceosBoot.AbUpdate.ReplayFidelity
import SourceosBoot.AbUpdate.ReplayReports
import SourceosBoot.AbUpdate.TransactionGrowth

set_option autoImplicit false

namespace SourceosBoot.AbUpdate

open Python Transition

structure PlanArguments where
  slots : JsonFile
  probe : JsonFile
  transactionId : String
  payloadDigest : String
  payloadRef : Option String := none
  version : Option String := none
  maxAttempts : Int := 2

def PlanArguments.drill (args : PlanArguments) (events : JsonFile) : ReplayArguments where
  slots := args.slots
  probe := args.probe
  events := events
  transactionId := args.transactionId
  maxAttempts := args.maxAttempts

def PlanArguments.load (outside : Outside) (args : PlanArguments) :
    Except Raised (Option Machine × Json) :=
  loadAbUpdateMachine outside (args.drill ⟨"", .null⟩)

structure Screen where
  stdout : List Json := []
  stderr : List String := []

def planOutput (outside : Outside) (machine : Machine) (transaction : Json) : Json := .obj [
  ("apiVersion", .str "sourceos.dev/v1"),
  ("kind", .str "AbUpdatePlan"),
  ("execute", .bool false),
  ("preservedSlot", labelOrNull machine.fromSlot),
  ("writeTarget", labelOrNull machine.toSlot),
  ("transaction", transaction),
  ("plannedSlots", .arr (machine.toSlotDocuments outside.isalnum))]

def opening (args : PlanArguments) (machine : Machine) :
    Except Raised (TransitionResult × Machine) :=
  match (begin args.payloadDigest args.payloadRef args.version).run machine with
  | .ok result later => .ok (result, later)
  | .error raised _ => .error raised

def abUpdatePlan (outside : Outside) (args : PlanArguments) : Effect Screen (Option Int) := do
  match ← ask fun _ => args.load outside with
  | (none, _) => return none
  | (some machine, healthProbe) =>
    let (result, later) ← ask fun _ => opening args machine
    if result.allowed = false then
      modify fun screen =>
        { screen with stderr := screen.stderr ++ [s!"sourceos-boot: {result.reason}"] }
      return some 2
    let transaction ← ask fun _ => later.toTransactionDocument
    modify fun screen => { screen with
      stdout := screen.stdout ++ [planOutput outside later (carryingProbe healthProbe transaction)] }
    return some 0

structure Plannable (fallback : SlotLabel) (machine : Machine) : Prop where
  digest : (machine.slots.get fallback).payloadDigest ≠ none
  notWriting : (machine.slots.get fallback).state ≠ .writing
  unselectable : (machine.slots.get fallback).state = .unbootable →
    (machine.slots.get fallback).bootPriority = 0
  oneRunning : OneRunning fallback machine

def PlanArguments.planned (args : PlanArguments) (fallback : SlotLabel) (machine : Machine) :
    Machine :=
  machine.opened fallback args.payloadDigest args.payloadRef args.version

@[simp] theorem planned_kept (args : PlanArguments) (fallback : SlotLabel) (machine : Machine) :
    (args.planned fallback machine).slots.get fallback = machine.slots.get fallback := by
  simp [PlanArguments.planned]

theorem Contracted.plannable {fallback : SlotLabel} {machine : Machine}
    (contracted : Contracted fallback machine) : Plannable fallback machine where
  digest := contracted.fit.digest
  notWriting := contracted.fit.notWriting
  unselectable := fun unbootable => absurd unbootable contracted.fit.notUnbootable
  oneRunning := contracted.fit.oneRunning

section Opening

variable {fallback : SlotLabel} {machine : Machine} (initial : Initial fallback machine)
  (args : PlanArguments)
include initial

theorem planned_standing : Standing fallback (args.planned fallback machine) := by
  have edge : Edge fallback machine _ _ (args.planned fallback machine) :=
    .begin args.payloadDigest args.payloadRef args.version initial.idle
  exact edge.standing initial.standing

theorem planned_checked_iff :
    Checked (args.planned fallback machine) ↔ Plannable fallback machine := by
  have active := initial.roles.active
  have candidate := initial.roles.candidate
  constructor
  · intro checked
    have preserved := (checked.preserved fallback (by simp [PlanArguments.planned])).1
    have writing := checked.writesCandidate fallback
    have unselectable := checked.unselectable fallback
    have oneRunning := ((args.planned fallback machine).slots.count_one _ fallback).mp
      checked.oneRunning
    constructor
    case digest =>
      rw [planned_kept] at preserved
      simp [preserved]
    case notWriting => simpa [PlanArguments.planned, active] using writing
    case unselectable => simpa [PlanArguments.planned] using unselectable
    case oneRunning =>
      unfold OneRunning
      simpa [PlanArguments.planned] using oneRunning
  · intro plannable
    obtain ⟨digest, held⟩ := Option.ne_none_iff_exists'.mp plannable.digest
    constructor
    case preserved => simp [PlanArguments.planned, held, initial.successful]
    case oneRunning =>
      rw [(args.planned fallback machine).slots.count_one _ fallback]
      have oneRunning := plannable.oneRunning
      unfold OneRunning at oneRunning
      simpa [PlanArguments.planned] using oneRunning
    case oneActive =>
      rw [(args.planned fallback machine).slots.count_one _ fallback]
      simp [PlanArguments.planned, active, candidate]
    case writesCandidate =>
      intro label writing
      rcases SlotLabel.eq_or_other label fallback with rfl | rfl
      · simp [PlanArguments.planned, plannable.notWriting] at writing
      · simp [PlanArguments.planned, candidate]
    case unselectable =>
      intro label unbootable
      rcases SlotLabel.eq_or_other label fallback with rfl | rfl
      · simpa [PlanArguments.planned] using plannable.unselectable
          (by simpa [PlanArguments.planned] using unbootable)
      · simp [PlanArguments.planned] at unbootable
    case trial => simp [PlanArguments.planned]

theorem opening_run : ∃ result : TransitionResult, result.allowed = true ∧
    opening args machine =
      (args.planned fallback machine).assertInvariants.map fun _ =>
        (result, args.planned fallback machine) := by
  have ⟨reason, ran⟩ := begin_takes initial.standing args.payloadDigest args.payloadRef
    args.version initial.idle
  have begun : (begin args.payloadDigest args.payloadRef args.version).run machine =
    checked (args.planned fallback machine) _ := ran
  refine ⟨accepted machine (args.planned fallback machine) (.begin args.payloadDigest
    args.payloadRef args.version) none reason, rfl, ?_⟩
  rw [opening, begun, checked]
  cases (args.planned fallback machine).assertInvariants <;> rfl

theorem opening_ok (plannable : Plannable fallback machine) :
    ∃ result : TransitionResult, result.allowed = true ∧
      opening args machine = .ok (result, args.planned fallback machine) := by
  have passes := (assertInvariants_ok _).mpr ((planned_checked_iff initial args).mpr plannable)
  have ⟨result, allowed, ran⟩ := opening_run initial args
  rw [passes] at ran
  exact ⟨result, allowed, ran⟩

theorem opening_raises (unplannable : ¬ Plannable fallback machine) :
    ∃ raised, opening args machine = .error raised := by
  have ⟨result, _, ran⟩ := opening_run initial args
  cases verdict : (args.planned fallback machine).assertInvariants with
  | ok done =>
    exact absurd ((planned_checked_iff initial args).mp ((assertInvariants_ok _).mp verdict))
      unplannable
  | error raised => exact ⟨raised, by rw [ran, verdict]; rfl⟩

end Opening

theorem HoldsRoles.unique {machine : Machine} {left right : SlotLabel}
    (first : HoldsRoles machine left) (second : HoldsRoles machine right) : left = right := by
  rcases SlotLabel.eq_or_other right left with rfl | rfl
  · rfl
  · have active := second.active
    simp [first.candidate] at active

theorem machineFromSlotDocuments_initial {docs : List Json} {arguments : MachineArguments}
    {machine : Machine} (built : machineFromSlotDocuments docs arguments = .ok (some machine)) :
    ∃ fallback, Initial fallback machine := by
  unfold machineFromSlotDocuments at built
  split at built
  · obtain ⟨_, _, built⟩ := (bind_ok _ _ _).mp built
    obtain ⟨_, _, built⟩ := (bind_ok _ _ _).mp built
    obtain ⟨_, built⟩ := (then_ok _ _ _).mp built
    obtain ⟨_, _, built⟩ := (bind_ok _ _ _).mp built
    obtain ⟨_, _, built⟩ := (bind_ok _ _ _).mp built
    split at built
    · obtain ⟨made, init, returned⟩ := (bind_ok _ _ _).mp built
      cases returned
      exact postInit_initial _ _ machine init
    · cases built
  · cases built

theorem load_ok {outside : Outside} {args : ReplayArguments} {machine : Machine}
    {healthProbe : Json} :
    loadAbUpdateMachine outside args = .ok (some machine, healthProbe) ↔
      ∃ docs probe digest, args.slots.content = .arr docs ∧ args.probe.content = .obj probe ∧
        probeDefinitionDigest outside.sha256 probe = .ok digest ∧
        Json.lookup "definitionDigest" probe = some (.str digest) ∧
        Json.lookup "id" probe = some healthProbe ∧
        machineFromSlotDocuments docs {
          transactionId := args.transactionId
          healthProbeRef := shownText healthProbe
          healthProbeDigest := digest
          maxAttempts := args.maxAttempts
          clock := outside.clock } = .ok (some machine) := by
  have kept (probe : List (String × Json)) (digest : String) :
      Json.pyEq ((Json.lookup "definitionDigest" probe).getD .null) (.str digest) = true ↔
        Json.lookup "definitionDigest" probe = some (.str digest) := by
    cases Json.lookup "definitionDigest" probe <;> simp
  simp only [loadAbUpdateMachine, bind_ok, loadList_ok, loadJson_ok, Json.getItem_obj, pure,
    Except.pure, Except.ok.injEq, Prod.mk.injEq]
  constructor
  · rintro ⟨docs, slots, probe, gate, digest, computed, ⟨⟩, pinned, _, named, _, built, rfl, rfl⟩
    rw [raiseWhen_ok, Bool.not_eq_false, kept] at pinned
    exact ⟨docs, probe, digest, slots, gate, computed, pinned, named, built⟩
  · rintro ⟨docs, probe, digest, slots, gate, computed, recorded, named, built⟩
    refine ⟨docs, slots, probe, gate, digest, computed, (), ?_, _, named, _, built, rfl, rfl⟩
    rwa [raiseWhen_ok, Bool.not_eq_false, kept]

theorem loaded_initial {outside : Outside} {args : ReplayArguments} {machine : Machine}
    {healthProbe : Json}
    (loaded : loadAbUpdateMachine outside args = .ok (some machine, healthProbe)) :
    ∃ fallback, Initial fallback machine := by
  obtain ⟨_, _, _, _, _, _, _, _, built⟩ := load_ok.mp loaded
  exact machineFromSlotDocuments_initial built

def PlansAs (outside : Outside) (args : PlanArguments) (output : Json) : Prop :=
  ∃ machine healthProbe fallback transaction,
    args.load outside = .ok (some machine, healthProbe) ∧
    Initial fallback machine ∧ Plannable fallback machine ∧
    (args.planned fallback machine).toTransactionDocument = .ok transaction ∧
    output = planOutput outside (args.planned fallback machine) (carryingProbe healthProbe transaction)

theorem planned_rendered (args : PlanArguments) (fallback : SlotLabel) (machine : Machine) :
    ∃ transaction, (args.planned fallback machine).toTransactionDocument = .ok transaction :=
  (rendered_iff _).mpr (by simp [PlanArguments.planned])

theorem plan_run (outside : Outside) (args : PlanArguments) (screen shown : Screen) (code : Int) :
    (abUpdatePlan outside args).run screen = .ok (some code) shown ↔
      code = 0 ∧ ∃ output, PlansAs outside args output ∧
        shown = { screen with stdout := screen.stdout ++ [output] } := by
  constructor
  · intro ran
    simp only [abUpdatePlan, ask_then_ok] at ran
    obtain ⟨⟨found, healthProbe⟩, loaded, ran⟩ := ran
    cases found with
    | none => cases ran
    | some machine =>
      obtain ⟨fallback, initial⟩ := loaded_initial loaded
      simp only [ask_then_ok] at ran
      obtain ⟨⟨result, later⟩, started, ran⟩ := ran
      by_cases plannable : Plannable fallback machine
      · obtain ⟨_, allowed, opened⟩ := opening_ok initial args plannable
        cases opened.symm.trans started
        simp only [allowed, Bool.true_eq_false, if_false, ask_then_ok] at ran
        obtain ⟨transaction, rendered, ran⟩ := ran
        cases ran
        exact ⟨rfl, _, ⟨machine, healthProbe, fallback, transaction, loaded, initial, plannable,
          rendered, rfl⟩, rfl⟩
      · obtain ⟨_, raises⟩ := opening_raises initial args plannable
        cases raises.symm.trans started
  · rintro ⟨rfl, _, ⟨machine, healthProbe, fallback, transaction, loaded, initial, plannable,
      rendered, rfl⟩, rfl⟩
    obtain ⟨result, allowed, opened⟩ := opening_ok initial args plannable
    simp only [abUpdatePlan, ask_then_ok]
    refine ⟨_, loaded, ?_⟩
    simp only [ask_then_ok]
    refine ⟨_, opened, ?_⟩
    simp only [allowed, Bool.true_eq_false, if_false, ask_then_ok]
    exact ⟨transaction, rendered, rfl⟩

theorem plan_steady (outside : Outside) (args : PlanArguments) :
    Steady (abUpdatePlan outside args) := by
  refine .ask_then fun loaded _ => ?_
  obtain ⟨found, healthProbe⟩ := loaded
  cases found with
  | none => exact .ok none id fun _ => rfl
  | some machine =>
    refine .ask_then fun opened _ => ?_
    obtain ⟨result, later⟩ := opened
    dsimp only
    split
    · exact .ok (some 2) _ fun _ => rfl
    · exact .ask_then fun _ _ => .ok (some 0) _ fun _ => rfl

/-- The slots hold values of other types than the machine is annotated with. -/
def PlanArguments.Unannotated (outside : Outside) (args : PlanArguments) : Prop :=
  ∃ healthProbe, args.load outside = .ok (none, healthProbe)

theorem plan_unannotated {outside : Outside} {args : PlanArguments} {screen shown : Screen}
    (unknown : (abUpdatePlan outside args).run screen = .ok none shown) :
    args.Unannotated outside := by
  simp only [abUpdatePlan, ask_then_ok] at unknown
  obtain ⟨⟨found, healthProbe⟩, loaded, ran⟩ := unknown
  cases found with
  | none => exact ⟨healthProbe, loaded⟩
  | some machine =>
    simp only [ask_then_ok] at ran
    obtain ⟨⟨result, later⟩, _, ran⟩ := ran
    by_cases refused : result.allowed = false
    · rw [if_pos refused] at ran
      cases ran
    · rw [if_neg refused, ask_then_ok] at ran
      obtain ⟨_, _, ended⟩ := ran
      cases ended

/--
The command prints the plan and answers 0, as no event is refused here; or it raises
and has printed nothing, where the documents do not load or the start is not allowed.
-/
theorem update_plan_exact (outside : Outside) (args : PlanArguments) :
    (∃ output, PlansAs outside args output ∧ ∀ screen, (abUpdatePlan outside args).run screen =
      .ok (some 0) { screen with stdout := screen.stdout ++ [output] }) ∨
    ((¬ ∃ output, PlansAs outside args output) ∧
      ∃ raised, ∀ screen, (abUpdatePlan outside args).run screen = .error raised screen) ∨
    args.Unannotated outside := by
  obtain ⟨outcome, ends⟩ := plan_steady outside args
  rcases outcome with raised | ⟨answered, change⟩
  · refine .inr (.inl ⟨?_, raised, ends⟩)
    rintro ⟨output, plans⟩
    have ran := (plan_run outside args {} _ 0).mpr ⟨rfl, output, plans, rfl⟩
    rw [ends] at ran
    cases ran
  · cases answered with
    | none => exact .inr (.inr (plan_unannotated (ends {})))
    | some code =>
      obtain ⟨_, output, plans, _⟩ := (plan_run outside args {} _ code).mp (ends {})
      exact .inl ⟨output, plans, fun screen =>
        (plan_run outside args screen _ 0).mpr ⟨rfl, output, plans, rfl⟩⟩

def PlanArguments.event (args : PlanArguments) : Json := .obj [
  ("event", .str "begin"),
  ("payloadDigest", .str args.payloadDigest),
  ("payloadRef", textOrNull args.payloadRef),
  ("version", textOrNull args.version)]

theorem asOptionalText_textOrNull (text : Option String) :
    asOptionalText (textOrNull text) = some text := by
  cases text <;> rfl

theorem event_reads (args : PlanArguments) :
    Reads args.event (.begin args.payloadDigest args.payloadRef args.version) where
  named := rfl
  adapted := by
    refine ⟨.begin (.str args.payloadDigest) (textOrNull args.payloadRef)
      (textOrNull args.version), rfl, ?_⟩
    simp only [Call.typed, asText, asOptionalText_textOrNull]
    rfl

section Replayed

variable {outside : Outside} {beyond : Call → Effect Machine TransitionResult}
  {args : PlanArguments} {machine : Machine} {fallback : SlotLabel} {index : Nat}
  {log : List Json}

theorem begun_plannable (initial : Initial fallback machine) {result : TransitionResult}
    {later : Machine}
    (handled : (handle abUpdateEvents (methods beyond) index args.event).run machine =
      .ok result later) :
    Plannable fallback machine ∧ later = args.planned fallback machine := by
  rw [(event_reads args).handle] at handled
  have begun : (begin args.payloadDigest args.payloadRef args.version).run machine = _ := handled
  have started : opening args machine = .ok (result, later) := by rw [opening, begun]
  by_cases plannable : Plannable fallback machine
  · obtain ⟨_, _, opened⟩ := opening_ok initial args plannable
    cases opened.symm.trans started
    exact ⟨plannable, rfl⟩
  · obtain ⟨_, raises⟩ := opening_raises initial args plannable
    cases raises.symm.trans started

theorem planned_replayed (args : PlanArguments) (machine : Machine) :
    replayed beyond [args.event] machine =
      (opening args machine).map fun begun => ([begun.1.logEntry], begun.2) := by
  rw [replayed, opening, eventLoop]
  cases ran : (begin args.payloadDigest args.payloadRef args.version).run machine with
  | ok result later =>
    rw [run_then (((event_reads args).handle 0 machine).trans ran)]
    rfl
  | error raised later =>
    rw [run_raised (((event_reads args).handle 0 machine).trans ran)]
    rfl

end Replayed

theorem loop_split {beyond : Call → Effect Machine TransitionResult} {front back : List Json}
    {index : Nat} {log entries : List Json} {machine later : Machine}
    (ran : (eventLoop abUpdateEvents (methods beyond) index (front ++ back) log).run machine =
      .ok entries later) :
    ∃ log' middle,
      (eventLoop abUpdateEvents (methods beyond) index front log).run machine = .ok log' middle ∧
      (eventLoop abUpdateEvents (methods beyond) (index + front.length) back log').run middle =
        .ok entries later := by
  induction front generalizing index log machine with
  | nil => exact ⟨log, machine, rfl, ran⟩
  | cons event rest ih =>
    have ⟨result, middle, handled, looped⟩ := eventLoop_ok _ _ ran
    have ⟨log', last, before, after⟩ := ih looped
    refine ⟨log', last, by rw [eventLoop, run_then handled, before], ?_⟩
    rw [List.length_cons, Nat.add_comm rest.length, ← Nat.add_assoc]
    exact after

theorem replay_loads {outside : Outside} {beyond : Call → Effect Machine TransitionResult}
    {args : ReplayArguments} {printed shown : List Json} {code : Int}
    (ran : (abUpdateReplay outside beyond args).run printed = .ok (some code) shown) :
    ∃ machine healthProbe, loadAbUpdateMachine outside args = .ok (some machine, healthProbe) := by
  simp only [abUpdateReplay, ask_then_ok] at ran
  obtain ⟨⟨found, healthProbe⟩, loaded, ran⟩ := ran
  cases found with
  | none => cases ran
  | some machine => exact ⟨machine, healthProbe, loaded⟩

theorem replay_begins {outside : Outside} {beyond : Call → Effect Machine TransitionResult}
    {args : PlanArguments} {path : String} {front back : List Json} {before after : List Event}
    (readsFront : List.Forall₂ Reads front before) (readsBack : List.Forall₂ Reads back after)
    (unbegun : ∀ event ∈ before, event.name ≠ .begin) {printed shown : List Json}
    (ran : (abUpdateReplay outside beyond
        (args.drill ⟨path, .arr (front ++ args.event :: back)⟩)).run printed =
      .ok (some 0) shown) :
    ∃ machine healthProbe fallback log transaction,
      args.load outside = .ok (some machine, healthProbe) ∧ Initial fallback machine ∧
      Plannable fallback machine ∧
      (device.run (args.planned fallback machine) after).toTransactionDocument = .ok transaction ∧
      shown = printed ++ [replayOutput outside (device.run (args.planned fallback machine) after)
        log (carryingProbe healthProbe transaction)] := by
  obtain ⟨machine, healthProbe, loaded⟩ := replay_loads ran
  obtain ⟨fallback, initial⟩ := loaded_initial loaded
  obtain ⟨log, later, transaction, looped, rendered, shows⟩ :=
    (abUpdateReplay_ok loaded rfl printed shown).mp ran
  rw [replayed_ok] at looped
  obtain ⟨_, middle, waited, looped⟩ := loop_split looped
  -- Before the event nothing has been opened, so the machine is as it was loaded.
  have still := (run_idle_iff initial.standing initial.idle before).mpr unbegun
  obtain rfl : machine = middle :=
    (run_idle initial.standing before still).symm.trans (loop_device readsFront waited)
  obtain ⟨_, opened, handled, looped⟩ := eventLoop_ok _ _ looped
  obtain ⟨plannable, rfl⟩ := begun_plannable initial handled
  rw [← loop_device readsBack looped] at rendered shows
  exact ⟨machine, healthProbe, fallback, log, transaction, loaded, initial, plannable, rendered,
    shows⟩

theorem plan_raises {outside : Outside} {args : PlanArguments} {machine : Machine}
    {healthProbe : Json} {raised : Raised}
    (loaded : args.load outside = .ok (some machine, healthProbe))
    (stopped : opening args machine = .error raised) (screen : Screen) :
    (abUpdatePlan outside args).run screen = .error raised screen := by
  rw [abUpdatePlan, ask_then (fun _ => args.load outside) screen _ loaded]
  exact ask_raised _ screen raised stopped _

theorem replay_raises {outside : Outside} {beyond : Call → Effect Machine TransitionResult}
    {args : ReplayArguments} {machine : Machine} {healthProbe : Json} {events : List Json}
    {raised : Raised} (loaded : loadAbUpdateMachine outside args = .ok (some machine, healthProbe))
    (listed : args.events.content = .arr events)
    (stopped : replayed beyond events machine = .error raised) (printed : List Json) :
    (abUpdateReplay outside beyond args).run printed = .error raised printed := by
  have read : loadList args.events "events" = .ok events := by rw [loadList, listed]
  rw [abUpdateReplay, ask_then (fun _ => loadAbUpdateMachine outside args) printed _ loaded]
  exact (ask_then (fun _ => loadList args.events "events") printed _ read _).trans
    (ask_raised _ printed raised stopped _)

/--
At the same readings of the clock the plan and the replay of its one event print the
same transaction and the same slots, or they raise the same exception.
-/
theorem plan_is_replayed (outside : Outside) (beyond : Call → Effect Machine TransitionResult)
    (args : PlanArguments) (path : String) (screen : Screen) (printed : List Json) :
    let replay := abUpdateReplay outside beyond (args.drill ⟨path, .arr [args.event]⟩)
    (∃ later log transaction,
      (abUpdatePlan outside args).run screen = .ok (some 0)
        { screen with stdout := screen.stdout ++ [planOutput outside later transaction] } ∧
      replay.run printed =
        .ok (some 0) (printed ++ [replayOutput outside later log transaction])) ∨
    (∃ raised, (abUpdatePlan outside args).run screen = .error raised screen ∧
      replay.run printed = .error raised printed) ∨
    args.Unannotated outside := by
  dsimp only
  cases loaded : args.load outside with
  | error raised =>
    exact .inr (.inl ⟨raised, ask_raised _ screen raised loaded _,
      ask_raised _ printed raised loaded _⟩)
  | ok read =>
    obtain ⟨_ | machine, healthProbe⟩ := read
    · exact .inr (.inr ⟨healthProbe, loaded⟩)
    have reloaded : loadAbUpdateMachine outside (args.drill ⟨path, .arr [args.event]⟩) = _ := loaded
    have replays := @planned_replayed beyond args machine
    obtain ⟨fallback, initial⟩ := loaded_initial loaded
    by_cases plannable : Plannable fallback machine
    · obtain ⟨result, _, opened⟩ := opening_ok initial args plannable
      obtain ⟨transaction, rendered⟩ := planned_rendered args fallback machine
      rw [opened] at replays
      exact .inl ⟨_, _, _, (plan_run outside args screen _ 0).mpr ⟨rfl, _, ⟨machine, healthProbe,
        fallback, transaction, loaded, initial, plannable, rendered, rfl⟩, rfl⟩,
        (abUpdateReplay_ok reloaded rfl printed _).mpr ⟨_, _, transaction, replays, rendered, rfl⟩⟩
    · obtain ⟨raised, raises⟩ := opening_raises initial args plannable
      rw [raises] at replays
      exact .inr (.inl ⟨raised, plan_raises loaded raises screen,
        replay_raises reloaded rfl replays printed⟩)

theorem carryingProbe_get (healthProbe doc : Json) (key : String) :
    (carryingProbe healthProbe doc).get? key =
      (doc.get? key).map fun value => if key = "healthProbeRef" then healthProbe else value := by
  cases doc with
  | obj members =>
    simp only [carryingProbe, Json.get?]
    induction members with
    | nil => rfl
    | cons member rest ih =>
      obtain ⟨name, value⟩ := member
      by_cases same : name = key
      · by_cases probe : key = "healthProbeRef" <;> simp [Json.lookup, same, probe]
      · by_cases probe : name = "healthProbeRef" <;> simp_all [Json.lookup]
  | _ => rfl

theorem Extends.carrying {earlier later : Json} (grown : Extends earlier later)
    (healthProbe : Json) :
    Extends (carryingProbe healthProbe earlier) (carryingProbe healthProbe later) where
  members := fun key fixed => by
    rw [carryingProbe_get, carryingProbe_get, grown.members key fixed]
  attempts := by
    obtain ⟨made, more, before, after⟩ := grown.attempts
    exact ⟨made, more, by simp [carryingProbe_get, before], by simp [carryingProbe_get, after]⟩
  settled := by
    intro outcome
    have different : earlier.get? "outcome" ≠ some (.str "pending") := by
      intro pending
      simp [carryingProbe_get, pending] at outcome
    rw [grown.settled different]

/--
A replay that first begins with the event of the plan extends the transaction
that was planned, whatever is refused before and whatever comes behind.
-/
theorem plan_precedes_replay (outside : Outside) (beyond : Call → Effect Machine TransitionResult)
    (args : PlanArguments) (path : String) (front back : List Json)
    (wellFormedFront : ∀ event ∈ front, WellFormed event ∧ ¬ IsBegin event)
    (wellFormedBack : ∀ event ∈ back, WellFormed event) (screen : Screen)
    (printed shown : List Json)
    (ran : (abUpdateReplay outside beyond
        (args.drill ⟨path, .arr (front ++ args.event :: back)⟩)).run printed =
      .ok (some 0) shown) :
    ∃ planned later log earlier extended,
      (abUpdatePlan outside args).run screen = .ok (some 0)
        { screen with stdout := screen.stdout ++ [planOutput outside planned earlier] } ∧
      shown = printed ++ [replayOutput outside later log extended] ∧
      Extends earlier extended := by
  obtain ⟨before, readsFront⟩ := well_formed_reads fun event listed =>
    (wellFormedFront event listed).1
  obtain ⟨after, readsBack⟩ := well_formed_reads wellFormedBack
  have unbegun := not_not.mp ((reads_begin_iff readsFront).not.mp fun ⟨event, listed, begins⟩ =>
    (wellFormedFront event listed).2 begins)
  obtain ⟨machine, healthProbe, fallback, log, _, loaded, initial, plannable, shows, rfl⟩ :=
    replay_begins readsFront readsBack unbegun ran
  obtain ⟨transaction, rendered⟩ := planned_rendered args fallback machine
  have standing := planned_standing initial args
  have opened := transaction_shown rendered
  obtain ⟨_, later, extended⟩ := (run_grows standing opened after).extends rendered
    (run_stays_open standing opened after)
  cases later.symm.trans shows
  exact ⟨_, _, log, _, _, (plan_run outside args screen _ 0).mpr ⟨rfl, _, ⟨machine, healthProbe,
    fallback, transaction, loaded, initial, plannable, rendered, rfl⟩, rfl⟩, rfl,
    extended.carrying healthProbe⟩

def examplePlan : PlanArguments where
  slots := ⟨"slots.json", .arr [exampleActive, exampleCandidate]⟩
  probe := ⟨"probe.json", exampleProbe⟩
  transactionId := "urn:srcos:update-transaction:sourceos_fog_edge_07_0001"
  payloadDigest := badDigest

theorem plan_precedes_replay_example :
    ∃ shown, (abUpdateReplay exampleOutside unannotated
          (examplePlan.drill ⟨"events.json", .arr ([armEvent] ++ examplePlan.event :: [])⟩)).run [] =
        .ok (some 0) shown ∧
      ∃ planned later log earlier extended,
        (abUpdatePlan exampleOutside examplePlan).run {} = .ok (some 0)
          { stdout := [] ++ [planOutput exampleOutside planned earlier], stderr := [] } ∧
        shown = [] ++ [replayOutput exampleOutside later log extended] ∧
        Extends earlier extended := by
  have begins : Reads examplePlan.event _ := event_reads examplePlan
  obtain ⟨_, reads⟩ := armEvent_wellFormed.reads
  obtain ⟨_, _, _, loaded, contracted⟩ := accepted_contracted exampleMachine_built.pair rfl
    (drill_accepted ([armEvent] ++ examplePlan.event :: []))
  have known : ∀ event ∈ [armEvent] ++ examplePlan.event :: [], KnownExpiry event := by
    intro event listed named
    rcases List.mem_pair.mp listed with rfl | rfl <;>
      simp [armEvent, PlanArguments.event, Json.get?, Json.lookup, EventName.name] at named
  obtain ⟨_, ran, _⟩ := @reports_of_begin exampleOutside unannotated _ _ _ _ _ _ loaded rfl contracted
    (.cons reads (.cons begins .nil)) ⟨examplePlan.event, by simp, rfl⟩ known []
  have front : ∀ event ∈ [armEvent], WellFormed event ∧ ¬ IsBegin event := by
    rw [List.forall_mem_singleton]
    exact ⟨armEvent_wellFormed, by simp [IsBegin, armEvent, Json.get?, Json.lookup, EventName.name]⟩
  exact ⟨_, ran, plan_precedes_replay exampleOutside unannotated examplePlan "events.json"
    [armEvent] [] front (by simp) {} [] _ ran⟩

end SourceosBoot.AbUpdate
