import Mathlib.Data.List.Induction
import Mathlib.Order.Monotone.Defs
import SourceosBoot.AbUpdate.AttemptLedger
import SourceosBoot.AbUpdate.TransactionConformance

set_option autoImplicit false

-- Every reading of the clock goes into the record, once and in order; `boot_attempt` takes none.

namespace SourceosBoot.AbUpdate

open Python Transition

def Machine.times (machine : Machine) : List String :=
  machine.openedAt.toList ++ machine.attempts.map (·.startedAt) ++ machine.settledAt.toList

structure OnRecord (machine : Machine) : Prop where
  unopened : machine.phase = .idle → machine.openedAt = none
  unarmed : machine.phase = .idle ∨ machine.phase = .writing ∨ machine.phase = .candidateReady →
    machine.attempts = []
  unsettled : machine.phase ∉ terminalPhases → machine.settledAt = none
  times : machine.times = (List.range machine.clockReads).map machine.config.clock

theorem Initial.onRecord {fallback : SlotLabel} {machine : Machine}
    (initial : Initial fallback machine) : OnRecord machine := by
  rw [initial.fresh]
  constructor <;> simp [Machine.times]

theorem Edge.onRecord {fallback : SlotLabel} {machine after : Machine} {event : Event}
    {fellBackTo : Option SlotLabel} (edge : Edge fallback machine event fellBackTo after)
    (record : OnRecord machine) : OnRecord after := by
  have unsettled := record.unsettled edge.from_pending
  have times := record.times
  simp only [Machine.times, unsettled, Option.toList_none, List.append_nil] at times
  constructor
  case unopened => exact fun idle => absurd idle edge.leaves_idle
  case unarmed => exact edge.unarmed record.unarmed
  case unsettled =>
    intro pending
    cases edge <;> first | simpa using unsettled | simp [terminalPhases] at pending
  case times =>
    cases edge with
    | begin _ _ _ phase =>
      simp only [record.unopened phase, record.unarmed (.inl phase)] at times
      simp [Machine.times, Machine.time, unsettled, List.range_succ, ← times, record.unarmed, phase]
    | _ =>
      simp [Machine.times, Machine.time, unsettled, List.range_succ, ← times]

theorem run_onRecord {fallback : SlotLabel} {machine : Machine}
    (initial : Initial fallback machine) (events : List Event) :
    OnRecord (device.run machine events) :=
  (run_edges OnRecord (fun _ record edge => edge.onRecord record) initial.standing
    initial.onRecord events).2

def textsAt (key : String) (doc : Json) : List String :=
  match doc.get? key with
  | some (.str text) => [text]
  | _ => []

def attemptsOf (doc : Json) : List Json :=
  match doc.get? "attempts" with
  | some (.arr items) => items
  | _ => []

-- `openedAt`, the `startedAt` of the attempts in their order, and `settledAt` where it is set.
def documentTimes (doc : Json) : List String :=
  textsAt "openedAt" doc ++ (attemptsOf doc).flatMap (textsAt "startedAt") ++ textsAt "settledAt" doc

theorem documentTimes_eq {machine : Machine} (record : OnRecord machine) {doc : Json}
    (rendered : machine.toTransactionDocument = .ok doc) : documentTimes doc = machine.times := by
  have started (attempt : AttemptRecord) :
      textsAt "startedAt" attempt.toDict = [attempt.startedAt] := by
    simp [textsAt, AttemptRecord.toDict, attemptMembers, Json.get?, Json.lookup]
  have opened : machine.phase ≠ .idle := by
    intro idle
    simp [Machine.toTransactionDocument, idle, raise] at rendered
  rw [toTransactionDocument_opened machine opened] at rendered
  cases rendered
  have openedAt : textsAt "openedAt" (.obj (transactionMembers machine)) =
      machine.openedAt.toList := by
    cases time : machine.openedAt <;>
      simp [textsAt, transactionMembers, Json.get?, Json.lookup, textOrNull, time]
  have attempts : (attemptsOf (.obj (transactionMembers machine))).flatMap (textsAt "startedAt") =
      machine.attempts.map (·.startedAt) := by
    simp [attemptsOf, transactionMembers, Json.get?, Json.lookup, List.flatMap_map, started,
      ← List.map_eq_flatMap]
  have settledAt : textsAt "settledAt" (.obj (transactionMembers machine)) =
      machine.settledAt.toList := by
    by_cases terminal : machine.phase ∈ terminalPhases
    · cases time : machine.settledAt <;>
        simp [textsAt, transactionMembers, Json.get?, Json.lookup, textOrNull, terminal, time]
    · simp [textsAt, transactionMembers, Json.get?, Json.lookup, terminal,
        record.unsettled terminal]
  rw [documentTimes, openedAt, attempts, settledAt, Machine.times]

section Order

variable {τ : Type} [Preorder τ] (instant : String → τ)

theorem OnRecord.increasing {machine : Machine} (record : OnRecord machine)
    (increasing : StrictMono fun reading => instant (machine.config.clock reading)) {doc : Json}
    (rendered : machine.toTransactionDocument = .ok doc) :
    ((documentTimes doc).map instant).Pairwise (· < ·) := by
  rw [documentTimes_eq record rendered, record.times, List.map_map, List.pairwise_map]
  exact List.pairwise_lt_range.imp fun earlier => increasing earlier

end Order

def EndsTrial (machine : Machine) (event : Event) : Prop :=
  machine.phase = .trying ∧ event.attemptResult ≠ none ∧ event.Known

theorem trial_ends {fallback : SlotLabel} {machine : Machine} (stage : Stage fallback machine)
    {event : Event} (ends : EndsTrial machine event) :
    ∃ fellBackTo after, Edge fallback machine event fellBackTo after := by
  obtain ⟨phase, reports, known⟩ := ends
  have remaining := stage.trying phase
  -- With tries left a failure is retried, with none it exhausts the budget.
  have failure (result : AttemptResult) (detail : String) (failure : Failure event result detail)
      : ∃ fellBackTo after, Edge fallback machine event fellBackTo after := by
    by_cases hasty : event.rebootsToFallback = true
    · exact ⟨_, _, .exhaust event result detail failure phase (.inl hasty)⟩
    by_cases spent : (machine.slots.get fallback.other).triesRemaining = 0
    · exact ⟨_, _, .exhaust event result detail failure phase (.inr spent)⟩
    · exact ⟨_, _, .retry event result detail failure (Bool.eq_false_iff.mpr hasty) phase
        (by omega)⟩
  cases event with
  | probePass detail => exact ⟨_, _, .promote detail phase⟩
  | probeFail detail => exact failure _ _ (.probe detail)
  | watchdogExpired detail expiryAction => exact failure _ _ (.watchdog detail expiryAction known)
  | operatorAbort detail => exact ⟨_, _, .abortTrial detail phase⟩
  | _ => exact absurd rfl reports

theorem Sound.attempts_step {fallback : SlotLabel} {machine : Machine}
    (sound : Sound fallback machine) (event : Event) :
    (¬ EndsTrial machine event ∧
      (device.step machine event).2.attempts = machine.attempts) ∨
    (EndsTrial machine event ∧ ∃ attempt,
      (device.step machine event).2.attempts = machine.attempts ++ [attempt]) := by
  cases step_answered sound.standing event with
  | declined _ refused step =>
    refine .inl ⟨fun ends => ?_, by rw [step]⟩
    obtain ⟨_, _, edge⟩ := trial_ends sound.stage ends
    have allowed := (edge_takes sound.standing edge).allowed (congrArg Prod.fst step)
    simp [refused] at allowed
  | unknown _ unknown step => exact .inl ⟨fun ends => unknown ends.2.2, by rw [step]⟩
  | taken known _ _ edge takes =>
    rw [takes.left]
    rcases edge.attempts with ⟨resting, same⟩ | ⟨onTrial, _, attempt, appended, record⟩
    · exact .inl ⟨fun ends => resting ends.1, same⟩
    · exact .inr ⟨⟨onTrial, by simp [record.result], known⟩, attempt, appended⟩

theorem attempts_grow {fallback : SlotLabel} {machine : Machine}
    (standing : Standing fallback machine) (events : List Event) :
    machine.attempts <+: (device.run machine events).attempts := by
  refine (run_edges (fun later => machine.attempts <+: later.attempts) ?_ standing
    List.prefix_rfl events).2
  intro before after event fellBackTo _ grown edge
  rcases edge.attempts with ⟨_, same⟩ | ⟨_, _, attempt, appended, _⟩
  · rwa [same]
  · rw [appended]
    exact grown.trans (List.prefix_append _ _)

theorem boot_reads_nothing {fallback : SlotLabel} {machine : Machine}
    (standing : Standing fallback machine) :
    (device.step machine .bootAttempt).2.clockReads = machine.clockReads := by
  cases step_answered standing .bootAttempt with
  | declined _ _ step => rw [step]
  | unknown _ _ step => rw [step]
  | taken _ _ _ edge takes =>
    rw [takes.left]
    cases edge with
    | boot => rfl
    | retry _ _ _ failure => cases failure
    | exhaust _ _ _ failure => cases failure

def ReadDuring (before after : Machine) (text : String) : Prop :=
  ∃ reading, before.clockReads ≤ reading ∧ reading < after.clockReads ∧
    text = before.config.clock reading

structure BootAt (machine : Machine) (events : List Event) (index : Nat) (front : List Event) :
    Prop where
  split : ∃ back, events = front ++ .bootAttempt :: back
  earlier : (acceptedRun machine front).countP Event.isBoot = index
  accepted : ∃ result, (device.step (device.run machine front) .bootAttempt).1 = .ok result ∧
    result.allowed = true

structure StartedAtBoot {τ : Type} [Preorder τ] (instant : String → τ) (machine : Machine)
    (events : List Event) : Prop where
  atBoot : ∀ index attempt, (device.run machine events).attempts[index]? = some attempt →
    ∃ front, BootAt machine events index front ∧
      ReadDuring (device.run machine front)
        (device.step (device.run machine front) .bootAttempt).2 attempt.startedAt
  beforeReport : ∀ front report back attempt, events = front ++ report :: back →
    (device.step (device.run machine front) report).2.attempts =
      (device.run machine front).attempts ++ [attempt] →
    ∀ reading, (device.run machine front).clockReads ≤ reading →
      instant attempt.startedAt < instant (machine.config.clock reading)
  ordered : ∀ doc, (device.run machine events).toTransactionDocument = .ok doc →
    ((documentTimes doc).map instant).Pairwise (· < ·)

theorem StartedAtBoot.no_report {τ : Type} [Preorder τ] {instant : String → τ}
    {fallback : SlotLabel} {machine : Machine} {events : List Event}
    (sound : Sound fallback machine) (started : StartedAtBoot instant machine events)
    (front : List Event) (report : Event) (back : List Event)
    (split : events = front ++ report :: back) :
    ¬ EndsTrial (device.run machine front) report := by
  intro ends
  have before := run_sound sound front
  rcases before.attempts_step report with ⟨calm, _⟩ | ⟨_, attempt, appended⟩
  · exact calm ends
  -- The entry stays, so the reached state has a first attempt; no boot has read its time.
  have grown := attempts_grow (run_standing sound.standing (front ++ [report])) back
  rw [← device.run_append, List.append_assoc, List.singleton_append, ← split, device.run_append,
    System.run_cons, System.run_nil, appended] at grown
  have recorded : (device.run machine events).attempts ≠ [] := by
    intro none
    simp [none] at grown
  obtain ⟨first, rest, attempts⟩ := List.exists_cons_of_ne_nil recorded
  obtain ⟨earlier, boot, reading, start, stop, _⟩ := started.atBoot 0 first (by simp [attempts])
  rw [boot_reads_nothing (run_standing sound.standing earlier)] at stop
  omega

theorem unreported_unrecorded {fallback : SlotLabel} {machine : Machine}
    (contracted : Contracted fallback machine) (events : List Event)
    (calm : ∀ front report back, events = front ++ report :: back →
      ¬ EndsTrial (device.run machine front) report) :
    (device.run machine events).attempts = [] := by
  induction events using List.reverseRecOn with
  | nil =>
    rw [System.run_nil, contracted.initial.fresh]
  | append_singleton front report ih =>
    have earlier := ih fun before event back split =>
      calm before event (back ++ [report]) (by simp [split])
    rw [device.run_append, System.run_cons, System.run_nil]
    rcases (run_sound contracted.sound front).attempts_step report with ⟨_, same⟩ | ⟨ends, _⟩
    · rw [same, earlier]
    · exact absurd ends (calm front report [] rfl)

/--
The record has the time of each boot exactly where no report of a trial boot was
made: `_record_attempt` reads the clock when the result comes in.
-/
theorem started_at_boot_iff {τ : Type} [Preorder τ] (instant : String → τ) (left right : Json)
    (arguments : MachineArguments) (machine : Machine)
    (built : BuiltFrom left right arguments machine)
    (increasing : StrictMono fun reading => instant (arguments.clock reading))
    (events : List Event) :
    StartedAtBoot instant machine events ↔
      ∀ front report back, events = front ++ report :: back →
        ¬ EndsTrial (device.run machine front) report := by
  obtain ⟨fallback, contracted⟩ := built.contracted
  have sound := contracted.sound
  refine ⟨fun started => started.no_report sound, fun calm => ?_⟩
  constructor
  case atBoot =>
    intro index attempt listed
    simp [unreported_unrecorded contracted events calm] at listed
  case beforeReport =>
    intro front report back attempt split appended
    rcases (run_sound sound front).attempts_step report with ⟨_, same⟩ | ⟨ends, _⟩
    · simp [same] at appended
    · exact absurd ends (calm front report back split)
  case ordered =>
    intro doc rendered
    have config := run_config sound.standing events
    refine (run_onRecord contracted.initial events).increasing instant ?_ rendered
    rw [config, built.arguments]
    exact increasing

def nines (count : Nat) : String := String.ofList (List.replicate count '9')

-- The clock halves the rest of one second: its texts grow as its instants do.
def tickingArguments : MachineArguments :=
  { exampleArguments with
    clock := fun reading => "2026-07-29T10:00:00.9" ++ nines reading ++ "Z" }

def tickingMachine : Machine :=
  { exampleMachine with
    config := { tickingArguments with targetRef := "urn:srcos:node:sourceos_fog_edge_07" } }

theorem tickingMachine_built :
    BuiltFrom exampleActive exampleCandidate tickingArguments tickingMachine where
  pair := exampleMachine_built.pair
  built := rfl

theorem ticking_increasing :
    StrictMono fun reading => (tickingArguments.clock reading).length := by
  intro earlier later before
  simpa [tickingArguments, nines, String.length_append] using before

def passingEvents : List Event :=
  [.begin badDigest none none, .writeComplete badDigest, .arm, .bootAttempt, .probePass none]

theorem started_at_boot_iff_example :
    StartedAtBoot String.length tickingMachine passingEvents ↔
      ∀ front report back, passingEvents = front ++ report :: back →
        ¬ EndsTrial (device.run tickingMachine front) report :=
  started_at_boot_iff String.length exampleActive exampleCandidate tickingArguments tickingMachine
    tickingMachine_built ticking_increasing passingEvents

theorem started_at_report :
    BuiltFrom exampleActive exampleCandidate tickingArguments tickingMachine ∧
    (StrictMono fun reading => (tickingArguments.clock reading).length) ∧
    ¬ StartedAtBoot String.length tickingMachine passingEvents := by
  refine ⟨tickingMachine_built, ticking_increasing, fun started => ?_⟩
  obtain ⟨fallback, contracted⟩ := tickingMachine_built.contracted
  refine started.no_report contracted.sound
    [.begin badDigest none none, .writeComplete badDigest, .arm, .bootAttempt] (.probePass none) []
    rfl ⟨by decide +kernel, by decide, trivial⟩

end SourceosBoot.AbUpdate
