import SourceosBoot.AbUpdate.Cli

set_option autoImplicit false

-- An observed digest that is empty is dropped for the payload digest, and with it the check.

namespace SourceosBoot.AbUpdate

open Python Transition

-- An argument the event leaves out has the default of the method's signature.
def carriedOr (event : Json) (key : String) (default : Json) : Json :=
  (event.get? key).getD default

def carriedCall : EventName → Json → Except Raised Call
  | .begin, event => do
    return .begin (← event.getItem "payloadDigest") (carriedOr event "payloadRef" .null)
      (carriedOr event "version" .null)
  | .writeComplete, event =>
    match event.get? "observedDigest" with
    | some observed => return .writeComplete observed
    | none => do return .writeComplete (← event.getItem "payloadDigest")
  | .writeFailed, event => return .writeFailed (carriedOr event "detail" (.str "write failed"))
  | .arm, _ => return .arm
  | .bootAttempt, _ => return .bootAttempt
  | .probePass, event => return .probePass (carriedOr event "detail" .null)
  | .probeFail, event =>
    return .probeFail (carriedOr event "detail" (.str "health probe failed"))
  | .watchdogExpired, event =>
    return .watchdogExpired (carriedOr event "detail" (.str "watchdog expired"))
      (carriedOr event "expiryAction" (.str "reboot"))
  | .operatorAbort, event =>
    return .operatorAbort (carriedOr event "detail" (.str "aborted by operator"))

/-- Whatever the methods do with their arguments, the replay leaves the object and the log that
the calls with the carried values leave. -/
def FaithfulReplay (events : List Json) : Prop :=
  ∀ (σ : Type) (perform : Call → Effect σ TransitionResult) (state : σ),
    (eventLoop abUpdateEvents perform 0 events []).run state =
      (eventLoop carriedCall perform 0 events []).run state

/-- A written digest that Python takes for false, and that is not the payload digest besides. -/
def Overridden (event : Json) : Prop :=
  event.get? "event" = some (.str EventName.writeComplete.name) ∧
    ∃ observed, event.get? "observedDigest" = some observed ∧ observed.truthy = false ∧
      event.get? "payloadDigest" ≠ some observed

def IsCall (event : Json) : Prop :=
  ∃ (name : EventName) (made : Call), event.get? "event" = some (.str name.name) ∧
    abUpdateEvents name event = .ok made

-- The events after one that is no call are not reached.
def NothingOverridden (events : List Json) : Prop :=
  ∀ front event back, events = front ++ event :: back → (∀ earlier ∈ front, IsCall earlier) →
    ¬ Overridden event

theorem adapters_agree_iff {event : Json} {name : EventName}
    (named : event.get? "event" = some (.str name.name)) :
    abUpdateEvents name event = carriedCall name event ↔ ¬ Overridden event := by
  have ⟨members, shape⟩ : ∃ members, event = .obj members := by
    cases event <;> simp_all [Json.get?]
  subst shape
  cases name
  case writeComplete =>
    cases observed : Json.lookup "observedDigest" members with
    | none =>
      simp [abUpdateEvents, carriedCall, Overridden, Json.getD, Json.get?, observed, Json.truthy,
        bind, Except.bind]
    | some value =>
      cases kept : value.truthy with
      | true =>
        simp [abUpdateEvents, carriedCall, Overridden, Json.getD, Json.get?, observed, kept, bind,
          Except.bind]
      | false =>
        have written : (Json.obj members).get? "event" =
          some (.str EventName.writeComplete.name) := named
        cases payload : Json.lookup "payloadDigest" members <;>
          simp_all [abUpdateEvents, carriedCall, Overridden, Json.getD, Json.get?, Json.getItem,
            raise, bind, Except.bind, pure, Except.pure]
  all_goals
    have other : ¬ Overridden (.obj members) := by
      intro overridden
      rw [Overridden, named] at overridden
      exact absurd overridden.1 (by simp [EventName.name])
    simp only [other, not_false_eq_true, iff_true]
    rfl

theorem NothingOverridden.head {event : Json} {rest : List Json}
    (kept : NothingOverridden (event :: rest)) : ¬ Overridden event :=
  kept [] event rest rfl (by simp)

theorem NothingOverridden.tail {event : Json} {rest : List Json}
    (kept : NothingOverridden (event :: rest)) (made : IsCall event) : NothingOverridden rest := by
  intro front later back split calls
  apply kept (event :: front) later back (by rw [split]; rfl)
  exact List.forall_mem_cons.mpr ⟨made, calls⟩

section Loop

variable {σ : Type} (perform : Call → Effect σ TransitionResult)

theorem handle_agrees {event : Json} (kept : ¬ Overridden event) (index : Nat) (state : σ) :
    (handle abUpdateEvents perform index event).run state =
      (handle carriedCall perform index event).run state := by
  cases found : handlerName index event with
  | error raised =>
    have stopped := ask_raised (β := TransitionResult) (fun _ => handlerName index event) state
      raised found
    rw [handle, handle, stopped, stopped]
  | ok name =>
    have agree := (adapters_agree_iff (handlerName_ok.mp found)).mpr kept
    have question := ask_then (β := TransitionResult) (fun _ => handlerName index event) state
      name found
    rw [handle, handle, question, question, agree]

theorem loop_agrees {events : List Json} (kept : NothingOverridden events) (index : Nat)
    (log : List Json) (state : σ) :
    (eventLoop abUpdateEvents perform index events log).run state =
      (eventLoop carriedCall perform index events log).run state := by
  induction events generalizing index log state with
  | nil => rfl
  | cons event rest ih =>
    have same := handle_agrees perform kept.head index state
    rw [eventLoop, eventLoop]
    cases handled : (handle carriedCall perform index event).run state with
    | error raised later =>
      rw [run_raised handled, run_raised (same.trans handled)]
    | ok result later =>
      obtain ⟨name, made, named, adapted, _⟩ := handle_ok _ _ (same.trans handled)
      rw [run_then handled, run_then (same.trans handled)]
      exact ih (kept.tail ⟨name, made, named, adapted⟩) _ _ later

end Loop

def recorded (made : Call) : TransitionResult := ⟨false, made.name, .idle, .idle, "", none⟩

def record (made : Call) : Effect (List Call) TransitionResult := do
  modify fun calls => calls ++ [made]
  return recorded made

section Record

variable (adapters : EventName → Json → Except Raised Call) (index : Nat) (event : Json)
  (events log : List Json) (calls : List Call)

theorem handle_records {name : EventName} {made : Call}
    (named : event.get? "event" = some (.str name.name)) (adapted : adapters name event = .ok made) :
    (handle adapters record index event).run calls =
      .ok (recorded made) (calls ++ [made]) := by
  rw [handle_run adapters record index named adapted]
  rfl

theorem handle_stops (uncalled : ¬ ∃ (name : EventName) (made : Call),
    event.get? "event" = some (.str name.name) ∧ adapters name event = .ok made) :
    ∃ raised, (handle adapters record index event).run calls = .error raised calls := by
  cases found : handlerName index event with
  | error raised =>
    exact ⟨raised, ask_raised _ calls raised found _⟩
  | ok name =>
    cases adapted : adapters name event with
    | error raised =>
      exact ⟨raised, (ask_then (fun _ => handlerName index event) calls name found _).trans
        (ask_raised _ calls raised adapted _)⟩
    | ok made => exact absurd ⟨name, made, handlerName_ok.mp found, adapted⟩ uncalled

theorem loop_records :
    ∃ more, left ((eventLoop adapters record index events log).run calls) = calls ++ more := by
  induction events generalizing index log calls with
  | nil => exact ⟨[], by simp [eventLoop]⟩
  | cons event rest ih =>
    rw [eventLoop]
    by_cases called : ∃ (name : EventName) (made : Call),
        event.get? "event" = some (.str name.name) ∧ adapters name event = .ok made
    · obtain ⟨name, made, named, adapted⟩ := called
      rw [run_then (handle_records adapters index event calls named adapted)]
      obtain ⟨more, listed⟩ := ih (index + 1) (log ++ [(recorded made).logEntry]) (calls ++ [made])
      exact ⟨made :: more, by rw [listed]; simp⟩
    · obtain ⟨raised, stopped⟩ := handle_stops adapters index event calls called
      rw [run_raised stopped]
      exact ⟨[], by simp⟩

end Record

theorem overridden_differs {event : Json} (overridden : Overridden event) (index : Nat)
    (rest log : List Json) (calls : List Call) :
    left ((eventLoop abUpdateEvents record index (event :: rest) log).run calls) ≠
      left ((eventLoop carriedCall record index (event :: rest) log).run calls) := by
  have fields := overridden
  obtain ⟨named, observed, carried, -, -⟩ := fields
  have adaptedTo : carriedCall .writeComplete event = .ok (.writeComplete observed) := by
    simp [carriedCall, carried, pure, Except.pure]
  obtain ⟨more, listed⟩ := loop_records carriedCall (index + 1) rest
    (log ++ [(recorded (.writeComplete observed)).logEntry]) (calls ++ [.writeComplete observed])
  rw [eventLoop, eventLoop, run_then (handle_records carriedCall index event calls named adaptedTo),
    listed]
  by_cases called : ∃ (name : EventName) (made : Call),
      event.get? "event" = some (.str name.name) ∧ abUpdateEvents name event = .ok made
  · obtain ⟨name, made, named', adapted⟩ := called
    obtain ⟨others, listed'⟩ := loop_records abUpdateEvents (index + 1) rest
      (log ++ [(recorded made).logEntry]) (calls ++ [made])
    rw [run_then (handle_records abUpdateEvents index event calls named' adapted), listed']
    intro same
    have sameCall : made = .writeComplete observed := by simp_all
    cases name_of_named (named'.symm.trans named)
    rw [sameCall, ← adaptedTo] at adapted
    exact (adapters_agree_iff named).mp adapted overridden
  · obtain ⟨raised, stopped⟩ := handle_stops abUpdateEvents index event calls called
    rw [run_raised stopped]
    simp

theorem kept_of_faithful {events : List Json} {index : Nat} {log : List Json} {calls : List Call}
    (faithful : left ((eventLoop abUpdateEvents record index events log).run calls) =
      left ((eventLoop carriedCall record index events log).run calls)) :
    NothingOverridden events := by
  induction events generalizing index log calls with
  | nil =>
    intro front event back split
    simp at split
  | cons first rest ih =>
    have head : ¬ Overridden first := fun overridden =>
      overridden_differs overridden index rest log calls faithful
    intro front event back split called
    cases front with
    | nil =>
      cases split
      exact head
    | cons earlier front =>
      cases split
      have ⟨name, made, named, adapted⟩ := called first (by simp)
      have agrees := (adapters_agree_iff named).mpr head
      rw [eventLoop, eventLoop, run_then (handle_records abUpdateEvents index first calls named adapted),
        run_then (handle_records carriedCall index first calls named (agrees ▸ adapted))] at faithful
      exact ih faithful front event back rfl fun later listed =>
        called later (List.mem_cons_of_mem _ listed)

theorem faithful_iff (events : List Json) : FaithfulReplay events ↔ NothingOverridden events := by
  constructor
  · intro faithful
    exact kept_of_faithful (congrArg left (faithful (List Call) record []))
  · intro kept σ perform state
    exact loop_agrees perform kept 0 [] state

def Annotated (event : Json) : Prop :=
  ∀ (name : EventName) (made : Call), event.get? "event" = some (.str name.name) →
    abUpdateEvents name event = .ok made → ∃ typed, made.typed = some typed

section Digests

variable (beyond : Call → Effect Machine TransitionResult) (machine : Machine)

def BegunWith (front : List Json) (given : String) : Prop :=
  ∃ before opening after log idle, front = before ++ opening :: after ∧
    opening.get? "event" = some (.str EventName.begin.name) ∧
    opening.get? "payloadDigest" = some (.str given) ∧
    (eventLoop abUpdateEvents (methods beyond) 0 before []).run machine = .ok log idle ∧
    idle.phase = .idle

structure Judged (given observed : String) (after : Machine) : Prop where
  ready : after.phase = .candidateReady ↔ observed = given
  mismatch : observed ≠ given →
    after.phase = .rolledBack ∧ after.rollbackReason = some "digest-mismatch"

def ChecksDigests (events : List Json) : Prop :=
  ∀ front event back observed log writing, events = front ++ event :: back →
    event.get? "event" = some (.str EventName.writeComplete.name) →
    event.get? "observedDigest" = some (.str observed) →
    (eventLoop abUpdateEvents (methods beyond) 0 front []).run machine = .ok log writing →
    writing.phase = .writing →
    ∃ given, BegunWith beyond machine front given ∧
      Judged given observed
        (left ((handle abUpdateEvents (methods beyond) front.length event).run writing))

end Digests

section Typed

variable {beyond : Call → Effect Machine TransitionResult} {events log entries : List Json}
  {index : Nat} {machine later : Machine}

theorem Reads.isCall {event : Json} {typed : Event} (reads : Reads event typed) : IsCall event := by
  have ⟨made, adapted, _⟩ := reads.adapted
  exact ⟨typed.name, made, reads.named, adapted⟩

theorem Reads.payloadDigest {event : Json} {payloadDigest : String}
    {payloadRef version : Option String}
    (reads : Reads event (.begin payloadDigest payloadRef version)) :
    event.get? "payloadDigest" = some (.str payloadDigest) := by
  obtain ⟨made, adapted, read⟩ := reads.adapted
  simp only [Event.name, abUpdateEvents, bind_ok, pure, Except.pure, Except.ok.injEq] at adapted
  obtain ⟨digest, hasDigest, _, _, _, _, built⟩ := adapted
  simp only [← built, Call.typed, Option.bind_eq_bind, Option.bind_eq_some_iff, pure,
    Option.some.injEq, Event.begin.injEq] at read
  obtain ⟨text, digestText, _, _, _, _, same, _, _⟩ := read
  have textual : digest = .str payloadDigest := by
    cases digest <;> simp_all [asText]
  cases event with
  | obj members =>
    rw [textual] at hasDigest
    exact (Json.getItem_obj _ _ _).mp hasDigest
  | _ => simp [Json.getItem, raise] at hasDigest

theorem loop_reads (annotated : ∀ event ∈ events, Annotated event)
    (ran : (eventLoop abUpdateEvents (methods beyond) index events log).run machine =
      .ok entries later) :
    ∃ typed, List.Forall₂ Reads events typed := by
  induction events generalizing index log machine with
  | nil => exact ⟨[], .nil⟩
  | cons event rest ih =>
    have ⟨result, middle, handled, looped⟩ := eventLoop_ok _ _ ran
    have ⟨name, made, named, adapted, _⟩ := handle_ok _ _ handled
    have ⟨typed, read⟩ := annotated event (by simp) name made named adapted
    have ⟨others, reads⟩ :=
      ih (fun later listed => annotated later (List.mem_cons_of_mem _ listed)) looped
    exact ⟨typed :: others, .cons (reads_of_typed named adapted read) reads⟩

theorem loop_device {typed : List Event} (reads : List.Forall₂ Reads events typed)
    (ran : (eventLoop abUpdateEvents (methods beyond) index events log).run machine =
      .ok entries later) : device.run machine typed = later := by
  induction reads generalizing index log machine with
  | nil =>
    cases ran
    rfl
  | @cons event typed rest others read _ ih =>
    have ⟨result, middle, handled, looped⟩ := eventLoop_ok _ _ ran
    rw [read.handle] at handled
    have stepped : (device.step machine typed).2 = middle := by
      simp [device, object, handled]
    rw [System.run_cons, stepped]
    exact ih looped

theorem loop_before {front back : List Json}
    (ran : (eventLoop abUpdateEvents (methods beyond) index (front ++ back) log).run machine =
      .ok entries later) :
    ∃ log' middle, (eventLoop abUpdateEvents (methods beyond) index front log).run machine =
      .ok log' middle := by
  induction front generalizing index log machine with
  | nil => exact ⟨log, machine, rfl⟩
  | cons event rest ih =>
    have ⟨result, middle, handled, looped⟩ := eventLoop_ok _ _ ran
    have ⟨log', last, before⟩ := ih looped
    exact ⟨log', last, by rw [eventLoop, run_then handled, before]⟩

end Typed

theorem Edge.candidateDigest {fallback : SlotLabel} {machine after : Machine} {event : Event}
    {fellBackTo : Option SlotLabel} (edge : Edge fallback machine event fellBackTo after)
    (opened : machine.phase ≠ .idle) : after.candidateDigest = machine.candidateDigest := by
  cases edge <;> simp_all

theorem run_candidateDigest {fallback : SlotLabel} {machine : Machine}
    (standing : Standing fallback machine) (opened : machine.phase ≠ .idle) (events : List Event) :
    (device.run machine events).candidateDigest = machine.candidateDigest :=
  (run_edges (fun later => later.phase ≠ .idle ∧ later.candidateDigest = machine.candidateDigest)
    (fun _ kept edge => ⟨edge.leaves_idle, (edge.candidateDigest kept.1).trans kept.2⟩) standing
    ⟨opened, rfl⟩ events).2.2

theorem judged {fallback : SlotLabel} {machine : Machine} (standing : Standing fallback machine)
    (writing : machine.phase = .writing) (observed : String) :
    Judged machine.candidateDigest observed (device.step machine (.writeComplete observed)).2 := by
  by_cases same : observed = machine.candidateDigest
  · have edge := @Edge.verified fallback machine observed writing same
    rw [(edge_takes standing edge).left]
    exact ⟨by simp [same], fun different => absurd same different⟩
  · have edge := @Edge.mismatched fallback machine observed writing same
    rw [(edge_takes standing edge).left]
    exact ⟨by simp [same], fun _ => by simp⟩

theorem reads_calls {events : List Json} {typed : List Event}
    (reads : List.Forall₂ Reads events typed) : ∀ event ∈ events, IsCall event := by
  induction reads with
  | nil => simp
  | cons read _ ih => exact List.forall_mem_cons.mpr ⟨read.isCall, ih⟩

theorem reads_split {events : List Json} {front back : List Event} {typed : Event}
    (reads : List.Forall₂ Reads events (front ++ typed :: back)) :
    ∃ before opening after, events = before ++ opening :: after ∧
      List.Forall₂ Reads before front ∧ Reads opening typed := by
  induction front generalizing events with
  | nil =>
    cases reads with
    | cons read _ => exact ⟨[], _, _, rfl, .nil, read⟩
  | cons first rest ih =>
    cases reads with
    | cons read others =>
      have ⟨before, opening, after, split, reads, opens⟩ := ih others
      exact ⟨_ :: before, opening, after, by rw [split]; rfl, .cons read reads, opens⟩

theorem checks_digests {config : Configuration} {items : List (String × SlotState)}
    {machine : Machine} (built : Machine.postInit config items = .ok machine) {events : List Json}
    (kept : NothingOverridden events) (beyond : Call → Effect Machine TransitionResult)
    (annotated : ∀ event ∈ events, Annotated event) : ChecksDigests beyond machine events := by
  intro front event back observed log writing split named carried ran phase
  have ⟨fallback, initial⟩ := postInit_initial config items machine built
  have standing := initial.standing
  have ⟨typed, reads⟩ := loop_reads
    (fun earlier listed => annotated earlier (by simp [split, listed])) ran
  have reached := loop_device reads ran
  have ⟨front', given, payloadRef, version, rest, opens, idle, begun⟩ :=
    run_opened_by_begin standing initial.idle typed (by simp [reached, phase])
  have ⟨before, opening, after, frontSplit, readsBefore, opened⟩ := reads_split (opens ▸ reads)
  have ⟨log', middle, ranBefore⟩ := loop_before (frontSplit ▸ ran)
  have digest : writing.candidateDigest = given := by
    have edge := @Edge.begin fallback _ given payloadRef version idle
    rw [← reached, opens, device.run_append, System.run_cons, begun,
      run_candidateDigest (edge.standing (run_standing standing front')) edge.leaves_idle]
    simp
  refine ⟨given, ⟨before, opening, after, log', middle, frontSplit, opened.named,
    opened.payloadDigest, ranBefore, by rw [← loop_device readsBefore ranBefore, idle]⟩, ?_⟩
  have adapted : abUpdateEvents .writeComplete event = .ok (.writeComplete (.str observed)) := by
    rw [(adapters_agree_iff named).mpr (kept front event back split (reads_calls reads))]
    simp [carriedCall, carried, pure, Except.pure]
  rw [handle_run _ _ front.length named adapted]
  have verdict := judged (reached ▸ run_standing standing typed) phase observed
  rw [digest] at verdict
  exact verdict

/-- The first half is about every object with these methods, in particular the machine of every
slot pair; the second about the digest check of that machine. -/
theorem replay_faithful_iff (config : Configuration) (items : List (String × SlotState))
    (machine : Machine) (built : Machine.postInit config items = .ok machine)
    (events : List Json) :
    (FaithfulReplay events ↔ NothingOverridden events) ∧
    (NothingOverridden events → ∀ beyond, (∀ event ∈ events, Annotated event) →
      ChecksDigests beyond machine events) :=
  ⟨faithful_iff events, fun kept beyond annotated => checks_digests built kept beyond annotated⟩

def writtenEvent (observedDigest : String) : Json := .obj [
  ("event", .str "write_complete"),
  ("observedDigest", .str observedDigest),
  ("payloadDigest", .str badDigest)]

theorem replay_faithful_iff_fixture :
    (FaithfulReplay [beginEvent, writtenEvent goodDigest] ↔
      NothingOverridden [beginEvent, writtenEvent goodDigest]) ∧
    (NothingOverridden [beginEvent, writtenEvent goodDigest] → ∀ beyond,
      (∀ event ∈ [beginEvent, writtenEvent goodDigest], Annotated event) →
        ChecksDigests beyond fixtureMachine [beginEvent, writtenEvent goodDigest]) :=
  replay_faithful_iff fixtureConfiguration _ fixtureMachine fixtureMachine_built
    [beginEvent, writtenEvent goodDigest]

-- What was written has an empty digest, and is held to be the payload.
theorem empty_digest_verified :
    (eventLoop abUpdateEvents (methods unannotated) 0 [beginEvent, writtenEvent ""] []).run
        fixtureMachine ≠
      (eventLoop carriedCall (methods unannotated) 0 [beginEvent, writtenEvent ""] []).run
        fixtureMachine ∧
    (left ((eventLoop abUpdateEvents (methods unannotated) 0 [beginEvent, writtenEvent ""] []).run
      fixtureMachine)).phase = .candidateReady ∧
    (left ((eventLoop carriedCall (methods unannotated) 0 [beginEvent, writtenEvent ""] []).run
      fixtureMachine)).phase = .rolledBack := by
  have replayedPhase : (left ((eventLoop abUpdateEvents (methods unannotated) 0
      [beginEvent, writtenEvent ""] []).run fixtureMachine)).phase = .candidateReady := by
    decide +kernel
  have carriedPhase : (left ((eventLoop carriedCall (methods unannotated) 0
      [beginEvent, writtenEvent ""] []).run fixtureMachine)).phase = .rolledBack := by
    decide +kernel
  refine ⟨fun same => ?_, replayedPhase, carriedPhase⟩
  rw [same, carriedPhase] at replayedPhase
  cases replayedPhase

end SourceosBoot.AbUpdate
