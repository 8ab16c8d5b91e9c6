import SourceosBoot.AbUpdate.Cli

set_option autoImplicit false

namespace SourceosBoot.AbUpdate

open Python Transition

def HasText (event : Json) (key : String) : Prop := ∃ text, event.get? key = some (.str text)

def TextIfAny (event : Json) (key : String) : Prop :=
  ∀ value, event.get? key = some value → ∃ text, value = .str text

def TextOrNullIfAny (event : Json) (key : String) : Prop :=
  ∀ value, event.get? key = some value → value = .null ∨ ∃ text, value = .str text

-- What the handler of a name asks of the event object, by the types of the method's parameters.
def HasFields (event : Json) : EventName → Prop
  | .begin => HasText event "payloadDigest" ∧ TextOrNullIfAny event "payloadRef" ∧
      TextOrNullIfAny event "version"
  | .writeComplete =>
    (∃ text, text ≠ "" ∧ event.get? "observedDigest" = some (.str text)) ∨
      ((∀ value, event.get? "observedDigest" = some value → value.truthy = false) ∧
        HasText event "payloadDigest")
  | .writeFailed | .probeFail | .operatorAbort => TextIfAny event "detail"
  | .arm | .bootAttempt => True
  | .probePass => TextOrNullIfAny event "detail"
  | .watchdogExpired => TextIfAny event "detail" ∧ TextIfAny event "expiryAction"

def WellFormed (event : Json) : Prop :=
  ∃ name : EventName, event.get? "event" = some (.str name.name) ∧ HasFields event name

def IsBegin (event : Json) : Prop := event.get? "event" = some (.str EventName.begin.name)

-- The two values `watchdog_expired` does not raise for.
def KnownExpiry (event : Json) : Prop :=
  event.get? "event" = some (.str EventName.watchdogExpired.name) →
    ∀ value, event.get? "expiryAction" = some value →
      value = .str "reboot" ∨ value = .str "reboot-to-fallback"

def PhasePath : Json → List Json → List Json → Json → Prop
  | phase, [], [], final => phase = final
  | phase, event :: events, entry :: entries, final =>
    entry.get? "event" = event.get? "event" ∧ entry.get? "fromPhase" = some phase ∧
      ∃ next, entry.get? "toPhase" = some next ∧ PhasePath next events entries final
  | _, _, _, _ => False

def Reported (events : List Json) (output : Json) : Prop :=
  ∃ entries final, output.get? "transitions" = some (.arr entries) ∧
    output.get? "finalPhase" = some final ∧
    PhasePath (.str Phase.idle.name) events entries final

def ReportsEvery (outside : Outside) (beyond : Call → Effect Machine TransitionResult)
    (args : ReplayArguments) (events printed : List Json) : Prop :=
  ∃ output, (abUpdateReplay outside beyond args).run printed =
    .ok (some 0) (printed ++ [output]) ∧ Reported events output

section Fields

variable {members : List (String × Json)} {key : String}

theorem textIfAny_read (default : String) (typed : TextIfAny (.obj members) key) :
    ∃ text, (Json.obj members).getD key (.str default) = .ok (.str text) := by
  cases found : Json.lookup key members with
  | none => exact ⟨default, by simp [Json.getD, found]⟩
  | some value =>
    obtain ⟨text, shown⟩ := typed value found
    exact ⟨text, by simp [Json.getD, found, shown]⟩

theorem textOrNullIfAny_read (typed : TextOrNullIfAny (.obj members) key) :
    ∃ value text, (Json.obj members).getD key .null = .ok value ∧
      asOptionalText value = some text := by
  cases found : Json.lookup key members with
  | none => exact ⟨.null, none, by simp [Json.getD, found], rfl⟩
  | some value =>
    rcases typed value found with rfl | ⟨text, rfl⟩
    · exact ⟨.null, none, by simp [Json.getD, found], rfl⟩
    · exact ⟨.str text, some text, by simp [Json.getD, found], rfl⟩

theorem hasText_read (typed : HasText (.obj members) key) :
    ∃ text, (Json.obj members).getItem key = .ok (.str text) := by
  have ⟨text, found⟩ := typed
  exact ⟨text, (Json.getItem_obj _ _ _).mpr found⟩

end Fields

theorem WellFormed.reads {event : Json} (wellFormed : WellFormed event) :
    ∃ typed, Reads event typed := by
  obtain ⟨name, named, fields⟩ := wellFormed
  obtain ⟨members, shape⟩ : ∃ members, event = .obj members := by
    cases event <;> simp_all [Json.get?]
  subst shape
  obtain ⟨made, typed, adapted, read⟩ : ∃ made typed,
      abUpdateEvents name (.obj members) = .ok made ∧ made.typed = some typed := by
    cases name with
    | begin =>
      obtain ⟨digest, hasDigest⟩ := hasText_read fields.1
      obtain ⟨reference, _, hasReference, referenceText⟩ := textOrNullIfAny_read fields.2.1
      obtain ⟨version, _, hasVersion, versionText⟩ := textOrNullIfAny_read fields.2.2
      exact ⟨.begin (.str digest) reference version, _,
        by simp [abUpdateEvents, hasDigest, hasReference, hasVersion, bind, Except.bind, pure,
          Except.pure],
        by simp only [Call.typed, asText, referenceText, versionText]; rfl⟩
    | writeComplete =>
      rcases fields with ⟨text, nonempty, observed⟩ | ⟨falsy, required⟩
      · exact ⟨.writeComplete (.str text), _,
          by simp_all [abUpdateEvents, Json.getD, Json.get?, Json.truthy, bind, Except.bind, pure,
            Except.pure], rfl⟩
      · obtain ⟨digest, hasDigest⟩ := hasText_read required
        refine ⟨.writeComplete (.str digest), _, ?_, rfl⟩
        cases observed : Json.lookup "observedDigest" members with
        | none =>
          simp [abUpdateEvents, Json.getD, observed, hasDigest, Json.truthy, bind, Except.bind, pure,
            Except.pure]
        | some value =>
          simp [abUpdateEvents, Json.getD, observed, hasDigest, falsy value observed, bind,
            Except.bind, pure, Except.pure]
    | writeFailed | probeFail | operatorAbort =>
      choose text hasDetail using fun default => textIfAny_read default fields
      exact ⟨_, _, by simp only [abUpdateEvents, hasDetail]; rfl, rfl⟩
    | arm | bootAttempt => exact ⟨_, _, rfl, rfl⟩
    | probePass =>
      obtain ⟨detail, _, hasDetail, detailText⟩ := textOrNullIfAny_read fields
      exact ⟨.probePass detail, _, by simp only [abUpdateEvents, hasDetail]; rfl,
        by simp only [Call.typed, detailText]; rfl⟩
    | watchdogExpired =>
      obtain ⟨text, hasDetail⟩ := textIfAny_read "watchdog expired" fields.1
      obtain ⟨action, hasAction⟩ := textIfAny_read "reboot" fields.2
      exact ⟨.watchdogExpired (.str text) (.str action), _,
        by simp only [abUpdateEvents, hasDetail, hasAction]; rfl, rfl⟩
  exact ⟨typed, reads_of_typed named adapted read⟩

section Reads

variable {event : Json} {typed : Event} (reads : Reads event typed)
include reads

theorem Reads.isBegin : IsBegin event ↔ typed.name = .begin := by
  rw [IsBegin, reads.named]
  constructor
  · intro same
    exact name_of_named same
  · intro same
    rw [same]

theorem Reads.known : typed.Known ↔ KnownExpiry event := by
  by_cases watchdog : typed.name = .watchdogExpired
  · obtain ⟨detail, expiryAction, shape⟩ : ∃ detail expiryAction,
        typed = .watchdogExpired detail expiryAction := by
      cases typed <;> simp_all [Event.name]
    subst shape
    obtain ⟨made, adapted, read⟩ := reads.adapted
    simp only [Event.name, abUpdateEvents, bind_ok, pure, Except.pure, Except.ok.injEq] at adapted
    obtain ⟨shown, _, action, hasAction, built⟩ := adapted
    simp only [← built, Call.typed, Option.bind_eq_bind, Option.bind_eq_some_iff, pure,
      Option.some.injEq, Event.watchdogExpired.injEq] at read
    obtain ⟨_, _, text, actionText, _, same⟩ := read
    have textual : action = .str expiryAction := by
      cases action <;> simp_all [asText]
    have carried := Json.getD_ok hasAction
    rw [textual] at carried
    rw [KnownExpiry, reads.named]
    cases present : event.get? "expiryAction" with
    | none =>
      simp only [present, Option.getD_none, Json.str.injEq] at carried
      simp [Event.Known, carried]
    | some value =>
      simp only [present, Option.getD_some] at carried
      simp [Event.Known, ← carried, Event.name]
  · have other : ¬ event.get? "event" = some (.str EventName.watchdogExpired.name) := by
      intro same
      rw [reads.named] at same
      exact watchdog (name_of_named same)
    have known : typed.Known := by
      cases typed <;> simp_all [Event.Known, Event.name]
    simp [KnownExpiry, other, known]

end Reads

theorem Sound.reports {fallback : SlotLabel} {machine : Machine} (sound : Sound fallback machine)
    (event : Event) (known : event.Known) :
    ∃ result after, (call event).run machine = .ok result after ∧
      (device.step machine event).2 = after ∧ Sound fallback after ∧
      result.event = event.name ∧ result.fromPhase = machine.phase ∧ result.toPhase = after.phase := by
  have later : Sound fallback (device.step machine event).2 := run_sound sound [event]
  have stepped : (device.step machine event).2 = left ((call event).run machine) := rfl
  rcases call_cases machine fallback sound.standing event with
    ⟨reason, ran⟩ | ⟨unknown, _⟩ | ⟨_, fellBackTo, after, edge, reason, ran⟩
  · rw [ran] at stepped
    rw [stepped] at later
    exact ⟨_, machine, ran, stepped, later, rfl, rfl, rfl⟩
  · exact absurd known unknown
  · have passes := (assertInvariants_ok after).mpr ((edge.sound sound).checked edge.leaves_idle)
    rw [AbUpdate.checked, passes] at ran
    rw [ran] at stepped
    rw [stepped] at later
    exact ⟨_, after, ran, stepped, later, rfl, rfl, rfl⟩

section Events

variable {beyond : Call → Effect Machine TransitionResult} {events : List Json}
  {typed : List Event} (reads : List.Forall₂ Reads events typed)
include reads

theorem Sound.loop_reports {fallback : SlotLabel} {machine : Machine}
    (sound : Sound fallback machine) (known : ∀ event ∈ typed, event.Known) (index : Nat)
    (log : List Json) :
    ∃ entries,
      (eventLoop abUpdateEvents (methods beyond) index events log).run machine =
        .ok (log ++ entries) (device.run machine typed) ∧
      PhasePath (.str machine.phase.name) events entries
        (.str (device.run machine typed).phase.name) := by
  induction reads generalizing machine index log with
  | nil => exact ⟨[], by simp [eventLoop], rfl⟩
  | @cons event typed events rest read _ ih =>
    obtain ⟨result, after, ran, stepped, later, named, fromPhase, toPhase⟩ :=
      sound.reports typed (known typed (by simp))
    obtain ⟨entries, looped, path⟩ := ih later
      (fun event listed => known event (List.mem_cons_of_mem _ listed)) (index + 1)
      (log ++ [result.logEntry])
    have handled : (handle abUpdateEvents (methods beyond) index event).run machine =
        .ok result after := (read.handle index machine).trans ran
    refine ⟨result.logEntry :: entries, ?_, ?_, ?_, .str after.phase.name, ?_, ?_⟩
    · rw [eventLoop, run_then handled, looped, System.run_cons, stepped]
      simp
    · rw [read.named, ← named]
      rfl
    · rw [← fromPhase]
      rfl
    · rw [← toPhase]
      rfl
    · rw [System.run_cons, stepped]
      exact path

theorem loop_known {machine later : Machine} {index : Nat} {log entries : List Json}
    (ran : (eventLoop abUpdateEvents (methods beyond) index events log).run machine =
      .ok entries later) : ∀ event ∈ typed, event.Known := by
  induction reads generalizing machine index log with
  | nil => simp
  | @cons event typed events rest read _ ih =>
    have ⟨result, middle, handled, looped⟩ := eventLoop_ok _ _ ran
    intro asked listed
    rcases List.mem_cons.mp listed with rfl | later
    · by_contra unknown
      have ⟨message, raised⟩ := unknown_raises machine asked unknown
      rw [read.handle, raised] at handled
      cases handled
    · exact ih looped asked later

end Events

theorem run_idle_iff {fallback : SlotLabel} {machine : Machine}
    (standing : Standing fallback machine) (idle : machine.phase = .idle) (events : List Event) :
    (device.run machine events).phase = .idle ↔ ∀ event ∈ events, event.name ≠ .begin := by
  constructor
  · intro still event listed begins
    have ⟨front, back, split⟩ := List.append_of_mem listed
    rw [split, device.run_append, System.run_cons] at still
    have before := run_standing standing front
    apply run_stays_open (run_standing before [event]) _ back still
    by_cases opens : (device.run machine front).phase = .idle
    · cases event with
      | begin payloadDigest payloadRef version =>
        have edge := @Edge.begin fallback _ payloadDigest payloadRef version opens
        rw [System.run_cons, (edge_takes before edge).left]
        exact edge.leaves_idle
      | _ => cases begins
    · exact run_stays_open before opens [event]
  · intro unbegun
    by_contra opened
    have ⟨front, payloadDigest, payloadRef, version, back, split, _⟩ :=
      run_opened_by_begin standing idle events opened
    exact unbegun (.begin payloadDigest payloadRef version) (by simp [split]) rfl

theorem loaded_built {outside : Outside} {args : ReplayArguments} {left right healthProbe : Json}
    {found : Option Machine} (pair : ContractPair left right)
    (slots : args.slots.content = .arr [left, right])
    (loaded : loadAbUpdateMachine outside args = .ok (found, healthProbe)) :
    ∃ arguments machine, found = some machine ∧ BuiltFrom left right arguments machine := by
  have ⟨docs, read, loaded⟩ := (bind_ok _ _ _).mp loaded
  have ⟨_, _, loaded⟩ := (bind_ok _ _ _).mp loaded
  have ⟨_, _, loaded⟩ := (bind_ok _ _ _).mp loaded
  have ⟨_, loaded⟩ := (then_ok _ _ _).mp loaded
  have ⟨_, _, loaded⟩ := (bind_ok _ _ _).mp loaded
  have ⟨_, built, returned⟩ := (bind_ok _ _ _).mp loaded
  cases returned
  rw [loadList, slots] at read
  cases read
  have ⟨machine, known⟩ := pair.machine built
  exact ⟨_, machine, known, pair, known ▸ built⟩

theorem accepted_contracted {outside : Outside} {args : ReplayArguments} {left right : Json}
    (pair : ContractPair left right) (slots : args.slots.content = .arr [left, right])
    (accepted : ∃ answer, loadAbUpdateMachine outside args = .ok answer) :
    ∃ machine healthProbe fallback,
      loadAbUpdateMachine outside args = .ok (some machine, healthProbe) ∧
        Contracted fallback machine := by
  have ⟨(found, healthProbe), loaded⟩ := accepted
  have ⟨_, machine, known, built⟩ := loaded_built pair slots loaded
  have ⟨fallback, contracted⟩ := built.contracted
  exact ⟨machine, healthProbe, fallback, known ▸ loaded, contracted⟩

theorem abUpdateReplay_ok {outside : Outside} {beyond : Call → Effect Machine TransitionResult}
    {args : ReplayArguments} {machine : Machine} {healthProbe : Json} {events : List Json}
    (loaded : loadAbUpdateMachine outside args = .ok (some machine, healthProbe))
    (listed : args.events.content = .arr events) (printed shown : List Json) :
    (abUpdateReplay outside beyond args).run printed = .ok (some 0) shown ↔
      ∃ log later transaction, replayed beyond events machine = .ok (log, later) ∧
        later.toTransactionDocument = .ok transaction ∧
        shown = printed ++
          [replayOutput outside later log (carryingProbe healthProbe transaction)] := by
  have read : loadList args.events "events" = .ok events := by rw [loadList, listed]
  constructor
  · intro ran
    simp only [abUpdateReplay, ask_then_ok] at ran
    have ⟨_, found, ran⟩ := ran
    cases loaded.symm.trans found
    simp only [ask_then_ok] at ran
    have ⟨_, items, (log, later), looped, transaction, rendered, ended⟩ := ran
    cases read.symm.trans items
    cases ended
    exact ⟨log, later, transaction, looped, rendered, rfl⟩
  · intro ended
    have ⟨log, later, transaction, looped, rendered, shows⟩ := ended
    simp only [abUpdateReplay, ask_then_ok]
    refine ⟨_, loaded, ?_⟩
    simp only [ask_then_ok]
    exact ⟨events, read, (log, later), looped, transaction, rendered, by rw [shows]; rfl⟩

theorem replayed_ok {beyond : Call → Effect Machine TransitionResult} {events log : List Json}
    {machine later : Machine} :
    replayed beyond events machine = .ok (log, later) ↔
      (eventLoop abUpdateEvents (methods beyond) 0 events []).run machine = .ok log later := by
  rw [replayed]
  cases (eventLoop abUpdateEvents (methods beyond) 0 events []).run machine <;> simp

theorem rendered_iff (machine : Machine) :
    (∃ transaction, machine.toTransactionDocument = .ok transaction) ↔ machine.phase ≠ .idle := by
  by_cases idle : machine.phase = .idle <;> simp [Machine.toTransactionDocument, idle, raise]

theorem replay_output_reported (outside : Outside) (later : Machine) (events entries : List Json)
    (transaction : Json)
    (path : PhasePath (.str Phase.idle.name) events entries (.str later.phase.name)) :
    Reported events (replayOutput outside later entries transaction) :=
  ⟨entries, _, rfl, rfl, path⟩

theorem well_formed_reads {events : List Json} (wellFormed : ∀ event ∈ events, WellFormed event) :
    ∃ typed, List.Forall₂ Reads events typed := by
  induction events with
  | nil => exact ⟨[], .nil⟩
  | cons event rest ih =>
    have ⟨first, read⟩ := (wellFormed event (by simp)).reads
    have ⟨others, reads⟩ := ih fun later listed => wellFormed later (List.mem_cons_of_mem _ listed)
    exact ⟨first :: others, .cons read reads⟩

theorem reads_begin_iff {events : List Json} {typed : List Event}
    (reads : List.Forall₂ Reads events typed) :
    (∃ event ∈ events, IsBegin event) ↔ ¬ ∀ event ∈ typed, event.name ≠ .begin := by
  induction reads with
  | nil => simp
  | cons read _ ih =>
    simp only [List.exists_mem_cons_iff, List.forall_mem_cons, read.isBegin, ih]
    tauto

theorem reads_known_iff {events : List Json} {typed : List Event}
    (reads : List.Forall₂ Reads events typed) :
    (∀ event ∈ events, KnownExpiry event) ↔ ∀ event ∈ typed, event.Known := by
  induction reads with
  | nil => simp
  | cons read _ ih => simp only [List.forall_mem_cons, read.known, ih]

section Command

variable {outside : Outside} {beyond : Call → Effect Machine TransitionResult}
  {args : ReplayArguments} {machine : Machine} {healthProbe : Json} {events : List Json}
  {typed : List Event} {fallback : SlotLabel}
  (loaded : loadAbUpdateMachine outside args = .ok (some machine, healthProbe))
  (listed : args.events.content = .arr events) (contracted : Contracted fallback machine)
  (reads : List.Forall₂ Reads events typed)
include loaded listed contracted reads

theorem reports_of_begin (begun : ∃ event ∈ events, IsBegin event)
    (known : ∀ event ∈ events, KnownExpiry event) (printed : List Json) :
    ReportsEvery outside beyond args events printed := by
  have idle := contracted.initial.idle
  have ⟨entries, looped, path⟩ := @Sound.loop_reports beyond events typed reads fallback machine
    contracted.sound ((reads_known_iff reads).mp known) 0 []
  have opened := (run_idle_iff contracted.sound.standing idle typed).not.mpr
    ((reads_begin_iff reads).mp begun)
  have ⟨transaction, rendered⟩ := (rendered_iff _).mpr opened
  rw [idle] at path
  exact ⟨_, (abUpdateReplay_ok loaded listed printed _).mpr
      ⟨entries, _, transaction, replayed_ok.mpr looped, rendered, rfl⟩,
    replay_output_reported outside _ events entries _ path⟩

theorem begin_of_reports {printed : List Json}
    (reported : ReportsEvery outside beyond args events printed) :
    (∃ event ∈ events, IsBegin event) ∧ ∀ event ∈ events, KnownExpiry event := by
  have ⟨_, ran, _⟩ := reported
  have ⟨log, later, transaction, looped, rendered, _⟩ :=
    (abUpdateReplay_ok loaded listed printed _).mp ran
  rw [replayed_ok] at looped
  have known := loop_known reads looped
  have ⟨_, answered, _⟩ := @Sound.loop_reports beyond events typed reads fallback machine
    contracted.sound known 0 []
  cases looped.symm.trans answered
  constructor
  · apply (reads_begin_iff reads).mpr
    apply (run_idle_iff contracted.sound.standing contracted.initial.idle typed).not.mp
    exact (rendered_iff _).mp ⟨transaction, rendered⟩
  · exact (reads_known_iff reads).mpr known

end Command

theorem replay_reports_iff (outside : Outside) (beyond : Call → Effect Machine TransitionResult)
    (args : ReplayArguments) (left right : Json) (pair : ContractPair left right)
    (slots : args.slots.content = .arr [left, right])
    (accepted : ∃ answer, loadAbUpdateMachine outside args = .ok answer) (events : List Json)
    (listed : args.events.content = .arr events) (wellFormed : ∀ event ∈ events, WellFormed event)
    (printed : List Json) :
    ReportsEvery outside beyond args events printed ↔
      (∃ event ∈ events, IsBegin event) ∧ ∀ event ∈ events, KnownExpiry event := by
  have ⟨_, _, _, loaded, contracted⟩ := accepted_contracted pair slots accepted
  have ⟨_, reads⟩ := well_formed_reads wellFormed
  constructor
  · exact begin_of_reports loaded listed contracted reads
  · intro condition
    exact reports_of_begin loaded listed contracted reads condition.1 condition.2 printed

def exampleChecks : List (String × Json) := [
  ("evaluatedIn", .str "post-boot-userspace"),
  ("onProbeUnavailable", .str "fail"),
  ("timeoutSeconds", .int 180),
  ("minConsecutivePasses", .int 2),
  ("checks", .arr [.obj [("name", .str "control-plane-reachable"), ("blocking", .bool true)]]),
  ("watchdogs", .arr [])]

def exampleChecksDigest : String :=
  "efb748db3cd0b0881dd617acde5fb2ddb3a2d32dc9cc895d99b244e12e1987f1"

def exampleProbe : Json := .obj ([
  ("id", .str "urn:srcos:update-health-probe:sourceos_node_v1"),
  ("definitionDigest", .str ("sha256:" ++ exampleChecksDigest))] ++ exampleChecks)

def exampleOutside : Outside where
  clock := fun _ => "2026-07-29T10:00:00Z"
  -- The one text that is hashed, with its digest.
  sha256 := fun text => if text = (Json.obj exampleChecks).dumps then exampleChecksDigest else ""
  isalnum := Char.isAlphanum

def drill (events : List Json) : ReplayArguments where
  slots := ⟨"slots.json", .arr [exampleActive, exampleCandidate]⟩
  probe := ⟨"probe.json", exampleProbe⟩
  events := ⟨"events.json", .arr events⟩
  transactionId := "urn:srcos:update-transaction:sourceos_fog_edge_07_0001"

def armEvent : Json := .obj [("event", .str "arm")]

theorem drill_accepted (events : List Json) :
    ∃ answer, loadAbUpdateMachine exampleOutside (drill events) = .ok answer := by
  have loads : (loadAbUpdateMachine exampleOutside (drill [])).isOk = true := by decide +kernel
  have same : loadAbUpdateMachine exampleOutside (drill events) =
      loadAbUpdateMachine exampleOutside (drill []) := rfl
  rw [same]
  cases known : loadAbUpdateMachine exampleOutside (drill []) with
  | ok answer => exact ⟨answer, rfl⟩
  | error _ => simp [known, Except.isOk, Except.toBool] at loads

theorem armEvent_wellFormed : WellFormed armEvent := ⟨.arm, rfl, trivial⟩

theorem refused_drill_unreported :
    ¬ ReportsEvery exampleOutside unannotated (drill [armEvent]) [armEvent] [] := by
  intro reported
  have ⟨_, _, _, loaded, contracted⟩ :=
    accepted_contracted exampleMachine_built.pair rfl (drill_accepted [armEvent])
  have ⟨_, read⟩ := armEvent_wellFormed.reads
  have ⟨begins, _⟩ := begin_of_reports loaded rfl contracted (.cons read .nil) reported
  simp [IsBegin, armEvent, Json.get?, Json.lookup, EventName.name] at begins

theorem replay_reports_iff_drill :
    ReportsEvery exampleOutside unannotated (drill [armEvent, beginEvent]) [armEvent, beginEvent]
        [] ↔
      (∃ event ∈ [armEvent, beginEvent], IsBegin event) ∧
        ∀ event ∈ [armEvent, beginEvent], KnownExpiry event :=
  replay_reports_iff exampleOutside unannotated (drill [armEvent, beginEvent]) exampleActive
    exampleCandidate exampleMachine_built.pair rfl (drill_accepted [armEvent, beginEvent])
    [armEvent, beginEvent] rfl (by
      intro event listed
      simp only [List.mem_cons, List.not_mem_nil, or_false] at listed
      rcases listed with rfl | rfl
      · exact armEvent_wellFormed
      · exact ⟨.begin, rfl, ⟨badDigest, rfl⟩, by rintro _ ⟨⟩, by rintro _ ⟨⟩⟩) []

end SourceosBoot.AbUpdate
