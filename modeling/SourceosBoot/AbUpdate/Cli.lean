import SourceosBoot.AbUpdate.TransactionDocuments
import SourceosBoot.Shared.JsonDumps

set_option autoImplicit false

namespace SourceosBoot.AbUpdate

open Python

/-- A method call with its arguments as the adapter passes them; `null` is `None`. -/
inductive Call
  | begin (payloadDigest payloadRef version : Json)
  | writeComplete (observedDigest : Json)
  | writeFailed (detail : Json)
  | arm
  | bootAttempt
  | probePass (detail : Json)
  | probeFail (detail : Json)
  | watchdogExpired (detail expiryAction : Json)
  | operatorAbort (detail : Json)

def Call.name : Call → EventName
  | .begin _ _ _ => .begin
  | .writeComplete _ => .writeComplete
  | .writeFailed _ => .writeFailed
  | .arm => .arm
  | .bootAttempt => .bootAttempt
  | .probePass _ => .probePass
  | .probeFail _ => .probeFail
  | .watchdogExpired _ _ => .watchdogExpired
  | .operatorAbort _ => .operatorAbort

def eventNames : List EventName :=
  [.begin, .writeComplete, .writeFailed, .arm, .bootAttempt, .probePass, .probeFail,
    .watchdogExpired, .operatorAbort]

-- The values of `_AB_UPDATE_EVENTS`.
def abUpdateEvents : EventName → Json → Except Raised Call
  | .begin, event => do
    return .begin (← event.getItem "payloadDigest") (← event.getD "payloadRef" .null)
      (← event.getD "version" .null)
  | .writeComplete, event => do
    -- `e.get("observedDigest") or e["payloadDigest"]`.
    let observed ← event.getD "observedDigest" .null
    if observed.truthy then return .writeComplete observed
    else return .writeComplete (← event.getItem "payloadDigest")
  | .writeFailed, event => do return .writeFailed (← event.getD "detail" (.str "write failed"))
  | .arm, _ => return .arm
  | .bootAttempt, _ => return .bootAttempt
  | .probePass, event => do return .probePass (← event.getD "detail" .null)
  | .probeFail, event => do
    return .probeFail (← event.getD "detail" (.str "health probe failed"))
  | .watchdogExpired, event => do
    return .watchdogExpired (← event.getD "detail" (.str "watchdog expired"))
      (← event.getD "expiryAction" (.str "reboot"))
  | .operatorAbort, event => do
    return .operatorAbort (← event.getD "detail" (.str "aborted by operator"))

def handlerName (index : Nat) (event : Json) : Except Raised EventName := do
  let name ← event.getD "event" .null
  oneOf eventNames EventName.name (fun shown => s!"event {index}: unknown event {shown}") name

def TransitionResult.logEntry (result : TransitionResult) : Json := .obj [
  ("event", .str result.event.name),
  ("allowed", .bool result.allowed),
  ("fromPhase", .str result.fromPhase.name),
  ("toPhase", .str result.toPhase.name),
  ("reason", .str result.reason),
  ("fellBackTo", labelOrNull result.fellBackTo)]

section Loop

variable {σ : Type} (adapters : EventName → Json → Except Raised Call)
  (perform : Call → Effect σ TransitionResult)

def handle (index : Nat) (event : Json) : Effect σ TransitionResult := do
  let name ← ask fun _ => handlerName index event
  let call ← ask fun _ => adapters name event
  perform call

def eventLoop : Nat → List Json → List Json → Effect σ (List Json)
  | _, [], log => return log
  | index, event :: rest, log => do
    let result ← handle adapters perform index event
    eventLoop (index + 1) rest (log ++ [result.logEntry])

end Loop

def Call.typed : Call → Option Event
  | .begin payloadDigest payloadRef version => do
    return .begin (← asText payloadDigest) (← asOptionalText payloadRef) (← asOptionalText version)
  | .writeComplete observedDigest => do return .writeComplete (← asText observedDigest)
  | .writeFailed detail => do return .writeFailed (← asText detail)
  | .arm => some .arm
  | .bootAttempt => some .bootAttempt
  | .probePass detail => do return .probePass (← asOptionalText detail)
  | .probeFail detail => do return .probeFail (← asText detail)
  | .watchdogExpired detail expiryAction => do
    return .watchdogExpired (← asText detail) (← asText expiryAction)
  | .operatorAbort detail => do return .operatorAbort (← asText detail)

-- What becomes of other values is left to `beyond`.
def methods (beyond : Call → Effect Machine TransitionResult) (made : Call) :
    Effect Machine TransitionResult :=
  match made.typed with
  | some event => call event
  | none => beyond made

structure JsonFile where
  path : String
  content : Json

/-- What the command meets outside: its clock, SHA-256 of a text in hexadecimal digits, and the
classes of characters. -/
structure Outside where
  clock : Nat → String
  sha256 : String → String
  isalnum : Char → Bool

structure ReplayArguments where
  slots : JsonFile
  probe : JsonFile
  events : JsonFile
  transactionId : String
  maxAttempts : Int := 2

def shownText : Json → String
  | .str text => text
  | other => other.repr

def probeDigestFields : List String :=
  ["checks", "evaluatedIn", "minConsecutivePasses", "onProbeUnavailable", "timeoutSeconds",
    "watchdogs"]

def probeDefinitionDigest (sha256 : String → String) (probe : List (String × Json)) :
    Except Raised String := do
  let missing := probeDigestFields.filter fun field => (Json.lookup field probe).isNone
  raiseWhen (missing ≠ []) .valueError ("probe document is missing " ++ ", ".intercalate missing)
  let core := probeDigestFields.filterMap fun field =>
    (Json.lookup field probe).map fun value => (field, value)
  return "sha256:" ++ sha256 (Json.obj core).dumps

def loadJson (file : JsonFile) : Except Raised (List (String × Json)) :=
  match file.content with
  | .obj members => .ok members
  | _ => raise .valueError s!"expected JSON object in {file.path}"

theorem loadJson_ok (file : JsonFile) (doc : List (String × Json)) :
    loadJson file = .ok doc ↔ file.content = .obj doc := by
  unfold loadJson
  split <;> simp_all [raise]

def loadList (file : JsonFile) (expected : String) : Except Raised (List Json) :=
  match file.content with
  | .arr items => .ok items
  | _ => raise .valueError s!"expected a JSON array of {expected} in {file.path}"

theorem loadList_ok (file : JsonFile) (expected : String) (items : List Json) :
    loadList file expected = .ok items ↔ file.content = .arr items := by
  unfold loadList
  split <;> simp_all [raise]

/-- `_load_ab_update_machine`, with the identifier of the probe. The answer is `none` as for
`machine_from_slot_documents`; the machine only carries the identifier, whatever its type is. -/
def loadAbUpdateMachine (outside : Outside) (args : ReplayArguments) :
    Except Raised (Option Machine × Json) := do
  let docs ← loadList args.slots "two UpdateSlot documents"
  let probe ← loadJson args.probe
  let recomputed ← probeDefinitionDigest outside.sha256 probe
  let recorded := (Json.lookup "definitionDigest" probe).getD .null
  let identifier := shownText ((Json.lookup "id" probe).getD .null)
  raiseWhen (Json.pyEq recorded (.str recomputed) = false) .valueError
    (s!"health probe {identifier} carries a stale " ++
      s!"definitionDigest: recorded {shownText recorded}, but its checks hash to " ++
      s!"{recomputed}. The gate was edited after it was pinned; re-pin it " ++
      "deliberately rather than promoting through a gate nobody re-read.")
  let healthProbe ← (Json.obj probe).getItem "id"
  let machine ← machineFromSlotDocuments docs {
    transactionId := args.transactionId
    healthProbeRef := shownText healthProbe
    healthProbeDigest := recomputed
    maxAttempts := args.maxAttempts
    clock := outside.clock }
  return (machine, healthProbe)

-- The identifier of the probe as the document of its machine shows it.
def carryingProbe (healthProbe : Json) : Json → Json
  | .obj members => .obj (members.map fun member =>
      if member.1 = "healthProbeRef" then (member.1, healthProbe) else member)
  | other => other

def replayOutput (outside : Outside) (machine : Machine) (log : List Json) (transaction : Json) :
    Json := .obj [
  ("apiVersion", .str "sourceos.dev/v1"),
  ("kind", .str "AbUpdateReplay"),
  ("execute", .bool false),
  ("finalPhase", .str machine.phase.name),
  ("transitions", .arr log),
  ("transaction", transaction),
  ("slots", .arr (machine.toSlotDocuments outside.isalnum))]

def replayed (beyond : Call → Effect Machine TransitionResult) (events : List Json)
    (machine : Machine) : Except Raised (List Json × Machine) :=
  match (eventLoop abUpdateEvents (methods beyond) 0 events []).run machine with
  | .ok log later => .ok (log, later)
  | .error raised _ => .error raised

/-- `ab_update_replay`; the state is what has been printed. -/
def abUpdateReplay (outside : Outside) (beyond : Call → Effect Machine TransitionResult)
    (args : ReplayArguments) : Effect (List Json) (Option Int) := do
  match ← ask fun _ => loadAbUpdateMachine outside args with
  | (none, _) => return none
  | (some machine, healthProbe) =>
    let events ← ask fun _ => loadList args.events "events"
    let (log, later) ← ask fun _ => replayed beyond events machine
    let transaction ← ask fun _ => later.toTransactionDocument
    modify fun printed => printed ++
      [replayOutput outside later log (carryingProbe healthProbe transaction)]
    return some 0

theorem name_of_named {left right : EventName}
    (same : some (Json.str left.name) = some (.str right.name)) : left = right := by
  cases left <;> cases right <;> simp [EventName.name] at same ⊢

theorem handlerName_ok {index : Nat} {event : Json} {name : EventName} :
    handlerName index event = .ok name ↔ event.get? "event" = some (.str name.name) := by
  constructor
  · intro found
    have ⟨shown, read, chosen⟩ := (bind_ok _ _ _).mp found
    have carried := (oneOf_found chosen).2
    rw [Json.getD_ok read] at carried
    cases known : event.get? "event" with
    | none => simp [known] at carried
    | some item => simpa [known] using carried
  · intro carried
    cases event with
    | obj members =>
      simp only [Json.get?] at carried
      simp only [handlerName, Json.getD, carried, bind, Except.bind, Option.getD_some]
      exact oneOf_name eventNames EventName.name _ name (by cases name <;> decide)
    | _ => simp [Json.get?] at carried

section Loop

variable {σ : Type} (adapters : EventName → Json → Except Raised Call)
  (perform : Call → Effect σ TransitionResult)

theorem handle_run {name : EventName} {made : Call} {event : Json} (index : Nat)
    (named : event.get? "event" = some (.str name.name)) (adapted : adapters name event = .ok made)
    (state : σ) : (handle adapters perform index event).run state = (perform made).run state := by
  rw [handle, ask_then (fun _ => handlerName index event) state name (handlerName_ok.mpr named),
    ask_then (fun _ => adapters name event) state made adapted]

theorem handle_ok {index : Nat} {event : Json} {state later : σ} {result : TransitionResult}
    (ran : (handle adapters perform index event).run state = .ok result later) :
    ∃ name made, event.get? "event" = some (.str name.name) ∧ adapters name event = .ok made ∧
      (perform made).run state = .ok result later := by
  simp only [handle, ask_then_ok] at ran
  have ⟨name, named, made, adapted, performed⟩ := ran
  exact ⟨name, made, handlerName_ok.mp named, adapted, performed⟩

theorem eventLoop_ok {index : Nat} {event : Json} {rest : List Json} {log entries : List Json}
    {state later : σ}
    (ran : (eventLoop adapters perform index (event :: rest) log).run state = .ok entries later) :
    ∃ result middle, (handle adapters perform index event).run state = .ok result middle ∧
      (eventLoop adapters perform (index + 1) rest (log ++ [result.logEntry])).run middle =
        .ok entries later := by
  rw [eventLoop] at ran
  cases handled : (handle adapters perform index event).run state with
  | error raised middle =>
    rw [run_raised handled] at ran
    cases ran
  | ok result middle =>
    rw [run_then handled] at ran
    exact ⟨result, middle, rfl, ran⟩

end Loop

structure Reads (event : Json) (typed : Event) : Prop where
  named : event.get? "event" = some (.str typed.name.name)
  adapted : ∃ made, abUpdateEvents typed.name event = .ok made ∧ made.typed = some typed

variable {beyond : Call → Effect Machine TransitionResult} {event : Json} {typed : Event}

theorem Reads.handle (reads : Reads event typed) (index : Nat) (machine : Machine) :
    (handle abUpdateEvents (methods beyond) index event).run machine =
      (call typed).run machine := by
  have ⟨made, adapted, read⟩ := reads.adapted
  rw [handle_run _ _ index reads.named adapted, methods, read]

theorem adapted_name {name : EventName} {made : Call}
    (adapted : abUpdateEvents name event = .ok made) : made.name = name := by
  cases name <;>
    simp only [abUpdateEvents, bind_ok, pure, Except.pure, Except.ok.injEq] at adapted
  case writeComplete =>
    have ⟨observed, _, chosen⟩ := adapted
    split at chosen
    · cases chosen
      rfl
    · have ⟨_, _, made⟩ := (bind_ok _ _ _).mp chosen
      cases made
      rfl
  all_goals grind [Call.name]

theorem typed_name {made : Call} (read : made.typed = some typed) : typed.name = made.name := by
  cases made <;>
    simp only [Call.typed, Option.bind_eq_bind, Option.bind_eq_some_iff, pure,
      Option.some.injEq] at read
  all_goals grind [Call.name, Event.name]

theorem reads_of_typed {name : EventName} {made : Call}
    (named : event.get? "event" = some (.str name.name))
    (adapted : abUpdateEvents name event = .ok made) (read : made.typed = some typed) :
    Reads event typed := by
  have same : typed.name = name := (typed_name read).trans (adapted_name adapted)
  exact ⟨same ▸ named, made, same ▸ adapted, read⟩

def unannotated (_ : Call) : Effect Machine TransitionResult := throw ⟨.typeError, ""⟩

def beginEvent : Json := .obj [("event", .str "begin"), ("payloadDigest", .str badDigest)]

end SourceosBoot.AbUpdate
