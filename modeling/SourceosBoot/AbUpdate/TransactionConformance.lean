import SourceosBoot.AbUpdate.SlotConformance
import SourceosBoot.Shared.Text

set_option autoImplicit false

namespace SourceosBoot.AbUpdate

open Python Transition Schema UpdateSlotSchema

namespace UpdateTransactionSchema

def bothSlots (label : SlotLabel) : Schema where
  properties := [("fromSlot", { const := some (.str label.name) }),
    ("toSlot", { const := some (.str label.name) })]
  required := ["fromSlot", "toSlot"]

def fellBack : Schema := { enum := some [.str "rolled-back", .str "refused"] }

def fallingBackIsExplained : Schema where
  ifThen := some ({ properties := [("outcome", fellBack)], required := ["outcome"] }, {
    required := ["rollbackReason", "settledAt", "settledOnSlot"]
    properties := [("rollbackReason", { type := some ["string"] })] })

def refusalIsExhaustion : Schema where
  ifThen := some (member "outcome" (.str "refused"),
    member "rollbackReason" (.str "attempts-exhausted"))

def promotionIsSettled : Schema where
  ifThen := some (member "outcome" (.str "promoted"), {
    required := ["settledAt", "settledOnSlot"]
    properties := [("rollbackReason", { type := some ["null"] })] })

def pendingIsUnsettled : Schema where
  ifThen := some (member "outcome" (.str "pending"), {
    properties := [("settledAt", { type := some ["null"] }),
      ("settledOnSlot", { type := some ["null"] })] })

def promotionSettlesOn (label : SlotLabel) : Schema where
  ifThen := some ({
    properties := [("outcome", { const := some (.str "promoted") }),
      ("toSlot", { const := some (.str label.name) })]
    required := ["outcome", "toSlot"] }, {
    properties := [("settledOnSlot", { const := some (.str label.name) })] })

def fallingBackSettlesOn (label : SlotLabel) : Schema where
  ifThen := some ({
    properties := [("outcome", fellBack), ("fromSlot", { const := some (.str label.name) })]
    required := ["outcome", "fromSlot"] }, {
    properties := [("settledOnSlot", { const := some (.str label.name) })] })

def slotOrNull : Schema :=
  { type := some ["string", "null"], enum := some [.str "A", .str "B", .null] }

def attemptSchema : Schema where
  type := some ["object"]
  additionalProperties := .forbidden
  required := ["attemptNumber", "startedAt", "result"]
  properties := [
    ("attemptNumber", { type := some ["integer"], minimum := some 1, maximum := some 7 }),
    ("startedAt", { type := some ["string"] }),
    ("result", {
      type := some ["string"]
      enum := some [.str "pass", .str "probe-failed", .str "watchdog-expired",
        .str "write-failed", .str "aborted"] }),
    ("fellBackTo", slotOrNull),
    ("triesRemainingAfter", { type := some ["integer"], minimum := some 0, maximum := some 7 }),
    ("detail", { type := some ["string"], minLength := 1 })]

def idPattern (start : String) : Pattern := ⟨.seq (.literal start) localIdPattern, true⟩

end UpdateTransactionSchema

open UpdateTransactionSchema in
/-- `schemas/ab-update/UpdateTransaction.json`, less its descriptions and formats. -/
def updateTransactionSchema : Schema where
  type := some ["object"]
  additionalProperties := .forbidden
  required := ["id", "type", "specVersion", "targetRef", "fromSlot", "toSlot",
    "preservedPayloadDigest", "candidatePayloadDigest", "healthProbeRef", "healthProbeDigest",
    "maxAttempts", "outcome", "attempts", "openedAt"]
  not := some { anyOf := [bothSlots .A, bothSlots .B] }
  allOf := [fallingBackIsExplained, refusalIsExhaustion, promotionIsSettled, pendingIsUnsettled,
    promotionSettlesOn .A, promotionSettlesOn .B, fallingBackSettlesOn .A, fallingBackSettlesOn .B]
  properties := [
    ("id", { type := some ["string"], pattern := some (idPattern "urn:srcos:update-transaction:") }),
    ("type", { const := some (.str "UpdateTransaction") }),
    ("specVersion", { const := some (.str "0.1.0") }),
    ("targetRef", { type := some ["string"], pattern := some ⟨.literal "urn:srcos:", false⟩ }),
    ("fromSlot", { type := some ["string"], enum := some [.str "A", .str "B"] }),
    ("toSlot", { type := some ["string"], enum := some [.str "A", .str "B"] }),
    ("preservedPayloadDigest", { type := some ["string"], pattern := some digestPattern }),
    ("candidatePayloadDigest", { type := some ["string"], pattern := some digestPattern }),
    ("healthProbeRef", {
      type := some ["string"], pattern := some (idPattern "urn:srcos:update-health-probe:") }),
    ("healthProbeDigest", { type := some ["string"], pattern := some digestPattern }),
    ("maxAttempts", { type := some ["integer"], minimum := some 1, maximum := some 7 }),
    ("outcome", {
      type := some ["string"]
      enum := some [.str "pending", .str "promoted", .str "rolled-back", .str "refused"] }),
    ("rollbackReason", {
      type := some ["string", "null"]
      enum := some [.str "probe-failed", .str "watchdog-expired", .str "attempts-exhausted",
        .str "write-failed", .str "digest-mismatch", .str "operator-abort", .null] }),
    ("attempts", { type := some ["array"], items := some attemptSchema }),
    ("settledOnSlot", slotOrNull),
    ("openedAt", { type := some ["string"] }),
    ("settledAt", { type := some ["string", "null"] }),
    ("receiptRef", { type := some ["string"], minLength := 1 })]

def Configuration.Told (config : Configuration) (time : String) : Prop :=
  ∃ reading, time = config.clock reading

structure AttemptRecord.Accounted (attempt : AttemptRecord) (config : Configuration) : Prop where
  number : 1 ≤ attempt.attemptNumber ∧ attempt.attemptNumber ≤ 7
  tries : 0 ≤ attempt.triesRemainingAfter ∧ attempt.triesRemainingAfter ≤ 7
  startedAt : config.Told attempt.startedAt

structure Accounts (fallback : SlotLabel) (machine : Machine) : Prop where
  early : machine.phase = .idle ∨ machine.phase = .writing ∨ machine.phase = .candidateReady →
    machine.attempts = []
  armed : machine.phase = .armed → (machine.attempts.length : Int) +
    (machine.slots.get fallback.other).triesRemaining = machine.config.maxAttempts
  trying : machine.phase = .trying → (machine.attempts.length : Int) + 1 +
    (machine.slots.get fallback.other).triesRemaining = machine.config.maxAttempts
  attempts : ∀ attempt ∈ machine.attempts, attempt.Accounted machine.config
  opened : machine.phase ≠ .idle →
    ∃ time, machine.openedAt = some time ∧ machine.config.Told time
  settled : machine.phase ∈ terminalPhases →
    ∃ time, machine.settledAt = some time ∧ machine.config.Told time
  refused : machine.phase = .refused → machine.rollbackReason = some "attempts-exhausted"

theorem clock_told (config : Configuration) (reading : Nat) :
    config.Told (config.clock reading) := ⟨reading, rfl⟩

theorem recorded_accounted {fallback : SlotLabel} {machine : Machine}
    (accounts : Accounts fallback machine) (phase : machine.phase = .trying)
    (triesWidth : machine.config.maxAttempts ≤ 7) (tries : Int) (remaining : 0 ≤ tries)
    (most : tries ≤ (machine.slots.get fallback.other).triesRemaining) (result : AttemptResult)
    (fellBackTo : Option SlotLabel) (detail : Option String) :
    ∀ attempt ∈ machine.attempts ++ [{
      attemptNumber := machine.attempts.length + 1
      startedAt := machine.time
      result := result
      fellBackTo := fellBackTo
      triesRemainingAfter := tries
      detail := detail }], attempt.Accounted machine.config := by
  have spent := accounts.trying phase
  intro attempt listed
  rcases List.mem_append.mp listed with earlier | last
  · exact accounts.attempts attempt earlier
  · obtain rfl := List.mem_singleton.mp last
    constructor
    · simp
      omega
    · simp
      omega
    · exact clock_told _ _

theorem Edge.attempts_accounted {fallback : SlotLabel} {machine after : Machine} {event : Event}
    {fellBackTo : Option SlotLabel} (edge : Edge fallback machine event fellBackTo after)
    (stage : Stage fallback machine) (triesWidth : machine.config.maxAttempts ≤ 7)
    (accounts : Accounts fallback machine) :
    ∀ attempt ∈ after.attempts, attempt.Accounted after.config := by
  have recorded := fun phase => recorded_accounted accounts phase triesWidth
  rw [edge.config]
  cases edge with
  | promote detail phase =>
    exact recorded phase _ (stage.trying phase) (Int.le_refl _) .pass none detail
  | abortTrial detail phase =>
    exact recorded phase _ (stage.trying phase) (Int.le_refl _) .aborted (some fallback)
      (some detail)
  | retry _ result detail _ _ phase =>
    exact recorded phase _ (stage.trying phase) (Int.le_refl _) result (some fallback) (some detail)
  | exhaust _ result detail _ phase =>
    have none_left := recorded phase 0 (Int.le_refl 0) (stage.trying phase) result (some fallback)
      (some detail)
    simpa [Machine.time] using none_left
  | _ => exact accounts.attempts

theorem Edge.accounts {fallback : SlotLabel} {machine after : Machine} {event : Event}
    {fellBackTo : Option SlotLabel} (edge : Edge fallback machine event fellBackTo after)
    (stage : Stage fallback machine) (triesWidth : machine.config.maxAttempts ≤ 7)
    (accounts : Accounts fallback machine) : Accounts fallback after where
  attempts := edge.attempts_accounted stage triesWidth accounts
  early := edge.unarmed accounts.early
  armed := by
    have early := accounts.early
    have trying := accounts.trying
    cases edge <;> simp_all
  trying := by
    have armed := accounts.armed
    cases edge <;> simp_all
  opened := by
    have opened := accounts.opened
    have told := clock_told machine.config
    cases edge with
    | abort _ phase => simpa using opened (abortable phase).1
    | _ => simp_all [Machine.time]
  settled := by
    have told := clock_told machine.config
    cases edge <;> simp_all [terminalPhases, Machine.time]
  refused := by
    cases edge <;> simp_all

inductive Settlement (fallback : SlotLabel) : String → Json → Json → Json → Prop
  | pending : Settlement fallback "pending" .null .null .null
  | promoted (time : String) :
      Settlement fallback "promoted" .null (.str time) (.str fallback.other.name)
  | rolledBack (reason time : String) (listed : reason ∈ rollbackReasons) :
      Settlement fallback "rolled-back" (.str reason) (.str time) (.str fallback.name)
  | refused (time : String) :
      Settlement fallback "refused" (.str "attempts-exhausted") (.str time) (.str fallback.name)

section Settlement

variable {fallback : SlotLabel} {outcome : String} {reason time slot : Json}
  (settlement : Settlement fallback outcome reason time slot)
include settlement

theorem Settlement.reason_valid :
    Schema.valid {
      type := some ["string", "null"]
      enum := some [.str "probe-failed", .str "watchdog-expired", .str "attempts-exhausted",
        .str "write-failed", .str "digest-mismatch", .str "operator-abort", .null] } reason =
      true := by
  cases settlement with
  | rolledBack reason time listed =>
    simp only [rollbackReasons, List.mem_cons, List.not_mem_nil, or_false] at listed
    rcases listed with rfl | rfl | rfl | rfl | rfl | rfl <;> decide
  | _ => decide

theorem Settlement.time_valid : Schema.valid { type := some ["string", "null"] } time = true := by
  cases settlement <;> exact type_valid _ _

theorem Settlement.slot_valid : UpdateTransactionSchema.slotOrNull.valid slot = true := by
  cases settlement <;> cases fallback <;> decide

end Settlement

theorem Settlement.clauses {fallback : SlotLabel} {outcome : String} {reason time slot : Json}
    (settlement : Settlement fallback outcome reason time slot) {members : List (String × Json)}
    (hasOutcome : Json.lookup "outcome" members = some (.str outcome))
    (hasReason : Json.lookup "rollbackReason" members = some reason)
    (hasTime : Json.lookup "settledAt" members = some time)
    (hasSlot : Json.lookup "settledOnSlot" members = some slot)
    (hasFrom : Json.lookup "fromSlot" members = some (.str fallback.name))
    (hasTo : Json.lookup "toSlot" members = some (.str fallback.other.name)) (part : Schema)
    (listed : part ∈ updateTransactionSchema.allOf) : part.valid (.obj members) = true := by
  simp only [updateTransactionSchema, List.mem_cons, List.not_mem_nil, or_false] at listed
  rcases listed with rfl | rfl | rfl | rfl | rfl | rfl | rfl | rfl <;>
    apply (ifThen_valid _ _ _).mpr <;> cases settlement <;>
    simp [members_valid, member, propertiesValid, Json.get?, hasOutcome, hasReason, hasTime,
      hasSlot, hasFrom, hasTo, UpdateTransactionSchema.fellBack, const_valid, type_valid,
      enum_valid, Json.jsonEq, enumOk, typeOk, hasType]

def results : List AttemptResult := [.pass, .probeFailed, .watchdogExpired, .writeFailed, .aborted]

theorem label_valid (label : SlotLabel) :
    Schema.valid { type := some ["string"], enum := some [.str "A", .str "B"] } (.str label.name) =
      true :=
  name_valid slotLabels SlotLabel.name label (by cases label <;> decide)

theorem slotOrNull_valid (label : Option SlotLabel) :
    UpdateTransactionSchema.slotOrNull.valid (labelOrNull label) = true := by
  cases label with
  | none => decide
  | some label => cases label <;> decide

theorem attempt_fits {attempt : AttemptRecord} {config : Configuration}
    (accounted : attempt.Accounted config) (property : String × Schema)
    (listed : property ∈ UpdateTransactionSchema.attemptSchema.properties) :
    Fits (attemptMembers attempt) property := by
  simp only [UpdateTransactionSchema.attemptSchema, List.mem_cons, List.not_mem_nil,
    or_false] at listed
  rcases listed with rfl | rfl | rfl | rfl | rfl | rfl
  · exact fits_of_found rfl (number_valid _ 1 7 (by exact_mod_cast accounted.number.1)
      (by exact_mod_cast accounted.number.2))
  · exact fits_of_found rfl (type_valid _ _)
  · exact fits_of_found rfl
      (name_valid results AttemptResult.name attempt.result (by cases attempt.result <;> decide))
  · exact fits_of_found rfl (slotOrNull_valid attempt.fellBackTo)
  · exact fits_of_found rfl (number_valid _ 0 7 accounted.tries.1 accounted.tries.2)
  · intro item found
    have detail : Json.lookup "detail" (attemptMembers attempt) = _ :=
      lookup_optionalMember "detail" "detail" attempt.detail
    rw [found, if_pos rfl] at detail
    obtain ⟨text, displayed, rfl⟩ := Option.map_eq_some_iff.mp detail.symm
    exact (text_valid text).mpr (shown_nonempty displayed).2

theorem attempt_valid {attempt : AttemptRecord} {config : Configuration}
    (accounted : attempt.Accounted config) :
    UpdateTransactionSchema.attemptSchema.valid attempt.toDict = true := by
  rw [AttemptRecord.toDict, valid_iff]
  constructor
  case properties =>
    intro key child listed item found
    exact attempt_fits accounted (key, child) listed item found
  case additionalProperties =>
    apply (additionalValid_forbidden _ _).mpr
    intro member listed
    rcases List.mem_append.mp listed with fixed | optional
    · simp only [List.mem_cons, List.not_mem_nil, or_false] at fixed
      rcases fixed with rfl | rfl | rfl | rfl | rfl <;> simp [UpdateTransactionSchema.attemptSchema]
    · rw [optionalMember_key optional]
      simp [UpdateTransactionSchema.attemptSchema]
  case required =>
    rw [requiredOk_obj, List.all_eq_true]
    intro key listed
    simp only [UpdateTransactionSchema.attemptSchema, List.mem_cons, List.not_mem_nil,
      or_false] at listed
    rcases listed with rfl | rfl | rfl <;> rfl
  all_goals simp [UpdateTransactionSchema.attemptSchema, typeOk, hasType]

structure Documented (fallback : SlotLabel) (machine : Machine) : Prop where
  transactionId : (UpdateTransactionSchema.idPattern "urn:srcos:update-transaction:").search
    machine.config.transactionId = true
  targetRef : Pattern.search ⟨.literal "urn:srcos:", false⟩ machine.config.targetRef = true
  fromSlot : machine.fromSlot = some fallback
  toSlot : machine.toSlot = some fallback.other
  preserved : digestPattern.search machine.preservedDigest = true
  candidate : digestPattern.search machine.candidateDigest = true
  probeRef : (UpdateTransactionSchema.idPattern "urn:srcos:update-health-probe:").search
    machine.config.healthProbeRef = true
  probeDigest : digestPattern.search machine.config.healthProbeDigest = true
  budget : 1 ≤ machine.config.maxAttempts ∧ machine.config.maxAttempts ≤ 7
  openedAt : ∃ time, machine.openedAt = some time
  attempts : ∀ attempt ∈ machine.attempts, attempt.Accounted machine.config
  settlement : ∃ reason time slot,
    Settlement fallback (phaseToOutcome machine.phase) reason time slot ∧
    Json.lookup "rollbackReason" (transactionMembers machine) = some reason ∧
    Json.lookup "settledAt" (transactionMembers machine) = some time ∧
    Json.lookup "settledOnSlot" (transactionMembers machine) = some slot

section Document

variable {fallback : SlotLabel} {machine : Machine} (documented : Documented fallback machine)
include documented

theorem Documented.fits (property : String × Schema)
    (listed : property ∈ updateTransactionSchema.properties) :
    Fits (transactionMembers machine) property := by
  obtain ⟨reason, time, slot, settlement, hasReason, hasTime, hasSlot⟩ := documented.settlement
  obtain ⟨opening, told⟩ := documented.openedAt
  simp only [updateTransactionSchema, List.mem_cons, List.not_mem_nil, or_false] at listed
  -- The members in the order of the schema; `receiptRef` is never written.
  rcases listed with rfl | rfl | rfl | rfl | rfl | rfl | rfl | rfl | rfl | rfl | rfl | rfl | rfl |
    rfl | rfl | rfl | rfl | rfl
  · exact fits_of_found rfl ((pattern_valid _ _).mpr documented.transactionId)
  · exact fits_of_found rfl (by simp [const_valid, Json.jsonEq])
  · exact fits_of_found rfl (by simp [const_valid, Json.jsonEq, specVersion])
  · exact fits_of_found rfl ((pattern_valid _ _).mpr documented.targetRef)
  · exact fits_of_found rfl (documented.fromSlot ▸ label_valid fallback)
  · exact fits_of_found rfl (documented.toSlot ▸ label_valid fallback.other)
  · exact fits_of_found rfl ((pattern_valid _ _).mpr documented.preserved)
  · exact fits_of_found rfl ((pattern_valid _ _).mpr documented.candidate)
  · exact fits_of_found rfl ((pattern_valid _ _).mpr documented.probeRef)
  · exact fits_of_found rfl ((pattern_valid _ _).mpr documented.probeDigest)
  · exact fits_of_found rfl (number_valid _ 1 7 documented.budget.1 documented.budget.2)
  · exact fits_of_found rfl (by cases machine.phase <;> decide)
  · exact fits_of_found hasReason settlement.reason_valid
  · exact fits_of_found rfl (list_valid _ _ (List.forall_mem_map.mpr fun attempt listed =>
      attempt_valid (documented.attempts attempt listed)))
  · exact fits_of_found hasSlot settlement.slot_valid
  · exact fits_of_found rfl (by simp [told, type_valid, typeOk, hasType, textOrNull])
  · exact fits_of_found hasTime settlement.time_valid
  · exact fits_of_absent rfl

theorem Documented.apart :
    Schema.valid { anyOf := [UpdateTransactionSchema.bothSlots .A,
      UpdateTransactionSchema.bothSlots .B] } (.obj (transactionMembers machine)) = false := by
  have hasFrom : Json.lookup "fromSlot" (transactionMembers machine) = some (.str fallback.name) := by
    rw [← labelText, ← documented.fromSlot]
    rfl
  have hasTo : Json.lookup "toSlot" (transactionMembers machine) =
      some (.str fallback.other.name) := by
    rw [← labelText, ← documented.toSlot]
    rfl
  have excluded (label : SlotLabel) : (UpdateTransactionSchema.bothSlots label).valid
      (.obj (transactionMembers machine)) = false := by
    simp only [UpdateTransactionSchema.bothSlots, members_valid, propertiesValid, Json.get?, hasFrom,
      hasTo, const_valid, List.all_cons, List.all_nil, Option.isSome_some]
    cases fallback <;> cases label <;> decide
  rw [valid.eq_def]
  simp [anyValid, excluded]

theorem Documented.valid : updateTransactionSchema.valid (.obj (transactionMembers machine)) =
    true := by
  rw [valid_iff]
  constructor
  case required =>
    rw [requiredOk_obj, List.all_eq_true]
    intro key listed
    simp only [updateTransactionSchema, List.mem_cons, List.not_mem_nil, or_false] at listed
    rcases listed with rfl | rfl | rfl | rfl | rfl | rfl | rfl | rfl | rfl | rfl | rfl | rfl | rfl |
      rfl <;> rfl
  case properties =>
    intro key child listed item found
    exact documented.fits (key, child) listed item found
  case additionalProperties =>
    apply (additionalValid_forbidden _ _).mpr
    intro member listed
    simp only [transactionMembers, List.mem_cons, List.not_mem_nil, or_false] at listed
    rcases listed with rfl | rfl | rfl | rfl | rfl | rfl | rfl | rfl | rfl | rfl | rfl | rfl | rfl |
      rfl | rfl | rfl | rfl <;> simp [updateTransactionSchema]
  case allOf =>
    obtain ⟨reason, time, slot, settlement, hasReason, hasTime, hasSlot⟩ := documented.settlement
    intro part listed
    apply settlement.clauses rfl hasReason hasTime hasSlot _ _ part listed
    · rw [← labelText, ← documented.fromSlot]
      rfl
    · rw [← labelText, ← documented.toSlot]
      rfl
  case not =>
    intro excluded named
    obtain rfl := Option.some.inj named
    exact documented.apart
  all_goals simp [updateTransactionSchema, typeOk, hasType]

end Document

structure MachineArguments.WellFormed (arguments : MachineArguments) : Prop where
  transactionId : (UpdateTransactionSchema.idPattern "urn:srcos:update-transaction:").search
    arguments.transactionId = true
  probeRef : (UpdateTransactionSchema.idPattern "urn:srcos:update-health-probe:").search
    arguments.healthProbeRef = true
  probeDigest : digestPattern.search arguments.healthProbeDigest = true

theorem Accounts.settlement {fallback : SlotLabel} {machine : Machine}
    (accounts : Accounts fallback machine) (sound : Sound fallback machine)
    (opened : machine.phase ≠ .idle) :
    ∃ reason time slot, Settlement fallback (phaseToOutcome machine.phase) reason time slot ∧
      Json.lookup "rollbackReason" (transactionMembers machine) = some reason ∧
      Json.lookup "settledAt" (transactionMembers machine) = some time ∧
      Json.lookup "settledOnSlot" (transactionMembers machine) = some slot := by
  obtain ⟨fromSlot, toSlot⟩ := sound.standing.opened opened
  have unexplained := sound.stage.unexplained
  refine ⟨_, _, _, ?_, rfl, rfl, rfl⟩
  cases phase : machine.phase with
  | idle => exact absurd phase opened
  | promoted =>
    obtain ⟨time, settledAt, _⟩ := accounts.settled (by simp [phase, terminalPhases])
    have reason := unexplained (by simp [phase]) (by simp [phase])
    simpa [phase, terminalPhases, phaseToOutcome, textOrNull, settledAt, reason, toSlot,
      labelText] using Settlement.promoted time
  | rolledBack =>
    obtain ⟨time, settledAt, _⟩ := accounts.settled (by simp [phase, terminalPhases])
    obtain ⟨reason, listed, given⟩ := sound.stage.explained (.inl phase)
    simpa [phase, terminalPhases, phaseToOutcome, textOrNull, settledAt, given, fromSlot,
      labelText] using Settlement.rolledBack reason time listed
  | refused =>
    obtain ⟨time, settledAt, _⟩ := accounts.settled (by simp [phase, terminalPhases])
    simpa [phase, terminalPhases, phaseToOutcome, textOrNull, settledAt, accounts.refused phase,
      fromSlot, labelText] using Settlement.refused time
  | _ =>
    have reason := unexplained (by simp [phase]) (by simp [phase])
    simpa [phase, terminalPhases, phaseToOutcome, textOrNull, reason] using Settlement.pending

theorem Conforming.documented {fallback : SlotLabel} {machine : Machine}
    (conforming : Conforming fallback machine) (accounts : Accounts fallback machine)
    (opened : machine.phase ≠ .idle) (wellFormed : machine.config.toMachineArguments.WellFormed)
    (target : Pattern.search ⟨.literal "urn:srcos:", false⟩ machine.config.targetRef = true) :
    Documented fallback machine where
  transactionId := wellFormed.transactionId
  targetRef := target
  fromSlot := (conforming.sound.standing.opened opened).1
  toSlot := (conforming.sound.standing.opened opened).2
  preserved := by
    obtain ⟨digest, held⟩ := Option.ne_none_iff_exists'.mp conforming.sound.fit.digest
    rw [conforming.sound.pinned opened, held]
    exact (conforming.texts fallback).digest digest held
  candidate := (conforming.texts fallback.other).digest _ (conforming.sound.stage.digest opened)
  probeRef := wellFormed.probeRef
  probeDigest := wellFormed.probeDigest
  budget := ⟨conforming.sound.stage.budget, conforming.triesWidth⟩
  openedAt := by
    have ⟨time, openedAt, _⟩ := accounts.opened opened
    exact ⟨time, openedAt⟩
  attempts := accounts.attempts
  settlement := accounts.settlement conforming.sound opened

theorem Initial.accounts {fallback : SlotLabel} {machine : Machine}
    (initial : Initial fallback machine) : Accounts fallback machine := by
  have idle := initial.idle
  have attempts : machine.attempts = [] := by rw [initial.fresh]
  constructor <;> simp [idle, attempts, terminalPhases]

theorem run_accounts {fallback : SlotLabel} {machine : Machine}
    (contracted : Contracted fallback machine) (events : List Event) :
    Accounts fallback (device.run machine events) :=
  (run_edges
    (fun later => Sound fallback later ∧ later.config.maxAttempts ≤ 7 ∧ Accounts fallback later)
    (fun _ ⟨sound, triesWidth, accounts⟩ edge =>
      ⟨edge.sound sound, edge.config ▸ triesWidth, edge.accounts sound.stage triesWidth accounts⟩)
    contracted.sound.standing
    ⟨contracted.sound, contracted.initial.triesWidth, contracted.initial.accounts⟩ events).2.2.2

-- The `date-time` members; the predicate stands for the format, which the schema only annotates.
structure Dated (dateTime : String → Prop) (doc : Json) : Prop where
  openedAt : ∃ time, doc.get? "openedAt" = some (.str time) ∧ dateTime time
  settledAt : doc.get? "settledAt" = some .null ∨
    ∃ time, doc.get? "settledAt" = some (.str time) ∧ dateTime time
  attempts : ∃ attempts, doc.get? "attempts" = some (.arr attempts) ∧
    ∀ attempt ∈ attempts, ∃ time, attempt.get? "startedAt" = some (.str time) ∧ dateTime time

theorem Accounts.dated {fallback : SlotLabel} {machine : Machine}
    (accounts : Accounts fallback machine) (opened : machine.phase ≠ .idle)
    (dateTime : String → Prop) (clock : ∀ reading, dateTime (machine.config.clock reading)) :
    Dated dateTime (.obj (transactionMembers machine)) := by
  have told (time : String) (told : machine.config.Told time) : dateTime time := by
    have ⟨reading, same⟩ := told
    exact same ▸ clock reading
  constructor
  case openedAt =>
    have ⟨time, openedAt, given⟩ := accounts.opened opened
    exact ⟨time, congrArg (some ∘ textOrNull) openedAt, told time given⟩
  case settledAt =>
    have held : Json.get? (.obj (transactionMembers machine)) "settledAt" = some
      (if machine.phase ∈ terminalPhases then textOrNull machine.settledAt else .null) := rfl
    by_cases terminal : machine.phase ∈ terminalPhases
    · have ⟨time, settledAt, given⟩ := accounts.settled terminal
      rw [if_pos terminal, settledAt] at held
      exact .inr ⟨time, held, told time given⟩
    · rw [if_neg terminal] at held
      exact .inl held
  case attempts =>
    refine ⟨_, rfl, fun attempt listed => ?_⟩
    obtain ⟨recorded, member, rfl⟩ := List.mem_map.mp listed
    exact ⟨recorded.startedAt, rfl, told _ (accounts.attempts recorded member).startedAt⟩

theorem transaction_document_conforms (left right : Json) (arguments : MachineArguments)
    (machine : Machine) (built : BuiltFrom left right arguments machine)
    (wellFormed : arguments.WellFormed) (dateTime : String → Prop)
    (clock : ∀ reading, dateTime (arguments.clock reading)) (events : List Event)
    (digests : ∀ event ∈ events, event.WellFormed)
    (opened : (device.run machine events).phase ≠ .idle) :
    ∃ doc, (device.run machine events).toTransactionDocument = .ok doc ∧
      updateTransactionSchema.valid doc = true ∧ Dated dateTime doc := by
  have ⟨_, contracted⟩ := built.contracted
  have conforming := run_conforming (contracted.conforming built.texts) events digests
  have accounts := run_accounts contracted events
  have config := run_config contracted.sound.standing events
  have target := built.target
  rw [← built.arguments, ← config] at wellFormed clock
  rw [← config] at target
  exact ⟨_, toTransactionDocument_opened _ opened,
    (conforming.documented accounts opened wellFormed target).valid,
    accounts.dated opened dateTime clock⟩

theorem transaction_document_conforms_example :
    ∃ doc, abortedMachine.toTransactionDocument = .ok doc ∧
      updateTransactionSchema.valid doc = true ∧ Dated (fun time => Python.endswith time "Z") doc :=
  transaction_document_conforms exampleActive exampleCandidate exampleArguments exampleMachine
    exampleMachine_built ⟨by decide +kernel, by decide +kernel, by decide +kernel⟩ _
    (fun _ => (by decide : Python.endswith "2026-07-29T10:00:00Z" "Z" = true))
    [.begin badDigest none none, .operatorAbort "late"] (by simp [Event.WellFormed]; decide +kernel)
    (by decide +kernel)

end SourceosBoot.AbUpdate
