import SourceosBoot.AbUpdate.ContractPairs

set_option autoImplicit false

namespace SourceosBoot.AbUpdate

open Python Transition

def labelOrNull : Option SlotLabel → Json
  | none => .null
  | some label => .str label.name

def textOrNull : Option String → Json
  | none => .null
  | some text => .str text

def attemptMembers (attempt : AttemptRecord) : List (String × Json) :=
  [("attemptNumber", .int attempt.attemptNumber),
    ("startedAt", .str attempt.startedAt),
    ("result", .str attempt.result.name),
    ("fellBackTo", labelOrNull attempt.fellBackTo),
    ("triesRemainingAfter", .int attempt.triesRemainingAfter)]
    ++ optionalMember "detail" attempt.detail

def AttemptRecord.toDict (attempt : AttemptRecord) : Json := .obj (attemptMembers attempt)

def transactionMembers (machine : Machine) : List (String × Json) :=
  let settled := machine.phase ∈ terminalPhases
  [("id", .str machine.config.transactionId),
    ("type", .str "UpdateTransaction"),
    ("specVersion", .str specVersion),
    ("targetRef", .str machine.config.targetRef),
    ("fromSlot", .str (labelText machine.fromSlot)),
    ("toSlot", .str (labelText machine.toSlot)),
    ("preservedPayloadDigest", .str machine.preservedDigest),
    ("candidatePayloadDigest", .str machine.candidateDigest),
    ("healthProbeRef", .str machine.config.healthProbeRef),
    ("healthProbeDigest", .str machine.config.healthProbeDigest),
    ("maxAttempts", .int machine.config.maxAttempts),
    ("outcome", .str (phaseToOutcome machine.phase)),
    ("rollbackReason", textOrNull machine.rollbackReason),
    ("openedAt", textOrNull machine.openedAt),
    ("settledAt", if settled then textOrNull machine.settledAt else .null),
    ("settledOnSlot",
      if settled then
        .str (labelText (if machine.phase = .promoted then machine.toSlot else machine.fromSlot))
      else .null),
    ("attempts", .arr (machine.attempts.map AttemptRecord.toDict))]

def Machine.toTransactionDocument (machine : Machine) : Except Raised Json :=
  if machine.phase = .idle then
    raise invariantViolation "no transaction has been opened — call begin() first"
  else .ok (.obj (transactionMembers machine))

theorem toTransactionDocument_opened (machine : Machine) (opened : machine.phase ≠ .idle) :
    machine.toTransactionDocument = .ok (.obj (transactionMembers machine)) :=
  if_neg opened

def Home (fallback : SlotLabel) (machine : Machine) : Prop :=
  (machine.slots.get fallback).currentlyRunning = true ↔
    ¬ (machine.phase = .trying ∨ machine.phase = .promoted)

theorem Edge.home {fallback : SlotLabel} {machine after : Machine} {event : Event}
    {fellBackTo : Option SlotLabel} (edge : Edge fallback machine event fellBackTo after)
    (stage : Stage fallback machine) (home : Home fallback machine) : Home fallback after := by
  unfold Home at *
  have away := stage.away
  cases edge with
  | abort _ phase => simp
  | _ => simp_all

theorem run_home {fallback : SlotLabel} {machine : Machine} (sound : Sound fallback machine)
    (home : Home fallback machine) (events : List Event) :
    Home fallback (device.run machine events) :=
  (run_edges (fun later => Sound fallback later ∧ Home fallback later)
    (fun _ holds edge => ⟨edge.sound holds.1, edge.home holds.1.stage holds.2⟩) sound.standing
    ⟨sound, home⟩ events).2.2

theorem Edge.fallsBack {fallback label : SlotLabel} {machine after : Machine} {event : Event}
    (edge : Edge fallback machine event (some label) after) :
    label = fallback ∧ (after.slots.get fallback).currentlyRunning = true := by
  generalize named : some label = fellBackTo at edge
  cases edge <;> simp_all

theorem Sound.running_ok {fallback label : SlotLabel} {machine : Machine}
    (sound : Sound fallback machine)
    (running : (machine.slots.get label).currentlyRunning = true) :
    machine.running = .ok (machine.slots.get label) := by
  have one := sound.fit.oneRunning
  have other : (machine.slots.get label.other).currentlyRunning = false := by
    unfold OneRunning at one
    rcases SlotLabel.eq_or_other label fallback with rfl | rfl <;> simp_all
  rcases SlotLabel.eq_or_other machine.slots.first label with first | first <;>
    simp [Machine.running, Machine.nextSlot, SlotTable.values, first, running, other]

section SlotDocument

variable (isalnum : Char → Bool) (targetRef : String) (label : SlotLabel) (slot : SlotState)

theorem slotDocument_slot :
    (slotDocument isalnum targetRef label slot).get? "slot" = some (.str slot.slot.name) :=
  slotMembers_fixed _ _ _ _ rfl

theorem slotDocument_active :
    hasMember (slotDocument isalnum targetRef label slot) "role" (.str "active") =
      decide (slot.role = .active) := by
  have role : (slotDocument isalnum targetRef label slot).get? "role" = some (.str slot.role.name) :=
    slotMembers_fixed _ _ _ _ rfl
  rw [hasMember, role]
  cases slot.role <;> rfl

theorem slotDocument_running :
    hasMember (slotDocument isalnum targetRef label slot) "currentlyRunning" (.bool true) =
      slot.currentlyRunning := by
  have running : (slotDocument isalnum targetRef label slot).get? "currentlyRunning" =
      some (.bool slot.currentlyRunning) := slotMembers_fixed _ _ _ _ rfl
  rw [hasMember, running]
  cases slot.currentlyRunning <;> rfl

theorem slotDocument_digest (digest : String) (held : slot.payloadDigest = some digest)
    (shown : digest ≠ "") :
    (slotDocument isalnum targetRef label slot).get? "payloadDigest" = some (.str digest) := by
  simp [slotDocument, slotMembers, fixedMembers, Json.get?, Json.lookup, optionalMember, held,
    shown]

def Machine.documentOf (machine : Machine) : Json :=
  slotDocument isalnum machine.config.targetRef label (machine.slots.get label)

theorem toSlotDocuments_filter (machine : Machine) (wanted : Json → Bool)
    (holds : wanted (machine.documentOf isalnum label) = true)
    (other : wanted (machine.documentOf isalnum label.other) = false) :
    (machine.toSlotDocuments isalnum).filter wanted = [machine.documentOf isalnum label] := by
  unfold Machine.documentOf at *
  cases label <;> simp_all [Machine.toSlotDocuments, slotLabels, SlotLabel.other]

theorem documentOf_listed (machine : Machine) :
    machine.documentOf isalnum label ∈ machine.toSlotDocuments isalnum := by
  cases label <;> simp [Machine.toSlotDocuments, Machine.documentOf, slotLabels]

end SlotDocument

structure RecordAgrees (slotDocs : List Json) (doc : Json) : Prop where
  settledOn : ∃ slotDoc, doc.get? "settledOnSlot" = slotDoc.get? "slot" ∧
    slotDocs.filter (hasMember · "currentlyRunning" (.bool true)) = [slotDoc] ∧
    slotDocs.filter (hasMember · "role" (.str "active")) = [slotDoc]
  preserved : ∃ slotDoc ∈ slotDocs, slotDoc.get? "slot" = doc.get? "fromSlot" ∧
    ∃ digest, slotDoc.get? "payloadDigest" = some digest ∧
      doc.get? "preservedPayloadDigest" = some digest
  reason : doc.get? "rollbackReason" = some .null ↔
    doc.get? "outcome" = some (.str "promoted")

structure EndsOn (label : SlotLabel) (machine : Machine) : Prop where
  named : (if machine.phase = .promoted then machine.toSlot else machine.fromSlot) = some label
  roles : HoldsRoles machine label
  running : (machine.slots.get label).currentlyRunning = true
  stopped : (machine.slots.get label.other).currentlyRunning = false

theorem Sound.ends_on {fallback : SlotLabel} {machine : Machine} (sound : Sound fallback machine)
    (terminal : machine.phase ∈ terminalPhases) : ∃ label, EndsOn label machine := by
  have opened := terminal_opened terminal
  obtain ⟨fromSlot, toSlot⟩ := sound.standing.opened opened
  by_cases promoted : machine.phase = .promoted
  · obtain ⟨away, left⟩ := sound.stage.away (.inr promoted)
    exact ⟨fallback.other, by simp [promoted, toSlot], sound.standing.swapped promoted, away,
      by simpa using left⟩
  · have returned : machine.phase = .rolledBack ∨ machine.phase = .refused := by
      simpa [terminalPhases, promoted] using terminal
    have home := sound.stage.home returned
    have one := sound.fit.oneRunning
    unfold OneRunning at one
    exact ⟨fallback, by simp [promoted, fromSlot], sound.standing.roles promoted, home,
      by simpa [home] using one⟩

theorem Sound.record_agrees {fallback : SlotLabel} {machine : Machine}
    (sound : Sound fallback machine) (shown : (machine.slots.get fallback).payloadDigest ≠ some "")
    (terminal : machine.phase ∈ terminalPhases) (isalnum : Char → Bool) :
    ∃ doc, machine.toTransactionDocument = .ok doc ∧
      RecordAgrees (machine.toSlotDocuments isalnum) doc := by
  have opened := terminal_opened terminal
  obtain ⟨fromSlot, _⟩ := sound.standing.opened opened
  obtain ⟨digest, held⟩ := Option.ne_none_iff_exists'.mp sound.fit.digest
  have preserved : machine.preservedDigest = digest := by simpa [held] using sound.pinned opened
  -- An empty digest would be left out of the slot document.
  have nonempty : digest ≠ "" := by simpa [held] using shown
  obtain ⟨label, ends⟩ := sound.ends_on terminal
  refine ⟨_, toTransactionDocument_opened machine opened, ?_⟩
  constructor
  case settledOn =>
    refine ⟨machine.documentOf isalnum label, ?_, ?_, ?_⟩
    · rw [Machine.documentOf, slotDocument_slot, machine.slots.labelled]
      simp [transactionMembers, Json.get?, Json.lookup, terminal, ends.named, labelText]
    · apply toSlotDocuments_filter <;> rw [Machine.documentOf, slotDocument_running]
      · exact ends.running
      · exact ends.stopped
    · apply toSlotDocuments_filter <;> rw [Machine.documentOf, slotDocument_active]
      · simp [ends.roles.active]
      · simp [ends.roles.candidate]
  case preserved =>
    refine ⟨machine.documentOf isalnum fallback, documentOf_listed isalnum fallback machine, ?_,
      .str digest, slotDocument_digest _ _ _ _ digest held nonempty, ?_⟩
    · rw [Machine.documentOf, slotDocument_slot, machine.slots.labelled]
      simp [transactionMembers, Json.get?, Json.lookup, fromSlot, labelText]
    · simp [transactionMembers, Json.get?, Json.lookup, preserved]
  case reason =>
    have explained := sound.stage.explained
    have unexplained := sound.stage.unexplained
    cases phase : machine.phase with
    | promoted =>
      simp [transactionMembers, Json.get?, Json.lookup, phase, textOrNull, phaseToOutcome,
        unexplained (by simp [phase]) (by simp [phase])]
    | rolledBack | refused =>
      obtain ⟨text, _, given⟩ := explained (by simp [phase])
      simp [transactionMembers, Json.get?, Json.lookup, phase, given, textOrNull, phaseToOutcome]
    | _ => simp [phase, terminalPhases] at terminal

/--
For a pair whose active slot is running: where the device runs, where a failed
event leaves it, and the two records of a settled transaction.
-/
theorem record_agrees_with_device (left right : Json) (arguments : MachineArguments)
    (machine : Machine) (built : BuiltFrom left right arguments machine)
    (activeRuns : ∀ label, (machine.slots.get label).role = .active →
      (machine.slots.get label).currentlyRunning = true)
    (isalnum : Char → Bool) (events : List Event) :
    ((device.run machine events).phase ≠ .idle →
      ∃ slot, (device.run machine events).running = .ok slot ∧
        ((device.run machine events).toSlot = some slot.slot ↔
          (device.run machine events).phase = .trying ∨
            (device.run machine events).phase = .promoted)) ∧
    (∀ event result label after,
      device.step (device.run machine events) event = (.ok result, after) →
      result.allowed = true → result.fellBackTo = some label →
      after.fromSlot = some label ∧ (after.slots.get label).currentlyRunning = true) ∧
    ((device.run machine events).phase ∈ terminalPhases →
      ∃ doc, (device.run machine events).toTransactionDocument = .ok doc ∧
        RecordAgrees ((device.run machine events).toSlotDocuments isalnum) doc) := by
  obtain ⟨fallback, contracted⟩ := built.contracted
  have sound := run_sound contracted.sound events
  have start : Home fallback machine := by
    simp [Home, activeRuns fallback contracted.initial.roles.active, contracted.initial.idle]
  have home := run_home contracted.sound start events
  have shown : ((device.run machine events).slots.get fallback).payloadDigest ≠ some "" :=
    (run_kept contracted.sound.standing events).payloadDigest ▸ (contracted.slots fallback).digest
  generalize device.run machine events = later at sound home shown ⊢
  refine ⟨fun opened => ?_, fun event result label after step allowed fell => ?_,
    fun terminal => sound.record_agrees shown terminal isalnum⟩
  · obtain ⟨_, toSlot⟩ := sound.standing.opened opened
    by_cases away : later.phase = .trying ∨ later.phase = .promoted
    · refine ⟨_, sound.running_ok (sound.stage.away away).1, ?_⟩
      simp [toSlot, later.slots.labelled, away]
    · refine ⟨_, sound.running_ok (home.mpr away), ?_⟩
      simp [toSlot, later.slots.labelled, away]
  · rcases sound.answers event with
      ⟨refusal, declined, refused⟩ | ⟨_, _, raised⟩ | ⟨fellBackTo, written, reason, _, edge, taken⟩
    · obtain ⟨rfl, rfl⟩ : refusal = result ∧ later = after := by simpa [step] using declined.symm
      simp [refused] at allowed
    · simp [step] at raised
    · obtain ⟨rfl, rfl⟩ : accepted later written event fellBackTo reason = result ∧
          written = after := by simpa [step] using taken.symm
      obtain rfl : fellBackTo = some label := fell
      obtain ⟨rfl, running⟩ := edge.fallsBack
      exact ⟨((edge.sound sound).standing.opened edge.leaves_idle).1, running⟩

def abortedMachine : Machine :=
  device.run exampleMachine [.begin badDigest none none, .operatorAbort "late"]

theorem record_agrees_with_device_example :
    (abortedMachine.phase ≠ .idle →
      ∃ slot, abortedMachine.running = .ok slot ∧
        (abortedMachine.toSlot = some slot.slot ↔
          abortedMachine.phase = .trying ∨ abortedMachine.phase = .promoted)) ∧
    (∀ event result label after,
      device.step abortedMachine event = (.ok result, after) →
      result.allowed = true → result.fellBackTo = some label →
      after.fromSlot = some label ∧ (after.slots.get label).currentlyRunning = true) ∧
    (abortedMachine.phase ∈ terminalPhases →
      ∃ doc, abortedMachine.toTransactionDocument = .ok doc ∧
        RecordAgrees (abortedMachine.toSlotDocuments Char.isAlphanum) doc) :=
  record_agrees_with_device exampleActive exampleCandidate exampleArguments exampleMachine
    exampleMachine_built (by intro label; cases label <;> decide) Char.isAlphanum
    [.begin badDigest none none, .operatorAbort "late"]

end SourceosBoot.AbUpdate
