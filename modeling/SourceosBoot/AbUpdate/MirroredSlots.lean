import Mathlib.Data.List.Permutation
import SourceosBoot.AbUpdate.MachineExceptions
import SourceosBoot.AbUpdate.TransactionConformance

set_option autoImplicit false

namespace SourceosBoot.AbUpdate

open Python Transition

def SlotState.mirror (slot : SlotState) : SlotState := { slot with slot := slot.slot.other }

def AttemptRecord.mirror (attempt : AttemptRecord) : AttemptRecord :=
  { attempt with fellBackTo := attempt.fellBackTo.map SlotLabel.other }

structure Mirrored (machine image : Machine) : Prop where
  config : image.config = machine.config
  slots : ∀ label, image.slots.get label.other = (machine.slots.get label).mirror
  clockReads : image.clockReads = machine.clockReads
  phase : image.phase = machine.phase
  fromSlot : image.fromSlot = machine.fromSlot.map SlotLabel.other
  toSlot : image.toSlot = machine.toSlot.map SlotLabel.other
  preservedDigest : image.preservedDigest = machine.preservedDigest
  candidateDigest : image.candidateDigest = machine.candidateDigest
  attempts : image.attempts = machine.attempts.map AttemptRecord.mirror
  rollbackReason : image.rollbackReason = machine.rollbackReason
  openedAt : image.openedAt = machine.openedAt
  settledAt : image.settledAt = machine.settledAt

theorem SlotState.mirror_mirror (slot : SlotState) : slot.mirror.mirror = slot := by
  simp [SlotState.mirror]

theorem AttemptRecord.mirror_mirror (attempt : AttemptRecord) :
    attempt.mirror.mirror = attempt := by
  cases attempt with
  | mk _ _ _ fellBackTo => cases fellBackTo <;> simp [AttemptRecord.mirror]

theorem mirror_label (label : Option SlotLabel) :
    (label.map SlotLabel.other).map SlotLabel.other = label := by
  cases label <;> simp

section Assignments

variable {machine image : Machine} (mirrored : Mirrored machine image)
include mirrored

theorem Mirrored.symm : Mirrored image machine where
  config := mirrored.config.symm
  slots := fun label => by
    have held := mirrored.slots label.other
    rw [SlotLabel.other_other] at held
    rw [held, SlotState.mirror_mirror]
  clockReads := mirrored.clockReads.symm
  phase := mirrored.phase.symm
  fromSlot := by rw [mirrored.fromSlot, mirror_label]
  toSlot := by rw [mirrored.toSlot, mirror_label]
  preservedDigest := mirrored.preservedDigest.symm
  candidateDigest := mirrored.candidateDigest.symm
  attempts := by simp [mirrored.attempts, Function.comp_def, AttemptRecord.mirror_mirror]
  rollbackReason := mirrored.rollbackReason.symm
  openedAt := mirrored.openedAt.symm
  settledAt := mirrored.settledAt.symm

theorem Mirrored.time : image.time = machine.time := by
  rw [Machine.time, Machine.time, mirrored.config, mirrored.clockReads]

theorem Mirrored.write (label : SlotLabel) {changes changesImage : SlotState → SlotState}
    {keeps : ∀ slot, (changes slot).slot = slot.slot}
    {keepsImage : ∀ slot, (changesImage slot).slot = slot.slot}
    (alike : changesImage (machine.slots.get label).mirror =
      (changes (machine.slots.get label)).mirror) :
    Mirrored (machine.write label changes keeps) (image.write label.other changesImage keepsImage) :=
  { mirrored with
    slots := fun key => by
      rcases SlotLabel.eq_or_other key label with rfl | rfl
      · simp [mirrored.slots, alike]
      · simpa using mirrored.slots label.other }

theorem Mirrored.setPhase (phase : Phase) :
    Mirrored (machine.setPhase phase) (image.setPhase phase) :=
  { mirrored with phase := rfl }

theorem Mirrored.setFromSlot (label : SlotLabel) :
    Mirrored (machine.setFromSlot label) (image.setFromSlot label.other) :=
  { mirrored with fromSlot := rfl }

theorem Mirrored.setToSlot (label : SlotLabel) :
    Mirrored (machine.setToSlot label) (image.setToSlot label.other) :=
  { mirrored with toSlot := rfl }

theorem Mirrored.setDigests (preserved candidate : String) :
    Mirrored (machine.setDigests preserved candidate) (image.setDigests preserved candidate) :=
  { mirrored with preservedDigest := rfl, candidateDigest := rfl }

theorem Mirrored.setOpenedAt (time : String) :
    Mirrored (machine.setOpenedAt time) (image.setOpenedAt time) :=
  { mirrored with openedAt := rfl }

theorem Mirrored.setSettledAt (time : String) :
    Mirrored (machine.setSettledAt time) (image.setSettledAt time) :=
  { mirrored with settledAt := rfl }

theorem Mirrored.setRollbackReason (reason : Option String) :
    Mirrored (machine.setRollbackReason reason) (image.setRollbackReason reason) :=
  { mirrored with rollbackReason := rfl }

theorem Mirrored.tick : Mirrored machine.tick image.tick :=
  { mirrored with clockReads := by simp [mirrored.clockReads] }

theorem Mirrored.addAttempt {attempt attemptImage : AttemptRecord}
    (alike : attemptImage = attempt.mirror) :
    Mirrored (machine.addAttempt attempt) (image.addAttempt attemptImage) :=
  { mirrored with attempts := by simp [mirrored.attempts, alike] }

end Assignments

section Successors

variable {machine image : Machine} (mirrored : Mirrored machine image) (fallback : SlotLabel)
include mirrored

theorem Mirrored.tries : (image.slots.get fallback.other.other).triesRemaining =
    (machine.slots.get fallback.other).triesRemaining := by
  rw [mirrored.slots]
  rfl

theorem Mirrored.recorded (result : AttemptResult) (fellBackTo : Option SlotLabel)
    (detail : Option String) :
    Mirrored (machine.recorded fallback result fellBackTo detail)
      (image.recorded fallback.other result (fellBackTo.map SlotLabel.other) detail) := by
  rw [Machine.recorded, Machine.recorded, mirrored.tries, mirrored.time, mirrored.attempts,
    List.length_map]
  exact mirrored.tick.addAttempt rfl

theorem Mirrored.settled (phase : Phase) (reason : Option String) :
    Mirrored (machine.settled phase reason) (image.settled phase reason) := by
  rw [Machine.settled, Machine.settled, mirrored.time]
  exact (((mirrored.setPhase phase).setRollbackReason reason).tick).setSettledAt machine.time

theorem Mirrored.retired : Mirrored (machine.retired fallback) (image.retired fallback.other) := by
  rw [Machine.retired, Machine.retired, mirrored.slots]
  exact (mirrored.write fallback.other (by rfl)).write fallback (by rfl)

theorem Mirrored.spent : Mirrored (machine.spent fallback) (image.spent fallback.other) :=
  mirrored.write fallback.other (by rfl)

theorem Mirrored.failed (result : AttemptResult) (detail : String) :
    Mirrored (machine.failed fallback result detail) (image.failed fallback.other result detail) :=
  ((mirrored.recorded fallback result (some fallback) (some detail)).write fallback.other (by rfl)).write
    fallback (by rfl)

theorem Mirrored.edge {event : Event} {fellBackTo : Option SlotLabel} {after : Machine}
    (edge : Edge fallback machine event fellBackTo after) :
    ∃ afterImage, Edge fallback.other image event (fellBackTo.map SlotLabel.other) afterImage ∧
      Mirrored after afterImage := by
  have samePhase := mirrored.phase
  have sameDigest := mirrored.candidateDigest
  have sameTries := mirrored.tries fallback
  cases edge with
  | begin payloadDigest payloadRef version phase =>
    refine ⟨_, .begin payloadDigest payloadRef version (samePhase.trans phase), ?_⟩
    rw [Machine.opened, Machine.opened, mirrored.slots, mirrored.time]
    exact ((((((mirrored.setFromSlot fallback).setToSlot fallback.other).setDigests _
      payloadDigest).tick).setOpenedAt machine.time).write fallback.other (by rfl)).setPhase .writing
  | verified observedDigest phase same =>
    exact ⟨_, .verified observedDigest (samePhase.trans phase) (same.trans sameDigest.symm),
      (mirrored.write fallback.other (by rfl)).setPhase .candidateReady⟩
  | mismatched observedDigest phase different =>
    exact ⟨_, .mismatched observedDigest (samePhase.trans phase) (sameDigest ▸ different),
      (mirrored.retired fallback).settled _ _⟩
  | unwritten detail phase =>
    exact ⟨_, .unwritten detail (samePhase.trans phase), (mirrored.retired fallback).settled _ _⟩
  | arm phase =>
    refine ⟨_, .arm (samePhase.trans phase), ?_⟩
    rw [Machine.armedOn, Machine.armedOn, mirrored.config]
    exact ((mirrored.write fallback (by rfl)).write fallback.other (by rfl)).setPhase .armed
  | boot phase remaining =>
    refine ⟨_, .boot (samePhase.trans phase) (sameTries ▸ remaining), ?_⟩
    rw [Machine.booted, Machine.booted, mirrored.slots]
    exact ((mirrored.write fallback.other (by rfl)).write fallback (by rfl)).setPhase .trying
  | promote detail phase =>
    exact ⟨_, .promote detail (samePhase.trans phase),
      (((mirrored.recorded fallback .pass none detail).write fallback.other (by rfl)).write fallback
        (by rfl)).settled _ _⟩
  | retry _ result detail failure patient phase remaining =>
    exact ⟨_, .retry event result detail failure patient (samePhase.trans phase)
      (sameTries ▸ remaining), (mirrored.failed fallback result detail).setPhase .armed⟩
  | exhaust _ result detail failure phase finished =>
    exact ⟨_, .exhaust event result detail failure (samePhase.trans phase) (sameTries ▸ finished),
      (((mirrored.spent fallback).failed fallback result detail).retired fallback).settled _ _⟩
  | abort detail phase =>
    exact ⟨_, .abort detail (by rwa [samePhase]), (mirrored.retired fallback).settled _ _⟩
  | abortTrial detail phase =>
    exact ⟨_, .abortTrial detail (samePhase.trans phase),
      ((mirrored.recorded fallback .aborted (some fallback) (some detail)).retired
        fallback).settled _ _⟩

end Successors

inductive AnswersMirrored : Except Raised TransitionResult → Except Raised TransitionResult → Prop
  | answered (result image : TransitionResult) (allowed : image.allowed = result.allowed)
      (event : image.event = result.event) (fromPhase : image.fromPhase = result.fromPhase)
      (toPhase : image.toPhase = result.toPhase)
      (fellBackTo : image.fellBackTo = result.fellBackTo.map SlotLabel.other) :
      AnswersMirrored (.ok result) (.ok image)
  | raised (raised image : Raised) (sameClass : image.cls = raised.cls) :
      AnswersMirrored (.error raised) (.error image)

section Steps

variable {fallback : SlotLabel} {machine image : Machine} (mirrored : Mirrored machine image)
include mirrored

theorem Mirrored.roles {label : SlotLabel} (roles : HoldsRoles machine label) :
    HoldsRoles image label.other := by
  constructor
  · rw [mirrored.slots]
    exact roles.active
  · rw [mirrored.slots]
    exact roles.candidate

theorem Mirrored.standing (standing : Standing fallback machine) :
    Standing fallback.other image where
  unopened := by
    rw [mirrored.phase, mirrored.fromSlot, mirrored.toSlot]
    intro idle
    simp [standing.unopened idle]
  opened := by
    rw [mirrored.phase, mirrored.fromSlot, mirrored.toSlot]
    intro opened
    simp [standing.opened opened]
  roles := fun pending => mirrored.roles (standing.roles (mirrored.phase ▸ pending))
  swapped := fun promoted => mirrored.roles (standing.swapped (mirrored.phase ▸ promoted))

theorem Mirrored.countP (wanted : SlotState → Bool)
    (blind : ∀ slot : SlotState, wanted slot.mirror = wanted slot)
    (one : machine.slots.values.countP wanted = 1) : image.slots.values.countP wanted = 1 := by
  rw [machine.slots.count_one wanted .A] at one
  rw [image.slots.count_one wanted SlotLabel.A.other, mirrored.slots, mirrored.slots, blind, blind]
  exact one

theorem Mirrored.checked (standing : Standing fallback machine) (checked : Checked machine) :
    Checked image := by
  have slots (holds : SlotState → Prop) (each : ∀ label, holds (machine.slots.get label).mirror)
      (label : SlotLabel) : holds (image.slots.get label) := by
    have held := each label.other
    rwa [← mirrored.slots, SlotLabel.other_other] at held
  constructor
  case preserved =>
    intro label named
    rw [mirrored.fromSlot] at named
    obtain ⟨source, listed, rfl⟩ := Option.mem_map.mp named
    rw [mirrored.slots, mirrored.preservedDigest]
    exact checked.preserved source listed
  case oneRunning => exact mirrored.countP _ (fun _ => rfl) checked.oneRunning
  case oneActive => exact mirrored.countP _ (fun _ => rfl) checked.oneActive
  case writesCandidate =>
    exact slots (fun slot => slot.state = .writing → slot.role = .candidate)
      checked.writesCandidate
  case unselectable =>
    exact slots (fun slot => slot.state = .unbootable → slot.bootPriority = 0)
      checked.unselectable
  case trial =>
    intro onTrial
    rw [mirrored.phase] at onTrial
    have roles := standing.roles (by rcases onTrial with phase | phase <;> simp [phase])
    obtain ⟨candidate, active, found, known, order, usable⟩ := checked.trial onTrial
    obtain rfl : machine.slots.get fallback.other = candidate := by
      simpa [roles.candidate_ok] using found
    obtain rfl : machine.slots.get fallback = active := by simpa [roles.active_ok] using known
    refine ⟨_, _, (mirrored.roles roles).candidate_ok, (mirrored.roles roles).active_ok, ?_⟩
    rw [mirrored.slots, mirrored.slots]
    exact ⟨order, usable⟩

theorem Mirrored.answers {after afterImage : Machine} (alike : Mirrored after afterImage)
    (standing : Standing fallback after) {event : Event} {fellBackTo : Option SlotLabel}
    (takes : Takes machine event fellBackTo after)
    (takesImage : Takes image event (fellBackTo.map SlotLabel.other) afterImage) :
    AnswersMirrored (device.step machine event).1 (device.step image event).1 := by
  have standingImage := alike.standing standing
  cases verdict : after.assertInvariants with
  | ok _ =>
    have passes := alike.checked standing ((assertInvariants_ok after).mp verdict)
    obtain ⟨_, step⟩ := takes.passes verdict
    obtain ⟨_, stepImage⟩ := takesImage.passes ((assertInvariants_ok afterImage).mpr passes)
    rw [step, stepImage]
    exact .answered _ _ rfl rfl mirrored.phase alike.phase rfl
  | error raised =>
    cases verdictImage : afterImage.assertInvariants with
    | ok _ =>
      -- The check is symmetric, so it does not pass on one side only.
      have passes := alike.symm.checked standingImage ((assertInvariants_ok afterImage).mp verdictImage)
      rw [(assertInvariants_ok after).mpr passes] at verdict
      cases verdict
    | error raisedImage =>
      rw [takes.raises raised verdict, takesImage.raises raisedImage verdictImage]
      refine .raised _ _ ?_
      rw [assertInvariants_raises standing raised verdict,
        assertInvariants_raises standingImage raisedImage verdictImage]

theorem Mirrored.step (standing : Standing fallback machine) (event : Event) :
    AnswersMirrored (device.step machine event).1 (device.step image event).1 ∧
      Mirrored (device.step machine event).2 (device.step image event).2 := by
  have standingImage := mirrored.standing standing
  by_cases known : event.Known
  · by_cases admitted : ∃ fellBackTo after, Edge fallback machine event fellBackTo after
    · obtain ⟨fellBackTo, after, edge⟩ := admitted
      obtain ⟨afterImage, edgeImage, alike⟩ := mirrored.edge fallback edge
      have takes := edge_takes standing edge
      have takesImage := edge_takes standingImage edgeImage
      refine ⟨mirrored.answers alike (edge.standing standing) takes takesImage, ?_⟩
      rwa [takes.left, takesImage.left]
    · have none_here : ¬ ∃ fellBackTo after, Edge fallback.other image event fellBackTo after := by
        rintro ⟨fellBackTo, after, edge⟩
        obtain ⟨_, edgeImage, _⟩ := mirrored.symm.edge fallback.other edge
        rw [SlotLabel.other_other] at edgeImage
        exact admitted ⟨_, _, edgeImage⟩
      obtain ⟨reason, declined⟩ := declined_of_no_edge standing event known admitted
      obtain ⟨reasonImage, declinedImage⟩ :=
        declined_of_no_edge standingImage event known none_here
      simp only [device, object, declined, declinedImage, answer, left]
      exact ⟨.answered _ _ rfl rfl mirrored.phase mirrored.phase rfl, mirrored⟩
  · obtain ⟨message, raised⟩ := unknown_raises machine event known
    obtain ⟨messageImage, raisedImage⟩ := unknown_raises image event known
    simp only [device, object, raised, raisedImage, answer, left]
    exact ⟨.raised _ _ rfl, mirrored⟩

end Steps

def mirrorKey (text : String) : String :=
  if text = "A" then "B" else if text = "B" then "A" else text

def mirrorLabel : Json → Json
  | .str text => .str (mirrorKey text)
  | value => value

def changeMembers (keys : List String) (change : Json → Json) : Json → Json
  | .obj members => .obj (members.map fun member =>
      (member.1, if member.1 ∈ keys then change member.2 else member.2))
  | value => value

def changeItems (change : Json → Json) : Json → Json
  | .arr items => .arr (items.map change)
  | value => value

def mirrorTransaction (doc : Json) : Json :=
  changeMembers ["attempts"] (changeItems (changeMembers ["fellBackTo"] mirrorLabel))
    (changeMembers ["fromSlot", "toSlot", "settledOnSlot"] mirrorLabel doc)

theorem mirrorKey_name (label : SlotLabel) : mirrorKey label.name = label.other.name := by
  cases label <;> rfl

theorem mirrorKey_labelText (label : Option SlotLabel) :
    mirrorKey (labelText label) = labelText (label.map SlotLabel.other) := by
  cases label with
  | none => rfl
  | some label => exact mirrorKey_name label

theorem labelOrNull_mirror (label : Option SlotLabel) :
    labelOrNull (label.map SlotLabel.other) = mirrorLabel (labelOrNull label) := by
  cases label with
  | none => rfl
  | some label => exact congrArg Json.str (mirrorKey_name label).symm

theorem toDict_mirror (attempt : AttemptRecord) :
    attempt.mirror.toDict = changeMembers ["fellBackTo"] mirrorLabel attempt.toDict := by
  have detail : ∀ member ∈ optionalMember "detail" attempt.detail, member.1 = "detail" :=
    fun _ listed => optionalMember_key listed
  have kept : (optionalMember "detail" attempt.detail).map (fun member =>
      (member.1, if member.1 ∈ ["fellBackTo"] then mirrorLabel member.2 else member.2)) =
      optionalMember "detail" attempt.detail := by
    refine (List.map_congr_left fun member listed => ?_).trans (List.map_id _)
    have named := detail member listed
    simp [Prod.ext_iff, named]
  simp only [AttemptRecord.toDict, attemptMembers, AttemptRecord.mirror, changeMembers, labelOrNull_mirror,
    List.map_append, kept]
  simp

theorem Mirrored.document {machine image : Machine} (mirrored : Mirrored machine image) :
    image.toTransactionDocument = machine.toTransactionDocument.map mirrorTransaction := by
  by_cases idle : machine.phase = .idle
  · simp [Machine.toTransactionDocument, mirrored.phase, idle, raise, Except.map]
  rw [toTransactionDocument_opened machine idle,
    toTransactionDocument_opened image (mirrored.phase ▸ idle)]
  have attempts : image.attempts.map AttemptRecord.toDict =
      machine.attempts.map (changeMembers ["fellBackTo"] mirrorLabel ∘ AttemptRecord.toDict) := by
    rw [mirrored.attempts, List.map_map]
    exact List.map_congr_left fun attempt _ => toDict_mirror attempt
  have settledOn : labelText (if machine.phase = .promoted then image.toSlot else image.fromSlot) =
      mirrorKey (labelText
        (if machine.phase = .promoted then machine.toSlot else machine.fromSlot)) := by
    rw [mirrorKey_labelText, mirrored.fromSlot, mirrored.toSlot]
    split <;> rfl
  simp only [transactionMembers, mirrored.config, mirrored.phase, mirrored.preservedDigest,
    mirrored.candidateDigest, mirrored.rollbackReason, mirrored.openedAt, mirrored.settledAt,
    attempts, settledOn]
  simp only [mirrored.fromSlot, mirrored.toSlot, ← mirrorKey_labelText]
  by_cases settled : machine.phase ∈ terminalPhases <;>
    simp [Except.map, mirrorTransaction, changeMembers, changeItems, mirrorLabel, settled]

def mirrorItem (item : String × SlotState) : String × SlotState :=
  (mirrorKey item.1, item.2.mirror)

theorem slotTable_mirror {items image : List (String × SlotState)} {slots : SlotTable}
    (table : slotTable items = .ok slots) (swapped : image.Perm (items.map mirrorItem)) :
    ∃ slotsImage, slotTable image = .ok slotsImage ∧
      ∀ label, slotsImage.get label.other = (slots.get label).mirror := by
  obtain ⟨left, right, apart, rfl, rfl⟩ := slotTable_ok table
  simp only [List.map_cons, List.map_nil, mirrorItem, mirrorKey_name] at swapped
  have apartImage : right.mirror.slot = left.mirror.slot.other := by simp [SlotState.mirror, apart]
  rcases List.perm_pair.mp swapped with rfl | rfl
  · refine ⟨_, slotTable_pair left.mirror right.mirror apartImage, fun label => ?_⟩
    rcases SlotLabel.eq_or_other label left.slot with rfl | rfl <;>
      simp [SlotState.mirror]
  · refine ⟨_, slotTable_pair right.mirror left.mirror (by simp [apartImage]), fun label => ?_⟩
    rcases SlotLabel.eq_or_other label left.slot with rfl | rfl <;>
      simp [SlotState.mirror, apart]

theorem postInit_mirror {config : Configuration} {items image : List (String × SlotState)}
    {machine : Machine} (built : Machine.postInit config items = .ok machine)
    (swapped : image.Perm (items.map mirrorItem)) :
    ∃ mirrored, Machine.postInit config image = .ok mirrored ∧ Mirrored machine mirrored := by
  obtain ⟨fallback, initial⟩ := postInit_initial config items machine built
  obtain ⟨table, rfl⟩ := postInit_fields config items machine built
  obtain ⟨slotsImage, tableImage, slots⟩ := slotTable_mirror table swapped
  have roles := initial.roles
  refine ⟨_, postInit_builds machine.config image slotsImage tableImage fallback.other ?_ ?_ ?_
    initial.someAttempts initial.triesWidth, ?_⟩
  · rw [slots]
    exact roles.active
  · rw [slots]
    exact roles.candidate
  · rw [slots]
    exact initial.successful
  · rw [initial.fresh]
    constructor
    case slots => exact slots
    all_goals rfl

/--
Exchange the labels of the starting pair: every run answers as before and is at
every step the mirror image of the original, with the mirrored document.
-/
theorem slots_interchangeable (config : Configuration) (items : List (String × SlotState))
    (machine : Machine) (built : Machine.postInit config items = .ok machine)
    (image : List (String × SlotState)) (swapped : image.Perm (items.map mirrorItem)) :
    ∃ twin, Machine.postInit config image = .ok twin ∧ ∀ events,
      List.Forall₂ (fun entry mirrored => mirrored.1 = entry.1 ∧
        AnswersMirrored entry.2 mirrored.2) (device.trace machine events)
          (device.trace twin events) ∧
      Mirrored (device.run machine events) (device.run twin events) ∧
      (device.run twin events).toTransactionDocument =
        (device.run machine events).toTransactionDocument.map mirrorTransaction := by
  obtain ⟨twin, builtTwin, mirrored⟩ := postInit_mirror built swapped
  obtain ⟨fallback, initial⟩ := postInit_initial config items machine built
  refine ⟨twin, builtTwin, fun events => ?_⟩
  obtain ⟨answers, _, alike⟩ := device.run_related device
    (fun state image => Standing fallback state ∧ Mirrored state image) AnswersMirrored
    (fun state image event related => by
      obtain ⟨standing, mirrored⟩ := related
      obtain ⟨answers, alike⟩ := mirrored.step standing event
      exact ⟨answers, run_standing standing [event], alike⟩)
    machine twin ⟨initial.standing, mirrored⟩ events
  exact ⟨answers, alike, alike.document⟩

theorem slots_interchangeable_fixture :
    ∃ twin, Machine.postInit fixtureConfiguration [("B", provenSlot.mirror), ("A", emptySlot.mirror)] =
        .ok twin ∧ ∀ events,
      List.Forall₂ (fun entry mirrored => mirrored.1 = entry.1 ∧
        AnswersMirrored entry.2 mirrored.2) (device.trace fixtureMachine events)
          (device.trace twin events) ∧
      Mirrored (device.run fixtureMachine events) (device.run twin events) ∧
      (device.run twin events).toTransactionDocument =
        (device.run fixtureMachine events).toTransactionDocument.map mirrorTransaction :=
  slots_interchangeable fixtureConfiguration _ fixtureMachine fixtureMachine_built _ (.refl _)

end SourceosBoot.AbUpdate
