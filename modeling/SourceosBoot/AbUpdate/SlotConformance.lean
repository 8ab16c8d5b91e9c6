import SourceosBoot.AbUpdate.TransactionDocuments
import SourceosBoot.AbUpdate.SlotRendering

set_option autoImplicit false

-- The clauses of the schema couple fields that different events write. What the phases know of the
-- two slots gives the clauses back in every state of a run.

namespace SourceosBoot.AbUpdate

open Python Transition Schema UpdateSlotSchema

def Event.WellFormed : Event → Prop
  | .begin payloadDigest _ _ => digestPattern.search payloadDigest = true
  | _ => True

structure Ranged (slot : SlotState) : Prop where
  priority : 0 ≤ slot.bootPriority ∧ slot.bootPriority ≤ 15
  tries : 0 ≤ slot.triesRemaining ∧ slot.triesRemaining ≤ 7

section Edges

variable {fallback : SlotLabel} {machine after : Machine} {event : Event}
  {fellBackTo : Option SlotLabel} (edge : Edge fallback machine event fellBackTo after)
include edge

theorem Edge.ranged (someAttempts : 1 ≤ machine.config.maxAttempts)
    (triesWidth : machine.config.maxAttempts ≤ 7)
    (ranged : ∀ label, Ranged (machine.slots.get label)) (label : SlotLabel) :
    Ranged (after.slots.get label) := by
  have ⟨⟨fallbackLow, fallbackHigh⟩, triesLow, triesHigh⟩ := ranged fallback
  have ⟨⟨low, high⟩, few, many⟩ := ranged fallback.other
  rcases SlotLabel.eq_or_other label fallback with rfl | rfl
  · cases edge <;> constructor <;>
      simp_all [armedActivePriority, armedCandidatePriority]
  · cases edge <;> constructor <;> simp_all [armedCandidatePriority] <;> omega

theorem Edge.selectable (selectable : 1 ≤ (machine.slots.get fallback).bootPriority) :
    1 ≤ (after.slots.get fallback).bootPriority := by
  cases edge <;> simp_all [armedActivePriority, armedCandidatePriority]

theorem Edge.texts (wellFormed : event.WellFormed)
    (texts : ∀ label, SlotTexts (machine.slots.get label)) (label : SlotLabel) :
    SlotTexts (after.slots.get label) := by
  have ⟨digest, verdict⟩ := texts fallback.other
  rcases SlotLabel.eq_or_other label fallback with rfl | rfl
  · have ⟨kept, read⟩ := texts label
    rw [← edge.kept.payloadDigest] at kept
    rw [← edge.kept.lastProbeVerdict] at read
    exact ⟨kept, read⟩
  · cases edge <;> constructor <;> simp_all [Event.WellFormed]

end Edges

structure Conforming (fallback : SlotLabel) (machine : Machine) : Prop where
  sound : Sound fallback machine
  triesWidth : machine.config.maxAttempts ≤ 7
  selectable : 1 ≤ (machine.slots.get fallback).bootPriority
  ranged : ∀ label, Ranged (machine.slots.get label)
  texts : ∀ label, SlotTexts (machine.slots.get label)

theorem Edge.conforming {fallback : SlotLabel} {machine after : Machine} {event : Event}
    {fellBackTo : Option SlotLabel} (edge : Edge fallback machine event fellBackTo after)
    (wellFormed : event.WellFormed) (conforming : Conforming fallback machine) :
    Conforming fallback after where
  sound := edge.sound conforming.sound
  triesWidth := edge.config ▸ conforming.triesWidth
  selectable := edge.selectable conforming.selectable
  ranged := edge.ranged conforming.sound.stage.budget conforming.triesWidth conforming.ranged
  texts := edge.texts wellFormed conforming.texts

theorem run_conforming {fallback : SlotLabel} {machine : Machine}
    (conforming : Conforming fallback machine) (events : List Event)
    (wellFormed : ∀ event ∈ events, event.WellFormed) :
    Conforming fallback (device.run machine events) :=
  (run_edges_among Event.WellFormed (Conforming fallback)
    (fun formed _ conforming edge => edge.conforming formed conforming) conforming.sound.standing
    conforming events wellFormed).2

section Conforming

variable {fallback : SlotLabel} {machine : Machine} (conforming : Conforming fallback machine)
include conforming

theorem Conforming.digest_shown (label : SlotLabel) :
    (machine.slots.get label).payloadDigest ≠ some "" := by
  intro blank
  exact absurd ((conforming.texts label).digest "" blank) (by decide)

theorem Conforming.fallback_contract : ContractSlot (machine.slots.get fallback) where
  writing := fun writing => absurd writing conforming.sound.fit.notWriting
  active := fun _ => ⟨conforming.sound.successful, conforming.selectable⟩
  unbootable := fun unbootable => absurd unbootable conforming.sound.fit.notUnbootable
  good := fun _ => conforming.sound.successful
  successful := fun _ => conforming.sound.fit.digest
  digest := conforming.digest_shown fallback
  priority := (conforming.ranged fallback).priority
  tries := (conforming.ranged fallback).tries

theorem Conforming.target_contract (opened : machine.phase ≠ .idle) :
    ContractSlot (machine.slots.get fallback.other) where
  writing := by
    intro writing
    have state := conforming.sound.stage.state opened
    refine (conforming.sound.standing.roles fun promoted => ?_).candidate
    simp [writing, promoted, Phase.targetState] at state
  active := by
    intro active
    have promoted : machine.phase = .promoted := by
      by_contra pending
      simp [(conforming.sound.standing.roles pending).candidate] at active
    have priority := (conforming.sound.stage.trial (.inr (.inr promoted))).1
    refine ⟨(conforming.sound.stage.successful opened).mpr promoted, ?_⟩
    simp [priority, armedCandidatePriority]
  unbootable := by
    intro unbootable
    have state := conforming.sound.stage.state opened
    have failed : machine.phase = .rolledBack ∨ machine.phase = .refused := by
      cases phase : machine.phase <;> simp_all [Phase.targetState]
    have unpromoted : machine.phase ≠ .promoted := by
      rcases failed with phase | phase <;> simp [phase]
    have marked := mt (conforming.sound.stage.successful opened).mp unpromoted
    exact ⟨(conforming.sound.stage.retired failed).1, by simpa using marked⟩
  good := by
    intro good
    have state := conforming.sound.stage.state opened
    apply (conforming.sound.stage.successful opened).mpr
    cases phase : machine.phase <;> simp_all [Phase.targetState]
  successful := by simp [conforming.sound.stage.digest opened]
  digest := conforming.digest_shown fallback.other
  priority := (conforming.ranged fallback.other).priority
  tries := (conforming.ranged fallback.other).tries

end Conforming

theorem Contracted.conforming {fallback : SlotLabel} {machine : Machine}
    (contracted : Contracted fallback machine)
    (texts : ∀ label, SlotTexts (machine.slots.get label)) : Conforming fallback machine where
  sound := contracted.sound
  triesWidth := contracted.initial.triesWidth
  selectable := ((contracted.slots fallback).active contracted.initial.roles.active).2
  ranged := fun label => ⟨(contracted.slots label).priority, (contracted.slots label).tries⟩
  texts := texts

theorem Contracted.run_contract {fallback : SlotLabel} {machine : Machine}
    (contracted : Contracted fallback machine)
    (texts : ∀ label, SlotTexts (machine.slots.get label)) (events : List Event)
    (wellFormed : ∀ event ∈ events, event.WellFormed) (label : SlotLabel) :
    ContractSlot ((device.run machine events).slots.get label) := by
  have conforming := run_conforming (contracted.conforming texts) events wellFormed
  by_cases idle : (device.run machine events).phase = .idle
  · rw [run_idle contracted.sound.standing events idle]
    exact contracted.slots label
  · rcases SlotLabel.eq_or_other label fallback with rfl | rfl
    · exact conforming.fallback_contract
    · exact conforming.target_contract idle

theorem toSlotDocuments_count (isalnum : Char → Bool) (machine : Machine) (wanted : Json → Bool)
    (holds : SlotState → Bool)
    (reads : ∀ label, wanted (machine.documentOf isalnum label) = holds (machine.slots.get label))
    (one : ∃! label, holds (machine.slots.get label) = true) :
    (machine.toSlotDocuments isalnum).countP wanted = 1 := by
  have ⟨label, held, only⟩ := one
  have other : holds (machine.slots.get label.other) = false := by
    rw [Bool.eq_false_iff]
    intro both
    exact SlotLabel.other_ne label (only label.other both)
  rw [List.countP_eq_length_filter, toSlotDocuments_filter isalnum label machine wanted
    ((reads label).trans held) ((reads label.other).trans other)]
  rfl

theorem slot_documents_conform (left right : Json) (arguments : MachineArguments)
    (machine : Machine) (built : BuiltFrom left right arguments machine)
    (isalnum : Char → Bool) (events : List Event)
    (wellFormed : ∀ event ∈ events, event.WellFormed) :
    (∀ doc ∈ (device.run machine events).toSlotDocuments isalnum,
      withoutIdPattern.valid doc = true) ∧
    ((device.run machine events).toSlotDocuments isalnum).countP
      (hasMember · "role" (.str "active")) = 1 ∧
    ((device.run machine events).toSlotDocuments isalnum).countP
      (hasMember · "currentlyRunning" (.bool true)) = 1 := by
  have ⟨_, contracted⟩ := built.contracted
  have conforming := run_conforming (contracted.conforming built.texts) events wellFormed
  have contract := contracted.run_contract built.texts events wellFormed
  have consistent := contracted.consistent events
  have target := built.target
  rw [← run_config contracted.sound.standing events] at target
  generalize device.run machine events = later at conforming contract consistent target ⊢
  refine ⟨?_, ?_, ?_⟩
  · intro doc listed
    simp only [Machine.toSlotDocuments, List.mem_map] at listed
    obtain ⟨label, _, rfl⟩ := listed
    exact slotDocument_valid isalnum _ label _ (contract label) (conforming.texts label) target
  · apply toSlotDocuments_count isalnum later _ fun slot => slot.role = .active
    · exact fun label => slotDocument_active isalnum _ label _
    · simpa using consistent.active
  · apply toSlotDocuments_count isalnum later _ fun slot => slot.currentlyRunning
    · exact fun label => slotDocument_running isalnum _ label _
    · exact consistent.running

theorem slot_documents_conform_example :
    (∀ doc ∈ (device.run exampleMachine [.begin badDigest none none, .arm]).toSlotDocuments
      Char.isAlphanum, withoutIdPattern.valid doc = true) ∧
    ((device.run exampleMachine [.begin badDigest none none, .arm]).toSlotDocuments
      Char.isAlphanum).countP (hasMember · "role" (.str "active")) = 1 ∧
    ((device.run exampleMachine [.begin badDigest none none, .arm]).toSlotDocuments
      Char.isAlphanum).countP (hasMember · "currentlyRunning" (.bool true)) = 1 :=
  slot_documents_conform exampleActive exampleCandidate exampleArguments exampleMachine
    exampleMachine_built Char.isAlphanum [.begin badDigest none none, .arm]
    (by simp [Event.WellFormed]; decide +kernel)

end SourceosBoot.AbUpdate
