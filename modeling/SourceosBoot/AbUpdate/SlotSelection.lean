import SourceosBoot.Shared.Selection
import SourceosBoot.AbUpdate.ContractPairs

set_option autoImplicit false

-- The rule of the contract: among the slots of non-zero priority that are successful or have tries
-- remaining, the one of the highest priority.

namespace SourceosBoot.AbUpdate

open Python Transition

def selectable (slot : SlotState) : Bool :=
  0 < slot.bootPriority ∧ (slot.successful = true ∨ 0 < slot.triesRemaining)

def selected (slots : SlotTable) : List SlotLabel :=
  -- The slots the rule admits; two of them are a tie.
  Selection.winners (fun label => selectable (slots.get label))
    (fun label => (slots.get label).bootPriority) slotLabels

theorem selected_only (slots : SlotTable) (label : SlotLabel) :
    selected slots = [label] ↔ selectable (slots.get label) = true ∧
      (selectable (slots.get label.other) = true →
        (slots.get label.other).bootPriority < (slots.get label).bootPriority) := by
  rw [selected, Selection.winners_eq_singleton _ _ _ (by decide) _ (by cases label <;> decide)]
  refine and_congr_right fun _ => ⟨fun each => each label.other ?_ (by simp), fun one other _ => ?_⟩
  · cases label <;> decide
  · intro different
    obtain rfl := (SlotLabel.eq_or_other other label).resolve_left different
    exact one

structure Unranked (fallback : SlotLabel) (start later : Machine) : Prop where
  priority : ∀ label, (later.slots.get label).bootPriority = (start.slots.get label).bootPriority
  tries : (later.slots.get fallback.other).triesRemaining =
    (start.slots.get fallback.other).triesRemaining

theorem Edge.unranked {fallback : SlotLabel} {machine after : Machine} {event : Event}
    {fellBackTo : Option SlotLabel} (edge : Edge fallback machine event fellBackTo after)
    (unarmed : after.phase = .writing ∨ after.phase = .candidateReady) :
    (machine.phase = .idle ∨ machine.phase = .writing) ∧ Unranked fallback machine after := by
  cases edge with
  | begin _ _ _ phase =>
    refine ⟨.inl phase, fun label => ?_, by simp⟩
    by_cases target : label = fallback.other <;> simp [target]
  | verified _ phase =>
    refine ⟨.inr phase, fun label => ?_, by simp⟩
    by_cases target : label = fallback.other <;> simp [target]
  | _ => simp at unarmed

theorem run_unranked {fallback : SlotLabel} {machine : Machine}
    (standing : Standing fallback machine) (events : List Event)
    (unarmed : (device.run machine events).phase ∈ [.idle, .writing, .candidateReady]) :
    Unranked fallback machine (device.run machine events) := by
  refine (run_edges (fun later => later.phase ∈ [.idle, .writing, .candidateReady] →
    Unranked fallback machine later) ?_ standing (fun _ => ⟨fun _ => rfl, rfl⟩) events).2 unarmed
  intro before after event fellBackTo _ unranked edge unarmed
  obtain ⟨early, same⟩ := edge.unranked (by
    have leaves := edge.leaves_idle
    simpa [leaves] using unarmed)
  have sofar := unranked (by rcases early with phase | phase <;> simp [phase])
  exact ⟨fun label => (same.priority label).trans (sofar.priority label),
    same.tries.trans sofar.tries⟩

def WriteUnpicked (machine : Machine) : Prop :=
  ∀ events, (device.run machine events).phase = .writing ∨
      (device.run machine events).phase = .candidateReady →
    ∃ fromSlot, (device.run machine events).fromSlot = some fromSlot ∧
      selected (device.run machine events).slots = [fromSlot]

def TargetHarmless (machine : Machine) : Prop :=
  ∀ active, (machine.slots.get active).role = .active →
    (machine.slots.get active.other).triesRemaining = 0 ∨
      (machine.slots.get active.other).bootPriority < (machine.slots.get active).bootPriority

theorem write_unpicked_iff_target_harmless (left right : Json) (arguments : MachineArguments)
    (machine : Machine) (built : BuiltFrom left right arguments machine) :
    WriteUnpicked machine ↔ TargetHarmless machine := by
  -- `begin` takes the successful mark from the write target, but neither its tries nor its rank.
  obtain ⟨fallback, contracted⟩ := built.contracted
  obtain ⟨initial, fit, slots⟩ := contracted
  have standing := initial.standing
  obtain ⟨_, bootable⟩ := (slots fallback).active initial.roles.active
  have tries := (slots fallback.other).tries.1
  constructor
  · intro unpicked active role
    obtain rfl : active = fallback := by
      rcases SlotLabel.eq_or_other active fallback with rfl | rfl
      · rfl
      · simp [initial.roles.candidate] at role
    -- `begin` alone is enough: it leaves rank and tries of the target as they were.
    have begun : device.run machine [.begin "" none none] = machine.opened active "" none none :=
      (edge_takes standing (.begin "" none none initial.idle)).left
    obtain ⟨fromSlot, named, picked⟩ := unpicked [.begin "" none none] (.inl (by rw [begun]; rfl))
    rw [begun] at named picked
    obtain rfl : active = fromSlot := by simpa using named
    have outranked := ((selected_only _ _).mp picked).2
    by_contra harmful
    simp [selectable] at outranked
    omega
  · intro harmless events unarmed
    have sound := run_sound (initial.sound fit) events
    have opened : (device.run machine events).phase ≠ .idle := by
      rcases unarmed with phase | phase <;> simp [phase]
    have unranked := run_unranked standing events (by
      rcases unarmed with phase | phase <;> simp [phase])
    have uncertified : ((device.run machine events).slots.get fallback.other).successful = false := by
      have certified := sound.stage.successful opened
      rcases unarmed with phase | phase <;> simpa [phase] using certified
    refine ⟨fallback, (sound.standing.opened opened).1, (selected_only _ _).mpr ⟨?_, ?_⟩⟩
    · simp [selectable, unranked.priority, sound.successful]
      omega
    · rcases harmless fallback initial.roles.active with spent | below
      · simp [selectable, uncertified, unranked.tries, spent]
      · simp [unranked.priority, below]

theorem write_unpicked_iff_target_harmless_example :
    WriteUnpicked exampleMachine ↔ TargetHarmless exampleMachine :=
  write_unpicked_iff_target_harmless exampleActive exampleCandidate exampleArguments exampleMachine
    exampleMachine_built

def interruptedMachine : Machine :=
  -- The transaction is interrupted after `arm`, and a new one starts from its slot documents.
  device.run exampleMachine [.begin badDigest none none, .writeComplete badDigest, .arm]

def resumedMachine : Machine where
  config := exampleMachine.config
  slots := .ofPair (interruptedMachine.slots.get .A) (interruptedMachine.slots.get .B) rfl

theorem write_picked_after_interruption :
    ∃ left right, interruptedMachine.toSlotDocuments Char.isAlphanum = [left, right] ∧
      BuiltFrom left right exampleArguments resumedMachine ∧ ¬ WriteUnpicked resumedMachine := by
  refine ⟨_, _, rfl, ⟨⟨?_, ?_, ?_, ?_, ?_⟩, rfl⟩, ?_⟩
  · decide +kernel
  · decide +kernel
  · simp [slotDocument, slotMembers, fixedMembers, Json.get?, Json.lookup]
  · decide +kernel
  · decide +kernel
  · intro unpicked
    obtain ⟨fromSlot, named, picked⟩ :=
      unpicked [.begin badDigest none none] (.inl (by decide +kernel))
    have other : selected (device.run resumedMachine [.begin badDigest none none]).slots = [.B] := by
      decide +kernel
    obtain ⟨rfl, _⟩ := List.cons.inj (picked.symm.trans other)
    exact absurd named (by decide +kernel)

structure Determined (fromSlot toSlot : SlotLabel) (machine : Machine) : Prop where
  armed : machine.phase = .armed → selected machine.slots = [toSlot]
  trying : machine.phase = .trying → selected machine.slots =
    [if 0 < (machine.slots.get toSlot).triesRemaining then toSlot else fromSlot]
  returned : machine.phase = .rolledBack ∨ machine.phase = .refused →
    selected machine.slots = [fromSlot] ∧ selectable (machine.slots.get toSlot) = false
  promoted : machine.phase = .promoted →
    selected machine.slots = [toSlot] ∧ selectable (machine.slots.get fromSlot) = true
  apart : (machine.slots.get fromSlot).bootPriority ≠ (machine.slots.get toSlot).bootPriority

theorem Sound.determined {fallback : SlotLabel} {machine : Machine}
    (sound : Sound fallback machine)
    (phase : machine.phase ∉ [.idle, .writing, .candidateReady]) :
    Determined fallback fallback.other machine := by
  obtain ⟨_, stage, _, successful, _⟩ := sound
  have opened : machine.phase ≠ .idle := by
    intro idle
    simp [idle] at phase
  have certified := stage.successful opened
  constructor
  case armed =>
    intro armed
    obtain ⟨ceiling, below⟩ := stage.trial (.inl armed)
    have remaining := stage.armed armed
    rw [selected_only]
    simp_all [selectable, armedCandidatePriority, armedActivePriority]
  case trying =>
    intro trying
    obtain ⟨ceiling, below⟩ := stage.trial (.inr (.inl trying))
    split
    · rw [selected_only]
      simp_all [selectable, armedCandidatePriority, armedActivePriority]
    · rw [selected_only]
      simp_all [selectable, armedCandidatePriority, armedActivePriority]
  case returned =>
    intro settled
    obtain ⟨zero, none_left, ceiling⟩ := stage.retired settled
    rw [selected_only]
    simp_all [selectable, armedCandidatePriority]
  case promoted =>
    intro promoted
    obtain ⟨ceiling, below⟩ := stage.trial (.inr (.inr promoted))
    rw [selected_only]
    simp_all [selectable, armedCandidatePriority, armedActivePriority]
  case apart =>
    have priorities := stage.trial
    have retired := stage.retired
    cases known : machine.phase <;> simp_all [armedCandidatePriority, armedActivePriority]

theorem selection_determined_from_arming (left right : Json) (arguments : MachineArguments)
    (machine : Machine) (built : BuiltFrom left right arguments machine) (events : List Event)
    (phase : (device.run machine events).phase ∉ [.idle, .writing, .candidateReady]) :
    ∃ fromSlot toSlot, (device.run machine events).fromSlot = some fromSlot ∧
      (device.run machine events).toSlot = some toSlot ∧
      Determined fromSlot toSlot (device.run machine events) := by
  obtain ⟨fallback, contracted⟩ := built.contracted
  have sound := run_sound contracted.sound events
  obtain ⟨fromSlot, toSlot⟩ := sound.standing.opened fun idle => phase (by simp [idle])
  exact ⟨fallback, fallback.other, fromSlot, toSlot, sound.determined phase⟩

theorem selection_determined_from_arming_example :
    ∃ fromSlot toSlot,
      (device.run exampleMachine [.begin badDigest none none, .writeComplete badDigest, .arm]).fromSlot
        = some fromSlot ∧
      (device.run exampleMachine [.begin badDigest none none, .writeComplete badDigest, .arm]).toSlot
        = some toSlot ∧
      Determined fromSlot toSlot
        (device.run exampleMachine [.begin badDigest none none, .writeComplete badDigest, .arm]) :=
  selection_determined_from_arming exampleActive exampleCandidate exampleArguments exampleMachine
    exampleMachine_built _ (by decide)

end SourceosBoot.AbUpdate
