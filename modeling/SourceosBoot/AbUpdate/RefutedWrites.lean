import SourceosBoot.AbUpdate.ReplayFidelity
import SourceosBoot.AbUpdate.SlotRendering

set_option autoImplicit false

-- The digest is on record since the write began. A write that fails or lands another payload takes
-- the slot out of service and leaves the digest there.

namespace SourceosBoot.AbUpdate

open Python Transition

def AcceptedAt (machine : Machine) (event : Event) : Prop :=
  ∃ result, (device.step machine event).1 = .ok result ∧ result.allowed = true

theorem AcceptedAt.edge {fallback : SlotLabel} {machine : Machine} {event : Event}
    (standing : Standing fallback machine) (accepted : AcceptedAt machine event) :
    ∃ fellBackTo, Edge fallback machine event fellBackTo (device.step machine event).2 := by
  obtain ⟨result, answered, allowed⟩ := accepted
  cases step_answered standing event with
  | declined other refused step =>
    rw [step] at answered
    cases answered
    simp [refused] at allowed
  | unknown _ _ step => simp [step] at answered
  | taken _ fellBackTo after edge takes => exact ⟨fellBackTo, takes.left.symm ▸ edge⟩

theorem Sound.accepts {fallback : SlotLabel} {machine after : Machine} {event : Event}
    {fellBackTo : Option SlotLabel} (sound : Sound fallback machine)
    (edge : Edge fallback machine event fellBackTo after) :
    AcceptedAt machine event ∧ (device.step machine event).2 = after := by
  have passes := (assertInvariants_ok after).mpr ((edge.sound sound).checked edge.leaves_idle)
  obtain ⟨reason, step⟩ := (edge_takes sound.standing edge).passes passes
  rw [AcceptedAt, step]
  exact ⟨⟨_, rfl, rfl⟩, rfl⟩

def Event.Refutes (expected : String) : Event → Prop
  | .writeComplete observedDigest => observedDigest ≠ expected
  | .writeFailed _ => True
  | _ => False

def RefutedIn (machine : Machine) (events : List Event) (expected : String) : Prop :=
  ∃ front payloadRef version middle check back,
    events = front ++ .begin expected payloadRef version :: (middle ++ check :: back) ∧
    AcceptedAt (device.run machine front) (.begin expected payloadRef version) ∧
    AcceptedAt (device.run machine (front ++ .begin expected payloadRef version :: middle)) check ∧
    check.Refutes expected

def ClaimsNoRefuted (isalnum : Char → Bool) (machine : Machine) (events : List Event) : Prop :=
  ∀ expected, RefutedIn machine events expected →
    ∀ label, (device.run machine events).toSlot = some label →
      (slotDocument isalnum (device.run machine events).config.targetRef label
        ((device.run machine events).slots.get label)).get? "payloadDigest" ≠ some (.str expected)

def RefutesWrite (machine : Machine) (event : Event) : Prop :=
  machine.phase = .writing ∧ machine.candidateDigest ≠ "" ∧ event.Refutes machine.candidateDigest

theorem refuting_edge {fallback : SlotLabel} {machine : Machine} {event : Event}
    (writing : machine.phase = .writing) (refutes : event.Refutes machine.candidateDigest) :
    ∃ after, Edge fallback machine event (some fallback) after := by
  cases event with
  | writeComplete observedDigest => exact ⟨_, .mismatched observedDigest writing refutes⟩
  | writeFailed detail => exact ⟨_, .unwritten detail writing⟩
  | _ => cases refutes

theorem Edge.writing {fallback : SlotLabel} {machine after : Machine} {event : Event}
    {fellBackTo : Option SlotLabel} (edge : Edge fallback machine event fellBackTo after)
    {expected : String} (refutes : event.Refutes expected) : machine.phase = .writing := by
  cases edge with
  | verified _ phase | mismatched _ phase | unwritten _ phase => exact phase
  | retry _ _ _ failure | exhaust _ _ _ failure => cases failure <;> cases refutes
  | _ => cases refutes

theorem document_digest (isalnum : Char → Bool) (targetRef : String) (label : SlotLabel)
    (slot : SlotState) :
    (slotDocument isalnum targetRef label slot).get? "payloadDigest" =
      (shown slot.payloadDigest).map Json.str := by
  rw [slotDocument_members, Json.get?, slotMembers_optional _ _ _ _ _ rfl]
  simp

theorem Sound.document_digest {fallback : SlotLabel} {machine : Machine}
    (sound : Sound fallback machine) (opened : machine.phase ≠ .idle) (isalnum : Char → Bool)
    (label : SlotLabel) (target : machine.toSlot = some label) :
    (slotDocument isalnum machine.config.targetRef label (machine.slots.get label)).get?
        "payloadDigest" =
      if machine.candidateDigest = "" then none else some (.str machine.candidateDigest) := by
  rw [(sound.standing.opened opened).2] at target
  cases target
  rw [AbUpdate.document_digest, sound.stage.digest opened]
  by_cases blank : machine.candidateDigest = "" <;> simp [shown, blank, Option.filter]

theorem begun_digest {fallback : SlotLabel} {machine : Machine} (sound : Sound fallback machine)
    {payloadDigest : String} {payloadRef version : Option String}
    (accepted : AcceptedAt machine (.begin payloadDigest payloadRef version))
    (events : List Event) :
    (device.run machine (.begin payloadDigest payloadRef version :: events)).phase ≠ .idle ∧
    (device.run machine (.begin payloadDigest payloadRef version :: events)).candidateDigest =
      payloadDigest := by
  obtain ⟨fellBackTo, edge⟩ := accepted.edge sound.standing
  have opened := edge.leaves_idle
  have standing := edge.standing sound.standing
  rw [System.run_cons]
  refine ⟨run_stays_open standing opened events, ?_⟩
  rw [run_candidateDigest standing opened]
  generalize (device.step machine (.begin payloadDigest payloadRef version)).2 = after at edge
  cases edge with
  | begin => rfl
  | retry _ _ _ failure | exhaust _ _ _ failure => cases failure

theorem ClaimsNoRefuted.unrefuted {isalnum : Char → Bool} {fallback : SlotLabel}
    {machine : Machine} {events : List Event} (contracted : Contracted fallback machine)
    (claims : ClaimsNoRefuted isalnum machine events) (front : List Event) (check : Event)
    (back : List Event) (split : events = front ++ check :: back) :
    ¬ RefutesWrite (device.run machine front) check := by
  rintro ⟨writing, nonempty, refutes⟩
  have initial := contracted.initial
  have sound := contracted.sound
  have opened : (device.run machine front).phase ≠ .idle := by simp [writing]
  obtain ⟨before, payloadDigest, payloadRef, version, middle, rfl, idle, _⟩ :=
    run_opened_by_begin initial.standing initial.idle front opened
  have begun := ((run_sound sound before).accepts
    (.begin payloadDigest payloadRef version idle)).1
  have recorded : (device.run machine (before ++ .begin payloadDigest payloadRef version ::
      middle)).candidateDigest = payloadDigest := by
    rw [device.run_append]
    exact (begun_digest (run_sound sound before) begun middle).2
  rw [recorded] at nonempty refutes
  obtain ⟨after, edge⟩ := refuting_edge writing (recorded.symm ▸ refutes)
  have accepted := ((run_sound sound _).accepts edge).1
  -- The whole run goes on from the accepted `begin`, so its digest is still the candidate's.
  have final := run_sound sound events
  have late : (device.run machine events).phase ≠ .idle ∧
      (device.run machine events).candidateDigest = payloadDigest := by
    rw [split, List.append_assoc, List.cons_append, device.run_append]
    exact begun_digest (run_sound sound before) begun _
  have toSlot := (final.standing.opened late.1).2
  refine claims payloadDigest ⟨before, payloadRef, version, middle, check, back, by simp [split],
    begun, accepted, refutes⟩ _ toSlot ?_
  rw [final.document_digest late.1 isalnum _ toSlot, late.2, if_neg nonempty]

theorem claims_no_refuted_iff (isalnum : Char → Bool) (left right : Json)
    (arguments : MachineArguments) (machine : Machine)
    (built : BuiltFrom left right arguments machine) (events : List Event) :
    ClaimsNoRefuted isalnum machine events ↔
      ∀ front check back, events = front ++ check :: back →
        ¬ RefutesWrite (device.run machine front) check := by
  obtain ⟨fallback, contracted⟩ := built.contracted
  have sound := contracted.sound
  refine ⟨fun claims => claims.unrefuted contracted, fun unrefuted => ?_⟩
  rintro expected ⟨front, payloadRef, version, middle, check, back, split, begun, accepted,
    refutes⟩ label toSlot
  have open_before := begun_digest (run_sound sound front) begun middle
  have open_after := begun_digest (run_sound sound front) begun (middle ++ check :: back)
  rw [← device.run_append] at open_before open_after
  rw [← split] at open_after
  obtain ⟨_, edge⟩ := accepted.edge (run_standing sound.standing _)
  have writing := edge.writing refutes
  rw [(run_sound sound events).document_digest open_after.1 isalnum label toSlot, open_after.2]
  by_cases blank : expected = ""
  · simp [blank]
  · have calm := unrefuted (front ++ .begin expected payloadRef version :: middle) check back
      (by simp [split])
    exact absurd ⟨writing, open_before.2.symm ▸ blank, open_before.2.symm ▸ refutes⟩ calm

def refutedEvents : List Event := [.begin badDigest none none, .writeFailed "I/O error"]

theorem claims_no_refuted_iff_example :
    ClaimsNoRefuted Char.isAlphanum exampleMachine refutedEvents ↔
      ∀ front check back, refutedEvents = front ++ check :: back →
        ¬ RefutesWrite (device.run exampleMachine front) check :=
  claims_no_refuted_iff Char.isAlphanum exampleActive exampleCandidate exampleArguments
    exampleMachine exampleMachine_built refutedEvents

theorem refuted_write_claimed :
    BuiltFrom exampleActive exampleCandidate exampleArguments exampleMachine ∧
      ¬ ClaimsNoRefuted Char.isAlphanum exampleMachine refutedEvents := by
  refine ⟨exampleMachine_built, fun claims => ?_⟩
  obtain ⟨fallback, contracted⟩ := exampleMachine_built.contracted
  refine claims.unrefuted contracted [.begin badDigest none none] (.writeFailed "I/O error") [] rfl
    ⟨by decide +kernel, by decide +kernel, trivial⟩

end SourceosBoot.AbUpdate
