import SourceosBoot.AbUpdate.MachineHistory
import SourceosBoot.AbUpdate.TransactionDocuments

set_option autoImplicit false

namespace SourceosBoot.AbUpdate

open Python Transition

structure Grows (before after : Machine) : Prop where
  config : after.config = before.config
  fromSlot : after.fromSlot = before.fromSlot
  toSlot : after.toSlot = before.toSlot
  preservedDigest : after.preservedDigest = before.preservedDigest
  candidateDigest : after.candidateDigest = before.candidateDigest
  openedAt : after.openedAt = before.openedAt
  attempts : before.attempts <+: after.attempts
  settled : before.phase ∈ terminalPhases → after = before

theorem Grows.refl (machine : Machine) : Grows machine machine where
  config := rfl
  fromSlot := rfl
  toSlot := rfl
  preservedDigest := rfl
  candidateDigest := rfl
  openedAt := rfl
  attempts := List.prefix_refl _
  settled := fun _ => rfl

theorem Grows.trans {first second third : Machine} (front : Grows first second)
    (back : Grows second third) : Grows first third where
  config := back.config.trans front.config
  fromSlot := back.fromSlot.trans front.fromSlot
  toSlot := back.toSlot.trans front.toSlot
  preservedDigest := back.preservedDigest.trans front.preservedDigest
  candidateDigest := back.candidateDigest.trans front.candidateDigest
  openedAt := back.openedAt.trans front.openedAt
  attempts := front.attempts.trans back.attempts
  settled := fun terminal => by
    have kept := front.settled terminal
    rw [back.settled (kept ▸ terminal), kept]

theorem Edge.grows {fallback : SlotLabel} {machine after : Machine} {event : Event}
    {fellBackTo : Option SlotLabel} (edge : Edge fallback machine event fellBackTo after)
    (opened : machine.phase ≠ .idle) : Grows machine after := by
  have settled := edge.from_pending
  cases edge with
  | begin _ _ _ phase => exact absurd phase opened
  | _ => constructor <;> simp [settled]

theorem run_grows {fallback : SlotLabel} {machine : Machine}
    (standing : Standing fallback machine) (opened : machine.phase ≠ .idle)
    (events : List Event) : Grows machine (device.run machine events) :=
  (run_edges (fun later => later.phase ≠ .idle ∧ Grows machine later)
    (fun _ kept edge => ⟨edge.leaves_idle, kept.2.trans (edge.grows kept.1)⟩) standing
    ⟨opened, Grows.refl machine⟩ events).2.2

-- What a document may still say otherwise later on.
def openMembers : List String :=
  ["outcome", "rollbackReason", "settledAt", "settledOnSlot", "attempts"]

structure Extends (earlier later : Json) : Prop where
  members : ∀ key, key ∉ openMembers → later.get? key = earlier.get? key
  attempts : ∃ made more, earlier.get? "attempts" = some (.arr made) ∧
    later.get? "attempts" = some (.arr (made ++ more))
  settled : earlier.get? "outcome" ≠ some (.str "pending") → later = earlier

theorem lookup_same {key : String} {before after : List (String × Json)}
    (same : List.Forall₂ (fun left right => right.1 = left.1 ∧ (left.1 = key → right.2 = left.2))
      before after) : Json.lookup key after = Json.lookup key before := by
  induction same with
  | nil => rfl
  | @cons left right before after agrees _ ih =>
    obtain ⟨name, value⟩ := agrees
    by_cases asked : left.1 = key
    · simp [Json.lookup, name, asked, value asked]
    · simp [Json.lookup, name, asked, ih]

theorem transaction_shown {machine : Machine} {doc : Json}
    (shown : machine.toTransactionDocument = .ok doc) : machine.phase ≠ .idle := by
  intro idle
  simp [Machine.toTransactionDocument, idle, raise] at shown

theorem Grows.extends {before after : Machine} (grows : Grows before after) {earlier : Json}
    (shown : before.toTransactionDocument = .ok earlier) (opened : after.phase ≠ .idle) :
    ∃ later, after.toTransactionDocument = .ok later ∧ Extends earlier later := by
  have started := transaction_shown shown
  obtain ⟨more, attempts⟩ := grows.attempts
  rw [toTransactionDocument_opened before started] at shown
  refine ⟨_, toTransactionDocument_opened after opened, ?_⟩
  constructor
  case members =>
    intro key fixed
    cases shown
    simp only [openMembers, List.mem_cons, List.not_mem_nil, or_false, not_or] at fixed
    obtain ⟨outcome, reason, settledAt, settledOn, attempts⟩ := fixed
    refine lookup_same ?_
    simp only [transactionMembers, List.forall₂_cons, List.forall₂_nil_left_iff, grows.config, grows.fromSlot,
      grows.toSlot, grows.preservedDigest, grows.candidateDigest, grows.openedAt, Ne.symm outcome,
      Ne.symm reason, Ne.symm settledAt, Ne.symm settledOn, Ne.symm attempts, false_implies,
      implies_true, and_self]
  case attempts =>
    cases shown
    refine ⟨before.attempts.map AttemptRecord.toDict, more.map AttemptRecord.toDict, rfl, ?_⟩
    rw [← List.map_append, attempts]
    rfl
  case settled =>
    intro outcome
    have terminal : before.phase ∈ terminalPhases := by
      by_contra pending
      apply outcome
      cases shown
      cases phase : before.phase <;>
        simp [phase, terminalPhases] at started pending <;>
        simp [transactionMembers, Json.get?, Json.lookup, phaseToOutcome, phase]
    rw [grows.settled terminal]
    exact Except.ok.inj shown

/--
For every machine the constructor accepts, however its events are answered: the
document of a later moment extends the one of an earlier moment.
-/
theorem transaction_only_grows (config : Configuration) (items : List (String × SlotState))
    (machine : Machine) (built : Machine.postInit config items = .ok machine)
    (events more : List Event) (earlier : Json)
    (shown : (device.run machine events).toTransactionDocument = .ok earlier) :
    ∃ later, (device.run machine (events ++ more)).toTransactionDocument = .ok later ∧
      Extends earlier later := by
  obtain ⟨fallback, initial⟩ := postInit_initial config items machine built
  have standing := run_standing initial.standing events
  have opened := transaction_shown shown
  rw [device.run_append]
  exact (run_grows standing opened more).extends shown (run_stays_open standing opened more)

def retriedEvents : List Event :=
  [.begin badDigest none none, .writeComplete badDigest, .arm, .bootAttempt, .probeFail "down"]

theorem transaction_only_grows_fixture :
    ∃ earlier later,
      (device.run fixtureMachine retriedEvents).toTransactionDocument = .ok earlier ∧
      (device.run fixtureMachine (retriedEvents ++ [.bootAttempt, .probePass none])).toTransactionDocument =
        .ok later ∧
      Extends earlier later := by
  have opened : (device.run fixtureMachine retriedEvents).phase ≠ .idle := by decide +kernel
  have shown : (device.run fixtureMachine retriedEvents).toTransactionDocument = .ok _ := if_neg opened
  have ⟨later, rendered, extended⟩ := transaction_only_grows fixtureConfiguration _ fixtureMachine
    fixtureMachine_built retriedEvents [.bootAttempt, .probePass none] _ shown
  exact ⟨_, later, shown, rendered, extended⟩

end SourceosBoot.AbUpdate
