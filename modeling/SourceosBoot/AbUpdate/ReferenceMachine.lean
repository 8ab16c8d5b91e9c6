import SourceosBoot.AbUpdate.MachineHistory

set_option autoImplicit false

-- Beside slots, documents and times this is all a machine does: every run of it is a run of the
-- reference below.

namespace SourceosBoot.AbUpdate

open Python Transition

inductive Transaction
  | unopened
  | writing (digest : String)
  | ready
  | armed (attempts : Nat)
  | trying (attempts : Nat)
  | promoted
  | rolledBack
  | refused
  deriving DecidableEq, Repr

namespace Transaction

def phase : Transaction → Phase
  | unopened => .idle
  | writing _ => .writing
  | ready => .candidateReady
  | armed _ => .armed
  | trying _ => .trying
  | promoted => .promoted
  | rolledBack => .rolledBack
  | refused => .refused

def failed : Nat → Transaction
  | 0 => refused
  | left + 1 => armed (left + 1)

def begun : Transaction → Bool
  | writing _ | ready | armed _ | trying _ => true
  | _ => false

def next (budget : Nat) : Transaction → Event → Option Transaction
  | unopened, .begin digest _ _ => some (writing digest)
  | writing digest, .writeComplete observed => some (if observed = digest then ready else rolledBack)
  | writing _, .writeFailed _ => some rolledBack
  | ready, .arm => some (armed budget)
  | armed (left + 1), .bootAttempt => some (trying left)
  | trying _, .probePass _ => some promoted
  | trying left, .probeFail _ => some (failed left)
  | trying left, .watchdogExpired _ expiryAction =>
    if expiryAction = "reboot" then some (failed left)
    else if expiryAction = "reboot-to-fallback" then some refused
    else none
  | transaction, .operatorAbort _ => if transaction.begun then some rolledBack else none
  | _, _ => none

end Transaction

def Event.takenIn : Event → Option Phase
  | .begin _ _ _ => some .idle
  | .writeComplete _ | .writeFailed _ => some .writing
  | .arm => some .candidateReady
  | .bootAttempt => some .armed
  | .probePass _ | .probeFail _ | .watchdogExpired _ _ => some .trying
  | .operatorAbort _ => none

theorem Transaction.phase_of_next {budget : Nat} {transaction moved : Transaction} {event : Event}
    (moves : transaction.next budget event = some moved) :
    ∀ phase ∈ event.takenIn, transaction.phase = phase := by
  cases event <;> cases transaction <;>
    simp [Event.takenIn, Transaction.phase, Transaction.next] at moves ⊢

def reference (budget : Nat) : System Transaction Event (Option Transaction) where
  step := fun transaction event =>
    (transaction.next budget event, (transaction.next budget event).getD transaction)

def Machine.transaction (machine : Machine) (fallback : SlotLabel) : Transaction :=
  let attempts := (machine.slots.get fallback.other).triesRemaining.toNat
  match machine.phase with
  | .idle => .unopened
  | .writing => .writing machine.candidateDigest
  | .candidateReady => .ready
  | .armed => .armed attempts
  | .trying => .trying attempts
  | .promoted => .promoted
  | .rolledBack => .rolledBack
  | .refused => .refused

theorem transaction_phase (machine : Machine) (fallback : SlotLabel) :
    (machine.transaction fallback).phase = machine.phase := by
  cases phase : machine.phase <;> simp [Machine.transaction, phase, Transaction.phase]

theorem Transaction.failed_of_pos {left : Nat} (remaining : 0 < left) : failed left = armed left := by
  cases left with
  | zero => simp at remaining
  | succ left => rfl

def Answers (answer : Except Raised TransitionResult) : Option Transaction → Prop
  | some next => ∃ result, answer = .ok result ∧ result.allowed = true ∧
      result.toPhase = next.phase
  | none => (∃ result, answer = .ok result ∧ result.allowed = false) ∨
      ∃ message, answer = .error ⟨.valueError, message⟩

section Step

variable {fallback : SlotLabel} {machine after : Machine} {event : Event}
  {fellBackTo : Option SlotLabel}

theorem Failure.next {result : AttemptResult} {detail : String} (budget left : Nat)
    (failure : Failure event result detail) :
    (Transaction.trying left).next budget event =
      some (if event.rebootsToFallback = true then .refused else .failed left) := by
  cases failure with
  | probe => simp [Transaction.next, Event.rebootsToFallback]
  | watchdog _ expiryAction known =>
    rcases List.mem_pair.mp known with rfl | rfl <;>
      simp [Transaction.next, Event.rebootsToFallback]

theorem Edge.next (edge : Edge fallback machine event fellBackTo after) :
    (machine.transaction fallback).next machine.config.maxAttempts.toNat event =
      some (after.transaction fallback) := by
  cases edge with
  | begin _ _ _ phase | unwritten _ phase | promote _ phase | abortTrial _ phase | arm phase =>
    simp [Machine.transaction, phase, Transaction.next, Transaction.begun]
  | verified _ phase same | mismatched _ phase same =>
    simp [Machine.transaction, phase, Transaction.next, same]
  | boot phase remaining =>
    obtain ⟨left, tries⟩ : ∃ left : Nat,
        (machine.slots.get fallback.other).triesRemaining = left + 1 :=
      ⟨((machine.slots.get fallback.other).triesRemaining - 1).toNat, by omega⟩
    simp [Machine.transaction, phase, tries, Transaction.next]
  | retry _ _ _ failure patient phase remaining =>
    have some_left : 0 < (machine.slots.get fallback.other).triesRemaining.toNat := by omega
    have current : machine.transaction fallback =
        .trying (machine.slots.get fallback.other).triesRemaining.toNat := by
      simp [Machine.transaction, phase]
    rw [current, failure.next, patient, Transaction.failed_of_pos some_left]
    simp [Machine.transaction]
  | exhaust _ _ _ failure phase finished =>
    have current : machine.transaction fallback =
        .trying (machine.slots.get fallback.other).triesRemaining.toNat := by
      simp [Machine.transaction, phase]
    rw [current, failure.next]
    rcases finished with atOnce | spent
    · simp [atOnce, Machine.transaction]
    · simp [spent, Machine.transaction, Transaction.failed]
  | abort _ phase =>
    rcases phase with phase | phase | phase <;>
      simp [Machine.transaction, phase, Transaction.next, Transaction.begun]

theorem edge_of_failure {result : AttemptResult} {detail : String}
    (failure : Failure event result detail) (phase : machine.phase = .trying)
    (tries : 0 ≤ (machine.slots.get fallback.other).triesRemaining) :
    ∃ fellBackTo after, Edge fallback machine event fellBackTo after := by
  by_cases finished : event.rebootsToFallback = true ∨
      (machine.slots.get fallback.other).triesRemaining = 0
  · exact ⟨_, _, .exhaust event result detail failure phase finished⟩
  · rw [not_or, Bool.not_eq_true] at finished
    exact ⟨_, _, .retry event result detail failure finished.1 phase (by omega)⟩

theorem edge_of_next {moved : Transaction} (stage : Stage fallback machine)
    (moves : (machine.transaction fallback).next machine.config.maxAttempts.toNat event =
      some moved) :
    ∃ fellBackTo after, Edge fallback machine event fellBackTo after := by
  have phase := Transaction.phase_of_next moves
  rw [transaction_phase] at phase
  cases event with
  | begin payloadDigest payloadRef version =>
    exact ⟨_, _, .begin payloadDigest payloadRef version (phase _ rfl)⟩
  | writeComplete observedDigest =>
    by_cases same : observedDigest = machine.candidateDigest
    · exact ⟨_, _, .verified observedDigest (phase _ rfl) same⟩
    · exact ⟨_, _, .mismatched observedDigest (phase _ rfl) same⟩
  | writeFailed detail => exact ⟨_, _, .unwritten detail (phase _ rfl)⟩
  | arm => exact ⟨_, _, .arm (phase _ rfl)⟩
  | bootAttempt => exact ⟨_, _, .boot (phase _ rfl) (stage.armed (phase _ rfl))⟩
  | probePass detail => exact ⟨_, _, .promote detail (phase _ rfl)⟩
  | probeFail detail =>
    exact edge_of_failure (.probe detail) (phase _ rfl) (stage.trying (phase _ rfl))
  | watchdogExpired detail expiryAction =>
    have trying := phase _ rfl
    have known : expiryAction ∈ ["reboot", "reboot-to-fallback"] := by
      by_contra unknown
      simp only [List.mem_cons, List.not_mem_nil, or_false, not_or] at unknown
      simp [Machine.transaction, trying, Transaction.next, unknown] at moves
    exact edge_of_failure (.watchdog detail expiryAction known) trying (stage.trying trying)
  | operatorAbort detail =>
    by_cases trying : machine.phase = .trying
    · exact ⟨_, _, .abortTrial detail trying⟩
    · have early : machine.phase = .writing ∨ machine.phase = .candidateReady ∨
          machine.phase = .armed := by
        cases phase : machine.phase <;>
          simp [Machine.transaction, phase, Transaction.next, Transaction.begun] at moves trying ⊢
      exact ⟨_, _, .abort detail early⟩

theorem Sound.step_reference (sound : Sound fallback machine) (event : Event) :
    Answers (device.step machine event).1
        ((machine.transaction fallback).next machine.config.maxAttempts.toNat event) ∧
      (device.step machine event).2.transaction fallback =
        ((machine.transaction fallback).next machine.config.maxAttempts.toNat event).getD
          (machine.transaction fallback) := by
  cases moves : (machine.transaction fallback).next machine.config.maxAttempts.toNat event with
  | some moved =>
    obtain ⟨fellBackTo, after, edge⟩ := edge_of_next sound.stage moves
    have passes := (assertInvariants_ok after).mpr ((edge.sound sound).checked edge.leaves_idle)
    obtain ⟨reason, step⟩ := (edge_takes sound.standing edge).passes passes
    obtain rfl : after.transaction fallback = moved := Option.some.inj (edge.next.symm.trans moves)
    rw [step]
    exact ⟨⟨_, rfl, rfl, (transaction_phase after fallback).symm⟩, rfl⟩
  | none =>
    rcases sound.answers event with
      ⟨result, step, refused⟩ | ⟨message, _, step⟩ | ⟨_, _, _, _, edge, _⟩
    · exact ⟨.inl ⟨result, by rw [step], refused⟩, by rw [step]; rfl⟩
    · exact ⟨.inr ⟨message, by rw [step]⟩, by rw [step]; rfl⟩
    · rw [edge.next] at moves
      cases moves

end Step

structure Performs (fallback : SlotLabel) (budget : Nat) (machine : Machine)
    (transaction : Transaction) : Prop where
  sound : Sound fallback machine
  budget : machine.config.maxAttempts.toNat = budget
  current : machine.transaction fallback = transaction

theorem Contracted.performs {fallback : SlotLabel} {machine : Machine}
    (contracted : Contracted fallback machine) :
    Performs fallback machine.config.maxAttempts.toNat machine .unopened where
  sound := contracted.sound
  budget := rfl
  current := by simp [Machine.transaction, contracted.initial.idle]

theorem Performs.run {fallback : SlotLabel} {budget : Nat} {machine : Machine}
    {transaction : Transaction} (performs : Performs fallback budget machine transaction)
    (events : List Event) :
    List.Forall₂ (fun entry expected => expected.1 = entry.1 ∧ Answers entry.2 expected.2)
        (device.trace machine events) ((reference budget).trace transaction events) ∧
      Performs fallback budget (device.run machine events)
        ((reference budget).run transaction events) := by
  refine device.run_related (reference budget) (Performs fallback budget) Answers ?_ machine
    transaction performs events
  rintro before _ event ⟨sound, rfl, rfl⟩
  obtain ⟨answers, moved⟩ := sound.step_reference event
  exact ⟨answers, run_sound sound [event],
    congrArg (·.maxAttempts.toNat) (run_config sound.standing [event]), moved⟩

/--
A machine answers every event as the reference does, and it is always in the
phase, with the digest and the attempts, that the reference is in.
-/
theorem machine_performs_reference (left right : Json) (arguments : MachineArguments)
    (machine : Machine) (built : BuiltFrom left right arguments machine) (events : List Event) :
    ∃ fallback, (machine.slots.get fallback).role = .active ∧
      List.Forall₂ (fun entry expected => expected.1 = entry.1 ∧ Answers entry.2 expected.2)
        (device.trace machine events)
        ((reference arguments.maxAttempts.toNat).trace .unopened events) ∧
      (device.run machine events).transaction fallback =
        (reference arguments.maxAttempts.toNat).run .unopened events := by
  obtain ⟨fallback, contracted⟩ := built.contracted
  have ⟨answers, performs⟩ := contracted.performs.run events
  rw [built.arguments] at answers performs
  exact ⟨fallback, contracted.initial.roles.active, answers, performs.current⟩

theorem machine_performs_reference_example :
    ∃ fallback, (exampleMachine.slots.get fallback).role = .active ∧
      List.Forall₂ (fun entry expected => expected.1 = entry.1 ∧ Answers entry.2 expected.2)
        (device.trace exampleMachine promotingEvents)
        ((reference 2).trace .unopened promotingEvents) ∧
      (device.run exampleMachine promotingEvents).transaction fallback =
        (reference 2).run .unopened promotingEvents :=
  machine_performs_reference exampleActive exampleCandidate exampleArguments exampleMachine
    exampleMachine_built promotingEvents

end SourceosBoot.AbUpdate
