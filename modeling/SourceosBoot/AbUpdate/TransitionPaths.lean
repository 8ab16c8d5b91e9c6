import SourceosBoot.AbUpdate.ContractPairs

set_option autoImplicit false

-- Several handlers settle into a phase of their own instead of the one their rule names. For
-- contract pairs they come to the same.

namespace SourceosBoot.AbUpdate

open Python Transition

/-- The state the guards are asked of: the fallback reboot gives up the tries beforehand. -/
def Machine.considered (machine : Machine) (event : Event) : Machine :=
  if event.rebootsToFallback ∧ machine.phase = .trying then
    match machine.toSlot with
    | some target => machine.spent target.other
    | none => machine
  else machine

structure Qualifies (machine : Machine) (event : Event) (rule : TransitionRule) : Prop where
  listed : rule ∈ transitionTable
  phase : machine.phase = rule.fromPhase
  named : rule.event = event.name
  guard : ∀ name ∈ rule.guard,
    (machine.considered event).guard name event.observedDigest = .ok true

theorem considered_calm {machine : Machine} {event : Event}
    (calm : event.rebootsToFallback = false) : machine.considered event = machine := by
  simp [Machine.considered, calm]

theorem considered_hasty {fallback : SlotLabel} {machine : Machine} {event : Event}
    (standing : Standing fallback machine) (hasty : event.rebootsToFallback = true)
    (phase : machine.phase = .trying) : machine.considered event = machine.spent fallback := by
  have toSlot := (standing.opened (by simp [phase])).2
  simp [Machine.considered, hasty, phase, toSlot]

theorem guard_digest_matches (machine : Machine) (observedDigest : String) :
    machine.guard "digest_matches" (some observedDigest) =
      .ok (decide (observedDigest = machine.candidateDigest)) := rfl

theorem guard_digest_mismatch (machine : Machine) (observedDigest : String) :
    machine.guard "digest_mismatch" (some observedDigest) =
      .ok (decide (observedDigest ≠ machine.candidateDigest)) := rfl

section Tries

variable {fallback : SlotLabel} {machine : Machine} (roles : HoldsRoles machine fallback)
  (observedDigest : Option String)
include roles

theorem guard_tries_remain :
    machine.guard "tries_remain" observedDigest =
      .ok (decide (0 < (machine.slots.get fallback.other).triesRemaining)) := by
  simp [Machine.guard, roles.candidate_ok, bind, Except.bind, pure, Except.pure]

theorem guard_tries_exhausted :
    machine.guard "tries_exhausted" observedDigest =
      .ok (decide ((machine.slots.get fallback.other).triesRemaining = 0)) := by
  simp [Machine.guard, roles.candidate_ok, bind, Except.bind, pure, Except.pure]

end Tries

section Rules

variable {fallback : SlotLabel} {machine : Machine} (sound : Sound fallback machine)
include sound

theorem failure_of_qualifies {event : Event} {rule : TransitionRule} {result : AttemptResult}
    {detail : String} (failure : Failure event result detail) (qualifies : Qualifies machine event rule)
    (choices : rule = ⟨event.name, .trying, .armed, some "tries_remain"⟩ ∨
      rule = ⟨event.name, .trying, .refused, some "tries_exhausted"⟩) :
    ∃ fellBackTo after, Edge fallback machine event fellBackTo after ∧ after.phase = rule.toPhase := by
  have phase : machine.phase = .trying := by
    rcases choices with rfl | rfl <;> exact qualifies.phase
  have roles := sound.standing.roles (by simp [phase])
  by_cases hasty : event.rebootsToFallback = true
  · have spent := considered_hasty sound.standing hasty phase
    have zeroed := sound.standing.spent.roles (by simp [phase])
    rcases choices with rfl | rfl
    · have guard := qualifies.guard "tries_remain" rfl
      rw [spent, guard_tries_remain zeroed] at guard
      simp at guard
    · exact ⟨_, _, .exhaust event result detail failure phase (.inl hasty), rfl⟩
  · have patient := Bool.eq_false_iff.mpr hasty
    rcases choices with rfl | rfl
    · have guard := qualifies.guard "tries_remain" rfl
      rw [considered_calm patient, guard_tries_remain roles] at guard
      exact ⟨_, _, .retry event result detail failure patient phase (by simpa using guard), rfl⟩
    · have guard := qualifies.guard "tries_exhausted" rfl
      rw [considered_calm patient, guard_tries_exhausted roles] at guard
      exact ⟨_, _, .exhaust event result detail failure phase (.inr (by simpa using guard)), rfl⟩

theorem edge_of_qualifies {event : Event} {rule : TransitionRule} (known : event.Known)
    (qualifies : Qualifies machine event rule) :
    ∃ fellBackTo after, Edge fallback machine event fellBackTo after ∧ after.phase = rule.toPhase := by
  have listed := qualifies.listed
  have named := qualifies.named
  have phase := qualifies.phase
  cases event with
  | begin payloadDigest payloadRef version =>
    have only : ∀ rule ∈ transitionTable, rule.event = .begin →
        rule = ⟨.begin, .idle, .writing, none⟩ := by decide
    obtain rfl := only rule listed named
    exact ⟨_, _, .begin payloadDigest payloadRef version phase, rfl⟩
  | writeComplete observedDigest =>
    have only : ∀ rule ∈ transitionTable, rule.event = .writeComplete →
        rule = ⟨.writeComplete, .writing, .candidateReady, some "digest_matches"⟩ ∨
          rule = ⟨.writeComplete, .writing, .rolledBack, some "digest_mismatch"⟩ := by decide
    rcases only rule listed named with rfl | rfl
    · have guard := qualifies.guard "digest_matches" rfl
      rw [considered_calm rfl] at guard
      exact ⟨_, _, .verified observedDigest phase (of_decide_eq_true (Except.ok.inj guard)), rfl⟩
    · have guard := qualifies.guard "digest_mismatch" rfl
      rw [considered_calm rfl] at guard
      exact ⟨_, _, .mismatched observedDigest phase (of_decide_eq_true (Except.ok.inj guard)), rfl⟩
  | writeFailed detail =>
    have only : ∀ rule ∈ transitionTable, rule.event = .writeFailed →
        rule = ⟨.writeFailed, .writing, .rolledBack, none⟩ := by decide
    obtain rfl := only rule listed named
    exact ⟨_, _, .unwritten detail phase, rfl⟩
  | arm =>
    have only : ∀ rule ∈ transitionTable, rule.event = .arm →
        rule = ⟨.arm, .candidateReady, .armed, none⟩ := by decide
    obtain rfl := only rule listed named
    exact ⟨_, _, .arm phase, rfl⟩
  | bootAttempt =>
    have only : ∀ rule ∈ transitionTable, rule.event = .bootAttempt →
        rule = ⟨.bootAttempt, .armed, .trying, none⟩ := by decide
    obtain rfl := only rule listed named
    -- An armed candidate always has a try left, so the second refusal is never reached.
    exact ⟨_, _, .boot phase (sound.stage.armed phase), rfl⟩
  | probePass detail =>
    have only : ∀ rule ∈ transitionTable, rule.event = .probePass →
        rule = ⟨.probePass, .trying, .promoted, none⟩ := by decide
    obtain rfl := only rule listed named
    exact ⟨_, _, .promote detail phase, rfl⟩
  | probeFail detail =>
    have only : ∀ rule ∈ transitionTable, rule.event = .probeFail →
        rule = ⟨.probeFail, .trying, .armed, some "tries_remain"⟩ ∨
          rule = ⟨.probeFail, .trying, .refused, some "tries_exhausted"⟩ := by decide
    exact failure_of_qualifies sound (.probe detail) qualifies (only rule listed named)
  | watchdogExpired detail expiryAction =>
    have only : ∀ rule ∈ transitionTable, rule.event = .watchdogExpired →
        rule = ⟨.watchdogExpired, .trying, .armed, some "tries_remain"⟩ ∨
          rule = ⟨.watchdogExpired, .trying, .refused, some "tries_exhausted"⟩ := by decide
    exact failure_of_qualifies sound (.watchdog detail expiryAction known) qualifies
      (only rule listed named)
  | operatorAbort detail =>
    have only : ∀ rule ∈ transitionTable, rule.event = .operatorAbort →
        rule.toPhase = .rolledBack ∧ (rule.fromPhase = .writing ∨ rule.fromPhase = .candidateReady ∨
          rule.fromPhase = .armed ∨ rule.fromPhase = .trying) := by decide
    have ⟨rolledBack, source⟩ := only rule listed named
    rw [rolledBack]
    rw [← phase] at source
    rcases source with writing | candidateReady | armed | trying
    · exact ⟨_, _, .abort detail (.inl writing), rfl⟩
    · exact ⟨_, _, .abort detail (.inr (.inl candidateReady)), rfl⟩
    · exact ⟨_, _, .abort detail (.inr (.inr armed)), rfl⟩
    · exact ⟨_, _, .abortTrial detail trying, rfl⟩

theorem qualifies_of_edge {event : Event} {fellBackTo : Option SlotLabel} {after : Machine}
    (edge : Edge fallback machine event fellBackTo after) :
    ∃ rule, Qualifies machine event rule := by
  have unguarded (toPhase : Phase)
      (listed : ⟨event.name, machine.phase, toPhase, none⟩ ∈ transitionTable) :
      ∃ rule, Qualifies machine event rule := ⟨_, listed, rfl, rfl, by simp⟩
  have guarded (toPhase : Phase) (name : String)
      (listed : ⟨event.name, machine.phase, toPhase, some name⟩ ∈ transitionTable)
      (guard : (machine.considered event).guard name event.observedDigest = .ok true) :
      ∃ rule, Qualifies machine event rule := ⟨_, listed, rfl, rfl, by simpa using guard⟩
  cases edge with
  | begin _ _ _ phase => exact unguarded .writing (by simp [phase, Event.name, transitionTable])
  | unwritten _ phase => exact unguarded .rolledBack (by simp [phase, Event.name, transitionTable])
  | arm phase => exact unguarded .armed (by simp [phase, Event.name, transitionTable])
  | boot phase => exact unguarded .trying (by simp [phase, Event.name, transitionTable])
  | promote _ phase => exact unguarded .promoted (by simp [phase, Event.name, transitionTable])
  | abortTrial _ phase => exact unguarded .rolledBack (by simp [phase, Event.name, transitionTable])
  | abort _ phase =>
    rcases phase with phase | phase | phase <;>
      exact unguarded .rolledBack (by simp [phase, Event.name, transitionTable])
  | verified observedDigest phase same =>
    apply guarded .candidateReady "digest_matches" (by simp [phase, Event.name, transitionTable])
    rw [considered_calm rfl]
    simp [guard_digest_matches, Event.observedDigest, same]
  | mismatched observedDigest phase different =>
    apply guarded .rolledBack "digest_mismatch" (by simp [phase, Event.name, transitionTable])
    rw [considered_calm rfl]
    simp [guard_digest_mismatch, Event.observedDigest, different]
  | retry _ result detail failure patient phase remaining =>
    have roles := sound.standing.roles (by simp [phase])
    apply guarded .armed "tries_remain" (by cases failure <;> simp [phase, Event.name, transitionTable])
    rw [considered_calm patient, guard_tries_remain roles, decide_eq_true remaining]
  | exhaust _ result detail failure phase finished =>
    have roles := sound.standing.roles (by simp [phase])
    apply guarded .refused "tries_exhausted" (by cases failure <;> simp [phase, Event.name, transitionTable])
    by_cases hasty : event.rebootsToFallback = true
    · have zeroed := sound.standing.spent.roles (by simp [phase])
      rw [considered_hasty sound.standing hasty phase, guard_tries_exhausted zeroed]
      simp
    · have spent := finished.resolve_left hasty
      rw [considered_calm (Bool.eq_false_iff.mpr hasty), guard_tries_exhausted roles,
        decide_eq_true spent]

theorem qualifies_unique {event : Event} (known : event.Known) {left right : TransitionRule}
    (first : Qualifies machine event left) (second : Qualifies machine event right) :
    left = right := by
  -- One call leaves one phase, and no two rules of an event differ in the phase they leave alone.
  have ⟨_, after, edge, toPhase⟩ := edge_of_qualifies sound known first
  have ⟨_, other, otherEdge, otherPhase⟩ := edge_of_qualifies sound known second
  have same : after = other :=
    (edge_takes sound.standing edge).left.symm.trans (edge_takes sound.standing otherEdge).left
  have distinct : ∀ left ∈ transitionTable, ∀ right ∈ transitionTable,
      left.event = right.event → left.fromPhase = right.fromPhase → left.toPhase = right.toPhase →
        left = right := by decide
  apply distinct left first.listed right second.listed
  · exact first.named.trans second.named.symm
  · exact first.phase.symm.trans second.phase
  · rw [← toPhase, ← otherPhase, same]

end Rules

structure FollowsTable (machine : Machine) (event : Event) (result : TransitionResult)
    (after : Machine) : Prop where
  accepted : result.allowed = true ↔ ∃ rule, Qualifies machine event rule
  oneRule : result.allowed = true →
    ∃! rule, Qualifies machine event rule ∧ after.phase = rule.toPhase
  onlyRule : ∀ left right, Qualifies machine event left → Qualifies machine event right →
    left = right
  fromPhase : result.fromPhase = machine.phase
  toPhase : result.toPhase = after.phase
  refused : result.allowed = false → after.phase = machine.phase

theorem Sound.follows_table {fallback : SlotLabel} {machine : Machine}
    (sound : Sound fallback machine) (event : Event) (known : event.Known) :
    ∃ result after, device.step machine event = (.ok result, after) ∧
      FollowsTable machine event result after := by
  have passes {fellBackTo : Option SlotLabel} {after : Machine}
      (edge : Edge fallback machine event fellBackTo after) :=
    (edge_takes sound.standing edge).passes
      ((assertInvariants_ok after).mpr ((edge.sound sound).checked edge.leaves_idle))
  have onlyRule := fun left right => @qualifies_unique fallback machine sound event known left right
  rcases call_cases machine fallback sound.standing event with
    ⟨reason, declined⟩ | ⟨unknown, _⟩ | ⟨_, fellBackTo, after, edge, _⟩
  · have step : device.step machine event = (.ok (machine.refuse event.name reason), machine) := by
      simp [device, object, declined]
    refine ⟨_, _, step, ⟨?_, by simp [Machine.refuse], onlyRule, rfl, rfl, fun _ => rfl⟩⟩
    refine ⟨by simp [Machine.refuse], fun qualifying => ?_⟩
    obtain ⟨rule, qualifies⟩ := qualifying
    obtain ⟨_, _, edge, _⟩ := edge_of_qualifies sound known qualifies
    obtain ⟨_, taken⟩ := passes edge
    simp [step, accepted, Machine.refuse] at taken
  · exact absurd known unknown
  · obtain ⟨reason, step⟩ := passes edge
    obtain ⟨rule, qualifies⟩ := qualifies_of_edge sound edge
    obtain ⟨_, other, otherEdge, toPhase⟩ := edge_of_qualifies sound known qualifies
    have same : after = other :=
      (edge_takes sound.standing edge).left.symm.trans (edge_takes sound.standing otherEdge).left
    refine ⟨_, _, step, ⟨?_, ?_, onlyRule, rfl, rfl, by simp [accepted]⟩⟩
    · exact ⟨fun _ => ⟨rule, qualifies⟩, fun _ => rfl⟩
    · intro _
      exact ⟨rule, ⟨qualifies, same ▸ toPhase⟩, fun other also => onlyRule _ _ also.1 qualifies⟩

def TablePath : Phase → List (Event × Except Raised TransitionResult) → Prop
  | _, [] => True
  | phase, (event, answer) :: rest => ∃ result, answer = .ok result ∧ result.fromPhase = phase ∧
      (if result.allowed then
        ∃ rule ∈ transitionTable, rule.event = event.name ∧ rule.fromPhase = phase ∧
          rule.toPhase = result.toPhase
      else result.toPhase = phase) ∧
      TablePath result.toPhase rest

theorem Sound.table_path {fallback : SlotLabel} {machine : Machine}
    (sound : Sound fallback machine) (events : List Event) (known : ∀ event ∈ events, event.Known) :
    TablePath machine.phase (device.trace machine events) := by
  induction events generalizing machine with
  | nil => trivial
  | cons event rest ih =>
    have ⟨result, after, step, follows⟩ := sound.follows_table event (known event (by simp))
    have later : Sound fallback (device.step machine event).2 := run_sound sound [event]
    refine ⟨result, by rw [step], follows.fromPhase, ?_, ?_⟩
    · by_cases allowed : result.allowed = true
      · rw [if_pos allowed]
        have ⟨rule, ⟨qualifies, toPhase⟩, _⟩ := follows.oneRule allowed
        exact ⟨rule, qualifies.listed, qualifies.named, qualifies.phase.symm,
          toPhase.symm.trans follows.toPhase.symm⟩
      · rw [if_neg allowed]
        exact follows.toPhase.trans (follows.refused (by simpa using allowed))
    · have path := ih later fun event listed => known event (List.mem_cons_of_mem _ listed)
      rw [step, ← follows.toPhase] at path
      show TablePath result.toPhase (device.trace (device.step machine event).2 rest)
      rwa [step]

theorem handlers_follow_table (left right : Json) (arguments : MachineArguments)
    (machine : Machine) (built : BuiltFrom left right arguments machine) (events : List Event) :
    (∀ event : Event, event.Known → ∃ result after,
      device.step (device.run machine events) event = (.ok result, after) ∧
        FollowsTable (device.run machine events) event result after) ∧
    ((∀ event ∈ events, event.Known) → TablePath .idle (device.trace machine events)) := by
  have ⟨fallback, contracted⟩ := built.contracted
  refine ⟨(run_sound contracted.sound events).follows_table, fun known => ?_⟩
  rw [← contracted.initial.idle]
  exact contracted.sound.table_path events known

theorem handlers_follow_table_example :
    (∀ event : Event, event.Known → ∃ result after,
      device.step (device.run exampleMachine [.begin badDigest none none, .arm]) event =
        (.ok result, after) ∧
        FollowsTable (device.run exampleMachine [.begin badDigest none none, .arm]) event result
          after) ∧
    ((∀ event ∈ [Event.begin badDigest none none, .arm], event.Known) →
      TablePath .idle (device.trace exampleMachine [.begin badDigest none none, .arm])) :=
  handlers_follow_table exampleActive exampleCandidate exampleArguments exampleMachine
    exampleMachine_built [.begin badDigest none none, .arm]

end SourceosBoot.AbUpdate
