import SourceosBoot.Lifecycle.StateMachine

set_option autoImplicit false

namespace SourceosBoot.Lifecycle

def matching (fromState : Option String) (request : TransitionRequest) : List TransitionRule :=
  transitionTable.filter fun rule =>
    some rule.fromState = fromState ∧ rule.name = request.transitionName ∧
      (request.toState = none ∨ request.toState = some rule.toState)

theorem transitionTable_unique : ∀ rule ∈ transitionTable, ∀ other ∈ transitionTable,
    rule.name = other.name → rule.fromState = other.fromState → rule.toState = other.toState →
      rule = other := by decide

theorem transitionTable_nodup : transitionTable.Nodup := by decide

theorem matching_targeted {fromState : Option String} {request : TransitionRequest}
    {target : String} (aimed : request.toState = some target) :
    ∀ rule ∈ matching fromState request, ∀ other ∈ matching fromState request, rule = other := by
  intro rule first other second
  simp only [matching, aimed, List.mem_filter, decide_eq_true_eq, reduceCtorEq, false_or,
    Option.some.injEq] at first second
  refine transitionTable_unique rule first.1 other second.1 ?_ ?_ ?_
  · rw [first.2.2.1, second.2.2.1]
  · exact Option.some.inj (first.2.1.trans second.2.1.symm)
  · rw [← first.2.2.2, second.2.2.2]

theorem head?_sole {α : Type} {items : List α} (distinct : items.Nodup)
    (alike : ∀ item ∈ items, ∀ other ∈ items, item = other) (item : α) :
    items.head? = some item ↔ items = [item] := by
  cases items with
  | nil => simp
  | cons first rest =>
    cases rest with
    | nil => simp
    | cons second rest =>
      have same := alike first (by simp) second (by simp)
      simp [same] at distinct

theorem lookup_some_iff (fromState : Option String) (request : TransitionRequest)
    (rule : TransitionRule) :
    lookup fromState request.transitionName request.toState = some rule ↔
      matching fromState request = [rule] := by
  cases aimed : request.toState with
  | none =>
    have candidates : matching fromState request = index fromState request.transitionName := by
      simp [matching, index, aimed]
    simp only [lookup, candidates]
    split_ifs with single
    · obtain ⟨only, is⟩ := List.length_eq_one_iff.mp single
      simp [is]
    · refine ⟨by simp, fun sole => absurd ?_ single⟩
      rw [sole]
      rfl
  | some target =>
    have candidates : matching fromState request =
        (index fromState request.transitionName).filter (·.toState = target) := by
      rw [matching, index, List.filter_filter]
      refine List.filter_congr fun rule _ => ?_
      rw [aimed, ← Bool.decide_and]
      refine decide_eq_decide.mpr ?_
      simp only [reduceCtorEq, false_or, Option.some.injEq]
      grind
    simp only [lookup]
    rw [← List.head?_filter, ← candidates]
    exact head?_sole (transitionTable_nodup.filter _) (matching_targeted aimed) rule

structure Admits (fromState : Option String) (request : TransitionRequest)
    (rule : TransitionRule) : Prop where
  capable : request.capability ≠ bottomCapability
  sole : matching fromState request = [rule]
  approved : rule.approvalRequired = true → ∃ ref, request.approvalRef = some ref ∧ ref ≠ ""
  proven : ∀ proof ∈ rule.requiredProofs, proof ∈ request.proofsPresent

/-- The refusal of the first check that fails, and the proofs it names as required. -/
inductive FirstFailure (fromState : Option String) (request : TransitionRequest) :
    String → List String → Prop
  -- The two checks before a rule is found have no proofs to name.
  | capability (floor : request.capability = bottomCapability) :
      FirstFailure fromState request "urn:srcos:refusal:capability-bottom" []
  | legality (capable : request.capability ≠ bottomCapability)
      (unlisted : ¬ ∃ rule, matching fromState request = [rule]) :
      FirstFailure fromState request "urn:srcos:refusal:illegal-transition" []
  | approval (rule : TransitionRule) (capable : request.capability ≠ bottomCapability)
      (sole : matching fromState request = [rule]) (gated : rule.approvalRequired = true)
      (missing : ¬ ∃ ref, request.approvalRef = some ref ∧ ref ≠ "") :
      FirstFailure fromState request "urn:srcos:refusal:approval-required" rule.requiredProofs
  | evidence (rule : TransitionRule) (capable : request.capability ≠ bottomCapability)
      (sole : matching fromState request = [rule])
      (approved : rule.approvalRequired = true → ∃ ref, request.approvalRef = some ref ∧ ref ≠ "")
      (missing : ¬ ∀ proof ∈ rule.requiredProofs, proof ∈ request.proofsPresent) :
      FirstFailure fromState request "urn:srcos:refusal:missing-evidence" rule.requiredProofs

section Decided

variable {fromState : Option String} {request : TransitionRequest} {answer : Answer}
  (decided : Decided fromState request answer)
include decided

theorem Decided.admitted (allowed : answer.allowed = true) :
    ∃ rule, Admits fromState request rule := by
  cases decided with
  | granted rule capable listed approved proven =>
    rw [given_iff] at approved
    exact ⟨rule, capable, (lookup_some_iff _ _ _).mp listed, approved, proven⟩
  | _ => cases allowed

theorem Decided.refused (refused : answer.allowed = false) :
    answer.transitionName = "refuse" ∧ answer.toState = "blocked" ∧
      ∃ refusalRef, answer.refusalRef = some refusalRef ∧
        FirstFailure fromState request refusalRef answer.requiredProofs := by
  cases decided with
  | bottom floor => exact ⟨rfl, rfl, _, rfl, .capability floor⟩
  | illegal capable unlisted =>
    refine ⟨rfl, rfl, _, rfl, .legality capable ?_⟩
    rintro ⟨rule, sole⟩
    rw [← lookup_some_iff, unlisted] at sole
    cases sole
  | unapproved rule capable listed gated missing =>
    refine ⟨rfl, rfl, _, rfl,
      .approval rule capable ((lookup_some_iff _ _ _).mp listed) gated ?_⟩
    rw [← given_iff, missing]
    exact Bool.false_ne_true
  | unproven rule capable listed approved missing =>
    rw [given_iff] at approved
    exact ⟨rfl, rfl, _, rfl,
      .evidence rule capable ((lookup_some_iff _ _ _).mp listed) approved missing⟩
  | granted => cases refused

theorem Decided.effects : answer.sideEffects.isSome = true ↔
    answer.allowed = true ∧ request.transitionName ∈ ["execute", "rollback"] := by
  cases decided with
  | granted rule =>
    by_cases mutating : request.transitionName ∈ hostMutating <;>
      simp_all [permitted, hostMutating]
  | _ => simp [capabilityBottom, illegalTransition, approvalMissing, evidenceMissing, refusal]

end Decided

theorem Admits.allowed {fromState : Option String} {request : TransitionRequest}
    {rule : TransitionRule} (admits : Admits fromState request rule) :
    decision fromState request = permitted fromState request rule := by
  have listed := (lookup_some_iff _ _ _).mpr admits.sole
  have approved : ¬ (rule.approvalRequired = true ∧ ¬ given request.approvalRef = true) := by
    rw [given_iff]
    exact fun ⟨gated, missing⟩ => missing (admits.approved gated)
  have proven := missingFrom_nil.mpr admits.proven
  rw [decision, if_neg admits.capable, listed]
  simp only [if_neg approved, proven, ne_eq, not_true_eq_false, if_false]

theorem sideEffects_shown (answered : LifecycleStateRecord) :
    (answered.toDict.get? "sideEffects").isSome = answered.sideEffects.isSome := by
  cases shown : answered.sideEffects <;> simp only [LifecycleStateRecord.toDict, shown] <;> rfl

theorem admission_exact (position : LifecyclePosition) (request : TransitionRequest)
    (stamp : Stamp) :
    let answered := applyTransition position request stamp
    (answered.transition.allowed = true ↔ ∃ rule, Admits position.currentState request rule) ∧
    (∀ rule, Admits position.currentState request rule →
      answered.toState = rule.toState ∧ answered.transition.name = rule.name ∧
        answered.proofs.required = rule.requiredProofs) ∧
    (answered.transition.allowed = false →
      answered.transition.name = "refuse" ∧ answered.toState = "blocked" ∧
        ∃ refusalRef, answered.transition.refusalRef = some refusalRef ∧
          FirstFailure position.currentState request refusalRef answered.proofs.required) ∧
    answered.proofs.present = request.proofsPresent ∧
    answered.proofs.missing =
      answered.proofs.required.filter (· ∉ request.proofsPresent) ∧
    ((answered.toDict.get? "sideEffects").isSome = true ↔
      answered.transition.allowed = true ∧ request.transitionName ∈ ["execute", "rollback"]) := by
  have decided := decision_decided position.currentState request
  have granted (rule : TransitionRule) (admits : Admits position.currentState request rule) :=
    admits.allowed
  simp only [sideEffects_shown, applyTransition]
  generalize decision position.currentState request = answer at decided granted ⊢
  refine ⟨⟨decided.admitted, ?_⟩, fun rule admits => ?_, decided.refused, rfl, rfl,
    decided.effects⟩
  · rintro ⟨rule, admits⟩
    rw [granted rule admits]
    rfl
  · have named : rule.name = request.transitionName := by
      have listed : rule ∈ matching position.currentState request := by simp [admits.sole]
      simp only [matching, List.mem_filter, decide_eq_true_eq] at listed
      exact listed.2.2.1
    rw [granted rule admits]
    exact ⟨rfl, named.symm, rfl⟩

end SourceosBoot.Lifecycle
