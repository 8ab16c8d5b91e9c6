import SourceosBoot.AbUpdate.Planning
import SourceosBoot.AbUpdate.SlotIdentifiers
import SourceosBoot.AbUpdate.TransactionConformance

set_option autoImplicit false

namespace SourceosBoot.AbUpdate

open Python Transition Schema UpdateSlotSchema UpdateTransactionSchema

def InForm (members : List (String × Json)) (key : String) (pattern : Pattern) : Prop :=
  ∃ text, Json.lookup key members = some (.str text) ∧ pattern.search text = true

structure IdentifiersInForm (transactionId : String) (probe : List (String × Json)) : Prop where
  transactionId : (idPattern "urn:srcos:update-transaction:").search transactionId = true
  probeRef : InForm probe "id" (idPattern "urn:srcos:update-health-probe:")
  probeDigest : InForm probe "definitionDigest" digestPattern

def TargetInAscii (isalnum : Char → Bool) (doc : Json) : Prop :=
  ∃ target, doc.get? "targetRef" = some (.str target) ∧ AsciiOnly isalnum target

structure IdentifiersDecide (outside : Outside) (args : PlanArguments)
    (probe : List (String × Json)) (doc transaction : Json) (slots : List Json) : Prop where
  transaction : updateTransactionSchema.valid transaction = true ↔
    IdentifiersInForm args.transactionId probe
  slots : (∀ slot ∈ slots, updateSlotSchema.valid slot = true) ↔ TargetInAscii outside.isalnum doc

def DigestInForm (event : Json) : Prop :=
  IsBegin event → ∀ digest, event.get? "payloadDigest" = some (.str digest) →
    digestPattern.search digest = true

theorem Reads.wellFormed {event : Json} {typed : Event} (reads : Reads event typed)
    (inForm : DigestInForm event) : typed.WellFormed := by
  cases typed with
  | begin payloadDigest payloadRef version =>
    exact inForm reads.named payloadDigest reads.payloadDigest
  | _ => trivial

theorem reads_wellFormed {events : List Json} {typed : List Event}
    (reads : List.Forall₂ Reads events typed) (inForm : ∀ event ∈ events, DigestInForm event) :
    ∀ event ∈ typed, event.WellFormed := by
  induction reads with
  | nil => simp
  | cons read _ ih =>
    rw [List.forall_mem_cons] at inForm ⊢
    exact ⟨read.wellFormed inForm.1, ih inForm.2⟩

theorem slot_valid_iff {members : List (String × Json)} {id : String}
    (valid : withoutIdPattern.valid (.obj members) = true)
    (named : Json.lookup "id" members = some (.str id)) :
    updateSlotSchema.valid (.obj members) = true ↔ slotIdPattern.search id = true := by
  rw [valid_iff] at valid
  constructor
  · intro whole
    exact (property_satisfied whole patterns_listed.1 named).pattern
  · intro inForm
    refine (valid_iff _ _).mpr { valid with properties := ?_, additionalProperties := ?_ }
    · intro key child listed item found
      by_cases identifier : key = "id"
      · subst identifier
        obtain rfl : child = { type := some ["string"], pattern := some slotIdPattern } := by
          simpa [updateSlotSchema, slotIdPattern] using listed
        cases found.symm.trans named
        exact (pattern_valid _ _).mpr inForm
      · apply valid.properties key child _ item found
        exact List.mem_map.mpr ⟨_, listed, by rw [if_neg identifier]⟩
    · exact valid.additionalProperties

theorem carryingProbe_kept {text : String} {machine : Machine}
    (named : machine.config.healthProbeRef = text) :
    carryingProbe (.str text) (.obj (transactionMembers machine)) =
      .obj (transactionMembers machine) := by
  simp [carryingProbe, transactionMembers, named]

theorem transaction_member {machine : Machine} {healthProbe item : Json} {key : String}
    (pattern : Pattern)
    (valid : updateTransactionSchema.valid
      (carryingProbe healthProbe (.obj (transactionMembers machine))) = true)
    (listed : (key, { type := some ["string"], pattern := some pattern }) ∈
      updateTransactionSchema.properties)
    (found : (carryingProbe healthProbe (.obj (transactionMembers machine))).get? key =
      some item) : ∃ text, item = .str text ∧ pattern.search text = true := by
  have fits := ((valid_iff _ _).mp valid).properties _ _ listed item found
  obtain ⟨text, rfl⟩ := typed_string item ((valid_iff _ _).mp fits).type
  exact ⟨text, rfl, (pattern_valid _ _).mp fits⟩

theorem carried_valid_iff {fallback : SlotLabel} {machine : Machine} {healthProbe : Json}
    (conforming : Conforming fallback machine) (accounts : Accounts fallback machine)
    (opened : machine.phase ≠ .idle)
    (target : Pattern.search ⟨.literal "urn:srcos:", false⟩ machine.config.targetRef = true)
    (named : machine.config.healthProbeRef = shownText healthProbe) :
    updateTransactionSchema.valid (carryingProbe healthProbe (.obj (transactionMembers machine))) =
        true ↔
      (idPattern "urn:srcos:update-transaction:").search machine.config.transactionId = true ∧
      (∃ text, healthProbe = .str text ∧
        (idPattern "urn:srcos:update-health-probe:").search text = true) ∧
      digestPattern.search machine.config.healthProbeDigest = true := by
  constructor
  · intro valid
    have shows (key : String) := carryingProbe_get healthProbe (.obj (transactionMembers machine)) key
    refine ⟨?_, ?_, ?_⟩
    · obtain ⟨_, ⟨⟩, inForm⟩ := transaction_member (idPattern "urn:srcos:update-transaction:")
        valid (by simp [updateTransactionSchema]) (shows "id")
      exact inForm
    · exact transaction_member (idPattern "urn:srcos:update-health-probe:")
        valid (by simp [updateTransactionSchema]) (shows "healthProbeRef")
    · obtain ⟨_, ⟨⟩, inForm⟩ := transaction_member digestPattern
        valid (by simp [updateTransactionSchema]) (shows "healthProbeDigest")
      exact inForm
  · rintro ⟨transactionId, ⟨text, rfl, probeRef⟩, probeDigest⟩
    have held : machine.config.healthProbeRef = text := named
    rw [carryingProbe_kept held]
    exact (conforming.documented accounts opened
      ⟨transactionId, held ▸ probeRef, probeDigest⟩ target).valid

section Loaded

variable {outside : Outside} {args : ReplayArguments} {left right healthProbe : Json}
  {probe : List (String × Json)} {machine : Machine} (pair : ContractPair left right)
  (slots : args.slots.content = .arr [left, right]) (gate : args.probe.content = .obj probe)
  (loaded : loadAbUpdateMachine outside args = .ok (some machine, healthProbe))
include pair slots gate loaded

theorem loaded_from : ∃ digest, Json.lookup "id" probe = some healthProbe ∧
    Json.lookup "definitionDigest" probe = some (.str digest) ∧
    BuiltFrom left right {
      transactionId := args.transactionId
      healthProbeRef := shownText healthProbe
      healthProbeDigest := digest
      maxAttempts := args.maxAttempts
      clock := outside.clock } machine := by
  obtain ⟨docs, members, digest, read, held, _, recorded, named, built⟩ := load_ok.mp loaded
  cases slots.symm.trans read
  cases gate.symm.trans held
  exact ⟨digest, named, recorded, pair, built⟩

theorem run_decided {events : List Event} (wellFormed : ∀ event ∈ events, event.WellFormed)
    {plan : PlanArguments} (planned : plan.transactionId = args.transactionId)
    (ascii : AsciiAlnum outside.isalnum) {transaction : Json}
    (rendered : (device.run machine events).toTransactionDocument = .ok transaction) :
    IdentifiersDecide outside plan probe left (carryingProbe healthProbe transaction)
      ((device.run machine events).toSlotDocuments outside.isalnum) := by
  obtain ⟨digest, named, pinned, built⟩ := loaded_from pair slots gate loaded
  obtain ⟨fallback, contracted⟩ := built.contracted
  have arguments := built.arguments
  have target := built.target
  have described : left.get? "targetRef" = some (.str machine.config.targetRef) := by
    obtain ⟨_, listed, _, held⟩ := built.described .A
    rcases List.mem_pair.mp listed with rfl | rfl
    · exact held
    · rw [pair.oneTarget]
      exact held
  have conforming := run_conforming (contracted.conforming built.texts) events wellFormed
  have accounts := run_accounts contracted events
  have contract := contracted.run_contract built.texts events wellFormed
  rw [← run_config contracted.sound.standing events] at arguments target described
  generalize device.run machine events = later at *
  have opened := (rendered_iff later).mp ⟨_, rendered⟩
  cases (toTransactionDocument_opened later opened).symm.trans rendered
  constructor
  case transaction =>
    have sameRef : later.config.healthProbeRef = shownText healthProbe := by rw [arguments]
    rw [carried_valid_iff conforming accounts opened target sameRef, arguments, planned.symm]
    constructor
    · rintro ⟨transactionId, ⟨text, rfl, probeRef⟩, probeDigest⟩
      exact ⟨transactionId, ⟨text, named, probeRef⟩, digest, pinned, probeDigest⟩
    · rintro ⟨transactionId, ⟨text, carried, probeRef⟩, _, recorded, probeDigest⟩
      cases carried.symm.trans named
      cases recorded.symm.trans pinned
      exact ⟨transactionId, ⟨text, rfl, probeRef⟩, probeDigest⟩
  case slots =>
    have valid (label : SlotLabel) : updateSlotSchema.valid (later.documentOf outside.isalnum label) =
        true ↔ AsciiOnly outside.isalnum later.config.targetRef := by
      rw [← slotId_valid_iff outside.isalnum ascii later.config.targetRef label]
      exact slot_valid_iff (slotDocument_valid outside.isalnum _ label _ (contract label)
        (conforming.texts label) target) (documentOf_id outside.isalnum later label)
    constructor
    · intro each
      exact ⟨_, described, (valid .A).mp (each _ (documentOf_listed outside.isalnum .A later))⟩
    · rintro ⟨_, held, plain⟩ slot listed
      obtain ⟨label, rfl⟩ := (mem_toSlotDocuments outside.isalnum).mp listed
      cases held.symm.trans described
      exact (valid label).mpr plain

end Loaded

/--
On a contract pair whatever is planned or replayed is printed in the contract,
but for the identifiers: the transaction is valid exactly where its identifier
and those of the probe are in form, and the slots where the target is in ASCII.
-/
theorem identifiers_decide_validity (outside : Outside)
    (beyond : Call → Effect Machine TransitionResult) (ascii : AsciiAlnum outside.isalnum)
    (args : PlanArguments) (left right : Json) (pair : ContractPair left right)
    (slots : args.slots.content = .arr [left, right]) (probe : List (String × Json))
    (gate : args.probe.content = .obj probe) :
    (digestPattern.search args.payloadDigest = true → ∀ screen shown,
      (abUpdatePlan outside args).run screen = .ok (some 0) shown →
      ∃ later transaction,
        shown = { screen with stdout := screen.stdout ++ [planOutput outside later transaction] } ∧
        IdentifiersDecide outside args probe left transaction
          (later.toSlotDocuments outside.isalnum)) ∧
    ∀ path events, (∀ event ∈ events, WellFormed event ∧ DigestInForm event) →
      ∀ printed shown,
      (abUpdateReplay outside beyond (args.drill ⟨path, .arr events⟩)).run printed =
        .ok (some 0) shown →
      ∃ later log transaction, shown = printed ++ [replayOutput outside later log transaction] ∧
        IdentifiersDecide outside args probe left transaction
          (later.toSlotDocuments outside.isalnum) := by
  constructor
  · intro inForm screen shown ran
    obtain ⟨_, _, ⟨machine, healthProbe, fallback, transaction, loaded, initial, plannable,
      rendered, rfl⟩, rfl⟩ := (plan_run outside args screen shown 0).mp ran
    obtain ⟨_, _, opened⟩ := opening_ok initial args plannable
    have replays := @planned_replayed beyond args machine
    rw [opened] at replays
    have planned : device.run machine [_] = args.planned fallback machine :=
      loop_device (.cons (event_reads args) .nil) (replayed_ok.mp replays)
    rw [← planned] at rendered ⊢
    have wellFormed : ∀ event ∈ [Event.begin args.payloadDigest args.payloadRef args.version],
        event.WellFormed := List.forall_mem_singleton.mpr inForm
    exact ⟨_, _, rfl, run_decided pair slots gate loaded wellFormed rfl ascii rendered⟩
  · intro path events formed printed shown ran
    obtain ⟨machine, healthProbe, loaded⟩ := replay_loads ran
    obtain ⟨_, reads⟩ := well_formed_reads fun event listed => (formed event listed).1
    obtain ⟨log, later, transaction, looped, rendered, rfl⟩ :=
      (abUpdateReplay_ok loaded rfl printed shown).mp ran
    have replayed := loop_device reads (replayed_ok.mp looped)
    have wellFormed := reads_wellFormed reads fun event listed => (formed event listed).2
    rw [← replayed] at rendered ⊢
    exact ⟨_, log, _, rfl, run_decided pair slots gate loaded wellFormed rfl ascii rendered⟩

theorem identifiers_decide_validity_example :
    ∃ shown, (abUpdatePlan exampleOutside examplePlan).run {} = .ok (some 0) shown ∧
      ∃ later transaction,
        shown = ⟨[] ++ [planOutput exampleOutside later transaction], []⟩ ∧
        updateTransactionSchema.valid transaction = true ∧
        ∀ slot ∈ later.toSlotDocuments exampleOutside.isalnum, updateSlotSchema.valid slot = true := by
  have ⟨machine, healthProbe, fallback, loaded, contracted⟩ :=
    accepted_contracted exampleMachine_built.pair rfl (drill_accepted [])
  have ⟨_, rendered⟩ := planned_rendered examplePlan fallback machine
  have ran := (plan_run exampleOutside examplePlan {} _ 0).mpr ⟨rfl, _, ⟨machine, healthProbe,
    fallback, _, loaded, contracted.initial, contracted.plannable, rendered,
    rfl⟩, rfl⟩
  have ⟨later, transaction, shows, decided⟩ := (identifiers_decide_validity exampleOutside
    unannotated (fun _ _ => rfl) examplePlan exampleActive exampleCandidate
    exampleMachine_built.pair rfl _ rfl).1 (by decide +kernel) {} _ ran
  refine ⟨_, ran, later, transaction, shows, decided.transaction.mpr ⟨by decide +kernel, ?_, ?_⟩,
    decided.slots.mpr ⟨_, rfl, by decide +kernel⟩⟩
  · exact ⟨_, rfl, by decide +kernel⟩
  · exact ⟨_, rfl, by decide +kernel⟩

end SourceosBoot.AbUpdate
