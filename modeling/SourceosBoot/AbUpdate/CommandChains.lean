import SourceosBoot.AbUpdate.PrintedDocuments
import SourceosBoot.AbUpdate.ProbePins
import SourceosBoot.AbUpdate.PromotionChains

set_option autoImplicit false

namespace SourceosBoot.AbUpdate

open Python Transition

/-- Replays from the documents `first`, with what each has printed and the slots left in the end. -/
inductive Drilled (outside : Outside) (beyond : Call → Effect Machine TransitionResult)
    (first : List Json) : List Json → List Json → Prop
  | start : Drilled outside beyond first [] first
  | replay (outputs docs : List Json) (drilled : Drilled outside beyond first outputs docs)
      (args : ReplayArguments) (given : args.slots.content = .arr docs) (events : List Json)
      (listed : args.events.content = .arr events)
      (formed : ∀ event ∈ events, WellFormed event ∧ DigestInForm event) (output : Json)
      (ran : (abUpdateReplay outside beyond args).run [] = .ok (some 0) [output])
      (slots : List Json) (printed : output.get? "slots" = some (.arr slots)) :
      Drilled outside beyond first (outputs ++ [output]) slots

def promotedIn (output : Json) : Option String :=
  if hasMember output "finalPhase" (.str "promoted") then
    (output.get? "transaction").bind fun transaction =>
      (transaction.get? "candidatePayloadDigest").bind asText
  else none

section Replay

variable {outside : Outside} {later : Machine} {log : List Json} {healthProbe transaction : Json}

theorem finalPhase_promoted (machine : Machine) (entries : List Json) (doc : Json) :
    hasMember (replayOutput outside machine entries doc) "finalPhase" (.str "promoted") =
      decide (machine.phase = .promoted) := by
  cases known : machine.phase <;>
    simp [hasMember, replayOutput, Json.get?, Json.lookup, known, Phase.name, Json.jsonEq, Json.same]

theorem promotedIn_output (rendered : later.toTransactionDocument = .ok transaction) :
    promotedIn (replayOutput outside later log (carryingProbe healthProbe transaction)) =
      if later.phase = .promoted then some later.candidateDigest else none := by
  have opened := (rendered_iff later).mp ⟨_, rendered⟩
  cases (toTransactionDocument_opened later opened).symm.trans rendered
  have digest : (carryingProbe healthProbe (.obj (transactionMembers later))).get?
      "candidatePayloadDigest" = some (.str later.candidateDigest) := carryingProbe_get _ _ _
  have shows : (replayOutput outside later log (carryingProbe healthProbe
      (.obj (transactionMembers later)))).get? "transaction" =
    some (carryingProbe healthProbe (.obj (transactionMembers later))) := rfl
  simp only [promotedIn, finalPhase_promoted, decide_eq_true_eq, shows, Option.bind_some, digest]
  rfl

end Replay

theorem Drilled.chain {outside : Outside} {beyond : Call → Effect Machine TransitionResult}
    {first outputs docs : List Json} (drilled : Drilled outside beyond first outputs docs) :
    ∃ past, Chain outside.isalnum first past docs ∧
      promotions past = outputs.filterMap promotedIn := by
  induction drilled with
  | start => exact ⟨[], .start, rfl⟩
  | replay outputs docs _ args given events listed formed output ran slots printed ih =>
    obtain ⟨past, chain, promoted⟩ := ih
    obtain ⟨machine, healthProbe, loaded⟩ := replay_loads ran
    obtain ⟨_, probe, digest, read, _, _, _, _, built⟩ := load_ok.mp loaded
    cases given.symm.trans read
    obtain ⟨typed, reads⟩ := well_formed_reads fun event among => (formed event among).1
    have wellFormed := reads_wellFormed reads fun event among => (formed event among).2
    obtain ⟨log, later, transaction, looped, rendered, shown⟩ :=
      (abUpdateReplay_ok loaded listed [] _).mp ran
    have replayed := loop_device reads (replayed_ok.mp looped)
    cases shown
    obtain rfl : later.toSlotDocuments outside.isalnum = slots := by
      simpa [replayOutput, Json.get?, Json.lookup] using printed
    subst replayed
    refine ⟨past ++ [(machine, typed)], .restart past docs chain _ machine built typed wellFormed, ?_⟩
    rw [promotions_append, promoted, filterMap_concat, promotedIn_output rendered]
    rfl

def GatePinned (sha256 : String → String) (file : JsonFile) : Prop :=
  ∃ probe, file.content = .obj probe ∧ Passes sha256 probe ∧
    (Json.lookup "id" probe).isSome = true

def Keeps (outside : Outside) (args : PlanArguments) (label : SlotLabel) : Prop :=
  ∃ output, (∀ screen, (abUpdatePlan outside args).run screen =
      .ok (some 0) { screen with stdout := screen.stdout ++ [output] }) ∧
    output.get? "preservedSlot" = some (.str label.name) ∧
    output.get? "writeTarget" = some (.str label.other.name)

theorem FallsBackTo.keeps {outside : Outside} {docs : List Json} {label : SlotLabel}
    {digest : String} (fallsBack : FallsBackTo docs label digest) (args : PlanArguments)
    (given : args.slots.content = .arr docs) (pinned : GatePinned outside.sha256 args.probe)
    (someAttempts : 1 ≤ args.maxAttempts) (triesWidth : args.maxAttempts ≤ 7) :
    Keeps outside args label := by
  obtain ⟨probe, gate, passes, named⟩ := pinned
  obtain ⟨digest, computed, recorded⟩ := (passes_iff _ _).mp passes
  obtain ⟨healthProbe, named⟩ := Option.isSome_iff_exists.mp named
  obtain ⟨machine, built, ready⟩ := fallsBack {
    transactionId := args.transactionId
    healthProbeRef := shownText healthProbe
    healthProbeDigest := digest
    maxAttempts := args.maxAttempts
    clock := outside.clock } someAttempts triesWidth
  have loaded : args.load outside = .ok (some machine, healthProbe) :=
    load_ok.mpr ⟨docs, probe, digest, given, gate, computed, recorded, named, built⟩
  obtain ⟨transaction, rendered⟩ := planned_rendered args label machine
  refine ⟨_, fun screen => (plan_run outside args screen _ 0).mpr ⟨rfl, _, ⟨machine, healthProbe,
    label, transaction, loaded, ready.contracted.initial, ready.contracted.plannable, rendered,
    rfl⟩, rfl⟩, rfl, rfl⟩

/--
Whatever is replayed one after another from a contract pair: the printed outputs
tell which slot is active and with which payload, and from the slots printed last
every pinned plan within the budget succeeds and keeps that slot.
-/
theorem outputs_tell_active (outside : Outside) (beyond : Call → Effect Machine TransitionResult)
    (left right : Json) (pair : ContractPair left right)
    (apart : left.get? "slot" ≠ right.get? "slot") (start : SlotLabel) (digest : String)
    (active : ActiveIs [left, right] start digest) (outputs docs : List Json)
    (drilled : Drilled outside beyond [left, right] outputs docs) :
    ActiveIs docs (labelAfter start (outputs.filterMap promotedIn))
      ((outputs.filterMap promotedIn).getLastD digest) ∧
    ∀ args : PlanArguments, args.slots.content = .arr docs →
      GatePinned outside.sha256 args.probe → 1 ≤ args.maxAttempts → args.maxAttempts ≤ 7 →
      Keeps outside args (labelAfter start (outputs.filterMap promotedIn)) := by
  obtain ⟨past, chain, promoted⟩ := drilled.chain
  obtain ⟨activeNow, fallsBack⟩ := chain.settles pair apart active
  rw [promoted] at activeNow fallsBack
  exact ⟨activeNow, fallsBack.keeps⟩

theorem outputs_tell_active_example :
    ∃ output docs,
      Drilled exampleOutside unannotated [exampleActive, exampleCandidate] [output] docs ∧
      ActiveIs docs (labelAfter .A ([output].filterMap promotedIn))
        (([output].filterMap promotedIn).getLastD
          "sha256:b73d34fdc15b73c8efeb4527811459b62addf6e4c4a69730f81244ff0beab97e") ∧
      ∀ args : PlanArguments, args.slots.content = .arr docs →
        GatePinned exampleOutside.sha256 args.probe → 1 ≤ args.maxAttempts →
        args.maxAttempts ≤ 7 →
        Keeps exampleOutside args (labelAfter .A ([output].filterMap promotedIn)) := by
  obtain ⟨_, _, _, loaded, contracted⟩ := accepted_contracted exampleMachine_built.pair rfl
    (drill_accepted [beginEvent])
  have formed : ∀ event ∈ [beginEvent], WellFormed event ∧ DigestInForm event := by
    rw [List.forall_mem_singleton]
    refine ⟨⟨.begin, rfl, ⟨badDigest, rfl⟩, by rintro _ ⟨⟩, by rintro _ ⟨⟩⟩, ?_⟩
    rintro _ _ ⟨⟩
    decide +kernel
  have known : ∀ event ∈ [beginEvent], KnownExpiry event := by
    simp [KnownExpiry, beginEvent, Json.get?, Json.lookup, EventName.name]
  obtain ⟨_, reads⟩ := well_formed_reads fun event listed => (formed event listed).1
  obtain ⟨_, ran, _⟩ := @reports_of_begin exampleOutside unannotated _ _ _ _ _ _ loaded rfl
    contracted reads ⟨beginEvent, by simp, rfl⟩ known []
  obtain ⟨_, later, _, _, _, shown⟩ := (abUpdateReplay_ok loaded rfl [] _).mp ran
  cases shown
  have drilled := Drilled.replay [] _ .start (drill [beginEvent]) rfl [beginEvent] rfl formed _ ran
    (later.toSlotDocuments exampleOutside.isalnum) rfl
  exact ⟨_, _, drilled, outputs_tell_active exampleOutside unannotated exampleActive
    exampleCandidate exampleMachine_built.pair
    (by simp [exampleActive, exampleCandidate, Json.get?, Json.lookup]) .A _
    ⟨exampleActive, rfl, rfl, rfl⟩ _ _ drilled⟩

end SourceosBoot.AbUpdate
