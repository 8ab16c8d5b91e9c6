import SourceosBoot.Evidence.BootVerification
import SourceosBoot.Shared.Batch

set_option autoImplicit false

namespace SourceosBoot.Evidence

open Python

structure VerifiedRules (record : Json) : Prop extends Evidenced record where
  boot : field record "effects" "boot_allowed" = some (.bool true)
  install : field record "effects" "install_allowed" = some (.bool true)
  repair : field record "effects" "repair_required" = some (.bool false)
  review : field record "effects" "human_review_required" = some (.bool false)

def Remedy (step : Json) : Prop :=
  step.get? "required_before_admission" = some (.bool true) ∧ NonEmptyText (step.get? "authority")

structure BlockedRules (record : Json) : Prop where
  claim_status : field record "device_claim" "claim_status" ≠ some (.str "verified")
  manifest_hash : field record "boot" "manifest_hash" = some .null
  result : field record "verification" "verification_result" ≠ some (.str "pass")
  boot : field record "effects" "boot_allowed" = some (.bool false)
  install : field record "effects" "install_allowed" = some (.bool false)
  repair : field record "effects" "repair_required" = some (.bool true)
  review : field record "effects" "human_review_required" = some (.bool true)
  remediation : ∃ steps, record.get? "remediation" = some (.arr steps) ∧ steps ≠ [] ∧
    ∀ step ∈ steps, Remedy step

section Reads

variable {record : Json} (accepted : validateSchema evidenceSchema record "$" = .ok ())
include accepted

theorem record_reads (key : String) (default : Json) :
    record.getD key default = .ok ((record.get? key).getD default) := by
  obtain ⟨name, listed, matching⟩ := accepted_type accepted _ rfl
  rw [List.mem_singleton] at listed
  subst listed
  cases record with
  | obj members => rfl
  | _ => simp [typeMatches, jsonTypeName] at matching

theorem group_reads {group : String} {outer : Schema}
    (known : evidenceSchema.properties.lookup group = some outer)
    (required : group ∈ evidenceSchema.required) (object : outer.type = some ["object"]) :
    ∃ members, record.get? group = some (.obj members) := by
  obtain ⟨item, found, checked⟩ := accepted_member accepted rfl group required outer known
  obtain ⟨name, listed, matching⟩ := accepted_type checked _ object
  rw [List.mem_singleton] at listed
  subst listed
  cases item with
  | obj members => exact ⟨members, found⟩
  | _ => simp [typeMatches, jsonTypeName] at matching

theorem member_reads {group : String} {outer : Schema}
    (known : evidenceSchema.properties.lookup group = some outer)
    (required : group ∈ evidenceSchema.required) (object : outer.type = some ["object"])
    (key : String) : member record group key = .ok ((field record group key).getD .null) := by
  obtain ⟨members, found⟩ := group_reads accepted known required object
  rw [member, record_reads accepted, field, found]
  rfl

theorem truthy_iff {group key : String} {outer : Schema}
    (known : evidenceSchema.properties.lookup group = some outer)
    (required : group ∈ evidenceSchema.required) (object : outer.type = some ["object"])
    (innerKnown : outer.properties.lookup key = some BootVerificationSchema.textOrNull)
    (innerRequired : key ∈ outer.required) :
    ((field record group key).getD .null).truthy = true ↔ NonEmptyText (field record group key) := by
  constructor
  · exact accepted_text accepted known required object innerKnown innerRequired rfl
  · rintro ⟨text, filled, found⟩
    simp [found, Json.truthy, filled]

end Reads

theorem inner_reads {record : Json} {group : String} {members : List (String × Json)}
    (found : record.get? group = some (.obj members)) (key : String) :
    (Json.obj members).getD key .null = .ok ((field record group key).getD .null) := by
  rw [field, found]
  rfl

theorem read_iff {found : Option Json} {value : Json} (given : value ≠ .null) :
    found.getD .null = value ↔ found = some value := by
  cases found <;> simp [Ne.symm given]

section Rules

variable {record : Json} (accepted : validateSchema evidenceSchema record "$" = .ok ())
  (path : String)
include accepted

theorem claim_reads (key : String) : member record "device_claim" key =
    .ok ((field record "device_claim" key).getD .null) :=
  member_reads accepted rfl (by decide) rfl key

theorem boot_reads (key : String) : member record "boot" key =
    .ok ((field record "boot" key).getD .null) :=
  member_reads accepted rfl (by decide) rfl key

theorem verification_reads (key : String) : member record "verification" key =
    .ok ((field record "verification" key).getD .null) :=
  member_reads accepted rfl (by decide) rfl key

theorem verified_iff (decision : record.get? "decision" = some (.str "verified")) :
    validateVerified record path = .ok () ↔ VerifiedRules record := by
  obtain ⟨refs, refsFound⟩ : ∃ refs, record.get? "trust_chain_refs" = some (.obj refs) :=
    group_reads accepted rfl (by decide) rfl
  obtain ⟨effects, effectsFound⟩ : ∃ effects, record.get? "effects" = some (.obj effects) :=
    group_reads accepted rfl (by decide) rfl
  have claim : _ ↔ NonEmptyText (field record "device_claim" "claim_ref") :=
    truthy_iff accepted rfl (by decide) rfl rfl (by decide)
  have manifest : _ ↔ NonEmptyText (field record "boot" "manifest_hash") :=
    truthy_iff accepted rfl (by decide) rfl rfl (by decide)
  have attestation : _ ↔ NonEmptyText (field record "verification" "attestation_ref") :=
    truthy_iff accepted rfl (by decide) rfl rfl (by decide)
  have chain : ∀ key ∈ chainRefs,
      (((field record "trust_chain_refs" key).getD .null).truthy = true ↔
        NonEmptyText (field record "trust_chain_refs" key)) := by
    intro key listed
    have text : BootVerificationSchema.trustChainRefs.properties.lookup key =
        some BootVerificationSchema.textOrNull := by
      fin_cases listed <;> rfl
    exact truthy_iff accepted rfl (by decide) rfl text listed
  simp only [validateVerified, ↓then_ok, bind_ok, failWhen_ok, record_reads accepted,
    claim_reads accepted, boot_reads accepted, verification_reads accepted, refsFound,
    effectsFound, inner_reads refsFound, inner_reads effectsFound, decision, Option.getD_some,
    Except.ok.injEq, exists_eq_left', forM_ok, Bool.not_eq_false, not_or, Json.pyEq_str,
    Json.isBool_iff, read_iff, ne_eq, reduceCtorEq, not_false_eq_true, true_and, claim, manifest,
    attestation, forall₂_congr chain]
  constructor
  · rintro ⟨status, claim, manifest, result, attestation, chain, ⟨boot, install⟩, repair, review⟩
    exact ⟨⟨status, claim, manifest, attestation, result, chain⟩, boot, install, repair, review⟩
  · intro rules
    exact ⟨rules.claim_verified, rules.claim_ref, rules.manifest_hash, rules.passed,
      rules.attestation_ref, rules.chain_refs, ⟨rules.boot, rules.install⟩, rules.repair,
      rules.review⟩

theorem manifest_null_iff :
    ((field record "boot" "manifest_hash").getD .null).pyType = "NoneType" ↔
      field record "boot" "manifest_hash" = some .null := by
  obtain ⟨item, found, _⟩ : ∃ item, field record "boot" "manifest_hash" = some item ∧ _ :=
    accepted_field accepted rfl (by decide) rfl rfl (by decide)
  rw [found, Option.getD_some]
  cases item <;> simp [Json.pyType]

omit accepted in
theorem step_iff {step : Json} {place : String}
    (checked : validateSchema BootVerificationSchema.remediationStep step place = .ok ()) :
    checkRemediationItem path step = .ok () ↔ Remedy step := by
  obtain ⟨authority, found, typed⟩ :
      ∃ item, step.get? "authority" = some item ∧
        validateSchema BootVerificationSchema.text item _ = .ok () :=
    accepted_member checked rfl "authority" (by decide) _ rfl
  obtain ⟨name, listed, matching⟩ := accepted_type typed _ rfl
  rw [List.mem_singleton] at listed
  subst listed
  cases step with
  | obj members =>
    have reads (key : String) : (Json.obj members).getD key .null =
      .ok (((Json.obj members).get? key).getD .null) := rfl
    simp only [checkRemediationItem, ↓then_ok, bind_ok, reads, Except.ok.injEq, exists_eq_left',
      failWhen_ok, Bool.not_eq_false, Json.isBool_iff, ne_eq, reduceCtorEq, not_false_eq_true,
      read_iff, found, Option.getD_some, Remedy]
    refine and_congr_right fun _ => ?_
    cases authority with
    | str text => simp [Json.truthy, NonEmptyText]
    | _ => simp [typeMatches, jsonTypeName] at matching
  | _ => simp [Json.get?] at found

theorem remediation_iff :
    checkRemediation path ((record.get? "remediation").getD (.arr [])) = .ok () ↔
      ∃ steps, record.get? "remediation" = some (.arr steps) ∧ steps ≠ [] ∧
        ∀ step ∈ steps, Remedy step := by
  cases found : record.get? "remediation" with
  | none => simp [checkRemediation, raise]
  | some given =>
    have steps_checked : ∀ steps, given = .arr steps → ∀ step ∈ steps,
        (checkRemediationItem path step = .ok () ↔ Remedy step) := by
      rintro steps rfl step listed
      cases record with
      | obj members =>
        have typed := (accepted_members accepted members rfl).2 "remediation" _ _ rfl found
        obtain ⟨_, checked⟩ := accepted_items typed steps rfl _ rfl step listed
        exact step_iff path checked
      | _ => cases found
    cases given with
    | arr steps =>
      cases steps with
      | nil => simp [checkRemediation, raise]
      | cons first rest =>
        simp only [Option.getD_some, checkRemediation, forM_ok, Option.some.injEq, Json.arr.injEq,
          exists_eq_left', ne_eq, reduceCtorEq, not_false_eq_true, true_and]
        exact forall₂_congr (steps_checked _ rfl)
    | _ => simp [checkRemediation, raise]

theorem blocked_iff (decision : record.get? "decision" = some (.str "blocked")) :
    validateBlocked record path = .ok () ↔ BlockedRules record := by
  obtain ⟨effects, effectsFound⟩ : ∃ effects, record.get? "effects" = some (.obj effects) :=
    group_reads accepted rfl (by decide) rfl
  simp only [validateBlocked, ↓then_ok, bind_ok, failWhen_ok, record_reads accepted,
    claim_reads accepted, boot_reads accepted, verification_reads accepted,
    effectsFound, inner_reads effectsFound, decision, Option.getD_some,
    Except.ok.injEq, exists_eq_left', Bool.not_eq_false, not_or, Json.pyEq_str,
    Json.isBool_iff, read_iff, ne_eq, reduceCtorEq, not_false_eq_true, true_and, not_not,
    manifest_null_iff accepted, remediation_iff accepted]
  constructor
  · rintro ⟨status, manifest, result, ⟨boot, install⟩, ⟨repair, review⟩, remediation⟩
    exact ⟨status, manifest, result, boot, install, repair, review, remediation⟩
  · intro rules
    exact ⟨rules.claim_status, rules.manifest_hash, rules.result, ⟨rules.boot, rules.install⟩,
      ⟨rules.repair, rules.review⟩, rules.remediation⟩

end Rules

theorem validateFile_iff (record : Json) (path : String) :
    validateFile record path = .ok () ↔
      validateSchema evidenceSchema record "$" = .ok () ∧
      (record.get? "decision" = some (.str "verified") → VerifiedRules record) ∧
      (record.get? "decision" = some (.str "blocked") → BlockedRules record) := by
  rw [validateFile, then_ok]
  refine and_congr_right fun accepted => ?_
  obtain ⟨decision, listed, found⟩ := accepted_decision accepted
  rw [record_reads accepted, found, bind_ok]
  simp only [Option.getD_some, Except.ok.injEq, exists_eq_left']
  fin_cases listed
  · simp [verified_iff accepted path found]
  · simp [blocked_iff accepted path found]
  · simp

inductive Reading
  | document (value : Json)
  | missing
  | malformed (message : String)
  | failed (raised : Raised)

structure Files where
  root : String
  read : String → Reading
  relative : String → Except Raised String

def loadJson (files : Files) (path : String) : Except Raised Json :=
  match files.read path with
  | .document value => .ok value
  | .missing => do raise validationError s!"missing file: {← files.relative path}"
  | .malformed message => do
    raise validationError s!"invalid JSON in {← files.relative path}: {message}"
  | .failed raised => .error raised

def validatePath (files : Files) (path : String) : Except Raised Unit := do
  validateFile (← loadJson files path) path

def fixtures (files : Files) : List String :=
  [s!"{files.root}/examples/trust-chain-boot-verification.valid.json",
    s!"{files.root}/examples/trust-chain-boot-verification.blocked.json"]

-- Without arguments the command checks its own two fixtures.
def chosen (files : Files) (args : List String) : List String :=
  if args = [] then fixtures files else args

def main (files : Files) (args : List String) : Int × Batch.Report :=
  let report := Batch.run (validatePath files) (chosen files args)
  (report.exitCode, report)

theorem loadJson_ok (files : Files) (path : String) (record : Json) :
    loadJson files path = .ok record ↔ files.read path = .document record := by
  unfold loadJson
  split
  case h_1 value read => simp [read]
  case h_2 read => cases files.relative path <;> simp [read, raise, bind, Except.bind]
  case h_3 message read => cases files.relative path <;> simp [read, raise, bind, Except.bind]
  case h_4 raised read => simp [read]

/--
The command ends with 0 exactly if every file it is given is a record that the
schema takes and that meets the rules of its decision. It reports every file
once, whatever the others are.
-/
theorem validation_exact (files : Files) (args : List String) :
    ((main files args).1 = 0 ↔ ∀ path ∈ chosen files args, ∃ record,
      files.read path = .document record ∧
      validateSchema evidenceSchema record "$" = .ok () ∧
      (record.get? "decision" = some (.str "verified") → VerifiedRules record) ∧
      (record.get? "decision" = some (.str "blocked") → BlockedRules record)) ∧
    (main files args).2.stdout =
      (chosen files args).filterMap (Batch.passLine (validatePath files)) ∧
    (main files args).2.stderr =
      (chosen files args).filterMap (Batch.failLine (validatePath files)) ∧
    (main files args).2.stdout.length + (main files args).2.stderr.length =
      (chosen files args).length := by
  refine ⟨?_, Batch.run_stdout _ _, Batch.run_stderr _ _, Batch.reported_once _ _⟩
  refine (Batch.exitCode_zero_iff _ _).trans (forall₂_congr fun path _ => ?_)
  simp only [validatePath, bind_ok, loadJson_ok, validateFile_iff]

end SourceosBoot.Evidence
