import Mathlib.Tactic.FinCases
import SourceosBoot.Evidence.ValidateSchema

set_option autoImplicit false

namespace SourceosBoot.Evidence

open Python

namespace BootVerificationSchema

def oneOf (choices : List String) : Schema where
  enum := some (choices.map .str)

def fixed (text : String) : Schema where
  const := some (.str text)

def text : Schema where
  type := some ["string"]

def textOrNull : Schema where
  type := some ["string", "null"]

def flag : Schema where
  type := some ["boolean"]

def closed (required : List String) (properties : List (String × Schema)) : Schema where
  type := some ["object"]
  additionalProperties := .forbidden
  required := required
  properties := properties

def deviceClaim : Schema :=
  closed ["device_id", "platform", "claim_ref", "claim_status"] [
    ("device_id", text),
    ("platform", oneOf ["apple-silicon", "uefi-x86_64", "uefi-aarch64", "generic-arm64"]),
    ("claim_ref", textOrNull),
    ("claim_status", oneOf ["verified", "failed", "missing"])]

def boot : Schema :=
  closed ["manifest_hash", "selected_release_set", "boot_mode"] [
    ("manifest_hash", textOrNull),
    ("selected_release_set", textOrNull),
    ("boot_mode", oneOf ["normal", "recovery", "rollback", "rescue", "installer"])]

def verification : Schema :=
  closed ["verification_result", "attestation_ref"] [
    ("verification_result", oneOf ["pass", "fail", "not_run"]),
    ("attestation_ref", textOrNull)]

def rollbackRecovery : Schema :=
  closed ["rollback_available", "recovery_available", "rollback_ref", "recovery_ref"] [
    ("rollback_available", flag),
    ("recovery_available", flag),
    ("rollback_ref", textOrNull),
    ("recovery_ref", textOrNull)]

def trustChainRefs : Schema :=
  closed ["policy_profile_ref", "admission_decision_ref", "runtime_receipt_ref"] [
    ("policy_profile_ref", textOrNull),
    ("admission_decision_ref", textOrNull),
    ("runtime_receipt_ref", textOrNull)]

def effects : Schema :=
  closed ["boot_allowed", "install_allowed", "rollback_allowed", "repair_required",
      "human_review_required"] [
    ("boot_allowed", flag),
    ("install_allowed", flag),
    ("rollback_allowed", flag),
    ("repair_required", flag),
    ("human_review_required", flag)]

def remediationStep : Schema :=
  closed ["step_id", "authority", "required_before_admission", "instruction"] [
    ("step_id", text),
    ("authority", text),
    ("required_before_admission", flag),
    ("instruction", text)]

end BootVerificationSchema

open BootVerificationSchema in
/-- `schemas/trust-chain-boot-verification-evidence.v0.1.schema.json`. -/
def evidenceSchema : Schema :=
  closed ["schema_version", "evidence_id", "evidence_type", "boot_release_set_ref", "device_claim",
      "boot", "verification", "rollback_recovery", "trust_chain_refs", "decision", "effects",
      "non_claims"] [
    ("schema_version", fixed "0.1"),
    ("evidence_id", {
      type := some ["string"]
      pattern := some ⟨.literal "sourceos-boot:trust-chain-boot-verification:", false⟩ }),
    ("evidence_type", fixed "TrustChainBootVerificationEvidence"),
    ("boot_release_set_ref", { type := some ["string"], minLength := 1 }),
    ("device_claim", deviceClaim),
    ("boot", boot),
    ("verification", verification),
    ("rollback_recovery", rollbackRecovery),
    ("trust_chain_refs", trustChainRefs),
    ("decision", oneOf ["verified", "blocked", "review_required"]),
    ("effects", effects),
    ("remediation", { type := some ["array"], items := some remediationStep }),
    ("non_claims", { type := some ["array"], items := some text, minItems := 1 })]

def member (record : Json) (group key : String) : Except Raised Json := do
  -- `record.get(group, {}).get(key)`.
  (← record.getD group (.obj [])).getD key .null

def chainRefs : List String :=
  ["policy_profile_ref", "admission_decision_ref", "runtime_receipt_ref"]

def validateVerified (record : Json) (path : String) : Except Raised Unit := do
  let decision ← record.getD "decision" .null
  failWhen (Json.pyEq decision (.str "verified") = false)
    s!"{path}: verified fixture must have decision=verified"
  let status ← member record "device_claim" "claim_status"
  failWhen (Json.pyEq status (.str "verified") = false)
    s!"{path}: verified fixture requires verified device claim"
  let claim ← member record "device_claim" "claim_ref"
  failWhen (claim.truthy = false) s!"{path}: verified fixture requires claim_ref"
  let manifest ← member record "boot" "manifest_hash"
  failWhen (manifest.truthy = false) s!"{path}: verified fixture requires manifest_hash"
  let result ← member record "verification" "verification_result"
  failWhen (Json.pyEq result (.str "pass") = false)
    s!"{path}: verified fixture requires verification_result=pass"
  let attestation ← member record "verification" "attestation_ref"
  failWhen (attestation.truthy = false) s!"{path}: verified fixture requires attestation_ref"
  let refs ← record.getD "trust_chain_refs" (.obj [])
  chainRefs.forM fun key => do
    let ref ← refs.getD key .null
    failWhen (ref.truthy = false) s!"{path}: verified fixture missing trust_chain_refs.{key}"
  let effects ← record.getD "effects" (.obj [])
  let bootAllowed ← effects.getD "boot_allowed" .null
  let installAllowed ← effects.getD "install_allowed" .null
  -- `is not True`: nothing that merely counts as true will do.
  failWhen (bootAllowed.isBool true = false ∨ installAllowed.isBool true = false)
    s!"{path}: verified fixture must allow boot and install"
  let repair ← effects.getD "repair_required" .null
  let review ← effects.getD "human_review_required" .null
  failWhen (repair.isBool false = false ∨ review.isBool false = false)
    s!"{path}: verified fixture must not require repair or review"

def checkRemediationItem (path : String) (item : Json) : Except Raised Unit := do
  let required ← item.getD "required_before_admission" .null
  failWhen (required.isBool true = false)
    s!"{path}: remediation must be required before admission"
  let authority ← item.getD "authority" .null
  failWhen (authority.truthy = false) s!"{path}: remediation requires authority"

def checkRemediation (path : String) : Json → Except Raised Unit
  | .arr (first :: rest) => (first :: rest).forM (checkRemediationItem path)
  | _ => raise validationError s!"{path}: blocked fixture requires remediation"

def validateBlocked (record : Json) (path : String) : Except Raised Unit := do
  let decision ← record.getD "decision" .null
  failWhen (Json.pyEq decision (.str "blocked") = false)
    s!"{path}: blocked fixture must have decision=blocked"
  let status ← member record "device_claim" "claim_status"
  failWhen (Json.pyEq status (.str "verified") = true)
    s!"{path}: blocked fixture must not have verified claim_status"
  let manifest ← member record "boot" "manifest_hash"
  failWhen (manifest.pyType ≠ "NoneType")
    s!"{path}: blocked fixture should not carry manifest_hash"
  let result ← member record "verification" "verification_result"
  failWhen (Json.pyEq result (.str "pass") = true)
    s!"{path}: blocked fixture must not have verification_result=pass"
  let effects ← record.getD "effects" (.obj [])
  let bootAllowed ← effects.getD "boot_allowed" .null
  let installAllowed ← effects.getD "install_allowed" .null
  failWhen (bootAllowed.isBool false = false ∨ installAllowed.isBool false = false)
    s!"{path}: blocked fixture must deny boot and install"
  let repair ← effects.getD "repair_required" .null
  let review ← effects.getD "human_review_required" .null
  failWhen (repair.isBool true = false ∨ review.isBool true = false)
    s!"{path}: blocked fixture must require repair and human review"
  checkRemediation path (← record.getD "remediation" (.arr []))

/-- `validate_file`, once the two documents are loaded. -/
def validateFile (record : Json) (path : String) : Except Raised Unit := do
  validateSchema evidenceSchema record "$"
  let decision ← record.getD "decision" .null
  if Json.pyEq decision (.str "verified") then validateVerified record path
  else if Json.pyEq decision (.str "blocked") then validateBlocked record path
  -- The third decision of the schema ends here.
  else .ok ()

def field (record : Json) (group key : String) : Option Json :=
  (record.get? group).bind fun members => members.get? key

def NonEmptyText (value : Option Json) : Prop :=
  ∃ text, text ≠ "" ∧ value = some (.str text)

def Admits (record : Json) : Prop :=
  field record "effects" "boot_allowed" = some (.bool true) ∨
    field record "effects" "install_allowed" = some (.bool true)

structure Evidenced (record : Json) : Prop where
  claim_verified : field record "device_claim" "claim_status" = some (.str "verified")
  claim_ref : NonEmptyText (field record "device_claim" "claim_ref")
  manifest_hash : NonEmptyText (field record "boot" "manifest_hash")
  attestation_ref : NonEmptyText (field record "verification" "attestation_ref")
  passed : field record "verification" "verification_result" = some (.str "pass")
  chain_refs : ∀ key ∈ chainRefs, NonEmptyText (field record "trust_chain_refs" key)

theorem getD_null {found : Option Json} {item : Json} (known : item = found.getD .null)
    (present : item ≠ .null) : found = some item := by
  cases found <;> simp_all

theorem member_ok {record item : Json} {group key : String}
    (returned : member record group key = .ok item) :
    item = (field record group key).getD .null := by
  obtain ⟨members, found, inner⟩ := (bind_ok _ _ _).mp returned
  have outer := Json.getD_ok found
  rw [field, Json.getD_ok inner, outer]
  cases record.get? group <;> rfl

theorem member_is_text {record : Json} {group key text : String}
    (returned : member record group key = .ok (.str text)) :
    field record group key = some (.str text) :=
  getD_null (member_ok returned) nofun

section Schema

variable {record : Json} (accepted : validateSchema evidenceSchema record "$" = .ok ())
include accepted

theorem accepted_decision :
    ∃ decision ∈ ["verified", "blocked", "review_required"],
      record.get? "decision" = some (.str decision) := by
  obtain ⟨item, found, checked⟩ := accepted_member accepted rfl "decision" (by decide)
    (BootVerificationSchema.oneOf ["verified", "blocked", "review_required"]) rfl
  obtain ⟨choice, listed, equal⟩ := accepted_enum checked _ rfl
  obtain ⟨decision, known, rfl⟩ := List.mem_map.mp listed
  exact ⟨decision, known, by rw [found, (Json.pyEq_str _ _).mp equal]⟩

theorem accepted_field {group key : String} {outer inner : Schema}
    (known : evidenceSchema.properties.lookup group = some outer)
    (required : group ∈ evidenceSchema.required) (object : outer.type = some ["object"])
    (innerKnown : outer.properties.lookup key = some inner) (innerRequired : key ∈ outer.required) :
    ∃ item, field record group key = some item ∧
      validateSchema inner item s!"$.{group}.{key}" = .ok () := by
  obtain ⟨members, found, checked⟩ := accepted_member accepted rfl group required outer known
  obtain ⟨item, present, checkedItem⟩ :=
    accepted_member checked object key innerRequired inner innerKnown
  exact ⟨item, by rw [field, found, Option.bind_some, present], checkedItem⟩

theorem accepted_text {group key : String} {outer : Schema} {item : Json}
    (known : evidenceSchema.properties.lookup group = some outer)
    (required : group ∈ evidenceSchema.required) (object : outer.type = some ["object"])
    (innerKnown : outer.properties.lookup key = some BootVerificationSchema.textOrNull)
    (innerRequired : key ∈ outer.required)
    (returned : item = (field record group key).getD .null) (truthy : item.truthy = true) :
    NonEmptyText (field record group key) := by
  obtain ⟨value, found, checked⟩ :=
    accepted_field accepted known required object innerKnown innerRequired
  rw [found, Option.getD_some] at returned
  subst returned
  obtain ⟨name, listed, matching⟩ := accepted_type checked _ rfl
  rw [found]
  cases item with
  | str text => exact ⟨text, by simpa [Json.truthy] using truthy, rfl⟩
  | null => simp [Json.truthy] at truthy
  | _ =>
    rcases List.mem_pair.mp listed with rfl | rfl <;>
      simp [typeMatches, jsonTypeName] at matching

end Schema

theorem validateVerified_evidenced {record : Json} {path : String}
    (accepted : validateSchema evidenceSchema record "$" = .ok ())
    (checked : validateVerified record path = .ok ()) : Evidenced record := by
  simp only [validateVerified, ↓then_ok, bind_ok, failWhen_ok, Bool.not_eq_false,
    Json.pyEq_str, forM_ok] at checked
  obtain ⟨_, _, _, _, status, rfl, claim, claimFound, claimTruthy, manifest, manifestFound,
    manifestTruthy, _, result, rfl, attestation, attestationFound, attestationTruthy, refs,
    refsFound, refsTruthy, _⟩ := checked
  refine ⟨member_is_text status, ?_, ?_, ?_, member_is_text result, fun key listed => ?_⟩
  · exact accepted_text accepted rfl (by decide) rfl rfl (by decide) (member_ok claimFound) claimTruthy
  · exact accepted_text accepted rfl (by decide) rfl rfl (by decide) (member_ok manifestFound)
      manifestTruthy
  · exact accepted_text accepted rfl (by decide) rfl rfl (by decide) (member_ok attestationFound)
      attestationTruthy
  · obtain ⟨ref, found, truthy⟩ := refsTruthy key listed
    have returned : member record "trust_chain_refs" key = .ok ref :=
      (bind_ok _ _ _).mpr ⟨refs, refsFound, found⟩
    have text : BootVerificationSchema.trustChainRefs.properties.lookup key =
        some BootVerificationSchema.textOrNull := by
      fin_cases listed <;> rfl
    exact accepted_text accepted rfl (by decide) rfl text listed (member_ok returned) truthy

theorem validateBlocked_denies {record : Json} {path : String}
    (checked : validateBlocked record path = .ok ()) : ¬ Admits record := by
  simp only [validateBlocked, ↓then_ok, bind_ok, failWhen_ok, not_or, Bool.not_eq_false,
    Json.isBool_iff] at checked
  obtain ⟨_, _, _, _, _, _, _, _, _, _, _, _, effects, found, _, bootFound, _, installFound,
    ⟨rfl, rfl⟩, _⟩ := checked
  have boot : member record "effects" "boot_allowed" = .ok (.bool false) :=
    (bind_ok _ _ _).mpr ⟨effects, found, bootFound⟩
  have install : member record "effects" "install_allowed" = .ok (.bool false) :=
    (bind_ok _ _ _).mpr ⟨effects, found, installFound⟩
  rintro (admitted | admitted)
  · simpa [admitted] using member_ok boot
  · simpa [admitted] using member_ok install

theorem validateFile_cases {record : Json} {path : String}
    (checked : validateFile record path = .ok ()) :
    validateSchema evidenceSchema record "$" = .ok () ∧
    ((record.get? "decision" = some (.str "verified") ∧ validateVerified record path = .ok ()) ∨
     (record.get? "decision" = some (.str "blocked") ∧ validateBlocked record path = .ok ()) ∨
      record.get? "decision" = some (.str "review_required")) := by
  rw [validateFile, then_ok, bind_ok] at checked
  obtain ⟨accepted, decision, returned, rules⟩ := checked
  refine ⟨accepted, ?_⟩
  have asked := Json.getD_ok returned
  obtain ⟨name, listed, found⟩ := accepted_decision accepted
  rw [found, Option.getD_some] at asked
  subst asked
  rw [found]
  fin_cases listed
  · exact .inl ⟨rfl, by simpa using rules⟩
  · exact .inr (.inl ⟨rfl, by simpa using rules⟩)
  · exact .inr (.inr rfl)

theorem review_required_unchecked {record : Json} (path : String)
    (decision : record.get? "decision" = some (.str "review_required")) :
    validateFile record path = validateSchema evidenceSchema record "$" := by
  cases record with
  | obj members =>
    have asked : (Json.obj members).getD "decision" .null = .ok (.str "review_required") := by
      rw [Json.get?] at decision
      rw [Json.getD, decision, Option.getD_some]
    cases checked : validateSchema evidenceSchema (.obj members) "$" with
    | error raised => rw [validateFile, checked]; rfl
    | ok => rw [validateFile, checked, asked]; rfl
  | _ => cases decision

def reviewedWithoutEvidence : Json := .obj [
  ("schema_version", .str "0.1"),
  ("evidence_id", .str "sourceos-boot:trust-chain-boot-verification:demo-m2-003"),
  ("evidence_type", .str "TrustChainBootVerificationEvidence"),
  ("boot_release_set_ref", .str "boot-release-set://sourceos/recovery-m2@0.1.0"),
  ("device_claim", .obj [
    ("device_id", .str "device-demo-m2"),
    ("platform", .str "apple-silicon"),
    ("claim_ref", .null),
    ("claim_status", .str "missing")]),
  ("boot", .obj [
    ("manifest_hash", .null),
    ("selected_release_set", .str "boot-release-set://sourceos/recovery-m2@0.1.0"),
    ("boot_mode", .str "recovery")]),
  ("verification", .obj [
    ("verification_result", .str "fail"),
    ("attestation_ref", .null)]),
  ("rollback_recovery", .obj [
    ("rollback_available", .bool true),
    ("recovery_available", .bool true),
    ("rollback_ref", .str "rollback://sourceos/recovery-m2@0.0.9"),
    ("recovery_ref", .str "recovery://sourceos/recovery-m2@0.1.0")]),
  ("trust_chain_refs", .obj [
    ("policy_profile_ref", .null),
    ("admission_decision_ref", .null),
    ("runtime_receipt_ref", .null)]),
  ("decision", .str "review_required"),
  ("effects", .obj [
    ("boot_allowed", .bool true),
    ("install_allowed", .bool true),
    ("rollback_allowed", .bool true),
    ("repair_required", .bool false),
    ("human_review_required", .bool true)]),
  ("non_claims", .arr [.str "This record does not mutate live boot entries."])]

theorem reviewedWithoutEvidence_accepted (path : String) :
    validateFile reviewedWithoutEvidence path = .ok () := by
  rw [review_required_unchecked path rfl]
  decide +kernel

theorem reviewedWithoutEvidence_admits : Admits reviewedWithoutEvidence := .inl rfl

theorem reviewedWithoutEvidence_unevidenced : ¬ Evidenced reviewedWithoutEvidence := by
  intro evidenced
  obtain ⟨text, _, found⟩ := evidenced.manifest_hash
  cases found

theorem accepted_boot_without_evidence :
    validateFile reviewedWithoutEvidence "evidence.json" = .ok () ∧
      Admits reviewedWithoutEvidence ∧ ¬ Evidenced reviewedWithoutEvidence :=
  ⟨reviewedWithoutEvidence_accepted _, reviewedWithoutEvidence_admits,
    reviewedWithoutEvidence_unevidenced⟩

theorem admission_evidenced_iff_not_under_review (decision : Option Json) :
    (∀ record path, record.get? "decision" = decision → validateFile record path = .ok () →
      Admits record → Evidenced record) ↔
    decision ≠ some (.str "review_required") := by
  constructor
  · rintro evidenced rfl
    exact reviewedWithoutEvidence_unevidenced (evidenced reviewedWithoutEvidence "evidence.json" rfl
      (reviewedWithoutEvidence_accepted _) reviewedWithoutEvidence_admits)
  · rintro decided record path rfl checked admits
    obtain ⟨accepted, verified | blocked | reviewed⟩ := validateFile_cases checked
    · exact validateVerified_evidenced accepted verified.2
    · exact absurd admits (validateBlocked_denies blocked.2)
    · exact absurd reviewed decided

end SourceosBoot.Evidence
