import SourceosBoot.Evidence.BootVerification
import SourceosBoot.Evidence.KnownKeywords

set_option autoImplicit false

-- Three members of the evidence schema use a keyword the interpreter passes over. An accepted
-- record is valid when these three are.

namespace SourceosBoot.Evidence

open Python

section Groups

variable {child : Schema} {required : List String} {properties : List (String × Schema)}

theorem typed_understood (names : List String) : Understood { type := some names } :=
  @Understood.of (some names) none none [] [] .absent none (by simp) nofun nofun nofun

@[simp] theorem text_understood : Understood BootVerificationSchema.text := typed_understood _

@[simp] theorem textOrNull_understood : Understood BootVerificationSchema.textOrNull :=
  typed_understood _

@[simp] theorem flag_understood : Understood BootVerificationSchema.flag := typed_understood _

@[simp] theorem fixed_understood (text : String) :
    Understood (BootVerificationSchema.fixed text) :=
  @Understood.of none (some text) none [] [] .absent none (by simp) nofun nofun nofun

@[simp] theorem oneOf_understood (choices : List String) :
    Understood (BootVerificationSchema.oneOf choices) :=
  @Understood.of none none (some choices) [] [] .absent none (by simp) nofun nofun nofun

theorem array_understood (understood : Understood child) :
    Understood { type := some ["array"], items := some child } :=
  @Understood.of (some ["array"]) none none [] [] .absent (some child) (by simp) nofun nofun
    fun _ is => Option.some.inj is ▸ understood

theorem closed_understood (named : (properties.map Prod.fst).Nodup)
    (members : ∀ property ∈ properties, Understood property.2) :
    Understood (BootVerificationSchema.closed required properties) :=
  @Understood.of (some ["object"]) none none required properties .forbidden none named members
    nofun nofun

end Groups

open BootVerificationSchema

/-- The members whose schema uses a keyword the interpreter does not know. -/
def skippedKeywords : List (String × Schema) := [
  ("evidence_id", {
    type := some ["string"]
    pattern := some ⟨.literal "sourceos-boot:trust-chain-boot-verification:", false⟩ }),
  ("boot_release_set_ref", { type := some ["string"], minLength := 1 }),
  ("non_claims", { type := some ["array"], items := some text, minItems := 1 })]

theorem evidence_properties :
    ∀ property ∈ evidenceSchema.properties, Understood property.2 ∨ property ∈ skippedKeywords := by
  have deviceClaim : Understood deviceClaim := closed_understood (by decide) (by simp)
  have boot : Understood boot := closed_understood (by decide) (by simp)
  have verification : Understood verification := closed_understood (by decide) (by simp)
  have rollbackRecovery : Understood rollbackRecovery := closed_understood (by decide) (by simp)
  have trustChainRefs : Understood trustChainRefs := closed_understood (by decide) (by simp)
  have effects : Understood effects := closed_understood (by decide) (by simp)
  have remediationStep : Understood remediationStep := closed_understood (by decide) (by simp)
  simp only [evidenceSchema, closed, List.forall_mem_cons]
  exact ⟨.inl (fixed_understood _), .inr (.head _), .inl (fixed_understood _),
    .inr (.tail _ (.head _)), .inl deviceClaim, .inl boot, .inl verification,
    .inl rollbackRecovery, .inl trustChainRefs, .inl (oneOf_understood _), .inl effects,
    .inl (array_understood remediationStep), .inr (.tail _ (.tail _ (.head _))), nofun⟩

structure Identified (record : Json) : Prop where
  evidence_id : ∀ text, record.get? "evidence_id" = some (.str text) →
    startswith text "sourceos-boot:trust-chain-boot-verification:" = true
  boot_release_set_ref : record.get? "boot_release_set_ref" ≠ some (.str "")
  non_claims : record.get? "non_claims" ≠ some (.arr [])

section Members

variable {schema child : Schema} {value : Json} {path : String}

theorem accepted_string (accepted : validateSchema schema value path = .ok ())
    (typed : schema.type = some ["string"]) : ∃ text, value = .str text := by
  have matching := type_sound accepted
  rw [typed] at matching
  cases value <;> simp [Schema.typeOk, Schema.hasType] at matching ⊢

theorem accepted_array (accepted : validateSchema schema value path = .ok ())
    (typed : schema.type = some ["array"]) (understood : Understood child)
    (known : schema.items = some child) :
    ∃ elements, value = .arr elements ∧ elements.all child.valid = true := by
  have matching := type_sound accepted
  rw [typed] at matching
  cases value with
  | arr elements =>
    refine ⟨elements, rfl, List.all_eq_true.mpr fun item listed => ?_⟩
    obtain ⟨_, checked⟩ := accepted_items accepted elements rfl child known item listed
    exact understood.sound checked
  | _ => simp [Schema.typeOk, Schema.hasType] at matching

theorem nonEmptyArray_valid {elements : List Json} (each : elements.all child.valid = true) :
    Schema.valid { type := some ["array"], items := some child, minItems := 1 } (.arr elements) =
      true ↔ elements ≠ [] := by
  rw [Schema.array_valid, each, Bool.and_true]
  simp [Schema.arrayOk, Nat.one_le_iff_ne_zero]

end Members

section Coverage

variable {record : Json} (accepted : validateSchema evidenceSchema record "$" = .ok ())
include accepted

theorem valid_iff_skipped :
    evidenceSchema.valid record = true ↔ ∀ property ∈ skippedKeywords,
      ∀ item, record.get? property.1 = some item → property.2.valid item = true := by
  constructor
  · intro valid property skipped
    have listed : property ∈ evidenceSchema.properties := by
      revert property
      simp [skippedKeywords, evidenceSchema, closed]
    exact ((Schema.valid_iff _ _).mp valid).properties property.1 property.2 listed
  · intro skipped
    refine (Schema.valid_iff _ _).mpr {
      type := type_sound accepted
      required := required_sound accepted
      additionalProperties := extra_sound accepted nofun
      properties := ?_
      const := rfl, enum := rfl, pattern := rfl
      minLength := Schema.minLengthOk_absent record
      array := Schema.arrayOk_absent record
      range := Schema.rangeOk_absent record
      items := nofun, allOf := nofun, anyOf := nofun, not := nofun, ifThen := nofun }
    intro key child listed item found
    rcases evidence_properties (key, child) listed with understood | passedOver
    · cases record with
      | obj members =>
        have checked := (accepted_members accepted members rfl).2 key child item
          (lookup_of_mem (by decide) listed) found
        exact understood.sound checked
      | _ => cases found
    · exact skipped (key, child) passedOver item found

theorem skipped_iff_identified :
    (∀ property ∈ skippedKeywords, ∀ item, record.get? property.1 = some item →
      property.2.valid item = true) ↔ Identified record := by
  obtain ⟨item, idFound, checked⟩ := accepted_member accepted rfl "evidence_id" (by decide) _ rfl
  obtain ⟨id, rfl⟩ := accepted_string checked rfl
  obtain ⟨item, refFound, checked⟩ :=
    accepted_member accepted rfl "boot_release_set_ref" (by decide) _ rfl
  obtain ⟨ref, rfl⟩ := accepted_string checked rfl
  obtain ⟨item, claimsFound, checked⟩ :=
    accepted_member accepted rfl "non_claims" (by decide) _ rfl
  obtain ⟨claims, rfl, each⟩ := accepted_array checked rfl text_understood rfl
  simp only [skippedKeywords, List.forall_mem_cons, idFound, refFound, claimsFound,
    Option.some.injEq, forall_eq', Schema.pattern_valid, Schema.text_valid,
    nonEmptyArray_valid each]
  constructor
  · rintro ⟨named, given, claimed, _⟩
    refine ⟨fun text found => ?_, by simpa [refFound] using given, by simpa [claimsFound] using claimed⟩
    cases idFound.symm.trans found
    rwa [startswith, ← Regex.matchesStart_literal]
  · rintro ⟨named, given, claimed⟩
    refine ⟨?_, by simpa [refFound] using given, by simpa [claimsFound] using claimed, by simp⟩
    have found := named id idFound
    rwa [startswith, ← Regex.matchesStart_literal] at found

end Coverage

theorem accepted_in_schema_iff (record : Json) (path : String)
    (accepted : validateFile record path = .ok ()) :
    evidenceSchema.valid record = true ↔ Identified record := by
  have checked := (validateFile_cases accepted).1
  rw [valid_iff_skipped checked, skipped_iff_identified checked]

/-- `examples/trust-chain-boot-verification.valid.json`, for any non-claims. -/
def verifiedEvidence (nonClaims : List Json) : Json := .obj [
  ("schema_version", .str "0.1"),
  ("evidence_id", .str "sourceos-boot:trust-chain-boot-verification:demo-m2-001"),
  ("evidence_type", .str "TrustChainBootVerificationEvidence"),
  ("boot_release_set_ref", .str "boot-release-set://sourceos/recovery-m2@0.1.0"),
  ("device_claim", .obj [
    ("device_id", .str "device-demo-m2"),
    ("platform", .str "apple-silicon"),
    ("claim_ref", .str "device-claim://sourceos/device-demo-m2/2026-06-01"),
    ("claim_status", .str "verified")]),
  ("boot", .obj [
    ("manifest_hash",
      .str "sha256:aaaaaaaaaaaaaaaaaaaaaaaaaaaaaaaaaaaaaaaaaaaaaaaaaaaaaaaaaaaaaaaa"),
    ("selected_release_set", .str "boot-release-set://sourceos/recovery-m2@0.1.0"),
    ("boot_mode", .str "recovery")]),
  ("verification", .obj [
    ("verification_result", .str "pass"),
    ("attestation_ref",
      .str "attestation://sourceos-boot/device-demo-m2/recovery-m2-0.1.0")]),
  ("rollback_recovery", .obj [
    ("rollback_available", .bool true),
    ("recovery_available", .bool true),
    ("rollback_ref", .str "rollback://sourceos/recovery-m2@0.0.9"),
    ("recovery_ref", .str "recovery://sourceos/recovery-m2@0.1.0")]),
  ("trust_chain_refs", .obj [
    ("policy_profile_ref",
      .str "policy://trust-chain/boot-admission/regulated-enterprise-production"),
    ("admission_decision_ref",
      .str "trust-chain:admit-artifact-response:boot-release-set-demo-m2:allowed"),
    ("runtime_receipt_ref", .str "runtime-receipt://sourceos-boot/demo-m2-001")]),
  ("decision", .str "verified"),
  ("effects", .obj [
    ("boot_allowed", .bool true),
    ("install_allowed", .bool true),
    ("rollback_allowed", .bool true),
    ("repair_required", .bool false),
    ("human_review_required", .bool false)]),
  ("remediation", .arr []),
  ("non_claims", .arr nonClaims)]

theorem accepted_in_schema_iff_fixture :
    let record := verifiedEvidence [.str "This fixture does not mutate live boot entries."]
    evidenceSchema.valid record = true ↔ Identified record :=
  accepted_in_schema_iff _ "examples/trust-chain-boot-verification.valid.json" (by decide +kernel)

theorem empty_non_claims_accepted :
    validateFile (verifiedEvidence []) "evidence.json" = .ok () ∧
      evidenceSchema.valid (verifiedEvidence []) = false := by
  have accepted : validateFile (verifiedEvidence []) "evidence.json" = .ok () := by decide +kernel
  have checked := (validateFile_cases accepted).1
  refine ⟨accepted, ?_⟩
  rw [Bool.eq_false_iff, ne_eq, valid_iff_skipped checked, skipped_iff_identified checked]
  exact fun identified => identified.non_claims rfl

end SourceosBoot.Evidence
