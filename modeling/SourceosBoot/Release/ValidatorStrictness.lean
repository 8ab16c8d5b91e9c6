import SourceosBoot.Release.ValidatorSoundness
import SourceosBoot.Shared.Batch

set_option autoImplicit false

namespace SourceosBoot.Release

open Python Schema BootReleaseSetSchema

theorem openObject_holds {required : List String} {properties : List (String × Schema)}
    {value : Json} (valid : (openObject required properties).valid value = true) :
    ∃ members, value = .obj members ∧
      (∀ key ∈ required, ∀ child, (key, child) ∈ properties → Holds members key child) ∧
      ∀ property ∈ properties, Fits members property := by
  rw [openObject_valid, Bool.and_eq_true, Bool.and_eq_true] at valid
  obtain ⟨⟨object, present⟩, fits⟩ := valid
  cases value with
  | obj members =>
    rw [requiredOk_obj, List.all_eq_true] at present
    rw [propertiesValid_iff] at fits
    refine ⟨members, rfl, fun key needed child listed => ?_, fun property listed item found =>
      fits property.1 property.2 listed item found⟩
    obtain ⟨item, found⟩ := Option.isSome_iff_exists.mp (present key needed)
    exact ⟨item, found, fits key child listed item found⟩
  | _ => simp [hasType] at object

section Checks

variable {members : List (String × Json)} {key field : String}

theorem text_found (holds : Holds members key text) :
    ∃ letters, Json.lookup key members = some (.str letters) := by
  obtain ⟨item, found, valid⟩ := holds
  rw [text, type_valid] at valid
  cases item with
  | str letters => exact ⟨letters, found⟩
  | _ => simp [typeOk, hasType] at valid

theorem requireString_iff (holds : Holds members key text) :
    requireString ((Json.lookup key members).getD .null) field = .ok () ↔
      memberOf (.obj members) key ≠ .str "" := by
  obtain ⟨letters, found⟩ := text_found holds
  simp [requireString, memberOf, Json.get?, found, isNonEmptyString]

theorem flag_passes (holds : Holds members key flag) :
    isBoolean ((Json.lookup key members).getD .null) = true := by
  obtain ⟨item, found, valid⟩ := holds
  rw [flag, type_valid] at valid
  cases item <;> simp_all [typeOk, hasType, isBoolean]

theorem oneOf_found {choices : List String} (holds : Holds members key (oneOf choices)) :
    ∃ name ∈ choices, Json.lookup key members = some (.str name) := by
  obtain ⟨item, found, valid⟩ := holds
  rw [oneOf, enum_valid] at valid
  obtain ⟨choice, listed, equal⟩ := List.any_eq_true.mp valid
  obtain ⟨name, known, rfl⟩ := List.mem_map.mp listed
  exact ⟨name, known, found.trans (by rw [(Json.same_str _ _ _).mp equal])⟩

theorem isIn_passes {choices : List String} (holds : Holds members key (oneOf choices))
    (next : Bool → Except Raised Unit) :
    (isIn choices ((Json.lookup key members).getD .null) >>= next) = .ok () ↔
      next true = .ok () := by
  obtain ⟨name, known, found⟩ := oneOf_found holds
  have named : inNames choices (.str name) = true := (inNames_iff _ _).mpr ⟨name, known, rfl⟩
  rw [isIn_then, found, Option.getD_some, named]
  simp [Json.hashable]

theorem pattern_passes {body : Regex} (holds : Holds members key (textMatching body))
    (next : Bool → Except Raised Unit) :
    (patternMatch body ((Json.lookup key members).getD (.str "")) >>= next) = .ok () ↔
      next true = .ok () := by
  obtain ⟨item, found, valid⟩ := holds
  have typed : typeOk (some ["string"]) item = true := ((valid_iff _ _).mp valid).type
  cases item with
  | str letters =>
    have whole : body.matchesWhole letters = true := (pattern_valid ⟨body, true⟩ letters).mp valid
    rw [patternMatch_then, found, Option.getD_some]
    constructor
    · rintro ⟨_, ⟨⟩, passed⟩
      rwa [Regex.matchesLine_of_matchesWhole whole] at passed
    · exact fun passed => ⟨letters, rfl, by rwa [Regex.matchesLine_of_matchesWhole whole]⟩
  | _ => simp [typeOk, hasType] at typed

theorem withoutRepeats_distinct {values : List Json}
    (apart : values.Pairwise fun left right => Json.pyEq left right = false) :
    withoutRepeats values = values := by
  induction apart with
  | nil => rfl
  | @cons value rest first _ ih =>
    rw [withoutRepeats, ih, List.filter_eq_self.mpr fun other listed => by simp [first other listed]]

theorem pairwise_of_distinct {values : List Json} {choices : List String}
    (apart : distinct values = true) (named : ∀ item ∈ values, ∃ name ∈ choices, item = .str name) :
    values.Pairwise fun left right => Json.pyEq left right = false := by
  induction values with
  | nil => exact .nil
  | cons value rest ih =>
    simp only [distinct, Bool.and_eq_true, List.all_eq_true] at apart
    rw [List.forall_mem_cons] at named
    obtain ⟨⟨name, _, rfl⟩, later⟩ := named
    refine .cons (fun other listed => ?_) (ih apart.2 later)
    obtain ⟨letters, _, rfl⟩ := later other listed
    simpa [Json.jsonEq, Json.pyEq, Json.same] using apart.1 _ listed

theorem requireEnumList_named {values : List Json} {choices : List String}
    (apart : distinct values = true)
    (named : ∀ item ∈ values, ∃ name ∈ choices, item = .str name) :
    requireEnumList (.arr values) choices field = .ok () ↔ values ≠ [] := by
  have hashable : values.find? (fun value => !value.hashable) = none := by
    refine List.find?_eq_none.mpr fun item listed => ?_
    obtain ⟨name, _, rfl⟩ := named item listed
    simp [Json.hashable]
  have collected : set values = .ok values := by
    rw [set, hashable, withoutRepeats_distinct (pairwise_of_distinct apart named)]
  have inside : values.filter (fun value => !inNames choices value) = [] := by
    refine List.filter_eq_nil_iff.mpr fun item listed => ?_
    simp [(inNames_iff choices item).mpr (named item listed)]
  constructor
  · intro accepted
    simpa using (require_ok _ _).mp ((then_ok _ _ _).mp accepted).1
  · intro nonEmpty
    refine (then_ok _ _ _).mpr ⟨(require_ok _ _).mpr (by simpa using nonEmpty), ?_⟩
    refine (bind_ok _ _ _).mpr ⟨values, collected, ?_⟩
    refine (then_ok _ _ _).mpr ⟨(require_ok _ _).mpr (decide_eq_true rfl), ?_⟩
    exact (bind_ok _ _ _).mpr ⟨[], by rw [inside]; rfl, rfl⟩

theorem requireEnumList_iff {choices : List String} {minItems : Nat}
    (holds : Holds members key (manyOf choices minItems)) :
    requireEnumList ((Json.lookup key members).getD .null) choices field = .ok () ↔
      memberOf (.obj members) key ≠ .arr [] := by
  obtain ⟨item, found, valid⟩ := holds
  have satisfies := (valid_iff _ _).mp valid
  have typed := satisfies.type
  cases item with
  | arr values =>
    have array : arrayOk minItems true (.arr values) = true := satisfies.array
    have named : ∀ item ∈ values, ∃ name ∈ choices, item = .str name := by
      intro item listed
      have choice := satisfies.items (oneOf choices) rfl values rfl item listed
      rw [oneOf, enum_valid] at choice
      obtain ⟨_, known, equal⟩ := List.any_eq_true.mp choice
      obtain ⟨name, listed, rfl⟩ := List.mem_map.mp known
      exact ⟨name, listed, (Json.same_str _ _ _).mp equal⟩
    simp only [arrayOk, Bool.not_true, Bool.false_or, Bool.and_eq_true] at array
    rw [found, Option.getD_some, requireEnumList_named array.2 named]
    simp [memberOf, Json.get?, found]
  | _ => simp [manyOf, typeOk, hasType] at typed

def isFloat : Json → Bool
  | .float _ _ => true
  | _ => false

theorem isIntFrom_iff {least : Int} (fits : Fits members (key, integerFrom least)) :
    ((Json.obj members).get? key).all (isIntFrom least) = true ↔
      isFloat (memberOf (.obj members) key) = false := by
  cases found : Json.lookup key members with
  | none => simp [Json.get?, memberOf, found, isFloat]
  | some item =>
    have satisfies := (valid_iff _ _).mp (fits item found)
    have typed : typeOk (some ["integer"]) item = true := satisfies.type
    have range : rangeOk (some least) none item = true := satisfies.range
    cases item with
    | int number =>
      have most : (least : Rat) ≤ number := by simpa [rangeOk, Json.number] using range
      simp [Json.get?, memberOf, found, isFloat, isIntFrom, Rat.intCast_le_intCast.mp most]
    | float value shown => simp [Json.get?, memberOf, found, isFloat, isIntFrom]
    | _ => simp [typeOk, hasType] at typed

end Checks

section Objects

variable {value : Json}

theorem object_found {members : List (String × Json)} {key : String} {required : List String}
    {properties : List (String × Schema)}
    (holds : Holds members key (openObject required properties)) :
    isDict ((Json.lookup key members).getD .null) = true ∧
      (openObject required properties).valid (memberOf (.obj members) key) = true := by
  obtain ⟨item, found, valid⟩ := holds
  obtain ⟨inner, rfl, _⟩ := openObject_holds valid
  simp [memberOf, Json.get?, found, isDict, valid]

theorem metadata_iff (valid : Checked.metadata.valid value = true) :
    validateMetadata value = .ok () ↔ memberOf value "createdAt" ≠ .str "" := by
  obtain ⟨members, rfl, holds, _⟩ := openObject_holds valid
  have name := holds "name" (by simp) _ (.head _)
  have version := holds "version" (by simp) _ (.tail _ (.head _))
  have createdAt := holds "createdAt" (by simp) text (by simp)
  simp only [validateMetadata, getD_then, then_ok, require_ok, isDict, pattern_passes name,
    pattern_passes version, requireString_iff createdAt, true_and]

theorem policy_iff (valid : Checked.policy.valid value = true) :
    validatePolicy value = .ok () ↔ memberOf value "allowedActions" ≠ .arr [] := by
  obtain ⟨members, rfl, holds, _⟩ := openObject_holds valid
  have network := holds "network" (by simp) _ (.head _)
  have diskWrite := holds "diskWrite" (by simp) _ (.tail _ (.head _))
  have tokenRequired := holds "tokenRequired" (by simp) _ (.tail _ (.tail _ (.head _)))
  have allowedActions := holds "allowedActions" (by simp) _ (.tail _ (.tail _ (.tail _ (.head _))))
  simp only [validatePolicy, getD_then, then_ok, require_ok, isDict, isIn_passes network,
    isIn_passes diskWrite, flag_passes tokenRequired, requireEnumList_iff allowedActions, true_and]

theorem evidence_iff (valid : Checked.evidence.valid value = true) :
    validateEvidence value = .ok () ↔
      memberOf value "correlationId" ≠ .str "" ∧ memberOf value "requiredReports" ≠ .arr [] := by
  obtain ⟨members, rfl, holds, _⟩ := openObject_holds valid
  have correlationId := holds "correlationId" (by simp) _ (.head _)
  have requiredReports := holds "requiredReports" (by simp) _ (.tail _ (.head _))
  simp only [validateEvidence, getD_then, then_ok, require_ok, isDict,
    requireString_iff correlationId, requireEnumList_iff requiredReports, true_and]

theorem signature_passes (valid : Checked.signature.valid value = true) :
    validateSignature value = .ok () := by
  obtain ⟨members, rfl, holds, _⟩ := openObject_holds valid
  have type := holds "type" (by simp) _ (.head _)
  have digest := holds "digest" (by simp) _ (.tail _ (.tail _ (.head _)))
  simp only [validateSignature, getD_then, then_ok, require_ok, isDict, isIn_passes type,
    pattern_passes digest, true_and]

theorem antiRollback_iff (valid : Checked.antiRollback.valid value = true) :
    validateAntiRollback value = .ok () ↔ memberOf value "minimumVersion" ≠ .str "" := by
  obtain ⟨members, rfl, holds, _⟩ := openObject_holds valid
  have minimumVersion := holds "minimumVersion" (by simp) _ (.head _)
  have allowOfflineFallback := holds "allowOfflineFallback" (by simp) _ (.tail _ (.head _))
  simp only [validateAntiRollback, getD_then, then_ok, require_ok, isDict,
    requireString_iff minimumVersion, flag_passes allowOfflineFallback, true_and, and_true]

theorem telemetry_iff (valid : Checked.telemetry.valid value = true) :
    validateTelemetry value = .ok () ↔ memberOf value "metricSet" ≠ .arr [] := by
  obtain ⟨members, rfl, holds, _⟩ := openObject_holds valid
  have traceRequired := holds "traceRequired" (by simp) _ (.head _)
  have metricSet := holds "metricSet" (by simp) _ (.tail _ (.head _))
  simp only [validateTelemetry, getD_then, then_ok, require_ok, isDict, flag_passes traceRequired,
    requireEnumList_iff metricSet, true_and]

theorem trust_iff (valid : Checked.trust.valid value = true) :
    validateTrust value = .ok () ↔
      memberOf value "rootRef" ≠ .str "" ∧ memberOf value "metadataRef" ≠ .str "" ∧
        isFloat (memberOf value "threshold") = false := by
  obtain ⟨members, rfl, holds, fits⟩ := openObject_holds valid
  have model := holds "model" (by simp) _ (.head _)
  have rootRef := holds "rootRef" (by simp) _ (.tail _ (.head _))
  have metadataRef := holds "metadataRef" (by simp) _ (.tail _ (.tail _ (.head _)))
  have threshold := fits _ (.tail _ (.tail _ (.tail _ (.head _))))
  simp only [validateTrust, getD_then, then_ok, require_ok, isDict, isIn_passes model,
    requireString_iff rootRef, requireString_iff metadataRef, isIntFrom_iff threshold, true_and]

theorem many_nonEmpty {members : List (String × Json)} {key : String} {choices : List String}
    (holds : Holds members key (manyOf choices 1)) : memberOf (.obj members) key ≠ .arr [] := by
  obtain ⟨item, found, valid⟩ := holds
  have array : arrayOk 1 true item = true := ((valid_iff _ _).mp valid).array
  rw [memberOf, Json.get?, found, Option.getD_some]
  rintro rfl
  cases array

theorem list_found {members : List (String × Json)} {key : String} {item : Schema} {minItems : Nat}
    (holds : Holds members key (listOf item minItems)) :
    ∃ values, Json.lookup key members = some (.arr values) ∧ minItems ≤ values.length ∧
      ∀ value ∈ values, item.valid value = true := by
  obtain ⟨listed, found, valid⟩ := holds
  have satisfies := (valid_iff _ _).mp valid
  have typed : typeOk (some ["array"]) listed = true := satisfies.type
  cases listed with
  | arr values =>
    have array : arrayOk minItems false (.arr values) = true := satisfies.array
    exact ⟨values, found, by simpa [arrayOk] using array, satisfies.items item rfl values rfl⟩
  | _ => simp [typeOk, hasType] at typed

theorem forM_zipIdx_iff {values : List Json} {check : Json × Nat → Except Raised Unit}
    {passes : Json → Prop}
    (each : ∀ item ∈ values, ∀ index, check (item, index) = .ok () ↔ passes item) :
    values.zipIdx.forM check = .ok () ↔ ∀ item ∈ values, passes item := by
  constructor
  · intro accepted item listed
    obtain ⟨index, passed⟩ := forM_zipIdx_ok accepted item listed
    exact (each item listed index).mp passed
  · intro passed
    refine (forM_ok _ _).mpr fun (item, index) listed => ?_
    have among : item ∈ values :=
      List.mem_of_getElem? (List.mk_mem_zipIdx_iff_getElem?.mp listed)
    exact (each item among index).mpr (passed item among)

theorem provenance_iff (valid : Checked.provenance.valid value = true) :
    validateProvenance value = .ok () ↔
      memberOf value "builderId" ≠ .str "" ∧
        ∀ ref ∈ items (memberOf value "sourceRefs"), ref ≠ .str "" := by
  obtain ⟨members, rfl, holds, _⟩ := openObject_holds valid
  have builderId := holds "builderId" (by simp) _ (.head _)
  have sourceRefs := holds "sourceRefs" (by simp) _ (.tail _ (.head _))
  have attestations := holds "attestations" (by simp) _ (.tail _ (.tail _ (.head _)))
  obtain ⟨values, found, long, texts⟩ := list_found sourceRefs
  have listed : (!values.isEmpty) = true := by simpa using List.length_pos_iff.mp long
  have known : memberOf (.obj members) "sourceRefs" = .arr values := by
    rw [memberOf, Json.get?, found, Option.getD_some]
  simp only [validateProvenance, getD_then, then_ok, require_ok, isDict, found, Option.getD_some,
    listed, requireString_iff builderId, requireEnumList_iff attestations,
    many_nonEmpty attestations, known, items, ne_eq, not_false_eq_true, true_and, and_true]
  refine and_congr_right fun _ => forM_zipIdx_iff fun ref among index => ?_
  have typed := texts ref among
  rw [text, type_valid] at typed
  cases ref <;> simp_all [typeOk, hasType, requireString, isNonEmptyString]

end Objects

def Located (urlparse : String → Except Raised ParseResult) (uri : Json) : Prop :=
  ∃ text parsed, uri = .str text ∧ text ≠ "" ∧ urlparse text = .ok parsed ∧
    parsed.scheme ∈ ["https", "file", "oci"] ∧
    (parsed.netloc ≠ "" ∨ parsed.scheme ∈ ["file", "oci"])

section Document

variable (urlparse : String → Except Raised ParseResult)

theorem requireUri_iff (uri : Json) (field : String) :
    requireUri urlparse uri field = .ok () ↔ Located urlparse uri := by
  cases uri with
  | str text =>
    rw [requireUri]
    simp only [requireString, ↓then_ok, bind_ok, require_ok, isNonEmptyString, Located,
      decide_eq_true_eq]
    constructor
    · rintro ⟨filled, parsed, read, scheme, location⟩
      exact ⟨text, parsed, rfl, filled, read, scheme, location⟩
    · rintro ⟨_, parsed, ⟨⟩, filled, read, scheme, location⟩
      exact ⟨filled, parsed, read, scheme, location⟩
  | _ => simp [requireUri, requireString, isNonEmptyString, Located]

structure StricterArtifact (artifact : Json) : Prop where
  name : memberOf artifact "name" ≠ .str ""
  located : Located urlparse (memberOf artifact "uri")
  sizeBytes : isFloat (memberOf artifact "sizeBytes") = false

theorem artifact_iff {artifact : Json} (valid : Checked.artifact.valid artifact = true)
    (path : String) :
    validateArtifact urlparse path artifact = .ok () ↔ StricterArtifact urlparse artifact := by
  obtain ⟨members, rfl, holds, fits⟩ := openObject_holds valid
  have name := holds "name" (by simp) _ (.head _)
  have role := holds "role" (by simp) _ (.tail _ (.head _))
  have sha256 := holds "sha256" (by simp) _ (.tail _ (.tail _ (.tail _ (.head _))))
  have sizeBytes := fits _ (.tail _ (.tail _ (.tail _ (.tail _ (.head _)))))
  simp only [validateArtifact, getD_then, then_ok, require_ok, isDict, requireString_iff name,
    isIn_passes role, requireUri_iff, pattern_passes sha256, isIntFrom_iff sizeBytes, true_and]
  constructor
  · rintro ⟨name, located, sizeBytes⟩
    exact ⟨name, located, sizeBytes⟩
  · intro stricter
    exact ⟨stricter.name, stricter.located, stricter.sizeBytes⟩

theorem artifacts_iff {members : List (String × Json)} {key : String}
    (holds : Holds members key (listOf Checked.artifact 1)) :
    validateArtifacts urlparse ((Json.lookup key members).getD .null) = .ok () ↔
      ∀ artifact ∈ items (memberOf (.obj members) key), StricterArtifact urlparse artifact := by
  obtain ⟨values, found, long, valid⟩ := list_found holds
  have listed : (!(items (.arr values)).isEmpty) = true := by
    simpa [items] using List.length_pos_iff.mp long
  have known : memberOf (.obj members) key = .arr values := by
    rw [memberOf, Json.get?, found, Option.getD_some]
  rw [found, known, Option.getD_some, validateArtifacts, then_ok, require_ok, listed]
  simp only [true_and]
  exact forM_zipIdx_iff fun artifact among index => artifact_iff urlparse (valid artifact among) _

def nested (doc : Json) (path : List String) : Json := path.foldl memberOf doc

def filledTexts : List (List String) := [
  ["metadata", "createdAt"], ["spec", "evidence", "correlationId"],
  ["spec", "provenance", "builderId"], ["spec", "trust", "rootRef"],
  ["spec", "trust", "metadataRef"], ["spec", "antiRollback", "minimumVersion"]]

def filledLists : List (List String) := [
  ["spec", "policy", "allowedActions"], ["spec", "evidence", "requiredReports"],
  ["spec", "telemetry", "metricSet"]]

structure Stricter (doc : Json) : Prop where
  texts : ∀ path ∈ filledTexts, nested doc path ≠ .str ""
  lists : ∀ path ∈ filledLists, nested doc path ≠ .arr []
  sourceRefs : ∀ ref ∈ items (nested doc ["spec", "provenance", "sourceRefs"]), ref ≠ .str ""
  artifacts : ∀ artifact ∈ items (nested doc ["spec", "artifacts"]),
    StricterArtifact urlparse artifact
  threshold : isFloat (nested doc ["spec", "trust", "threshold"]) = false

theorem spec_iff {spec : Json} (valid : Checked.spec.valid spec = true) :
    validateSpec urlparse spec = .ok () ↔
      (∀ artifact ∈ items (memberOf spec "artifacts"), StricterArtifact urlparse artifact) ∧
      validatePolicy (memberOf spec "policy") = .ok () ∧
      validateEvidence (memberOf spec "evidence") = .ok () ∧
      validateProvenance (memberOf spec "provenance") = .ok () ∧
      validateTrust (memberOf spec "trust") = .ok () ∧
      validateAntiRollback (memberOf spec "antiRollback") = .ok () ∧
      validateTelemetry (memberOf spec "telemetry") = .ok () := by
  obtain ⟨members, rfl, holds, _⟩ := openObject_holds valid
  have platforms := holds "platforms" (by simp) (manyOf platforms 1) (by simp)
  have channels := holds "channels" (by simp) (manyOf channels 1) (by simp)
  have artifacts := holds "artifacts" (by simp) (listOf Checked.artifact 1) (by simp)
  have signature := holds "signature" (by simp) Checked.signature (by simp)
  have signed : validateSignature ((Json.lookup "signature" members).getD .null) = .ok () :=
    signature_passes (object_found signature).2
  simp only [validateSpec, getD_then, then_ok, require_ok, isDict, requireEnumList_iff platforms,
    many_nonEmpty platforms, requireEnumList_iff channels, many_nonEmpty channels,
    artifacts_iff urlparse artifacts, signed, ne_eq, not_false_eq_true, true_and]
  rfl

theorem spec_stricter {spec : Json} (valid : Checked.spec.valid spec = true) :
    validateSpec urlparse spec = .ok () ↔
      (∀ artifact ∈ items (memberOf spec "artifacts"), StricterArtifact urlparse artifact) ∧
      memberOf (memberOf spec "policy") "allowedActions" ≠ .arr [] ∧
      (memberOf (memberOf spec "evidence") "correlationId" ≠ .str "" ∧
        memberOf (memberOf spec "evidence") "requiredReports" ≠ .arr []) ∧
      (memberOf (memberOf spec "provenance") "builderId" ≠ .str "" ∧
        ∀ ref ∈ items (memberOf (memberOf spec "provenance") "sourceRefs"), ref ≠ .str "") ∧
      (memberOf (memberOf spec "trust") "rootRef" ≠ .str "" ∧
        memberOf (memberOf spec "trust") "metadataRef" ≠ .str "" ∧
        isFloat (memberOf (memberOf spec "trust") "threshold") = false) ∧
      memberOf (memberOf spec "antiRollback") "minimumVersion" ≠ .str "" ∧
      memberOf (memberOf spec "telemetry") "metricSet" ≠ .arr [] := by
  rw [spec_iff urlparse valid]
  obtain ⟨members, rfl, holds, _⟩ := openObject_holds valid
  have policy := object_found (holds "policy" (by simp) Checked.policy (by simp))
  have evidence := object_found (holds "evidence" (by simp) Checked.evidence (by simp))
  have provenance := object_found (holds "provenance" (by simp) Checked.provenance (by simp))
  have trust := object_found (holds "trust" (by simp) Checked.trust (by simp))
  have antiRollback := object_found (holds "antiRollback" (by simp) Checked.antiRollback (by simp))
  have telemetry := object_found (holds "telemetry" (by simp) Checked.telemetry (by simp))
  rw [policy_iff policy.2, evidence_iff evidence.2, provenance_iff provenance.2, trust_iff trust.2,
    antiRollback_iff antiRollback.2, telemetry_iff telemetry.2]

theorem const_found {members : List (String × Json)} {key letters : String}
    (holds : Holds members key { const := some (.str letters) }) :
    Json.lookup key members = some (.str letters) := by
  obtain ⟨item, found, valid⟩ := holds
  rw [const_valid] at valid
  rw [found, (Json.same_str _ _ _).mp valid]

/--
Of the documents of the schema the validator refuses those that leave a text or a
list empty, give a count with a decimal point, or do not say where an artifact is.
-/
theorem schema_valid_accepted_iff {doc : Json} (valid : bootReleaseSetSchema.valid doc = true) :
    validateDocument urlparse doc = .ok () ↔ Stricter urlparse doc := by
  rw [schema_splits doc, Bool.and_eq_true] at valid
  obtain ⟨members, rfl, holds, _⟩ := openObject_holds valid.1
  have apiVersion := const_found (holds "apiVersion" (by simp) _ (.head _))
  have kind := const_found (holds "kind" (by simp) _ (.tail _ (.head _)))
  have metadata : Checked.metadata.valid ((Json.lookup "metadata" members).getD .null) = true :=
    (object_found (holds "metadata" (by simp) Checked.metadata (by simp))).2
  have spec : Checked.spec.valid ((Json.lookup "spec" members).getD .null) = true :=
    (object_found (holds "spec" (by simp) Checked.spec (by simp))).2
  simp only [validateDocument, getD_then, then_ok, require_ok, apiVersion, kind, Option.getD_some,
    Json.pyEq_str, true_and, metadata_iff metadata, spec_stricter urlparse spec]
  constructor
  · rintro ⟨createdAt, artifacts, allowedActions, ⟨correlationId, requiredReports⟩,
      ⟨builderId, sourceRefs⟩, ⟨rootRef, metadataRef, threshold⟩, minimumVersion, metricSet⟩
    constructor
    case texts =>
      simp only [filledTexts, List.forall_mem_cons]
      exact ⟨createdAt, correlationId, builderId, rootRef, metadataRef, minimumVersion, by simp⟩
    case lists =>
      simp only [filledLists, List.forall_mem_cons]
      exact ⟨allowedActions, requiredReports, metricSet, by simp⟩
    case sourceRefs => exact sourceRefs
    case artifacts => exact artifacts
    case threshold => exact threshold
  · intro stricter
    have texts := stricter.texts
    have lists := stricter.lists
    simp only [filledTexts, List.forall_mem_cons] at texts
    simp only [filledLists, List.forall_mem_cons] at lists
    obtain ⟨createdAt, correlationId, builderId, rootRef, metadataRef, minimumVersion, _⟩ := texts
    obtain ⟨allowedActions, requiredReports, metricSet, _⟩ := lists
    exact ⟨createdAt, stricter.artifacts, allowedActions, ⟨correlationId, requiredReports⟩,
      ⟨builderId, stricter.sourceRefs⟩, ⟨rootRef, metadataRef, stricter.threshold⟩, minimumVersion,
      metricSet⟩

end Document

theorem schema_valid_accepted_iff_minimal :
    validateDocument plainUrlparse (minimalDocument []) = .ok () ↔
      Stricter plainUrlparse (minimalDocument []) :=
  schema_valid_accepted_iff plainUrlparse (by decide +kernel)

-- What `json.load` makes of the file of a path.
variable (load : String → Except Raised Json) (urlparse : String → Except Raised ParseResult)

def validatePath (path : String) : Except Raised Unit := do
  validateDocument urlparse (← load path)

def main (paths : List String) : Int × Batch.Report :=
  let report := Batch.run (validatePath load urlparse) paths
  (report.exitCode, report)

theorem main_passes_iff (paths : List String) :
    (main load urlparse paths).1 = 0 ↔ ∀ path ∈ paths, ∃ doc, load path = .ok doc ∧
      validateDocument urlparse doc = .ok () := by
  refine (Batch.exitCode_zero_iff _ _).trans (forall₂_congr fun path _ => ?_)
  rw [validatePath, bind_ok]

end SourceosBoot.Release
