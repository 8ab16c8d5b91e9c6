import SourceosBoot.Release.BootReleaseSet

set_option autoImplicit false

namespace SourceosBoot.Release

open Python Schema

def memberOf (value : Json) (key : String) : Json := (value.get? key).getD .null

def endsLine : Json → Bool
  | .str text => Regex.endsInLineFeed text
  | _ => false

/-- Python's `$` passes a last line feed over, and its `True` is an int. -/
structure ReadAlike (doc : Json) : Prop where
  name : endsLine (memberOf (memberOf doc "metadata") "name") = false
  version : endsLine (memberOf (memberOf doc "metadata") "version") = false
  sha256 : ∀ artifact ∈ items (memberOf (memberOf doc "spec") "artifacts"),
    endsLine (memberOf artifact "sha256") = false
  sizeBytes : ∀ artifact ∈ items (memberOf (memberOf doc "spec") "artifacts"),
    isBoolean (memberOf artifact "sizeBytes") = false
  threshold : isBoolean (memberOf (memberOf (memberOf doc "spec") "trust") "threshold") = false
  digest : endsLine (memberOf (memberOf (memberOf doc "spec") "signature") "digest") = false

section Members

variable {members : List (String × Json)} {key field : String} {child : Schema}

open BootReleaseSetSchema

theorem text_holds
    (accepted : requireString ((Json.lookup key members).getD .null) field = .ok ()) :
    Holds members key text := by
  obtain ⟨letters, read⟩ := isNonEmptyString_text ((require_ok _ _).mp accepted)
  exact ⟨.str letters, Json.lookup_of_getD read (by simp), type_valid _ _⟩

theorem flag_holds (boolean : isBoolean ((Json.lookup key members).getD .null) = true) :
    Holds members key flag := by
  obtain ⟨truth, read⟩ := isBoolean_bool boolean
  exact ⟨.bool truth, Json.lookup_of_getD read (by simp), type_valid _ _⟩

theorem const_holds {letters : String}
    (read : (Json.lookup key members).getD .null = .str letters) :
    Holds members key { const := some (.str letters) } :=
  ⟨.str letters, Json.lookup_of_getD read (by simp), by simp [valid_eq, Json.jsonEq]⟩

theorem oneOf_valid {choices : List String} {name : String} (listed : name ∈ choices) :
    (oneOf choices).valid (.str name) = true := by
  rw [oneOf, enum_valid]
  simpa [enumOk, Json.jsonEq] using listed

theorem oneOf_holds {choices : List String}
    (named : inNames choices ((Json.lookup key members).getD .null) = true) :
    Holds members key (oneOf choices) := by
  obtain ⟨name, listed, read⟩ := (inNames_iff _ _).mp named
  exact ⟨.str name, Json.lookup_of_getD read (by simp), oneOf_valid listed⟩

theorem textMatching_holds {pattern : Regex} {letters : String}
    (read : (Json.lookup key members).getD (.str "") = .str letters)
    (found : pattern.matchesLine letters = true) (unmatched : pattern.matchesLine "" = false)
    (ending : endsLine (memberOf (.obj members) key) = false) :
    Holds members key (textMatching pattern) := by
  have given : letters ≠ "" := by
    rintro rfl
    simp [found] at unmatched
  have listed := Json.lookup_of_getD read (by simpa using given)
  have whole : pattern.matchesWhole letters = true :=
    Regex.matchesWhole_of_matchesLine found
      (by simpa [memberOf, Json.get?, listed, endsLine] using ending)
  refine ⟨.str letters, listed, ?_⟩
  simp [valid_eq, textMatching, typeOk, hasType, patternOk, Pattern.search, whole]

theorem distinct_of_pairwise {values : List Json} {choices : List String}
    (apart : values.Pairwise fun left right => Json.pyEq left right = false)
    (named : ∀ item ∈ values, ∃ name ∈ choices, item = .str name) : distinct values = true := by
  induction apart with
  | nil => rfl
  | @cons value rest first _ ih =>
    rw [List.forall_mem_cons] at named
    obtain ⟨⟨name, _, rfl⟩, later⟩ := named
    simp only [distinct, Bool.and_eq_true, List.all_eq_true]
    refine ⟨fun other listed => ?_, ih later⟩
    obtain ⟨letters, _, rfl⟩ := later other listed
    simpa [Json.jsonEq, Json.pyEq, Json.same] using first _ listed

theorem manyOf_holds {choices : List String} {minItems : Nat} (atMostOne : minItems ≤ 1)
    (accepted : requireEnumList ((Json.lookup key members).getD .null) choices field = .ok ()) :
    Holds members key (manyOf choices minItems) := by
  obtain ⟨values, read, nonEmpty, apart, named⟩ := requireEnumList_ok accepted
  have long : minItems ≤ values.length :=
    atMostOne.trans (List.length_pos_iff.mpr nonEmpty)
  have each : ∀ item ∈ values, (oneOf choices).valid item = true := by
    intro item listed
    obtain ⟨name, choice, rfl⟩ := named item listed
    exact oneOf_valid choice
  refine ⟨.arr values, Json.lookup_of_getD read (by simp), ?_⟩
  rw [manyOf, array_valid, List.all_eq_true.mpr each]
  simp [arrayOk, long, distinct_of_pairwise apart named]

theorem integerFrom_fits {least : Int}
    (whole : ((Json.obj members).get? key).all (isIntFrom least) = true)
    (truth : isBoolean (memberOf (.obj members) key) = false) :
    Fits members (key, integerFrom least) := by
  intro item found
  simp only [Json.get?, found, Option.all_some] at whole
  obtain ⟨number, rfl, most⟩ := isIntFrom_int whole (by
    simpa [memberOf, Json.get?, found] using truth)
  have above : (least : Rat) ≤ number := Rat.intCast_le_intCast.mpr most
  simp [valid_eq, integerFrom, typeOk, hasType, rangeOk, Json.number, above]

theorem dict_holds {message : String} {next : Except Raised Unit}
    (accepted : (do
      require (isDict ((Json.lookup key members).getD .null)) message
      next) = .ok ())
    (valid : child.valid ((Json.lookup key members).getD .null) = true) :
    Holds members key child := by
  obtain ⟨object, read, -⟩ := dict_then accepted
  exact ⟨.obj object, Json.lookup_of_getD read (by simp), by rwa [read] at valid⟩

theorem items_nonEmpty {value : Json} (nonEmpty : (!(items value).isEmpty) = true) :
    ∃ values, value = .arr values ∧ 1 ≤ values.length := by
  cases value with
  | arr values => exact ⟨values, rfl, List.length_pos_iff.mpr (by simpa [items] using nonEmpty)⟩
  | _ => simp [items] at nonEmpty

theorem forM_zipIdx_ok {values : List Json} {check : Json × Nat → Except Raised Unit}
    (accepted : values.zipIdx.forM check = .ok ()) :
    ∀ item ∈ values, ∃ index, check (item, index) = .ok () := by
  intro item listed
  obtain ⟨index, found⟩ := List.mem_iff_getElem?.mp listed
  exact ⟨index, (forM_ok _ _).mp accepted _ (List.mk_mem_zipIdx_iff_getElem?.mpr found)⟩

theorem listOf_holds {item : Schema} {check : Json × Nat → Except Raised Unit}
    (nonEmpty : (!(items ((Json.lookup key members).getD .null)).isEmpty) = true)
    (accepted : (items ((Json.lookup key members).getD .null)).zipIdx.forM check = .ok ())
    (valid : ∀ value ∈ items ((Json.lookup key members).getD .null),
      ∀ index, check (value, index) = .ok () → item.valid value = true) :
    Holds members key (listOf item 1) := by
  obtain ⟨values, read, long⟩ := items_nonEmpty nonEmpty
  rw [read] at accepted valid
  have each : ∀ value ∈ values, item.valid value = true := by
    intro value listed
    obtain ⟨index, passed⟩ := forM_zipIdx_ok accepted value listed
    exact valid value listed index passed
  refine ⟨.arr values, Json.lookup_of_getD read (by simp), ?_⟩
  rw [listOf, array_valid, List.all_eq_true.mpr each]
  simp [arrayOk, long]

end Members

theorem metadata_valid {metadata : Json} (accepted : validateMetadata metadata = .ok ())
    (name : endsLine (memberOf metadata "name") = false)
    (version : endsLine (memberOf metadata "version") = false) :
    Checked.metadata.valid metadata = true := by
  obtain ⟨members, rfl, accepted⟩ := dict_then accepted
  simp only [getD_then, patternMatch_then, then_ok, require_ok] at accepted
  obtain ⟨_, isName, named, _, isVersion, numbered, created⟩ := accepted
  have name := textMatching_holds isName named (by decide) name
  have version := textMatching_holds isVersion numbered (by decide) version
  have created := text_holds created
  apply openObject_of_fits
  · simp [name.fits, version.fits, created.fits, unconstrained_fits]
  · simp [name.present, version.present, created.present]

theorem uri_string {urlparse : String → Except Raised ParseResult} {value : Json} {field : String}
    (accepted : requireUri urlparse value field = .ok ()) : requireString value field = .ok () :=
  ((then_ok _ _ _).mp accepted).1

theorem artifact_valid {urlparse : String → Except Raised ParseResult} {path : String}
    {artifact : Json} (accepted : validateArtifact urlparse path artifact = .ok ())
    (sha256 : endsLine (memberOf artifact "sha256") = false)
    (sizeBytes : isBoolean (memberOf artifact "sizeBytes") = false) :
    Checked.artifact.valid artifact = true := by
  obtain ⟨members, rfl, accepted⟩ := dict_then accepted
  simp only [getD_then, patternMatch_then, isIn_then, then_ok, require_ok] at accepted
  obtain ⟨name, _, role, uri, _, isSha256, hex, size⟩ := accepted
  have name := text_holds name
  have role := oneOf_holds role
  have uri := text_holds (uri_string uri)
  have sha256 := textMatching_holds isSha256 hex (by decide) sha256
  have sizeBytes := integerFrom_fits size sizeBytes
  apply openObject_of_fits
  · simp [name.fits, role.fits, uri.fits, sha256.fits, sizeBytes, unconstrained_fits]
  · simp [name.present, role.present, uri.present, sha256.present]

theorem policy_valid {policy : Json} (accepted : validatePolicy policy = .ok ()) :
    Checked.policy.valid policy = true := by
  obtain ⟨members, rfl, accepted⟩ := dict_then accepted
  simp only [getD_then, isIn_then, then_ok, require_ok] at accepted
  obtain ⟨_, network, _, diskWrite, tokenRequired, allowedActions⟩ := accepted
  have network := oneOf_holds network
  have diskWrite := oneOf_holds diskWrite
  have tokenRequired := flag_holds tokenRequired
  have allowedActions := manyOf_holds (Nat.zero_le 1) allowedActions
  apply openObject_of_fits
  · simp [network.fits, diskWrite.fits, tokenRequired.fits, allowedActions.fits]
  · simp [network.present, diskWrite.present, tokenRequired.present, allowedActions.present]

theorem evidence_valid {evidence : Json} (accepted : validateEvidence evidence = .ok ()) :
    Checked.evidence.valid evidence = true := by
  obtain ⟨members, rfl, accepted⟩ := dict_then accepted
  simp only [getD_then, then_ok] at accepted
  have correlationId := text_holds accepted.1
  have requiredReports := manyOf_holds (Nat.zero_le 1) accepted.2
  apply openObject_of_fits
  · simp [correlationId.fits, requiredReports.fits]
  · simp [correlationId.present, requiredReports.present]

theorem provenance_valid {provenance : Json}
    (accepted : validateProvenance provenance = .ok ()) :
    Checked.provenance.valid provenance = true := by
  obtain ⟨members, rfl, accepted⟩ := dict_then accepted
  simp only [getD_then, then_ok, require_ok] at accepted
  obtain ⟨builderId, nonEmpty, each, attestations⟩ := accepted
  have builderId := text_holds builderId
  have sourceRefs : Holds members "sourceRefs"
      (BootReleaseSetSchema.listOf BootReleaseSetSchema.text 1) :=
    listOf_holds nonEmpty each fun ref _ _ passed => by
      obtain ⟨letters, rfl⟩ := isNonEmptyString_text ((require_ok _ _).mp passed)
      exact type_valid _ _
  have attestations := manyOf_holds (Nat.le_refl 1) attestations
  apply openObject_of_fits
  · simp [builderId.fits, sourceRefs.fits, attestations.fits]
  · simp [builderId.present, sourceRefs.present, attestations.present]

theorem trust_valid {trust : Json} (accepted : validateTrust trust = .ok ())
    (threshold : isBoolean (memberOf trust "threshold") = false) :
    Checked.trust.valid trust = true := by
  obtain ⟨members, rfl, accepted⟩ := dict_then accepted
  simp only [getD_then, isIn_then, then_ok, require_ok] at accepted
  obtain ⟨_, model, rootRef, metadataRef, least⟩ := accepted
  have model := oneOf_holds model
  have rootRef := text_holds rootRef
  have metadataRef := text_holds metadataRef
  have threshold := integerFrom_fits least threshold
  apply openObject_of_fits
  · simp [model.fits, rootRef.fits, metadataRef.fits, threshold]
  · simp [model.present, rootRef.present, metadataRef.present]

theorem signature_valid {signature : Json} (accepted : validateSignature signature = .ok ())
    (digest : endsLine (memberOf signature "digest") = false) :
    Checked.signature.valid signature = true := by
  obtain ⟨members, rfl, accepted⟩ := dict_then accepted
  simp only [getD_then, patternMatch_then, isIn_then, then_ok, require_ok] at accepted
  obtain ⟨_, type, _, isDigest, hex⟩ := accepted
  have type := oneOf_holds type
  have digest := textMatching_holds isDigest hex (by decide) digest
  apply openObject_of_fits
  · simp [type.fits, digest.fits, unconstrained_fits]
  · simp [type.present, digest.present]

theorem antiRollback_valid {antiRollback : Json}
    (accepted : validateAntiRollback antiRollback = .ok ()) :
    Checked.antiRollback.valid antiRollback = true := by
  obtain ⟨members, rfl, accepted⟩ := dict_then accepted
  simp only [getD_then, then_ok, require_ok] at accepted
  have minimumVersion := text_holds accepted.1
  have allowOfflineFallback := flag_holds accepted.2
  apply openObject_of_fits
  · simp [minimumVersion.fits, allowOfflineFallback.fits, unconstrained_fits]
  · simp [minimumVersion.present, allowOfflineFallback.present]

theorem telemetry_valid {telemetry : Json} (accepted : validateTelemetry telemetry = .ok ()) :
    Checked.telemetry.valid telemetry = true := by
  obtain ⟨members, rfl, accepted⟩ := dict_then accepted
  simp only [getD_then, then_ok, require_ok] at accepted
  have traceRequired := flag_holds accepted.1
  have metricSet := manyOf_holds (Nat.zero_le 1) accepted.2
  apply openObject_of_fits
  · simp [traceRequired.fits, metricSet.fits]
  · simp [traceRequired.present, metricSet.present]

section Document

variable {urlparse : String → Except Raised ParseResult}

theorem artifacts_hold {members : List (String × Json)} {key : String}
    (accepted : validateArtifacts urlparse ((Json.lookup key members).getD .null) = .ok ())
    (sha256 : ∀ artifact ∈ items ((Json.lookup key members).getD .null),
      endsLine (memberOf artifact "sha256") = false)
    (sizeBytes : ∀ artifact ∈ items ((Json.lookup key members).getD .null),
      isBoolean (memberOf artifact "sizeBytes") = false) :
    Holds members key (BootReleaseSetSchema.listOf Checked.artifact 1) := by
  obtain ⟨nonEmpty, each⟩ := (then_ok _ _ _).mp accepted
  exact listOf_holds ((require_ok _ _).mp nonEmpty) each fun artifact listed _ passed =>
    artifact_valid passed (sha256 artifact listed) (sizeBytes artifact listed)

theorem spec_valid {spec : Json} (accepted : validateSpec urlparse spec = .ok ())
    (sha256 : ∀ artifact ∈ items (memberOf spec "artifacts"),
      endsLine (memberOf artifact "sha256") = false)
    (sizeBytes : ∀ artifact ∈ items (memberOf spec "artifacts"),
      isBoolean (memberOf artifact "sizeBytes") = false)
    (threshold : isBoolean (memberOf (memberOf spec "trust") "threshold") = false)
    (digest : endsLine (memberOf (memberOf spec "signature") "digest") = false) :
    Checked.spec.valid spec = true := by
  obtain ⟨members, rfl, accepted⟩ := dict_then accepted
  simp only [getD_then, then_ok] at accepted
  obtain ⟨platforms, channels, artifacts, policy, evidence, provenance, trust, signature,
    antiRollback, telemetry⟩ := accepted
  have platforms := manyOf_holds (Nat.le_refl 1) platforms
  have channels := manyOf_holds (Nat.le_refl 1) channels
  have artifacts := artifacts_hold artifacts sha256 sizeBytes
  have policy := dict_holds policy (policy_valid policy)
  have evidence := dict_holds evidence (evidence_valid evidence)
  have provenance := dict_holds provenance (provenance_valid provenance)
  have trust := dict_holds trust (trust_valid trust threshold)
  have signature := dict_holds signature (signature_valid signature digest)
  have antiRollback := dict_holds antiRollback (antiRollback_valid antiRollback)
  have telemetry := dict_holds telemetry (telemetry_valid telemetry)
  apply openObject_of_fits
  · simp [platforms.fits, channels.fits, artifacts.fits, policy.fits, evidence.fits,
      provenance.fits, trust.fits, signature.fits, antiRollback.fits, telemetry.fits,
      unconstrained_fits]
  · simp [platforms.present, channels.present, artifacts.present, policy.present,
      evidence.present, provenance.present, trust.present, signature.present,
      antiRollback.present, telemetry.present]

/--
An accepted document satisfies what is checked of the schema, so it satisfies
the schema where it satisfies the rest.
-/
theorem accepted_satisfies_checked (urlparse : String → Except Raised ParseResult) (doc : Json)
    (accepted : validateDocument urlparse doc = .ok ()) (alike : ReadAlike doc) :
    checkedSchema.valid doc = true ∧ bootReleaseSetSchema.valid doc = uncheckedSchema.valid doc := by
  have checked : checkedSchema.valid doc = true := by
    cases doc with
    | obj members =>
      simp only [validateDocument, getD_then, then_ok, require_ok, Json.pyEq_str] at accepted
      obtain ⟨apiVersion, kind, metadata, spec⟩ := accepted
      have apiVersion := const_holds apiVersion
      have kind := const_holds kind
      have metadata := dict_holds metadata (metadata_valid metadata alike.name alike.version)
      have spec := dict_holds spec
        (spec_valid spec alike.sha256 alike.sizeBytes alike.threshold alike.digest)
      apply openObject_of_fits
      · simp [apiVersion.fits, kind.fits, metadata.fits, spec.fits]
      · simp [apiVersion.present, kind.present, metadata.present, spec.present]
    | _ => simp [validateDocument, Json.getD, raise, bind, Except.bind] at accepted
  exact ⟨checked, by rw [schema_splits doc, checked, Bool.true_and]⟩

end Document

def minimalDocument (extra : List (String × Json)) : Json := .obj ([
  ("apiVersion", .str "sourceos.dev/v1"),
  ("kind", .str "BootReleaseSet"),
  ("metadata", .obj [
    ("name", .str "sourceos-recovery-demo"),
    ("version", .str "0.1.0"),
    ("createdAt", .str "2026-04-26T00:00:00Z")]),
  ("spec", .obj [
    ("platforms", .arr [.str "apple-silicon"]),
    ("channels", .arr [.str "live", .str "recovery"]),
    ("artifacts", .arr [.obj [
      ("name", .str "sourceos-recovery-initrd"),
      ("role", .str "initrd"),
      ("uri", .str "https://example.invalid/initrd.img"),
      ("sha256", .str "0000000000000000000000000000000000000000000000000000000000000000"),
      ("sizeBytes", .int 0)]]),
    ("policy", .obj [
      ("network", .str "enrollment-only"),
      ("diskWrite", .str "recovery-only"),
      ("tokenRequired", .bool true),
      ("allowedActions", .arr [.str "fetch", .str "verify"])]),
    ("evidence", .obj [
      ("correlationId", .str "boot-demo-0001"),
      ("requiredReports", .arr [.str "device-claim"])]),
    ("provenance", .obj [
      ("builderId", .str "sourceos-boot-demo-builder"),
      ("sourceRefs", .arr [.str "git:local/sourceos-boot"]),
      ("attestations", .arr [.str "slsa"])]),
    ("trust", .obj [
      ("model", .str "tuf"),
      ("rootRef", .str "trust-root-demo"),
      ("metadataRef", .str "tuf-metadata-demo"),
      ("threshold", .int 1)]),
    ("signature", .obj [
      ("type", .str "sigstore"),
      ("digest",
        .str "sha256:4444444444444444444444444444444444444444444444444444444444444444")]),
    ("antiRollback", .obj [
      ("minimumVersion", .str "0.1.0"),
      ("allowOfflineFallback", .bool true)]),
    ("telemetry", .obj [
      ("traceRequired", .bool true),
      ("metricSet", .arr [.str "boot-duration"])])])] ++ extra)

def plainUrlparse (text : String) : Except Raised ParseResult :=
  -- What `urlparse` answers for `scheme://netloc/path`.
  let scheme := text.toList.takeWhile (· ≠ ':')
  let netloc := (text.toList.drop (scheme.length + 3)).takeWhile (· ≠ '/')
  .ok ⟨String.ofList scheme, String.ofList netloc⟩

theorem accepted_satisfies_checked_minimal :
    checkedSchema.valid (minimalDocument []) = true ∧
      bootReleaseSetSchema.valid (minimalDocument []) =
        uncheckedSchema.valid (minimalDocument []) :=
  accepted_satisfies_checked plainUrlparse (minimalDocument []) (by decide +kernel)
    ⟨by decide, by decide, by decide, by decide, by decide, by decide⟩

/-- No check looks for members beside the named ones. -/
theorem unnamed_member_accepted :
    validateDocument plainUrlparse (minimalDocument [("note", .null)]) = .ok () ∧
      bootReleaseSetSchema.valid (minimalDocument [("note", .null)]) = false := by
  decide +kernel

end SourceosBoot.Release
