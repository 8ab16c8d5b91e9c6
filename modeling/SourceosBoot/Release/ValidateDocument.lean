import SourceosBoot.Shared.Json
import SourceosBoot.Shared.Regex
import SourceosBoot.Shared.Text

set_option autoImplicit false

namespace SourceosBoot.Release

open Python

def hexDigit : Regex := .oneOf [('a', 'f'), ('A', 'F'), ('0', '9')]

def decimal : Regex := .atLeastOnce (.oneOf [('0', '9')])

-- A pattern of the form `^body$` is given by its body.
def sha256Re : Regex := .times hexDigit 64

def sha256PrefixRe : Regex := .seq (.literal "sha256:") (.times hexDigit 64)

def nameRe : Regex :=
  -- `[a-z0-9][a-z0-9.-]{1,62}`
  let later : Regex := .oneOf [('a', 'z'), ('0', '9'), ('.', '.'), ('-', '-')]
  .seq (.oneOf [('a', 'z'), ('0', '9')]) (.seq later (.atMost later 61))

def versionSuffix : Regex :=
  -- `[-.+][A-Za-z0-9.-]+`
  .seq (.oneOf [('-', '-'), ('.', '.'), ('+', '+')])
    (.atLeastOnce (.oneOf [('A', 'Z'), ('a', 'z'), ('0', '9'), ('.', '.'), ('-', '-')]))

def versionRe : Regex :=
  -- `v?[0-9]+\.[0-9]+\.[0-9]+([-.+][A-Za-z0-9.-]+)?`
  .seq (.optional (.literal "v")) (.seq decimal (.seq (.literal ".") (.seq decimal
    (.seq (.literal ".") (.seq decimal (.optional versionSuffix))))))

def platforms : List String := ["apple-silicon", "uefi-x86_64", "uefi-aarch64", "generic-arm64"]

def channels : List String := ["live", "installer", "recovery", "rollback", "rescue"]

def artifactRoles : List String := ["kernel", "initrd", "rootfs", "manifest", "bootloader",
  "recovery-image", "installer-data", "signature", "attestation", "tuf-metadata", "other"]

def network : List String := ["none", "enrollment-only", "restricted", "full"]

def diskWrite : List String := ["forbidden", "installer-only", "recovery-only", "allowed"]

def actions : List String := ["announce", "enroll", "fetch", "verify", "kexec", "install",
  "rollback", "repair", "rekey", "attest"]

def reports : List String := ["device-claim", "manifest-hash", "verification-result",
  "selected-channel", "boot-mode", "install-result", "rollback-result", "measurement",
  "attestation"]

def attestations : List String := ["slsa", "in-toto"]

def trustModels : List String := ["tuf", "uptane", "static-root"]

def signatureTypes : List String := ["sigstore", "cosign", "minisign", "x509", "other"]

def metrics : List String := ["boot-duration", "verify-duration", "download-bytes",
  "action-result"]

def isDict : Json → Bool
  | .obj _ => true
  | _ => false

def isBoolean : Json → Bool
  | .bool _ => true
  | _ => false

def isNonEmptyString : Json → Bool
  | .str text => text ≠ ""
  | _ => false

def items : Json → List Json
  | .arr items => items
  | _ => []

-- `isinstance(value, int) and value >= least`, by which `True` is an int.
def isIntFrom (least : Int) : Json → Bool
  | .int value => least ≤ value
  | .bool value => least ≤ if value then 1 else 0
  | _ => false

def patternMatch (pattern : Regex) (value : Json) : Except Raised Bool :=
  match value with
  | .str text => .ok (pattern.matchesLine text)
  | _ => raise .typeError s!"expected string or bytes-like object, got '{value.pyType}'"

def inNames (names : List String) (value : Json) : Bool :=
  names.any fun name => Json.pyEq value (.str name)

def isIn (names : List String) (value : Json) : Except Raised Bool :=
  if value.hashable then .ok (inNames names value)
  else raise .typeError s!"unhashable type: '{value.pyType}'"

def withoutRepeats : List Json → List Json
  | [] => []
  | value :: rest => value :: (withoutRepeats rest).filter fun other => !Json.pyEq value other

def set (values : List Json) : Except Raised (List Json) :=
  match values.find? fun value => !value.hashable with
  | some value => raise .typeError s!"unhashable type: '{value.pyType}'"
  | none => .ok (withoutRepeats values)

-- `left < right`, where Python compares the two.
def less (left right : Json) : Option Bool :=
  match left, right with
  | .str left, .str right => some (left < right)
  | left, right => do
    let first ← Json.number true left
    let second ← Json.number true right
    return first < second

def sortedValues : List Json → Except Raised (List Json)
  | [] => .ok []
  | first :: rest =>
    -- Values that compare with the first one compare with each other. Which two the message
    -- names depends on the order in which Python keeps the set.
    match rest.find? fun value => (less value first).isNone with
    | some value => raise .typeError ("'<' not supported between instances of " ++
        Python.repr value.pyType ++ " and " ++ Python.repr first.pyType)
    | none => .ok ((first :: rest).insertionSort fun left right => less right left ≠ some true)

def require (condition : Bool) (message : String) : Except Raised Unit :=
  raiseWhen (condition = false) .valueError message

def requireEnumList (values : Json) (allowed : List String) (field : String) :
    Except Raised Unit :=
  match values with
  | .arr values => do
    require (!values.isEmpty) s!"{field} must not be empty"
    let distinct ← set values
    require (values.length = distinct.length) s!"{field} must not contain duplicates"
    let invalid ← sortedValues (distinct.filter fun value => !inNames allowed value)
    require invalid.isEmpty s!"{field} contains invalid values: {Json.repr (.arr invalid)}"
  | _ => raise .valueError s!"{field} must be a list"

def requireString (value : Json) (field : String) : Except Raised Unit :=
  require (isNonEmptyString value) s!"{field} must be a non-empty string"

structure ParseResult where
  scheme : String
  netloc : String

variable (urlparse : String → Except Raised ParseResult)

def requireUri (value : Json) (field : String) : Except Raised Unit := do
  requireString value field
  match value with
  | .str text =>
    let parsed ← urlparse text
    require (parsed.scheme ∈ ["https", "file", "oci"])
      s!"{field} must use https, file, or oci scheme"
    require (parsed.netloc ≠ "" ∨ parsed.scheme ∈ ["file", "oci"])
      s!"{field} must include a location"
  | _ => return

def validateMetadata (metadata : Json) : Except Raised Unit := do
  require (isDict metadata) "metadata must be an object"
  require (← patternMatch nameRe (← metadata.getD "name" (.str ""))) "metadata.name is invalid"
  require (← patternMatch versionRe (← metadata.getD "version" (.str "")))
    "metadata.version is invalid"
  requireString (← metadata.getD "createdAt" .null) "metadata.createdAt"

def validateArtifact (path : String) (artifact : Json) : Except Raised Unit := do
  require (isDict artifact) s!"{path} must be an object"
  requireString (← artifact.getD "name" .null) s!"{path}.name"
  require (← isIn artifactRoles (← artifact.getD "role" .null)) s!"{path}.role is invalid"
  requireUri urlparse (← artifact.getD "uri" .null) s!"{path}.uri"
  require (← patternMatch sha256Re (← artifact.getD "sha256" (.str "")))
    s!"{path}.sha256 must be a 64-character hex digest"
  require ((artifact.get? "sizeBytes").all (isIntFrom 0))
    s!"{path}.sizeBytes must be a non-negative integer"

def validateArtifacts (artifacts : Json) : Except Raised Unit := do
  require (!(items artifacts).isEmpty) "spec.artifacts must be a non-empty list"
  (items artifacts).zipIdx.forM fun (artifact, index) =>
    validateArtifact urlparse s!"spec.artifacts[{index}]" artifact

def validatePolicy (policy : Json) : Except Raised Unit := do
  require (isDict policy) "spec.policy must be an object"
  require (← isIn network (← policy.getD "network" .null)) "spec.policy.network is invalid"
  require (← isIn diskWrite (← policy.getD "diskWrite" .null)) "spec.policy.diskWrite is invalid"
  require (isBoolean (← policy.getD "tokenRequired" .null))
    "spec.policy.tokenRequired must be a boolean"
  requireEnumList (← policy.getD "allowedActions" .null) actions "spec.policy.allowedActions"

def validateEvidence (evidence : Json) : Except Raised Unit := do
  require (isDict evidence) "spec.evidence must be an object"
  requireString (← evidence.getD "correlationId" .null) "spec.evidence.correlationId"
  requireEnumList (← evidence.getD "requiredReports" .null) reports
    "spec.evidence.requiredReports"

def validateProvenance (provenance : Json) : Except Raised Unit := do
  require (isDict provenance) "spec.provenance must be an object"
  requireString (← provenance.getD "builderId" .null) "spec.provenance.builderId"
  let sourceRefs ← provenance.getD "sourceRefs" .null
  require (!(items sourceRefs).isEmpty) "spec.provenance.sourceRefs must be a non-empty list"
  (items sourceRefs).zipIdx.forM fun (ref, index) =>
    requireString ref s!"spec.provenance.sourceRefs[{index}]"
  requireEnumList (← provenance.getD "attestations" .null) attestations
    "spec.provenance.attestations"

def validateTrust (trust : Json) : Except Raised Unit := do
  require (isDict trust) "spec.trust must be an object"
  require (← isIn trustModels (← trust.getD "model" .null)) "spec.trust.model is invalid"
  requireString (← trust.getD "rootRef" .null) "spec.trust.rootRef"
  requireString (← trust.getD "metadataRef" .null) "spec.trust.metadataRef"
  require ((trust.get? "threshold").all (isIntFrom 1)) "spec.trust.threshold must be >= 1"

def validateSignature (signature : Json) : Except Raised Unit := do
  require (isDict signature) "spec.signature must be an object"
  require (← isIn signatureTypes (← signature.getD "type" .null)) "spec.signature.type is invalid"
  require (← patternMatch sha256PrefixRe (← signature.getD "digest" (.str "")))
    "spec.signature.digest must be sha256:<64 hex chars>"

def validateAntiRollback (antiRollback : Json) : Except Raised Unit := do
  require (isDict antiRollback) "spec.antiRollback must be an object"
  requireString (← antiRollback.getD "minimumVersion" .null) "spec.antiRollback.minimumVersion"
  require (isBoolean (← antiRollback.getD "allowOfflineFallback" .null))
    "spec.antiRollback.allowOfflineFallback must be a boolean"

def validateTelemetry (telemetry : Json) : Except Raised Unit := do
  require (isDict telemetry) "spec.telemetry must be an object"
  require (isBoolean (← telemetry.getD "traceRequired" .null))
    "spec.telemetry.traceRequired must be a boolean"
  requireEnumList (← telemetry.getD "metricSet" .null) metrics "spec.telemetry.metricSet"

def validateSpec (spec : Json) : Except Raised Unit := do
  require (isDict spec) "spec must be an object"
  requireEnumList (← spec.getD "platforms" .null) platforms "spec.platforms"
  requireEnumList (← spec.getD "channels" .null) channels "spec.channels"
  validateArtifacts urlparse (← spec.getD "artifacts" .null)
  validatePolicy (← spec.getD "policy" .null)
  validateEvidence (← spec.getD "evidence" .null)
  validateProvenance (← spec.getD "provenance" .null)
  validateTrust (← spec.getD "trust" .null)
  validateSignature (← spec.getD "signature" .null)
  validateAntiRollback (← spec.getD "antiRollback" .null)
  validateTelemetry (← spec.getD "telemetry" .null)

/-- `validate_document`, cut where the source begins on another object. -/
def validateDocument (doc : Json) : Except Raised Unit := do
  require (Json.pyEq (← doc.getD "apiVersion" .null) (.str "sourceos.dev/v1"))
    "apiVersion must be sourceos.dev/v1"
  require (Json.pyEq (← doc.getD "kind" .null) (.str "BootReleaseSet"))
    "kind must be BootReleaseSet"
  validateMetadata (← doc.getD "metadata" .null)
  validateSpec urlparse (← doc.getD "spec" .null)

@[simp] theorem require_ok (condition : Bool) (message : String) :
    require condition message = .ok () ↔ condition = true := by
  cases condition <;> simp [require]

theorem getD_then (members : List (String × Json)) (key : String) (default : Json)
    (next : Json → Except Raised Unit) :
    ((Json.obj members).getD key default >>= next) =
      next ((Json.lookup key members).getD default) := rfl

theorem dict_then {value : Json} {message : String} {next : Except Raised Unit}
    (accepted : (do
      require (isDict value) message
      next) = .ok ()) : ∃ members, value = .obj members ∧ next = .ok () := by
  have ⟨object, later⟩ := (then_ok _ _ _).mp accepted
  cases value with
  | obj members => exact ⟨members, rfl, later⟩
  | _ => simp [isDict, require] at object

theorem isBoolean_bool {value : Json} (boolean : isBoolean value = true) :
    ∃ truth, value = .bool truth := by
  cases value <;> simp [isBoolean] at boolean ⊢

theorem isNonEmptyString_text {value : Json} (nonEmpty : isNonEmptyString value = true) :
    ∃ text, value = .str text := by
  cases value <;> simp [isNonEmptyString] at nonEmpty ⊢

theorem isIntFrom_int {least : Int} {value : Json} (whole : isIntFrom least value = true)
    (truth : isBoolean value = false) : ∃ number, value = .int number ∧ least ≤ number := by
  cases value <;> simp [isIntFrom, isBoolean] at whole truth ⊢
  exact whole

theorem patternMatch_then (pattern : Regex) (value : Json) (next : Bool → Except Raised Unit) :
    (patternMatch pattern value >>= next) = .ok () ↔
      ∃ text, value = .str text ∧ next (pattern.matchesLine text) = .ok () := by
  cases value <;> simp [patternMatch, raise, bind, Except.bind]

theorem inNames_iff (names : List String) (value : Json) :
    inNames names value = true ↔ ∃ name ∈ names, value = .str name := by
  simp [inNames]

theorem isIn_then (names : List String) (value : Json) (next : Bool → Except Raised Unit) :
    (isIn names value >>= next) = .ok () ↔
      value.hashable = true ∧ next (inNames names value) = .ok () := by
  by_cases hashable : value.hashable = true <;>
    simp [isIn, hashable, raise, bind, Except.bind]

theorem length_withoutRepeats (values : List Json) :
    (withoutRepeats values).length ≤ values.length := by
  induction values with
  | nil => simp [withoutRepeats]
  | cons value rest ih =>
    have kept := List.length_filter_le (fun other => !Json.pyEq value other) (withoutRepeats rest)
    simp only [withoutRepeats, List.length_cons]
    omega

theorem withoutRepeats_full {values : List Json}
    (full : (withoutRepeats values).length = values.length) :
    withoutRepeats values = values ∧
      values.Pairwise fun left right => Json.pyEq left right = false := by
  induction values with
  | nil => simp [withoutRepeats]
  | cons value rest ih =>
    have kept := List.length_filter_le (fun other => !Json.pyEq value other) (withoutRepeats rest)
    have shorter := length_withoutRepeats rest
    simp only [withoutRepeats, List.length_cons, Nat.add_right_cancel_iff] at full
    have ⟨same, distinct⟩ := ih (by omega)
    rw [same] at full
    have apart := List.length_filter_eq_length_iff.mp full
    refine ⟨?_, List.pairwise_cons.mpr ⟨fun other listed => ?_, distinct⟩⟩
    · rw [withoutRepeats, same, List.filter_eq_self.mpr apart]
    · simpa using apart other listed

theorem set_ok {values distinct : List Json} (collected : set values = .ok distinct) :
    distinct = withoutRepeats values := by
  rw [set] at collected
  cases odd : values.find? fun value => !value.hashable with
  | some value => simp [odd, raise] at collected
  | none => simpa [odd, eq_comm] using collected

theorem sortedValues_nil {values : List Json} (sorted : sortedValues values = .ok []) :
    values = [] := by
  cases values with
  | nil => rfl
  | cons first rest =>
    rw [sortedValues] at sorted
    cases odd : rest.find? fun value => (less value first).isNone with
    | some value => simp [odd, raise] at sorted
    | none =>
      simp only [odd, Except.ok.injEq] at sorted
      have length := List.length_insertionSort
        (fun left right => less right left ≠ some true) (first :: rest)
      simp [sorted] at length

theorem requireEnumList_ok {value : Json} {allowed : List String} {field : String}
    (accepted : requireEnumList value allowed field = .ok ()) :
    ∃ values, value = .arr values ∧ values ≠ [] ∧
      (values.Pairwise fun left right => Json.pyEq left right = false) ∧
      ∀ item ∈ values, ∃ name ∈ allowed, item = .str name := by
  cases value with
  | arr values =>
    obtain ⟨nonEmpty, accepted⟩ := (then_ok _ _ _).mp accepted
    obtain ⟨distinct, collected, accepted⟩ := (bind_ok _ _ _).mp accepted
    obtain ⟨full, accepted⟩ := (then_ok _ _ _).mp accepted
    obtain ⟨invalid, sorted, none⟩ := (bind_ok _ _ _).mp accepted
    have kept := set_ok collected
    rw [require_ok, kept, decide_eq_true_eq] at full
    have ⟨same, apart⟩ := withoutRepeats_full full.symm
    rw [List.isEmpty_iff.mp ((require_ok _ _).mp none), kept, same] at sorted
    have outside := List.filter_eq_nil_iff.mp (sortedValues_nil sorted)
    refine ⟨values, rfl, by simpa using nonEmpty, apart, fun item listed => ?_⟩
    have named := outside item listed
    rwa [Bool.not_eq_true', Bool.not_eq_false, inNames_iff] at named
  | _ => simp [requireEnumList, raise] at accepted

end SourceosBoot.Release
