import SourceosBoot.Shared.Json
import SourceosBoot.Shared.Text

set_option autoImplicit false

namespace SourceosBoot.ControlPlane

open Python

abbrev Dict := List (String × Json)

def Dict.get (data : Dict) (key : String) : Json := (Json.lookup key data).getD .null

def safeDigestPrefixes : List String := ["sha256:", "sha384:", "sha512:"]

def bootActionByChannel : List (String × String) := [
  ("live", "boot-live-environment"),
  ("installer", "plan-install"),
  ("rescue", "plan-rescue"),
  ("rollback", "plan-rollback"),
  ("bootstrap", "plan-bootstrap")]

def bootModes : List String := ["installer", "recovery", "ephemeral", "bootstrap"]

def signatureAlgorithms : List String := ["rsa-pss-sha256", "ed25519", "ecdsa-p256-sha256"]

def requiredRefs : List String := ["manifest_ref", "kernel_ref", "initrd_ref", "rootfs_ref"]

def optionalRefs : List String := ["bootloader_ref", "installer_metadata_ref"]

def fixedGates : List String := [
  "verify-boot-release-set-status-ready",
  "verify-manifest-signature",
  "verify-artifact-refs-present",
  "verify-policy-ref-present",
  "verify-proof-reporting-required"]

def diskWriteScopes : List String := ["installer-scoped", "recovery-scoped"]

/-- The fields of a plan that it takes from its document as they are. -/
structure BootIntent where
  bootReleaseSetId : String
  baseReleaseSetRef : String
  bootMode : String
  bootChannel : String
  status : String
  policyRef : String
  platformEntrypoints : List Json
  artifactRefs : List (String × Option String)
  signing : Dict
  bootCapabilities : Dict
  offlineFallback : Dict

structure ControlPlaneBootPlan extends BootIntent where
  action : String
  proofReports : List String
  verificationGates : List String
  execute : Bool := false

def controlPlaneBootReleaseSetError : ExceptionClass := .user "ControlPlaneBootReleaseSetError"

def refuse {α : Type} (message : String) : Except Raised α :=
  raise controlPlaneBootReleaseSetError message

def refuseWhen (bad : Prop) [Decidable bad] (message : String) : Except Raised Unit :=
  raiseWhen bad controlPlaneBootReleaseSetError message

def requireStr (data : Dict) (key : String) : Except Raised String :=
  match data.get key with
  | .str value =>
    if strip value = "" then refuse s!"{key} must be a non-empty string" else .ok value
  | _ => refuse s!"{key} must be a non-empty string"

def requireDict (data : Dict) (key : String) : Except Raised Dict :=
  match data.get key with
  | .obj members => .ok members
  | _ => refuse s!"{key} must be an object"

def requireList (data : Dict) (key : String) : Except Raised (List Json) :=
  match data.get key with
  | .arr items => .ok items
  | _ => refuse s!"{key} must be a list"

def optionalRef (artifacts : Dict) (key : String) : Except Raised (Option String) :=
  match artifacts.get key with
  | .null => .ok none
  | .str value => .ok (some value)
  | _ => refuse s!"artifacts.{key} must be a string or null"

def artifactRefs (artifacts : Dict) : Except Raised (List (String × Option String)) := do
  let required ← requiredRefs.mapM fun key => do return (key, some (← requireStr artifacts key))
  let optional ← optionalRefs.mapM fun key => do return (key, ← optionalRef artifacts key)
  return required ++ optional

def validateSigning (signing : Dict) : Except Raised Unit := do
  let signatureRef ← requireStr signing "signature_ref"
  let signerRef ← requireStr signing "signer_ref"
  let signatureAlgorithm ← requireStr signing "signature_algorithm"
  let manifestDigest ← requireDict signing "manifest_digest"
  let digestValue ← requireStr manifestDigest "value"
  refuseWhen (startswith signatureRef "urn:srcos:signature:" = false)
    "signing.signature_ref must be a SourceOS signature URN"
  refuseWhen (startswith signerRef "urn:srcos:key:" = false)
    "signing.signer_ref must be a SourceOS key URN"
  refuseWhen (signatureAlgorithm ∉ signatureAlgorithms)
    "signing.signature_algorithm is unsupported"
  refuseWhen (¬ ∃ start ∈ safeDigestPrefixes, startswith digestValue start = true)
    "signing.manifest_digest.value must be sha256/sha384/sha512 prefixed"

def checkEntrypoint (index : Nat) (entrypoint : Json) : Except Raised Unit :=
  match entrypoint with
  | .obj members => do
    let _ ← requireStr members "platform"
    let _ ← requireStr members "entrypoint_kind"
    let _ ← requireStr members "entrypoint_ref"
  | _ => refuse s!"platform_entrypoints[{index}] must be an object"

def checkEntrypoints (index : Nat) : List Json → Except Raised Unit
  | [] => .ok ()
  | entrypoint :: rest => do
    checkEntrypoint index entrypoint
    checkEntrypoints (index + 1) rest

def requireReports (proofReporting : Dict) : Except Raised (List Json) := do
  refuseWhen ((proofReporting.get "required").isBool true = false)
    "proof_reporting.required must be true"
  match proofReporting.get "reports" with
  | .arr (report :: rest) => return report :: rest
  | _ => refuse "proof_reporting.reports must be a non-empty list"

def checkFallback (offlineFallback : Dict) : Except Raised Unit := do
  refuseWhen ((offlineFallback.get "enabled").truthy = true ∧
      (offlineFallback.get "requires_signature_verification").isBool true = false)
    "enabled offline fallback must require signature verification"
  refuseWhen ((offlineFallback.get "allows_unsigned_artifacts").isBool false = false)
    "offline fallback must not allow unsigned artifacts"

/-- `build_control_plane_boot_plan` up to its first plan: every check of the document, and the
proof reports as it has them. -/
def checkedIntent (doc : Dict) : Except Raised (BootIntent × List Json) := do
  let bootReleaseSetId ← requireStr doc "boot_release_set_id"
  let baseReleaseSetRef ← requireStr doc "base_release_set_ref"
  let bootMode ← requireStr doc "boot_mode"
  let bootChannel ← requireStr doc "boot_channel"
  let status ← requireStr doc "status"
  let policyRef ← requireStr doc "policy_ref"
  refuseWhen (status ≠ "ready") "BootReleaseSet status must be ready before planning"
  refuseWhen (bootChannel ∉ bootActionByChannel.map Prod.fst)
    s!"unsupported boot_channel={Python.repr bootChannel}"
  refuseWhen (bootMode ∉ bootModes) s!"unsupported boot_mode={Python.repr bootMode}"
  refuseWhen (startswith bootReleaseSetId "urn:srcos:boot-release-set:" = false)
    "boot_release_set_id must be a SourceOS BootReleaseSet URN"
  refuseWhen (startswith baseReleaseSetRef "urn:srcos:release-set:" = false)
    "base_release_set_ref must be a SourceOS ReleaseSet URN"
  refuseWhen (startswith policyRef "urn:srcos:policy:" = false)
    "policy_ref must be a SourceOS policy URN"
  let platformEntrypoints ← requireList doc "platform_entrypoints"
  refuseWhen (platformEntrypoints.isEmpty = true) "platform_entrypoints must not be empty"
  checkEntrypoints 0 platformEntrypoints
  let artifacts ← requireDict doc "artifacts"
  let artifactRefs ← artifactRefs artifacts
  let signing ← requireDict doc "signing"
  validateSigning signing
  let bootCapabilities ← requireDict doc "boot_capabilities"
  let offlineFallback ← requireDict doc "offline_fallback"
  let proofReporting ← requireDict doc "proof_reporting"
  let proofReports ← requireReports proofReporting
  checkFallback offlineFallback
  return ({ bootReleaseSetId, baseReleaseSetRef, bootMode, bootChannel, status, policyRef,
            platformEntrypoints, artifactRefs, signing, bootCapabilities, offlineFallback },
    proofReports)

mutual

/-- No integer at any depth has more digits than Python converts to text. -/
def renders : Json → Bool
  | .int value => value.natAbs < 10 ^ maxStrDigits
  | .arr items => rendersItems items
  | .obj members => rendersMembers members
  | _ => true

def rendersItems : List Json → Bool
  | [] => true
  | item :: rest => renders item && rendersItems rest

def rendersMembers : List (String × Json) → Bool
  | [] => true
  | (_, value) :: rest => renders value && rendersMembers rest

end

def rendered : Json → String
  | .str text => text
  | other => other.repr

-- `str(item)`.
def str (item : Json) : Except Raised String :=
  if renders item then .ok (rendered item)
  else raise .valueError ("Exceeds the limit (4300 digits) for integer string conversion; " ++
    "use sys.set_int_max_str_digits() to increase the limit")

def verificationGates (plan : ControlPlaneBootPlan) : Except Raised (List String) := do
  let fallback := if (plan.offlineFallback.get "enabled").truthy
    then ["verify-offline-fallback-signature-required"] else []
  let kexec := if (plan.bootCapabilities.get "kexec_allowed").isBool false
    then ["verify-kexec-denied"] else []
  let diskWrite := plan.bootCapabilities.get "disk_write"
  -- A set does not take a list or a dictionary as its member.
  raiseWhen (diskWrite.hashable = false) .typeError s!"unhashable type: '{diskWrite.pyType}'"
  let scope := if ∃ name ∈ diskWriteScopes, Json.pyEq diskWrite (.str name) = true
    then ["verify-disk-write-scope"] else []
  return fixedGates ++ fallback ++ kexec ++ scope

def actionOf (bootChannel : String) : Except Raised String :=
  -- `BOOT_ACTION_BY_CHANNEL[boot_channel]`.
  match bootActionByChannel.lookup bootChannel with
  | some action => .ok action
  | none => raise .keyError (Python.repr bootChannel)

/-- The two plans that end `build_control_plane_boot_plan`. -/
def planOf (intent : BootIntent) (reports : List Json) : Except Raised ControlPlaneBootPlan := do
  let action ← actionOf intent.bootChannel
  let proofReports ← reports.mapM str
  let plan : ControlPlaneBootPlan :=
    { intent with action, proofReports, verificationGates := [], execute := false }
  let gates ← verificationGates plan
  return { plan with verificationGates := gates, execute := false }

def buildControlPlaneBootPlan (doc : Dict) : Except Raised ControlPlaneBootPlan := do
  let (intent, reports) ← checkedIntent doc
  planOf intent reports

-- `examples/control-plane-boot-release-set.example.json` with shorter names, less what no
-- check reads.
def exampleDoc (diskWrite : Json) (reports : List Json) : Dict := [
  ("boot_release_set_id", .str "urn:srcos:boot-release-set:m2"),
  ("base_release_set_ref", .str "urn:srcos:release-set:m2"),
  ("boot_mode", .str "recovery"),
  ("boot_channel", .str "rescue"),
  ("status", .str "ready"),
  ("platform_entrypoints", .arr [.obj [
    ("platform", .str "uefi"),
    ("entrypoint_kind", .str "ipxe"),
    ("entrypoint_ref", .str "urn:srcos:boot-entry:m2")]]),
  ("artifacts", .obj [
    ("manifest_ref", .str "urn:srcos:artifact:m2-1"),
    ("kernel_ref", .str "urn:srcos:artifact:m2-2"),
    ("initrd_ref", .str "urn:srcos:artifact:m2-3"),
    ("rootfs_ref", .str "urn:srcos:artifact:m2-4")]),
  ("policy_ref", .str "urn:srcos:policy:m2"),
  ("signing", .obj [
    ("signature_ref", .str "urn:srcos:signature:m2"),
    ("signer_ref", .str "urn:srcos:key:m2"),
    ("signature_algorithm", .str "ed25519"),
    ("manifest_digest", .obj [("value", .str "sha256:6e6f")])]),
  ("boot_capabilities", .obj [("disk_write", diskWrite), ("kexec_allowed", .bool false)]),
  ("proof_reporting", .obj [("required", .bool true), ("reports", .arr reports)]),
  ("offline_fallback", .obj [
    ("enabled", .bool true),
    ("requires_signature_verification", .bool true),
    ("allows_unsigned_artifacts", .bool false)])]

end SourceosBoot.ControlPlane
