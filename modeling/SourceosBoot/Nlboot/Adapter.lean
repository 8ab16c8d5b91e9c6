import SourceosBoot.Shared.Json

set_option autoImplicit false

namespace SourceosBoot.Nlboot

open Python

structure DeviceClaim where
  deviceId : String
  publicKeyFingerprint : String
  platform : String
  nonce : String
  observedAt : String
  deriving DecidableEq, Repr

structure BootAuthorization where
  correlationId : String
  bootReleaseSetRef : String
  tokenId : String
  expiresAt : String
  deriving DecidableEq, Repr

structure BootEvidence where
  correlationId : String
  deviceId : String
  selectedChannel : String
  bootMode : String
  manifestHash : String
  verificationResult : String
  reports : List String
  deriving DecidableEq, Repr

structure PendingArtifact where
  role : String
  uri : String
  deriving DecidableEq, Repr

structure BootReleaseSetPatch where
  releaseSetRef : String
  channels : List String
  artifactRefsPendingDigest : List PendingArtifact
  deriving DecidableEq, Repr

-- `str(value)`.
def str : Json → String
  | .str text => text
  | other => other.repr

/-- `_require`. The text of a `KeyError` is the `repr` of its argument. -/
def required (doc : Json) (key what : String) : Except Raised Json := do
  let value ← doc.getD key .null
  raiseWhen (Json.pyEq value .null = true ∨ Json.pyEq value (.str "") = true) .keyError
    (Python.repr s!"nlboot {what} is missing required field {Python.repr key}")
  return value

def roles : List (String × String) :=
  [("kernel_ref", "kernel"), ("initrd_ref", "initrd"), ("rootfs_ref", "rootfs")]

def pendingArtifacts (artifacts : Json) :
    List (String × String) → Except Raised (List PendingArtifact)
  | [] => .ok []
  | (field, role) :: rest => do
    let ref ← artifacts.getD field .null
    let later ← pendingArtifacts artifacts rest
    return if ref.truthy then ⟨role, str ref⟩ :: later else later

def bootReleaseSetPatchFromNlbootManifest (manifestDoc : Json) :
    Except Raised BootReleaseSetPatch := do
  let given ← manifestDoc.getD "artifacts" .null
  let pending ← pendingArtifacts (if given.truthy then given else .obj []) roles
  let releaseSetRef ← required manifestDoc "base_release_set_ref" "manifest"
  let bootMode ← required manifestDoc "boot_mode" "manifest"
  return ⟨str releaseSetRef, [str bootMode], pending⟩

def evidenceReports : List String :=
  ["device-claim", "manifest-hash", "verification-result", "selected-channel", "boot-mode"]

def buildEvidence (claim : DeviceClaim) (authorization : BootAuthorization)
    (selectedChannel bootMode manifestHash verificationResult : String) : BootEvidence where
  correlationId := authorization.correlationId
  deviceId := claim.deviceId
  selectedChannel
  bootMode
  manifestHash
  verificationResult
  reports := evidenceReports

def buildEvidenceFromNlbootManifest (claim : DeviceClaim) (authorization : BootAuthorization)
    (manifestDoc : Json) (manifestHash verificationResult : String) :
    Except Raised BootEvidence := do
  let bootMode := str (← required manifestDoc "boot_mode" "manifest")
  return buildEvidence claim authorization bootMode bootMode manifestHash verificationResult

section BootMode

theorem required_value {doc value item : Json} {key what : String}
    (returned : required doc key what = .ok value) (found : doc.get? key = some item) :
    value = item := by
  obtain ⟨read, taken, checked⟩ := (bind_ok _ _ _).mp returned
  cases ((then_ok _ _ _).mp checked).2
  rw [Json.getD_ok taken, found, Option.getD_some]

variable {manifestDoc : Json} {bootMode : String} {patch : BootReleaseSetPatch}
  (asked : manifestDoc.get? "boot_mode" = some (.str bootMode))
  (patched : bootReleaseSetPatchFromNlbootManifest manifestDoc = .ok patch)
include asked patched

theorem patch_takes_boot_mode :
    required manifestDoc "boot_mode" "manifest" = .ok (.str bootMode) ∧
      patch.channels = [bootMode] := by
  simp only [bootReleaseSetPatchFromNlbootManifest, bind_ok] at patched
  obtain ⟨_, _, _, _, _, _, mode, taken, built⟩ := patched
  cases required_value taken asked
  cases built
  exact ⟨taken, rfl⟩

theorem evidence_takes_boot_mode (claim : DeviceClaim) (authorization : BootAuthorization)
    (manifestHash verificationResult : String) :
    buildEvidenceFromNlbootManifest claim authorization manifestDoc manifestHash
        verificationResult =
      .ok (buildEvidence claim authorization bootMode bootMode manifestHash
        verificationResult) := by
  rw [buildEvidenceFromNlbootManifest, (patch_takes_boot_mode asked patched).1]
  rfl

end BootMode

end SourceosBoot.Nlboot
