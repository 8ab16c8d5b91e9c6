import SourceosBoot.Nlboot.Adapter
import SourceosBoot.Release.ValidatorSoundness

set_option autoImplicit false

-- The boot mode of a manifest becomes the channel of the patch as it is. Of the four modes nlboot
-- uses, two are names of channels.

namespace SourceosBoot.Nlboot

open Python Release

/-- The boot modes the integration guide maps to a channel. -/
def mappedModes : List String := ["installer", "recovery", "ephemeral", "bootstrap"]

def BootReleaseSetPatch.onSpec (patch : BootReleaseSetPatch) (spec : List (String × Json)) :
    List (String × Json) :=
  Json.assign "channels" (.arr (patch.channels.map .str))
    (Json.assign "releaseSetRef" (.str patch.releaseSetRef) spec)

def BootReleaseSetPatch.applied (patch : BootReleaseSetPatch) (doc : Json) : Json :=
  match doc, doc.get? "spec" with
  | .obj members, some (.obj spec) => .obj (Json.assign "spec" (.obj (patch.onSpec spec)) members)
  | _, _ => doc

section Channels

theorem requireEnumList_single (name : String) (allowed : List String) (field : String) :
    requireEnumList (.arr [.str name]) allowed field = .ok () ↔ name ∈ allowed := by
  constructor
  · intro accepted
    obtain ⟨values, same, _, _, listed⟩ := requireEnumList_ok accepted
    cases same
    obtain ⟨other, known, is⟩ := listed (.str name) (by simp)
    cases is
    exact known
  · intro listed
    have distinct : Release.set [.str name] = .ok [.str name] := rfl
    have invalid : [Json.str name].filter (fun value => !inNames allowed value) = [] := by
      have known := (inNames_iff allowed (.str name)).mpr ⟨name, listed, rfl⟩
      simp [known]
    refine (then_ok _ _ _).mpr ⟨rfl, (bind_ok _ _ _).mpr ⟨_, distinct, ?_⟩⟩
    refine (then_ok _ _ _).mpr ⟨rfl, (bind_ok _ _ _).mpr ⟨[], ?_, rfl⟩⟩
    rw [invalid]
    rfl

variable {urlparse : String → Except Raised ParseResult} {members others : List (String × Json)}

theorem channels_decide (accepted : validateSpec urlparse (.obj members) = .ok ())
    (unchanged : ∀ key, key ≠ "releaseSetRef" → key ≠ "channels" →
      Json.lookup key others = Json.lookup key members) :
    validateSpec urlparse (.obj others) = .ok () ↔
      requireEnumList ((Json.lookup "channels" others).getD .null) channels "spec.channels" =
        .ok () := by
  simp only [validateSpec, getD_then, then_ok] at accepted ⊢
  obtain ⟨_, platforms, _, rest⟩ := accepted
  simp (disch := decide) only [unchanged, require_ok, isDict, platforms, rest, true_and, and_true]

end Channels

section Patched

variable {urlparse : String → Except Raised ParseResult} {doc : Json}

theorem document_spec (accepted : validateDocument urlparse doc = .ok ()) :
    ∃ members spec, doc = .obj members ∧ Json.lookup "spec" members = some (.obj spec) ∧
      validateSpec urlparse (.obj spec) = .ok () := by
  cases doc with
  | obj members =>
    simp only [validateDocument, getD_then, then_ok] at accepted
    obtain ⟨_, _, _, checked⟩ := accepted
    obtain ⟨spec, found, _⟩ := dict_then checked
    rw [found] at checked
    exact ⟨members, spec, rfl, Json.lookup_of_getD found (by simp), checked⟩
  | _ => simp [validateDocument, Json.getD, raise, bind, Except.bind] at accepted

theorem patched_accepted_iff (accepted : validateDocument urlparse doc = .ok ())
    (patch : BootReleaseSetPatch) (bootMode : String) (channel : patch.channels = [bootMode]) :
    validateDocument urlparse (patch.applied doc) = .ok () ↔ bootMode ∈ channels := by
  obtain ⟨members, spec, rfl, found, checked⟩ := document_spec accepted
  have applied : patch.applied (.obj members) =
      .obj (Json.assign "spec" (.obj (patch.onSpec spec)) members) := by
    have read : (Json.obj members).get? "spec" = some (.obj spec) := found
    simp only [BootReleaseSetPatch.applied, read]
  have patched : Json.lookup "channels" (patch.onSpec spec) = some (.arr [.str bootMode]) := by
    rw [BootReleaseSetPatch.onSpec, Json.lookup_assign, if_pos rfl, channel]
    rfl
  have unchanged : ∀ key, key ≠ "releaseSetRef" → key ≠ "channels" →
      Json.lookup key (patch.onSpec spec) = Json.lookup key spec := by
    intro key notRef notChannels
    rw [BootReleaseSetPatch.onSpec, Json.lookup_assign, if_neg notChannels.symm,
      Json.lookup_assign, if_neg notRef.symm]
  have decided := channels_decide checked unchanged
  rw [patched, Option.getD_some, requireEnumList_single] at decided
  -- Beside the spec the two documents read the same.
  simp only [validateDocument, getD_then, then_ok] at accepted
  rw [applied, ← decided]
  simp (disch := decide) only [validateDocument, getD_then, then_ok, Json.lookup_assign, accepted,
    if_pos, if_neg, true_and, Option.getD_some]

end Patched

theorem mapped_channel {bootMode : String} (mapped : bootMode ∈ mappedModes) :
    bootMode ∈ channels ↔ bootMode ∈ ["installer", "recovery"] := by
  revert bootMode
  decide

theorem adapted_manifest_fits_iff (urlparse : String → Except Raised ParseResult)
    (manifestDoc doc : Json) (bootMode : String) (patch : BootReleaseSetPatch)
    (claim : DeviceClaim) (authorization : BootAuthorization)
    (manifestHash verificationResult : String)
    (asked : manifestDoc.get? "boot_mode" = some (.str bootMode))
    (mapped : bootMode ∈ mappedModes)
    (patched : bootReleaseSetPatchFromNlbootManifest manifestDoc = .ok patch)
    (accepted : validateDocument urlparse doc = .ok ()) :
    (validateDocument urlparse (patch.applied doc) = .ok () ∧
      ∃ evidence, buildEvidenceFromNlbootManifest claim authorization manifestDoc manifestHash
          verificationResult = .ok evidence ∧
        evidence.selectedChannel ∈ patch.channels) ↔
    bootMode ∈ ["installer", "recovery"] := by
  have channel := (patch_takes_boot_mode asked patched).2
  rw [patched_accepted_iff accepted patch bootMode channel, mapped_channel mapped]
  refine and_iff_left ⟨_, evidence_takes_boot_mode asked patched claim authorization manifestHash
    verificationResult, ?_⟩
  rw [channel]
  exact List.mem_singleton.mpr rfl

/-- `examples/nlboot/manifest.json`, for any boot mode. -/
def demoManifest (bootMode : String) : Json := .obj [
  ("manifest_id", .str "manifest-demo-1"),
  ("boot_release_set_id", .str "boot/demo"),
  ("base_release_set_ref", .str "release/demo"),
  ("boot_mode", .str bootMode),
  ("artifacts", .obj [
    ("kernel_ref", .str "https://example.invalid/kernel"),
    ("initrd_ref", .str "https://example.invalid/initrd"),
    ("rootfs_ref", .str "https://example.invalid/rootfs")]),
  ("signature_ref", .str "urn:srcos:signature:demo"),
  ("signer_ref", .str "trusted-key-1"),
  ("signature_algorithm", .str "rsa-pss-sha256"),
  ("crypto_profile", .str "fips-140-3-compatible")]

def demoPatch (bootMode : String) : BootReleaseSetPatch where
  releaseSetRef := "release/demo"
  channels := [bootMode]
  artifactRefsPendingDigest := [⟨"kernel", "https://example.invalid/kernel"⟩,
    ⟨"initrd", "https://example.invalid/initrd"⟩, ⟨"rootfs", "https://example.invalid/rootfs"⟩]

def demoClaim : DeviceClaim where
  deviceId := "device-demo-m2"
  publicKeyFingerprint := "sha256:0000000000000000000000000000000000000000000000000000000000000000"
  platform := "apple-silicon"
  nonce := "nonce-demo-1"
  observedAt := "2026-04-26T00:00:00+00:00"

def demoAuthorization : BootAuthorization where
  correlationId := "corr-demo-1"
  bootReleaseSetRef := "boot/demo"
  tokenId := "token-demo-1"
  expiresAt := "2026-04-26T01:00:00Z"

theorem adapted_manifest_fits_iff_fixture :
    (validateDocument plainUrlparse ((demoPatch "recovery").applied (minimalDocument [])) = .ok () ∧
      ∃ evidence, buildEvidenceFromNlbootManifest demoClaim demoAuthorization
          (demoManifest "recovery") "sha256:demo" "pass" = .ok evidence ∧
        evidence.selectedChannel ∈ (demoPatch "recovery").channels) ↔
    "recovery" ∈ ["installer", "recovery"] :=
  adapted_manifest_fits_iff plainUrlparse (demoManifest "recovery") (minimalDocument []) "recovery"
    (demoPatch "recovery") demoClaim demoAuthorization "sha256:demo" "pass" rfl (by decide)
    (by decide) (by decide +kernel)

theorem ephemeral_manifest_does_not_fit :
    "ephemeral" ∈ mappedModes ∧
      bootReleaseSetPatchFromNlbootManifest (demoManifest "ephemeral") =
        .ok (demoPatch "ephemeral") ∧
      validateDocument plainUrlparse (minimalDocument []) = .ok () ∧
      validateDocument plainUrlparse ((demoPatch "ephemeral").applied (minimalDocument [])) =
        .error ⟨.valueError, "spec.channels contains invalid values: ['ephemeral']"⟩ := by
  decide +kernel

end SourceosBoot.Nlboot
