import SourceosBoot.Shared.JsonSchema
import SourceosBoot.Release.ValidateDocument

set_option autoImplicit false

namespace SourceosBoot.Release

open Python Schema

namespace BootReleaseSetSchema

def text : Schema where
  type := some ["string"]

def flag : Schema where
  type := some ["boolean"]

def textMatching (body : Regex) : Schema where
  -- `^body$`; the patterns of the schema are letter for letter those of the validator.
  type := some ["string"]
  pattern := some ⟨body, true⟩

def oneOf (choices : List String) : Schema where
  enum := some (choices.map .str)

def manyOf (choices : List String) (minItems : Nat) : Schema where
  type := some ["array"]
  items := some (oneOf choices)
  minItems := minItems
  uniqueItems := true

def listOf (item : Schema) (minItems : Nat) : Schema where
  type := some ["array"]
  items := some item
  minItems := minItems

def integerFrom (minimum : Int) : Schema where
  type := some ["integer"]
  minimum := some minimum

def labels : Schema where
  type := some ["object"]
  additionalProperties := .schema text

def metadata : Schema := closedObject ["name", "version", "createdAt"] [
  ("name", textMatching nameRe),
  ("version", textMatching versionRe),
  ("createdAt", text),
  ("labels", labels)]

def artifact : Schema := closedObject ["name", "role", "uri", "sha256"] [
  ("name", text),
  ("role", oneOf ["kernel", "initrd", "rootfs", "manifest", "bootloader", "recovery-image",
    "installer-data", "signature", "attestation", "tuf-metadata", "other"]),
  ("uri", text),
  ("sha256", textMatching sha256Re),
  ("sizeBytes", integerFrom 0),
  ("contentType", text)]

def policy : Schema :=
  closedObject ["network", "diskWrite", "tokenRequired", "allowedActions"] [
    ("network", oneOf ["none", "enrollment-only", "restricted", "full"]),
    ("diskWrite", oneOf ["forbidden", "installer-only", "recovery-only", "allowed"]),
    ("tokenRequired", flag),
    ("allowedActions", manyOf ["announce", "enroll", "fetch", "verify", "kexec", "install",
      "rollback", "repair", "rekey", "attest"] 0)]

def evidence : Schema := closedObject ["requiredReports", "correlationId"] [
  ("correlationId", text),
  ("requiredReports", manyOf ["device-claim", "manifest-hash", "verification-result",
    "selected-channel", "boot-mode", "install-result", "rollback-result", "measurement",
    "attestation"] 0)]

def provenance : Schema := closedObject ["builderId", "sourceRefs", "attestations"] [
  ("builderId", text),
  ("sourceRefs", listOf text 1),
  ("attestations", manyOf ["slsa", "in-toto"] 1)]

def trust : Schema := closedObject ["model", "rootRef", "metadataRef"] [
  ("model", oneOf ["tuf", "uptane", "static-root"]),
  ("rootRef", text),
  ("metadataRef", text),
  ("threshold", integerFrom 1)]

def signature : Schema := closedObject ["type", "digest"] [
  ("type", oneOf ["sigstore", "cosign", "minisign", "x509", "other"]),
  ("bundleRef", text),
  ("digest", textMatching sha256PrefixRe)]

def antiRollback : Schema := closedObject ["minimumVersion", "allowOfflineFallback"] [
  ("minimumVersion", text),
  ("allowOfflineFallback", flag),
  ("allowedRollbackRefs", listOf text 0)]

def telemetry : Schema := closedObject ["traceRequired", "metricSet"] [
  ("traceRequired", flag),
  ("metricSet", manyOf ["boot-duration", "verify-duration", "download-bytes", "action-result"] 0)]

def asahi : Schema := closedObject ["m1n1Version", "ubootVersion", "efiVarsMutable"] [
  ("m1n1Version", { type := some ["string"], minLength := 1 }),
  ("ubootVersion", { type := some ["string"], minLength := 1 }),
  ("efiVarsMutable", flag),
  ("rollbackTarget", { type := some ["string", "null"] })]

def asahiCarriesParameters : Schema where
  ifThen := some ({
    required := ["type"]
    properties := [("type", { const := some (.str "asahi-m1n1-uboot-systemd-boot") })] },
    { required := ["asahi"] })

def bootChain : Schema where
  type := some ["object"]
  additionalProperties := .forbidden
  required := ["type"]
  properties := [
    ("type", oneOf ["asahi-m1n1-uboot-systemd-boot", "uefi-systemd-boot"]),
    ("asahi", asahi)]
  allOf := [asahiCarriesParameters]

def spec : Schema :=
  closedObject ["platforms", "channels", "artifacts", "policy", "evidence", "provenance", "trust",
    "signature", "antiRollback", "telemetry"] [
    ("releaseSetRef", text),
    ("platforms", manyOf ["apple-silicon", "uefi-x86_64", "uefi-aarch64", "generic-arm64"] 1),
    ("channels", manyOf ["live", "installer", "recovery", "rollback", "rescue"] 1),
    ("artifacts", listOf artifact 1),
    ("policy", policy),
    ("evidence", evidence),
    ("provenance", provenance),
    ("trust", trust),
    ("signature", signature),
    ("antiRollback", antiRollback),
    ("telemetry", telemetry),
    ("bootChain", bootChain)]

end BootReleaseSetSchema

open BootReleaseSetSchema in
def bootReleaseSetSchema : Schema := closedObject ["apiVersion", "kind", "metadata", "spec"] [
  ("apiVersion", { const := some (.str "sourceos.dev/v1") }),
  ("kind", { const := some (.str "BootReleaseSet") }),
  ("metadata", metadata),
  ("spec", spec)]

namespace Checked

open BootReleaseSetSchema (text flag textMatching oneOf manyOf listOf integerFrom)

def metadata : Schema := openObject ["name", "version", "createdAt"] [
  ("name", textMatching nameRe),
  ("version", textMatching versionRe),
  ("createdAt", text),
  ("labels", {})]

def artifact : Schema := openObject ["name", "role", "uri", "sha256"] [
  ("name", text),
  ("role", oneOf artifactRoles),
  ("uri", text),
  ("sha256", textMatching sha256Re),
  ("sizeBytes", integerFrom 0),
  ("contentType", {})]

def policy : Schema :=
  openObject ["network", "diskWrite", "tokenRequired", "allowedActions"] [
    ("network", oneOf network),
    ("diskWrite", oneOf diskWrite),
    ("tokenRequired", flag),
    ("allowedActions", manyOf actions 0)]

def evidence : Schema := openObject ["requiredReports", "correlationId"] [
  ("correlationId", text),
  ("requiredReports", manyOf reports 0)]

def provenance : Schema := openObject ["builderId", "sourceRefs", "attestations"] [
  ("builderId", text),
  ("sourceRefs", listOf text 1),
  ("attestations", manyOf attestations 1)]

def trust : Schema := openObject ["model", "rootRef", "metadataRef"] [
  ("model", oneOf trustModels),
  ("rootRef", text),
  ("metadataRef", text),
  ("threshold", integerFrom 1)]

def signature : Schema := openObject ["type", "digest"] [
  ("type", oneOf signatureTypes),
  ("bundleRef", {}),
  ("digest", textMatching sha256PrefixRe)]

def antiRollback : Schema := openObject ["minimumVersion", "allowOfflineFallback"] [
  ("minimumVersion", text),
  ("allowOfflineFallback", flag),
  ("allowedRollbackRefs", {})]

def telemetry : Schema := openObject ["traceRequired", "metricSet"] [
  ("traceRequired", flag),
  ("metricSet", manyOf metrics 0)]

def spec : Schema :=
  openObject ["platforms", "channels", "artifacts", "policy", "evidence", "provenance", "trust",
    "signature", "antiRollback", "telemetry"] [
    ("releaseSetRef", {}),
    ("platforms", manyOf platforms 1),
    ("channels", manyOf channels 1),
    ("artifacts", listOf artifact 1),
    ("policy", policy),
    ("evidence", evidence),
    ("provenance", provenance),
    ("trust", trust),
    ("signature", signature),
    ("antiRollback", antiRollback),
    ("telemetry", telemetry),
    ("bootChain", {})]

end Checked

/-- The schema, less its closed objects and the members no check reads. -/
def checkedSchema : Schema := openObject ["apiVersion", "kind", "metadata", "spec"] [
  ("apiVersion", { const := some (.str "sourceos.dev/v1") }),
  ("kind", { const := some (.str "BootReleaseSet") }),
  ("metadata", Checked.metadata),
  ("spec", Checked.spec)]

namespace Unchecked

open BootReleaseSetSchema (text labels listOf bootChain)

def metadata : Schema := closedObject [] [
  ("name", {}), ("version", {}), ("createdAt", {}), ("labels", labels)]

def artifact : Schema := closedObject [] [
  ("name", {}), ("role", {}), ("uri", {}), ("sha256", {}), ("sizeBytes", {}),
  ("contentType", text)]

def policy : Schema := closedObject [] [
  ("network", {}), ("diskWrite", {}), ("tokenRequired", {}), ("allowedActions", {})]

def evidence : Schema := closedObject [] [("correlationId", {}), ("requiredReports", {})]

def provenance : Schema := closedObject [] [
  ("builderId", {}), ("sourceRefs", {}), ("attestations", {})]

def trust : Schema := closedObject [] [
  ("model", {}), ("rootRef", {}), ("metadataRef", {}), ("threshold", {})]

def signature : Schema := closedObject [] [("type", {}), ("bundleRef", text), ("digest", {})]

def antiRollback : Schema := closedObject [] [
  ("minimumVersion", {}), ("allowOfflineFallback", {}), ("allowedRollbackRefs", listOf text 0)]

def telemetry : Schema := closedObject [] [("traceRequired", {}), ("metricSet", {})]

def spec : Schema := closedObject [] [
  ("releaseSetRef", text),
  ("platforms", {}),
  ("channels", {}),
  ("artifacts", { items := some artifact }),
  ("policy", policy),
  ("evidence", evidence),
  ("provenance", provenance),
  ("trust", trust),
  ("signature", signature),
  ("antiRollback", antiRollback),
  ("telemetry", telemetry),
  ("bootChain", bootChain)]

end Unchecked

/-- The rest of the schema: that an object has no members but the named ones, and the members no
check reads. -/
def uncheckedSchema : Schema := closedObject [] [
  ("apiVersion", {}), ("kind", {}), ("metadata", Unchecked.metadata), ("spec", Unchecked.spec)]

theorem spec_splits : Splits BootReleaseSetSchema.spec Checked.spec Unchecked.spec := by
  have artifact : Splits BootReleaseSetSchema.artifact Checked.artifact Unchecked.artifact :=
    .object (.cons (.left _) (.cons (.left _) (.cons (.left _) (.cons (.left _)
      (.cons (.left _) (.cons (.right _) .nil)))))) _
  have policy : Splits BootReleaseSetSchema.policy Checked.policy Unchecked.policy :=
    .object (.cons (.left _) (.cons (.left _) (.cons (.left _) (.cons (.left _) .nil)))) _
  have evidence : Splits BootReleaseSetSchema.evidence Checked.evidence Unchecked.evidence :=
    .object (.cons (.left _) (.cons (.left _) .nil)) _
  have provenance :
      Splits BootReleaseSetSchema.provenance Checked.provenance Unchecked.provenance :=
    .object (.cons (.left _) (.cons (.left _) (.cons (.left _) .nil))) _
  have trust : Splits BootReleaseSetSchema.trust Checked.trust Unchecked.trust :=
    .object (.cons (.left _) (.cons (.left _) (.cons (.left _) (.cons (.left _) .nil)))) _
  have signature :
      Splits BootReleaseSetSchema.signature Checked.signature Unchecked.signature :=
    .object (.cons (.left _) (.cons (.right _) (.cons (.left _) .nil))) _
  have antiRollback :
      Splits BootReleaseSetSchema.antiRollback Checked.antiRollback Unchecked.antiRollback :=
    .object (.cons (.left _) (.cons (.left _) (.cons (.right _) .nil))) _
  have telemetry :
      Splits BootReleaseSetSchema.telemetry Checked.telemetry Unchecked.telemetry :=
    .object (.cons (.left _) (.cons (.left _) .nil)) _
  exact .object (.cons (.right _) (.cons (.left _) (.cons (.left _) (.cons (artifact.list 1)
    (.cons policy (.cons evidence (.cons provenance (.cons trust (.cons signature
    (.cons antiRollback (.cons telemetry (.cons (.right _) .nil)))))))))))) _

theorem schema_splits : Splits bootReleaseSetSchema checkedSchema uncheckedSchema := by
  have metadata : Splits BootReleaseSetSchema.metadata Checked.metadata Unchecked.metadata :=
    .object (.cons (.left _) (.cons (.left _) (.cons (.left _) (.cons (.right _) .nil)))) _
  exact .object (.cons (.left _) (.cons (.left _) (.cons metadata (.cons spec_splits .nil)))) _

end SourceosBoot.Release
