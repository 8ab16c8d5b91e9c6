import SourceosBoot.AbUpdate.Cli
import SourceosBoot.Nlboot.AdaptedManifests
import SourceosBoot.Shared.CanonicalJson

set_option autoImplicit false

namespace SourceosBoot.Nlboot

open Python AbUpdate

def BootAuthorization.toDict (authorization : BootAuthorization) : Json := .obj [
  ("correlationId", .str authorization.correlationId),
  ("bootReleaseSetRef", .str authorization.bootReleaseSetRef),
  ("tokenId", .str authorization.tokenId),
  ("expiresAt", .str authorization.expiresAt)]

def BootEvidence.toDict (evidence : BootEvidence) : Json := .obj [
  ("correlationId", .str evidence.correlationId),
  ("deviceId", .str evidence.deviceId),
  ("selectedChannel", .str evidence.selectedChannel),
  ("bootMode", .str evidence.bootMode),
  ("manifestHash", .str evidence.manifestHash),
  ("verificationResult", .str evidence.verificationResult),
  ("reports", .arr (evidence.reports.map .str))]

def PendingArtifact.toDict (pending : PendingArtifact) : Json := .obj [
  ("role", .str pending.role),
  ("uri", .str pending.uri)]

def BootReleaseSetPatch.toDict (patch : BootReleaseSetPatch) : Json := .obj [
  ("releaseSetRef", .str patch.releaseSetRef),
  ("channels", .arr (patch.channels.map .str)),
  ("artifactRefsPendingDigest", .arr (patch.artifactRefsPendingDigest.map PendingArtifact.toDict))]

def authorizationFromNlbootToken (tokenDoc : Json) (correlationId : String) :
    Except Raised BootAuthorization := do
  let bootReleaseSetRef ← required tokenDoc "boot_release_set_ref" "token"
  let tokenId ← required tokenDoc "token_id" "token"
  let expiresAt ← required tokenDoc "expires_at" "token"
  return ⟨correlationId, str bootReleaseSetRef, str tokenId, str expiresAt⟩

def canonicalJsonSha256 (sha256 : String → String) (data : List (String × Json)) : String :=
  "sha256:" ++ sha256 (Json.obj data).dumps

structure HandoffArguments where
  manifest : JsonFile
  token : JsonFile
  deviceId : String
  publicKeyFingerprint : String
  platform : String
  nonce : String
  correlationId : String
  verificationResult : String := "pass"

def HandoffArguments.claim (args : HandoffArguments) (observedAt : String) : DeviceClaim where
  deviceId := args.deviceId
  publicKeyFingerprint := args.publicKeyFingerprint
  platform := args.platform
  nonce := args.nonce
  observedAt

def handoffOutput (authorization : BootAuthorization) (patch : BootReleaseSetPatch)
    (evidence : BootEvidence) : Json := .obj [
  ("apiVersion", .str "sourceos.dev/v1"),
  ("kind", .str "NlbootAdapterOutput"),
  ("authorization", authorization.toDict),
  ("bootReleaseSetPatch", patch.toDict),
  ("evidence", evidence.toDict)]

def adaptNlboot (sha256 : String → String) (observedAt : String) (args : HandoffArguments) :
    Effect (List Json) Int := do
  let manifestDoc ← ask fun _ => loadJson args.manifest
  let tokenDoc ← ask fun _ => loadJson args.token
  let claim := args.claim observedAt
  let authorization ← ask fun _ => authorizationFromNlbootToken (.obj tokenDoc) args.correlationId
  let patch ← ask fun _ => bootReleaseSetPatchFromNlbootManifest (.obj manifestDoc)
  let evidence ← ask fun _ => buildEvidenceFromNlbootManifest claim authorization
    (.obj manifestDoc) (canonicalJsonSha256 sha256 manifestDoc) args.verificationResult
  modify fun printed => printed ++ [handoffOutput authorization patch evidence]
  return 0

def Gives (doc : List (String × Json)) (key text : String) : Prop :=
  ∃ value, Json.lookup key doc = some value ∧ value ≠ .null ∧ value ≠ .str "" ∧ text = str value

theorem blank_iff (value : Json) :
    (Json.pyEq value .null = true ∨ Json.pyEq value (.str "") = true) ↔
      value = .null ∨ value = .str "" := by
  have null : Json.pyEq value .null = true ↔ value = .null := by
    cases value <;> simp [Json.pyEq, Json.same, Json.number]
  rw [null, Json.pyEq_str]

theorem required_ok (doc : List (String × Json)) (key what : String) (value : Json) :
    required (.obj doc) key what = .ok value ↔
      Json.lookup key doc = some value ∧ value ≠ .null ∧ value ≠ .str "" := by
  have read : (Json.obj doc).getD key .null = .ok ((Json.lookup key doc).getD .null) := rfl
  constructor
  · intro taken
    obtain ⟨found, got, taken⟩ := (bind_ok _ _ _).mp taken
    obtain ⟨given, returned⟩ := (then_ok _ _ _).mp taken
    cases returned
    cases read.symm.trans got
    rw [raiseWhen_ok, blank_iff, not_or] at given
    exact ⟨Json.lookup_of_getD rfl given.1, given⟩
  · rintro ⟨found, given⟩
    refine (bind_ok _ _ _).mpr ⟨value, by rw [read, found]; rfl, (then_ok _ _ _).mpr ⟨?_, rfl⟩⟩
    rwa [raiseWhen_ok, blank_iff, not_or]

theorem authorization_ok (tokenDoc : List (String × Json)) (correlationId : String)
    (authorization : BootAuthorization) :
    authorizationFromNlbootToken (.obj tokenDoc) correlationId = .ok authorization ↔
      authorization.correlationId = correlationId ∧
      Gives tokenDoc "boot_release_set_ref" authorization.bootReleaseSetRef ∧
      Gives tokenDoc "token_id" authorization.tokenId ∧
      Gives tokenDoc "expires_at" authorization.expiresAt := by
  simp only [authorizationFromNlbootToken, bind_ok, required_ok, pure, Except.pure,
    Except.ok.injEq]
  constructor
  · rintro ⟨_, ⟨found, given⟩, _, ⟨found', given'⟩, _, ⟨found'', given''⟩, rfl⟩
    exact ⟨rfl, ⟨_, found, given.1, given.2, rfl⟩, ⟨_, found', given'.1, given'.2, rfl⟩,
      ⟨_, found'', given''.1, given''.2, rfl⟩⟩
  · rintro ⟨rfl, ⟨_, found, some, full, ref⟩, ⟨_, found', some', full', token⟩,
      ⟨_, found'', some'', full'', expires⟩⟩
    refine ⟨_, ⟨found, some, full⟩, _, ⟨found', some', full'⟩, _, ⟨found'', some'', full''⟩, ?_⟩
    rw [← ref, ← token, ← expires]

def pendingRef (artifacts : List (String × Json)) (field : String × String) :
    Option PendingArtifact :=
  match Json.lookup field.1 artifacts with
  | some ref => if ref.truthy then some ⟨field.2, str ref⟩ else none
  | none => none

def pendingOf (artifacts : List (String × Json)) : List PendingArtifact :=
  roles.filterMap (pendingRef artifacts)

def Artifacts (manifestDoc artifacts : List (String × Json)) : Prop :=
  let given := (Json.lookup "artifacts" manifestDoc).getD .null
  given.truthy = false ∧ artifacts = [] ∨ given.truthy = true ∧ given = .obj artifacts

theorem pendingArtifacts_run (artifacts : List (String × Json)) (wanted : List (String × String)) :
    pendingArtifacts (.obj artifacts) wanted = .ok (wanted.filterMap (pendingRef artifacts)) := by
  induction wanted with
  | nil => rfl
  | cons pair rest ih =>
    obtain ⟨field, role⟩ := pair
    simp only [pendingArtifacts, ih, Json.getD, bind, Except.bind, List.filterMap_cons, pendingRef]
    cases found : Json.lookup field artifacts with
    | none => simp [Json.truthy, pure, Except.pure]
    | some ref => cases present : ref.truthy <;> simp [present, pure, Except.pure]

theorem pendingArtifacts_objects {value : Json} {pending : List PendingArtifact}
    (read : pendingArtifacts value roles = .ok pending) : ∃ artifacts, value = .obj artifacts := by
  obtain ⟨ref, got, _⟩ := (bind_ok _ _ _).mp read
  cases value with
  | obj artifacts => exact ⟨artifacts, rfl⟩
  | _ => cases got

theorem patch_ok (manifestDoc : List (String × Json)) (patch : BootReleaseSetPatch) :
    bootReleaseSetPatchFromNlbootManifest (.obj manifestDoc) = .ok patch ↔
      ∃ artifacts bootMode, Artifacts manifestDoc artifacts ∧
        patch.artifactRefsPendingDigest = pendingOf artifacts ∧
        Gives manifestDoc "base_release_set_ref" patch.releaseSetRef ∧
        Gives manifestDoc "boot_mode" bootMode ∧ patch.channels = [bootMode] := by
  simp only [bootReleaseSetPatchFromNlbootManifest, bind_ok, required_ok, pure, Except.pure,
    Except.ok.injEq]
  constructor
  · rintro ⟨given, got, pending, read, _, ⟨found, some, full⟩, _, ⟨found', some', full'⟩, rfl⟩
    cases got
    obtain ⟨artifacts, shape⟩ := pendingArtifacts_objects read
    rw [shape, pendingArtifacts_run] at read
    cases read
    refine ⟨artifacts, _, ?_, rfl, ⟨_, found, some, full, rfl⟩, ⟨_, found', some', full', rfl⟩, rfl⟩
    cases present : ((Json.lookup "artifacts" manifestDoc).getD .null).truthy with
    | false =>
      rw [present, if_neg Bool.false_ne_true] at shape
      exact .inl ⟨present, (Json.obj.inj shape).symm⟩
    | true =>
      rw [present, if_pos rfl] at shape
      exact .inr ⟨present, shape⟩
  · rintro ⟨artifacts, bootMode, whole, pending, ⟨_, found, some, full, ref⟩,
      ⟨_, found', some', full', mode⟩, channels⟩
    refine ⟨_, rfl, pendingOf artifacts, ?_, _, ⟨found, some, full⟩, _, ⟨found', some', full'⟩, ?_⟩
    · rw [pendingOf, ← pendingArtifacts_run]
      rcases whole with ⟨absent, rfl⟩ | ⟨present, shape⟩
      · rw [absent, if_neg Bool.false_ne_true]
      · rw [present, if_pos rfl, shape]
    · rw [← ref, ← mode, ← channels, ← pending]

theorem evidence_ok (claim : DeviceClaim) (authorization : BootAuthorization)
    (manifestDoc : List (String × Json)) (manifestHash verificationResult : String)
    (evidence : BootEvidence) :
    buildEvidenceFromNlbootManifest claim authorization (.obj manifestDoc) manifestHash
        verificationResult = .ok evidence ↔
      ∃ bootMode, Gives manifestDoc "boot_mode" bootMode ∧
        evidence = buildEvidence claim authorization bootMode bootMode manifestHash
          verificationResult := by
  simp only [buildEvidenceFromNlbootManifest, bind_ok, required_ok, pure, Except.pure,
    Except.ok.injEq]
  constructor
  · rintro ⟨_, ⟨found, given, full⟩, rfl⟩
    exact ⟨_, ⟨_, found, given, full, rfl⟩, rfl⟩
  · rintro ⟨_, ⟨_, found, given, full, rfl⟩, rfl⟩
    exact ⟨_, ⟨found, given, full⟩, rfl⟩

theorem Gives.unique {doc : List (String × Json)} {key text other : String}
    (first : Gives doc key text) (second : Gives doc key other) : text = other := by
  obtain ⟨_, found, _, _, rfl⟩ := first
  obtain ⟨_, again, _, _, rfl⟩ := second
  cases found.symm.trans again
  rfl

structure HandsOver (sha256 : String → String) (args : HandoffArguments)
    (manifest token : List (String × Json)) (authorization : BootAuthorization)
    (patch : BootReleaseSetPatch) (evidence : BootEvidence) : Prop where
  manifestRead : args.manifest.content = .obj manifest
  tokenRead : args.token.content = .obj token
  correlationId : authorization.correlationId = args.correlationId
  bootReleaseSetRef : Gives token "boot_release_set_ref" authorization.bootReleaseSetRef
  tokenId : Gives token "token_id" authorization.tokenId
  expiresAt : Gives token "expires_at" authorization.expiresAt
  releaseSetRef : Gives manifest "base_release_set_ref" patch.releaseSetRef
  pending : ∃ artifacts, Artifacts manifest artifacts ∧
    patch.artifactRefsPendingDigest = pendingOf artifacts
  bootMode : Gives manifest "boot_mode" evidence.bootMode
  channels : patch.channels = [evidence.bootMode]
  -- The nonce, the key and the clock are not in it.
  evidence : evidence = ⟨args.correlationId, args.deviceId, evidence.bootMode, evidence.bootMode,
    canonicalJsonSha256 sha256 manifest, args.verificationResult, evidenceReports⟩

theorem handoff_run (sha256 : String → String) (observedAt : String) (args : HandoffArguments)
    (printed shown : List Json) (code : Int) :
    (adaptNlboot sha256 observedAt args).run printed = .ok code shown ↔
      code = 0 ∧ ∃ manifest token authorization patch evidence,
        HandsOver sha256 args manifest token authorization patch evidence ∧
        shown = printed ++ [handoffOutput authorization patch evidence] := by
  simp only [adaptNlboot, ask_then_ok, loadJson_ok, authorization_ok, patch_ok, evidence_ok,
    modify_then]
  constructor
  · rintro ⟨manifest, manifestRead, token, tokenRead, authorization,
      ⟨correlated, bootReleaseSetRef, tokenId, expiresAt⟩, patch,
      ⟨artifacts, bootMode, whole, pending, releaseSetRef, mode, channels⟩, _,
      ⟨_, again, rfl⟩, ran⟩
    cases ran
    cases mode.unique again
    refine ⟨rfl, manifest, token, authorization, patch, _, ⟨manifestRead, tokenRead, correlated,
      bootReleaseSetRef, tokenId, expiresAt, releaseSetRef, ⟨artifacts, whole, pending⟩, mode,
      channels, ?_⟩, rfl⟩
    rw [buildEvidence, correlated]
    rfl
  · rintro ⟨rfl, manifest, token, authorization, patch, evidence, handed, rfl⟩
    obtain ⟨artifacts, whole, pending⟩ := handed.pending
    refine ⟨manifest, handed.manifestRead, token, handed.tokenRead, authorization,
      ⟨handed.correlationId, handed.bootReleaseSetRef, handed.tokenId, handed.expiresAt⟩, patch,
      ⟨artifacts, _, whole, pending, handed.releaseSetRef, handed.bootMode, handed.channels⟩,
      evidence, ⟨_, handed.bootMode, ?_⟩, rfl⟩
    rw [buildEvidence, handed.correlationId]
    exact handed.evidence

theorem handoff_steady (sha256 : String → String) (observedAt : String) (args : HandoffArguments) :
    Steady (adaptNlboot sha256 observedAt args) :=
  .ask_then fun _ _ => .ask_then fun _ _ => .ask_then fun _ _ => .ask_then fun _ _ =>
    .ask_then fun _ _ => .ok 0 _ fun _ => rfl

/--
The command answers where the two documents give what it requires, and it shows
their records and nothing else; where it raises it has shown nothing.
-/
theorem handoff_exact (sha256 : String → String) (observedAt : String) (args : HandoffArguments)
    (printed : List Json) :
    (∀ code shown, (adaptNlboot sha256 observedAt args).run printed = .ok code shown ↔
      code = 0 ∧ ∃ manifest token authorization patch evidence,
        HandsOver sha256 args manifest token authorization patch evidence ∧
        shown = printed ++ [handoffOutput authorization patch evidence]) ∧
    ∀ raised shown, (adaptNlboot sha256 observedAt args).run printed = .error raised shown →
      shown = printed :=
  ⟨fun code shown => handoff_run sha256 observedAt args printed shown code,
    (handoff_steady sha256 observedAt args).atomic printed⟩

theorem map_str_inj : Function.Injective (List.map Json.str) :=
  List.map_injective_iff.mpr fun _ _ => Json.str.inj

theorem pendingArtifact_inj : Function.Injective PendingArtifact.toDict := by
  rintro ⟨_, _⟩ ⟨_, _⟩ same
  simpa [PendingArtifact.toDict] using same

theorem handoffOutput_inj {authorization otherAuthorization : BootAuthorization}
    {patch otherPatch : BootReleaseSetPatch} {evidence otherEvidence : BootEvidence}
    (same : handoffOutput authorization patch evidence =
      handoffOutput otherAuthorization otherPatch otherEvidence) :
    authorization = otherAuthorization ∧ patch = otherPatch ∧ evidence = otherEvidence := by
  cases authorization
  cases patch
  cases evidence
  cases otherAuthorization
  cases otherPatch
  cases otherEvidence
  simpa [handoffOutput, BootAuthorization.toDict, BootReleaseSetPatch.toDict, BootEvidence.toDict,
    map_str_inj.eq_iff, pendingArtifact_inj.list_map.eq_iff] using same

theorem handed_over {sha256 : String → String} {observedAt : String} {args : HandoffArguments}
    {authorization : BootAuthorization} {patch : BootReleaseSetPatch} {evidence : BootEvidence}
    (ran : (adaptNlboot sha256 observedAt args).run [] =
      .ok 0 [handoffOutput authorization patch evidence]) :
    ∃ manifest token, HandsOver sha256 args manifest token authorization patch evidence := by
  obtain ⟨_, manifest, token, _, _, _, handed, shown⟩ := (handoff_run _ _ _ _ _ _).mp ran
  obtain ⟨rfl, rfl, rfl⟩ := handoffOutput_inj (List.singleton_inj.mp shown)
  exact ⟨manifest, token, handed⟩

structure Textual (manifest : List (String × Json)) : Prop where
  fields : ∀ key ∈ ["base_release_set_ref", "boot_mode"], ∀ value,
    Json.lookup key manifest = some value → ∃ text, value = .str text
  refs : ∀ artifacts, Json.lookup "artifacts" manifest = some (.obj artifacts) →
    ∀ field ∈ roles, ∀ value, Json.lookup field.1 artifacts = some value → ∃ text, value = .str text

section Pinned

variable {manifest other : List (String × Json)} (plain : (Json.obj manifest).Plain)
  (otherPlain : (Json.obj other).Plain)
  (same : (Json.obj manifest).dumps = (Json.obj other).dumps)
include plain otherPlain same

theorem text_pinned {key text : String} (found : Json.lookup key manifest = some (.str text)) :
    Json.lookup key other = some (.str text) := by
  have texts := Json.lookup_of_dumps plain otherPlain same key
  rw [found, Option.map_some] at texts
  obtain ⟨value, there, equal⟩ := Option.map_eq_some_iff.mp texts.symm
  rw [there, Json.str_of_dumps (otherPlain.of_lookup there) equal.symm]

theorem gives_pinned {key text otherText : String}
    (textual : ∀ value, Json.lookup key manifest = some value → ∃ text, value = .str text)
    (gives : Gives manifest key text) (otherGives : Gives other key otherText) :
    text = otherText := by
  obtain ⟨value, found, some, full, rfl⟩ := gives
  obtain ⟨letters, rfl⟩ := textual value found
  exact Gives.unique ⟨_, text_pinned plain otherPlain same found, some, full, rfl⟩ otherGives

theorem pendingRef_pinned (field : String × String)
    (textual : ∀ value, Json.lookup field.1 manifest = some value → ∃ text, value = .str text) :
    pendingRef manifest field = pendingRef other field := by
  have texts := Json.lookup_of_dumps plain otherPlain same field.1
  unfold pendingRef
  cases found : Json.lookup field.1 manifest with
  | none =>
    rw [found, Option.map_none, eq_comm, Option.map_eq_none_iff] at texts
    rw [texts]
  | some value =>
    obtain ⟨letters, rfl⟩ := textual value found
    rw [text_pinned plain otherPlain same found]

theorem pending_pinned {artifacts otherArtifacts : List (String × Json)}
    (whole : Artifacts manifest artifacts) (otherWhole : Artifacts other otherArtifacts)
    (textual : Textual manifest) : pendingOf artifacts = pendingOf otherArtifacts := by
  have texts := Json.lookup_of_dumps plain otherPlain same "artifacts"
  unfold Artifacts at whole otherWhole
  cases found : Json.lookup "artifacts" manifest with
  | none =>
    rw [found, Option.map_none, eq_comm, Option.map_eq_none_iff] at texts
    simp only [found, texts, Option.getD_none, Json.truthy, Bool.false_eq_true, true_and,
      false_and, or_false] at whole otherWhole
    rw [whole, otherWhole]
  | some given =>
    rw [found, Option.map_some] at texts
    obtain ⟨otherGiven, there, equal⟩ := Option.map_eq_some_iff.mp texts.symm
    have plainGiven := plain.of_lookup found
    have plainOther := otherPlain.of_lookup there
    simp only [found, there, Option.getD_some, Json.truthy_of_dumps plainOther plainGiven equal]
      at whole otherWhole
    rcases whole with ⟨absent, rfl⟩ | ⟨present, rfl⟩
    · rw [absent] at otherWhole
      rw [(otherWhole.resolve_right (by simp)).2]
    · obtain ⟨_, rfl⟩ := otherWhole.resolve_left (by simp [present])
      refine List.filterMap_congr fun field listed => ?_
      exact pendingRef_pinned plainGiven plainOther equal.symm field
        (textual.refs artifacts found field listed)

end Pinned

/--
Two handoffs show the same hash exactly for the same manifest, but for the order
of keys. What the hash is shown beside does not then differ either.
-/
theorem manifest_hash_pins {sha256 : String → String} (collisionFree : Function.Injective sha256)
    {observedAt observedLater : String} {args others : HandoffArguments}
    (plain : args.manifest.content.Plain) (otherPlain : others.manifest.content.Plain)
    {authorization otherAuthorization : BootAuthorization} {patch otherPatch : BootReleaseSetPatch}
    {evidence otherEvidence : BootEvidence}
    (ran : (adaptNlboot sha256 observedAt args).run [] =
      .ok 0 [handoffOutput authorization patch evidence])
    (otherRan : (adaptNlboot sha256 observedLater others).run [] =
      .ok 0 [handoffOutput otherAuthorization otherPatch otherEvidence]) :
    (evidence.manifestHash = otherEvidence.manifestHash ↔
      Json.jsonEq args.manifest.content others.manifest.content = true) ∧
    (evidence.manifestHash = otherEvidence.manifestHash →
      (∀ manifest, args.manifest.content = .obj manifest → Textual manifest) →
      patch = otherPatch ∧ evidence.selectedChannel = otherEvidence.selectedChannel) := by
  obtain ⟨manifest, _, handed⟩ := handed_over ran
  obtain ⟨other, _, otherHanded⟩ := handed_over otherRan
  rw [handed.manifestRead] at plain
  rw [otherHanded.manifestRead] at otherPlain
  have hashes : evidence.manifestHash = otherEvidence.manifestHash ↔
      (Json.obj manifest).dumps = (Json.obj other).dumps := by
    rw [handed.evidence, otherHanded.evidence]
    exact (String.append_right_inj _).trans collisionFree.eq_iff
  rw [hashes, handed.manifestRead, otherHanded.manifestRead]
  refine ⟨Json.dumps_inj plain otherPlain, fun same textual => ?_⟩
  have texts := textual manifest rfl
  have mode := gives_pinned plain otherPlain same (texts.fields _ (by simp)) handed.bootMode
    otherHanded.bootMode
  constructor
  · have ref := gives_pinned plain otherPlain same (texts.fields _ (by simp)) handed.releaseSetRef
      otherHanded.releaseSetRef
    obtain ⟨artifacts, whole, pending⟩ := handed.pending
    obtain ⟨otherArtifacts, otherWhole, otherPending⟩ := otherHanded.pending
    have roles := pending_pinned plain otherPlain same whole otherWhole texts
    have channels := handed.channels.trans (mode ▸ otherHanded.channels.symm)
    cases patch
    cases otherPatch
    simp_all
  · rw [handed.evidence, otherHanded.evidence]
    exact mode

def demoReordered : Json := .obj [
  ("boot_mode", .str "recovery"),
  ("base_release_set_ref", .str "release/demo"),
  ("boot_release_set_id", .str "boot/demo"),
  ("manifest_id", .str "manifest-demo-1"),
  ("crypto_profile", .str "fips-140-3-compatible"),
  ("signature_algorithm", .str "rsa-pss-sha256"),
  ("signer_ref", .str "trusted-key-1"),
  ("signature_ref", .str "urn:srcos:signature:demo"),
  ("artifacts", .obj [
    ("rootfs_ref", .str "https://example.invalid/rootfs"),
    ("initrd_ref", .str "https://example.invalid/initrd"),
    ("kernel_ref", .str "https://example.invalid/kernel")])]

def demoToken : List (String × Json) := [
  ("token_id", .str "token-demo-1"),
  ("purpose", .str "recovery"),
  ("expires_at", .str "2026-04-26T01:00:00Z"),
  ("release_set_ref", .str "release/demo"),
  ("boot_release_set_ref", .str "boot/demo")]

def demoHandoff (manifest : Json) (correlationId : String) : HandoffArguments where
  manifest := ⟨"manifest.json", manifest⟩
  token := ⟨"token.json", .obj demoToken⟩
  deviceId := demoClaim.deviceId
  publicKeyFingerprint := demoClaim.publicKeyFingerprint
  platform := demoClaim.platform
  nonce := demoClaim.nonce
  correlationId := correlationId

-- SHA-256 of the text of the example; the other texts get an answer each of their own.
def demoSha256 (text : String) : String :=
  if text = (demoManifest "recovery").dumps then
    "b5014e848fc8ce3acd28a7cc8c2435340bf3871647d298bec102fb7dbe737e1a"
  else "other " ++ text

theorem demoSha256_injective : Function.Injective demoSha256 := by
  have marked (text digest : String) (unmarked : digest.toList.head? ≠ some 'o') :
      "other " ++ text ≠ digest := by
    rintro rfl
    simp at unmarked
  intro left right same
  unfold demoSha256 at same
  split_ifs at same with first second third
  · rw [first, second]
  · exact absurd same.symm (marked _ _ (by decide))
  · exact absurd same (marked _ _ (by decide))
  · exact (String.append_right_inj _).mp same

def demoEvidence (correlationId : String) : BootEvidence where
  correlationId
  deviceId := "device-demo-m2"
  selectedChannel := "recovery"
  bootMode := "recovery"
  manifestHash := "sha256:b5014e848fc8ce3acd28a7cc8c2435340bf3871647d298bec102fb7dbe737e1a"
  verificationResult := "pass"
  reports := evidenceReports

theorem texts_plain {items : List (String × Json)} (named : (items.map Prod.fst).Nodup)
    (texts : ∀ item ∈ items, ∃ text, item.2 = .str text) : (Json.obj items).Plain := by
  refine .obj named fun item listed => ?_
  obtain ⟨text, is⟩ := texts item listed
  exact is ▸ .str text

theorem demo_plain : (demoManifest "recovery").Plain := by
  refine .obj (by decide) ?_
  simp [Json.Plain.str, texts_plain]

theorem reordered_plain : demoReordered.Plain := by
  refine .obj (by decide) ?_
  simp [Json.Plain.str, texts_plain]

theorem reordered_same : demoReordered.dumps = (demoManifest "recovery").dumps :=
  Json.dumps_of_jsonEq reordered_plain demo_plain (by decide +kernel)

theorem gives_text {doc : List (String × Json)} {key text : String}
    (found : Json.lookup key doc = some (.str text)) (full : text ≠ "") : Gives doc key text :=
  ⟨_, found, by simp, by simpa using full, rfl⟩

theorem demo_handoff {manifest artifacts : List (String × Json)} (observedAt correlationId : String)
    (ref : Json.lookup "base_release_set_ref" manifest = some (.str "release/demo"))
    (mode : Json.lookup "boot_mode" manifest = some (.str "recovery"))
    (listed : Json.lookup "artifacts" manifest = some (.obj artifacts))
    (pending : pendingOf artifacts = (demoPatch "recovery").artifactRefsPendingDigest)
    (text : (Json.obj manifest).dumps = (demoManifest "recovery").dumps) :
    (adaptNlboot demoSha256 observedAt (demoHandoff (.obj manifest) correlationId)).run [] =
      .ok 0 [handoffOutput { demoAuthorization with correlationId } (demoPatch "recovery")
        (demoEvidence correlationId)] := by
  have filled : (Json.obj artifacts).truthy = true := by
    cases artifacts with
    | nil => cases pending
    | cons _ _ => rfl
  refine (handoff_run _ _ _ _ _ _).mpr ⟨rfl, manifest, demoToken, _, _, _, ?_, rfl⟩
  constructor
  case manifestRead => rfl
  case tokenRead => rfl
  case correlationId => rfl
  case bootReleaseSetRef => exact gives_text rfl (by simp [demoAuthorization])
  case tokenId => exact gives_text rfl (by simp [demoAuthorization])
  case expiresAt => exact gives_text rfl (by simp [demoAuthorization])
  case releaseSetRef => exact gives_text ref (by decide)
  case pending =>
    refine ⟨artifacts, .inr ?_, pending.symm⟩
    rw [listed]
    exact ⟨filled, rfl⟩
  case bootMode => exact gives_text mode (by simp [demoEvidence])
  case channels => rfl
  case evidence =>
    rw [canonicalJsonSha256, text, demoSha256, if_pos rfl]
    rfl

theorem manifest_hash_pins_demo :
    ((demoEvidence "corr-demo-1").manifestHash = (demoEvidence "corr-demo-2").manifestHash ↔
      Json.jsonEq (demoManifest "recovery") demoReordered = true) ∧
    ((demoEvidence "corr-demo-1").manifestHash = (demoEvidence "corr-demo-2").manifestHash →
      (∀ manifest, demoManifest "recovery" = .obj manifest → Textual manifest) →
      demoPatch "recovery" = demoPatch "recovery" ∧
        (demoEvidence "corr-demo-1").selectedChannel =
          (demoEvidence "corr-demo-2").selectedChannel) :=
  manifest_hash_pins demoSha256_injective demo_plain reordered_plain
    (demo_handoff demoClaim.observedAt _ rfl rfl rfl rfl rfl)
    (demo_handoff demoClaim.observedAt _ rfl rfl rfl rfl reordered_same)

end SourceosBoot.Nlboot
