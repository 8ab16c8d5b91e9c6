import SourceosBoot.ControlPlane.Planner

set_option autoImplicit false

namespace SourceosBoot.ControlPlane

open Python

def HasText (data : Dict) (key text : String) : Prop :=
  Json.lookup key data = some (.str text) ∧ strip text ≠ ""

structure NamesArtifacts (artifacts : Dict) (refs : List (String × Option String)) : Prop where
  names : refs.map Prod.fst = requiredRefs ++ optionalRefs
  given : ∀ ref ∈ refs, artifacts.get ref.1 = (ref.2.map Json.str).getD .null
  named : ∀ ref ∈ refs, ref.1 ∈ requiredRefs → ∃ text, ref.2 = some text ∧ strip text ≠ ""

structure Signed (signing : Dict) : Prop where
  signature : ∃ ref, HasText signing "signature_ref" ref ∧
    startswith ref "urn:srcos:signature:" = true
  signer : ∃ ref, HasText signing "signer_ref" ref ∧ startswith ref "urn:srcos:key:" = true
  algorithm : ∃ algorithm ∈ signatureAlgorithms, HasText signing "signature_algorithm" algorithm
  digest : ∃ digest value, Json.lookup "manifest_digest" signing = some (.obj digest) ∧
    HasText digest "value" value ∧ ∃ start ∈ safeDigestPrefixes, startswith value start = true

def Entrypoint (entrypoint : Json) : Prop :=
  ∃ members, entrypoint = .obj members ∧
    ∀ key ∈ ["platform", "entrypoint_kind", "entrypoint_ref"], ∃ text, HasText members key text

structure Reporting (proofReporting : Dict) (reports : List Json) : Prop where
  required : Json.lookup "required" proofReporting = some (.bool true)
  listed : Json.lookup "reports" proofReporting = some (.arr reports)
  someReport : reports ≠ []

structure SafeFallback (offlineFallback : Dict) : Prop where
  verified : (offlineFallback.get "enabled").truthy = true →
    Json.lookup "requires_signature_verification" offlineFallback = some (.bool true)
  signed : Json.lookup "allows_unsigned_artifacts" offlineFallback = some (.bool false)

structure Cleared (doc : Dict) (intent : BootIntent) (reports : List Json) : Prop where
  bootReleaseSetId : HasText doc "boot_release_set_id" intent.bootReleaseSetId
  baseReleaseSetRef : HasText doc "base_release_set_ref" intent.baseReleaseSetRef
  bootMode : HasText doc "boot_mode" intent.bootMode
  bootChannel : HasText doc "boot_channel" intent.bootChannel
  status : HasText doc "status" intent.status
  policyRef : HasText doc "policy_ref" intent.policyRef
  ready : intent.status = "ready"
  knownChannel : intent.bootChannel ∈ bootActionByChannel.map Prod.fst
  knownMode : intent.bootMode ∈ bootModes
  bootReleaseSetUrn : startswith intent.bootReleaseSetId "urn:srcos:boot-release-set:" = true
  releaseSetUrn : startswith intent.baseReleaseSetRef "urn:srcos:release-set:" = true
  policyUrn : startswith intent.policyRef "urn:srcos:policy:" = true
  entrypoints : Json.lookup "platform_entrypoints" doc = some (.arr intent.platformEntrypoints)
  someEntrypoint : intent.platformEntrypoints ≠ []
  eachEntrypoint : ∀ entrypoint ∈ intent.platformEntrypoints, Entrypoint entrypoint
  artifacts : ∃ artifacts, Json.lookup "artifacts" doc = some (.obj artifacts) ∧
    NamesArtifacts artifacts intent.artifactRefs
  signing : Json.lookup "signing" doc = some (.obj intent.signing)
  signed : Signed intent.signing
  bootCapabilities : Json.lookup "boot_capabilities" doc = some (.obj intent.bootCapabilities)
  offlineFallback : Json.lookup "offline_fallback" doc = some (.obj intent.offlineFallback)
  safeFallback : SafeFallback intent.offlineFallback
  reporting : ∃ proofReporting, Json.lookup "proof_reporting" doc = some (.obj proofReporting) ∧
    Reporting proofReporting reports

section Checks

theorem get_iff {data : Dict} {key : String} {value : Json} (given : value ≠ .null) :
    data.get key = value ↔ Json.lookup key data = some value := by
  constructor
  · exact fun read => Json.lookup_of_getD read given
  · intro found
    rw [Dict.get, found, Option.getD_some]

-- The unit is a variable here, as the rule for `bind` leaves it.
theorem refuseWhen_ok (bad : Prop) [Decidable bad] (message : String) (done : Unit) :
    refuseWhen bad message = .ok done ↔ ¬ bad :=
  raiseWhen_ok bad _ message

variable (data : Dict) (key : String)

theorem requireStr_ok (text : String) :
    requireStr data key = .ok text ↔ HasText data key text := by
  rw [HasText, ← get_iff (by simp), requireStr]
  cases data.get key with
  | str value =>
    by_cases blank : strip value = ""
    · simp only [blank, if_true, refuse, raise, reduceCtorEq, Json.str.injEq, false_iff]
      rintro ⟨rfl, filled⟩
      exact filled blank
    · simp only [blank, if_false, Except.ok.injEq, Json.str.injEq]
      exact ⟨fun same => ⟨same, same ▸ blank⟩, And.left⟩
  | _ => simp [refuse, raise]

theorem requireDict_ok (members : Dict) :
    requireDict data key = .ok members ↔ Json.lookup key data = some (.obj members) := by
  rw [← get_iff (by simp), requireDict]
  cases data.get key <;> simp [refuse, raise]

theorem requireList_ok (items : List Json) :
    requireList data key = .ok items ↔ Json.lookup key data = some (.arr items) := by
  rw [← get_iff (by simp), requireList]
  cases data.get key <;> simp [refuse, raise]

theorem optionalRef_ok (artifacts : Dict) (ref : Option String) :
    optionalRef artifacts key = .ok ref ↔ artifacts.get key = (ref.map Json.str).getD .null := by
  rw [optionalRef]
  cases artifacts.get key <;> cases ref <;> simp [refuse, raise]

end Checks

theorem forall₂_named (P : String → Option String → Prop) (keys : List String)
    (refs : List (String × Option String)) :
    List.Forall₂ (fun key ref => ref.1 = key ∧ P key ref.2) keys refs ↔
      refs.map Prod.fst = keys ∧ ∀ ref ∈ refs, P ref.1 ref.2 := by
  induction keys generalizing refs with
  | nil => cases refs <;> simp
  | cons key rest ih =>
    cases refs with
    | nil => simp
    | cons ref later =>
      rw [List.forall₂_cons, ih, List.map_cons, List.cons.injEq, List.forall_mem_cons]
      constructor
      · rintro ⟨⟨rfl, held⟩, names, each⟩
        exact ⟨⟨rfl, names⟩, held, each⟩
      · rintro ⟨⟨rfl, names⟩, held, each⟩
        exact ⟨⟨rfl, held⟩, names, each⟩

theorem forall₂_append_left {α β : Type} {R : α → β → Prop} (front back : List α)
    (items : List β) :
    List.Forall₂ R (front ++ back) items ↔ ∃ first, List.Forall₂ R front first ∧
      ∃ second, List.Forall₂ R back second ∧ first ++ second = items := by
  induction front generalizing items with
  | nil => simp
  | cons item front ih =>
    simp only [List.cons_append, List.forall₂_cons_left_iff, ih]
    constructor
    · rintro ⟨head, _, related, ⟨first, front, second, back, rfl⟩, rfl⟩
      exact ⟨head :: first, ⟨head, first, related, front, rfl⟩, second, back, rfl⟩
    · rintro ⟨_, ⟨head, first, related, front, rfl⟩, second, back, rfl⟩
      exact ⟨head, _, related, ⟨first, front, second, back, rfl⟩, rfl⟩

section ArtifactRefs

variable (artifacts : Dict)

def RefOf (key : String) (value : Option String) : Prop :=
  artifacts.get key = (value.map Json.str).getD .null ∧
    (key ∈ requiredRefs → ∃ text, value = some text ∧ strip text ≠ "")

theorem requiredRef_ok (key : String) (required : key ∈ requiredRefs)
    (ref : String × Option String) :
    (do return (key, some (← requireStr artifacts key)) : Except Raised (String × Option String)) =
        .ok ref ↔ ref.1 = key ∧ RefOf artifacts key ref.2 := by
  obtain ⟨name, value⟩ := ref
  simp only [bind_ok, requireStr_ok, HasText, RefOf, required, true_implies]
  constructor
  · rintro ⟨text, ⟨found, filled⟩, ⟨⟩⟩
    exact ⟨rfl, (get_iff (by simp)).mpr found, text, rfl, filled⟩
  · rintro ⟨rfl, read, text, rfl, filled⟩
    exact ⟨text, ⟨(get_iff (by simp)).mp read, filled⟩, rfl⟩

theorem optionalRef_pair (key : String) (optional : key ∉ requiredRefs)
    (ref : String × Option String) :
    (do return (key, ← optionalRef artifacts key) : Except Raised (String × Option String)) =
        .ok ref ↔ ref.1 = key ∧ RefOf artifacts key ref.2 := by
  obtain ⟨name, value⟩ := ref
  simp only [bind_ok, optionalRef_ok, RefOf, optional, false_implies, and_true]
  constructor
  · rintro ⟨_, read, ⟨⟩⟩
    exact ⟨rfl, read⟩
  · rintro ⟨rfl, read⟩
    exact ⟨value, read, rfl⟩

theorem refs_ok {keys : List String} {step : String → Except Raised (String × Option String)}
    (each : ∀ key ∈ keys, ∀ ref, step key = .ok ref ↔ ref.1 = key ∧ RefOf artifacts key ref.2)
    (refs : List (String × Option String)) :
    keys.mapM step = .ok refs ↔
      List.Forall₂ (fun key ref => ref.1 = key ∧ RefOf artifacts key ref.2) keys refs := by
  rw [mapM_ok]
  induction keys generalizing refs with
  | nil => simp
  | cons key rest ih =>
    rw [List.forall_mem_cons] at each
    simp only [List.forall₂_cons_left_iff, each.1, ih each.2]

theorem artifactRefs_ok (refs : List (String × Option String)) :
    artifactRefs artifacts = .ok refs ↔ NamesArtifacts artifacts refs := by
  have unrequired : ∀ key ∈ optionalRefs, key ∉ requiredRefs := by decide
  have required := refs_ok artifacts (requiredRef_ok artifacts)
  have optional := refs_ok artifacts fun key listed =>
    optionalRef_pair artifacts key (unrequired key listed)
  simp only [artifactRefs, bind_ok, required, optional]
  simp only [pure, Except.pure, Except.ok.injEq]
  rw [← forall₂_append_left, forall₂_named (RefOf artifacts)]
  constructor
  · rintro ⟨names, each⟩
    exact ⟨names, fun ref listed => (each ref listed).1, fun ref listed => (each ref listed).2⟩
  · rintro ⟨names, given, named⟩
    exact ⟨names, fun ref listed => ⟨given ref listed, named ref listed⟩⟩

end ArtifactRefs

theorem validateSigning_ok (signing : Dict) (done : Unit) :
    validateSigning signing = .ok done ↔ Signed signing := by
  simp only [validateSigning, bind_ok, requireStr_ok, requireDict_ok, refuseWhen_ok,
    Bool.not_eq_false, not_not, exists_const]
  constructor
  · rintro ⟨signature, hasSignature, signer, hasSigner, algorithm, hasAlgorithm, digest, hasDigest,
      value, hasValue, signatureUrn, signerUrn, supported, start⟩
    exact ⟨⟨signature, hasSignature, signatureUrn⟩, ⟨signer, hasSigner, signerUrn⟩,
      ⟨algorithm, supported, hasAlgorithm⟩, ⟨digest, value, hasDigest, hasValue, start⟩⟩
  · rintro ⟨⟨signature, hasSignature, signatureUrn⟩, ⟨signer, hasSigner, signerUrn⟩,
      ⟨algorithm, supported, hasAlgorithm⟩, ⟨digest, value, hasDigest, hasValue, start⟩⟩
    exact ⟨signature, hasSignature, signer, hasSigner, algorithm, hasAlgorithm, digest, hasDigest,
      value, hasValue, signatureUrn, signerUrn, supported, start⟩

theorem checkEntrypoint_ok (index : Nat) (entrypoint : Json) (done : Unit) :
    checkEntrypoint index entrypoint = .ok done ↔ Entrypoint entrypoint := by
  cases entrypoint with
  | obj members =>
    simp only [checkEntrypoint, bind_ok, requireStr_ok, Entrypoint, Json.obj.injEq, exists_eq_left',
      List.forall_mem_cons, List.not_mem_nil, false_implies, implies_true, and_true]
    constructor
    · rintro ⟨platform, hasPlatform, kind, hasKind, ref, hasRef, _⟩
      exact ⟨⟨platform, hasPlatform⟩, ⟨kind, hasKind⟩, ⟨ref, hasRef⟩⟩
    · rintro ⟨⟨platform, hasPlatform⟩, ⟨kind, hasKind⟩, ⟨ref, hasRef⟩⟩
      exact ⟨platform, hasPlatform, kind, hasKind, ref, hasRef, rfl⟩
  | _ => simp [checkEntrypoint, Entrypoint, refuse, raise]

theorem checkEntrypoints_ok (index : Nat) (entrypoints : List Json) (done : Unit) :
    checkEntrypoints index entrypoints = .ok done ↔
      ∀ entrypoint ∈ entrypoints, Entrypoint entrypoint := by
  induction entrypoints generalizing index with
  | nil => simp [checkEntrypoints]
  | cons entrypoint rest ih =>
    simp only [checkEntrypoints, bind_ok, checkEntrypoint_ok, ih, List.forall_mem_cons,
      exists_const]

theorem requireReports_ok (proofReporting : Dict) (reports : List Json) :
    requireReports proofReporting = .ok reports ↔ Reporting proofReporting reports := by
  rw [requireReports, then_ok, refuseWhen_ok, Bool.not_eq_false, Json.isBool_iff,
    get_iff (by simp)]
  constructor
  · rintro ⟨required, read⟩
    split at read
    · cases read
      exact ⟨required, (get_iff (by simp)).mp ‹_›, by simp⟩
    · cases read
  · rintro ⟨required, listed, someReport⟩
    refine ⟨required, ?_⟩
    rw [(get_iff (by simp)).mpr listed]
    cases reports with
    | nil => exact absurd rfl someReport
    | cons report rest => rfl

theorem checkFallback_ok (offlineFallback : Dict) (done : Unit) :
    checkFallback offlineFallback = .ok done ↔ SafeFallback offlineFallback := by
  rw [checkFallback, then_ok, refuseWhen_ok, refuseWhen_ok, Bool.not_eq_false, not_and,
    Bool.not_eq_false, Json.isBool_iff, Json.isBool_iff, get_iff (by simp), get_iff (by simp)]
  exact ⟨fun ⟨verified, signed⟩ => ⟨verified, signed⟩, fun safe => ⟨safe.verified, safe.signed⟩⟩

theorem checkedIntent_ok (doc : Dict) (intent : BootIntent) (reports : List Json) :
    checkedIntent doc = .ok (intent, reports) ↔ Cleared doc intent reports := by
  simp only [checkedIntent, bind_ok, requireStr_ok, requireDict_ok, requireList_ok,
    refuseWhen_ok, artifactRefs_ok, validateSigning_ok, checkEntrypoints_ok, requireReports_ok,
    checkFallback_ok, Bool.not_eq_false, not_not, exists_const]
  constructor
  · rintro ⟨id, hasId, base, hasBase, mode, hasMode, channel, hasChannel, status, hasStatus, policy,
      hasPolicy, ready, knownChannel, knownMode, idUrn, baseUrn, policyUrn, entrypoints,
      hasEntrypoints, someEntrypoint, eachEntrypoint, artifacts, hasArtifacts, refs, named, signing,
      hasSigning, signed, capabilities, hasCapabilities, fallback, hasFallback, reporting,
      hasReporting, listed, reported, safe, built⟩
    cases built
    exact {
      bootReleaseSetId := hasId
      baseReleaseSetRef := hasBase
      bootMode := hasMode
      bootChannel := hasChannel
      status := hasStatus
      policyRef := hasPolicy
      ready := ready
      knownChannel := knownChannel
      knownMode := knownMode
      bootReleaseSetUrn := idUrn
      releaseSetUrn := baseUrn
      policyUrn := policyUrn
      entrypoints := hasEntrypoints
      someEntrypoint := by simpa using someEntrypoint
      eachEntrypoint := eachEntrypoint
      artifacts := ⟨artifacts, hasArtifacts, named⟩
      signing := hasSigning
      signed := signed
      bootCapabilities := hasCapabilities
      offlineFallback := hasFallback
      safeFallback := safe
      reporting := ⟨reporting, hasReporting, reported⟩ }
  · intro cleared
    have ⟨artifacts, hasArtifacts, named⟩ := cleared.artifacts
    have ⟨reporting, hasReporting, reported⟩ := cleared.reporting
    exact ⟨_, cleared.bootReleaseSetId, _, cleared.baseReleaseSetRef, _, cleared.bootMode, _,
      cleared.bootChannel, _, cleared.status, _, cleared.policyRef, cleared.ready,
      cleared.knownChannel, cleared.knownMode, cleared.bootReleaseSetUrn, cleared.releaseSetUrn,
      cleared.policyUrn, _, cleared.entrypoints, by simpa using cleared.someEntrypoint,
      cleared.eachEntrypoint, _, hasArtifacts, _, named, _, cleared.signing, cleared.signed, _,
      cleared.bootCapabilities, _, cleared.offlineFallback, _, hasReporting, _, reported,
      cleared.safeFallback, rfl⟩

open Classical in
noncomputable def gatesOf (intent : BootIntent) : List String :=
  fixedGates
    ++ (if (intent.offlineFallback.get "enabled").truthy = true
      then ["verify-offline-fallback-signature-required"] else [])
    ++ (if Json.lookup "kexec_allowed" intent.bootCapabilities = some (.bool false)
      then ["verify-kexec-denied"] else [])
    ++ (if ∃ name ∈ diskWriteScopes,
        Json.lookup "disk_write" intent.bootCapabilities = some (.str name)
      then ["verify-disk-write-scope"] else [])

/-- The text `repr` gives a value, none of whose integers is too long for it. -/
inductive ReprOf : Json → String → Prop
  | null : ReprOf .null "None"
  | yes : ReprOf (.bool true) "True"
  | no : ReprOf (.bool false) "False"
  | int {value : Int} (short : value.natAbs < 10 ^ maxStrDigits) :
      ReprOf (.int value) (toString value)
  | float (value : Rat) (shown : String) : ReprOf (.float value shown) shown
  | str (text : String) : ReprOf (.str text) (Python.repr text)
  | arr {items : List Json} {texts : List String} (each : List.Forall₂ ReprOf items texts) :
      ReprOf (.arr items) ("[" ++ ", ".intercalate texts ++ "]")
  | obj {members : Dict} {texts : List String}
      (each : List.Forall₂ ReprOf (members.map Prod.snd) texts) :
      ReprOf (.obj members) ("\x7b" ++ ", ".intercalate (List.zipWith
        (fun key text => Python.repr key ++ ": " ++ text) (members.map Prod.fst) texts) ++ "\x7d")

/-- A plan carries a text as it is, and shows any other report as `repr` does. -/
inductive Shows : Json → String → Prop
  | str (text : String) : Shows (.str text) text
  | other {report : Json} {text : String} (notText : ∀ letters, report ≠ .str letters)
      (shown : ReprOf report text) : Shows report text

structure SafePlan (doc : Dict) (plan : ControlPlaneBootPlan) : Prop where
  cleared : ∃ reports, Cleared doc plan.toBootIntent reports ∧
    List.Forall₂ Shows reports plan.proofReports
  action : (plan.bootChannel, plan.action) ∈ bootActionByChannel
  diskWrite : (plan.bootCapabilities.get "disk_write").hashable = true
  gates : plan.verificationGates = gatesOf plan.toBootIntent
  unexecuted : plan.execute = false

theorem zipWith_repr (members : Dict) :
    List.zipWith (fun key text => Python.repr key ++ ": " ++ text) (members.map Prod.fst)
      (members.map fun member => member.2.repr) = Json.reprMembers members := by
  induction members with
  | nil => rfl
  | cons member rest ih =>
    rw [List.map_cons, List.map_cons, List.zipWith_cons_cons, ih, Json.reprMembers]

mutual

theorem reprOf_iff (value : Json) (text : String) :
    ReprOf value text ↔ renders value = true ∧ value.repr = text := by
  cases value with
  | null | float | str =>
    simp only [renders, Json.repr, true_and]
    exact ⟨fun shown => by cases shown; rfl, fun same => by subst same; constructor⟩
  | bool value =>
    cases value <;> simp only [renders, Json.repr, true_and] <;>
      exact ⟨fun shown => by cases shown; rfl, fun same => by subst same; constructor⟩
  | int value =>
    simp only [renders, Json.repr, decide_eq_true_eq]
    constructor
    · intro shown
      cases shown with
      | int short => exact ⟨short, rfl⟩
    · rintro ⟨short, rfl⟩
      exact .int short
  | arr items =>
    simp only [renders, Json.repr]
    constructor
    · intro shown
      cases shown with
      | arr each =>
        obtain ⟨short, rfl⟩ := (reprItems_iff items _).mp each
        exact ⟨short, rfl⟩
    · rintro ⟨short, rfl⟩
      exact .arr ((reprItems_iff items _).mpr ⟨short, rfl⟩)
  | obj members =>
    simp only [renders, Json.repr, ← zipWith_repr]
    constructor
    · intro shown
      cases shown with
      | obj each =>
        obtain ⟨short, rfl⟩ := (reprMembers_iff members _).mp each
        exact ⟨short, rfl⟩
    · rintro ⟨short, rfl⟩
      exact .obj ((reprMembers_iff members _).mpr ⟨short, rfl⟩)

theorem reprItems_iff (items : List Json) (texts : List String) :
    List.Forall₂ ReprOf items texts ↔
      rendersItems items = true ∧ Json.reprItems items = texts := by
  cases items with
  | nil => cases texts <;> simp [rendersItems, Json.reprItems]
  | cons item rest =>
    simp only [rendersItems, Json.reprItems, Bool.and_eq_true, List.forall₂_cons_left_iff,
      reprOf_iff item, reprItems_iff rest]
    constructor
    · rintro ⟨_, _, ⟨first, rfl⟩, ⟨later, rfl⟩, rfl⟩
      exact ⟨⟨first, later⟩, rfl⟩
    · rintro ⟨⟨first, later⟩, rfl⟩
      exact ⟨_, _, ⟨first, rfl⟩, ⟨later, rfl⟩, rfl⟩

theorem reprMembers_iff (members : Dict) (texts : List String) :
    List.Forall₂ ReprOf (members.map Prod.snd) texts ↔
      rendersMembers members = true ∧ members.map (fun member => member.2.repr) = texts := by
  cases members with
  | nil => cases texts <;> simp [rendersMembers]
  | cons member rest =>
    obtain ⟨key, value⟩ := member
    simp only [rendersMembers, List.map_cons, Bool.and_eq_true, List.forall₂_cons_left_iff,
      reprOf_iff value, reprMembers_iff rest]
    constructor
    · rintro ⟨_, _, ⟨first, rfl⟩, ⟨later, rfl⟩, rfl⟩
      exact ⟨⟨first, later⟩, rfl⟩
    · rintro ⟨⟨first, later⟩, rfl⟩
      exact ⟨_, _, ⟨first, rfl⟩, ⟨later, rfl⟩, rfl⟩

end

theorem shows_iff (report : Json) (text : String) :
    Shows report text ↔ renders report = true ∧ rendered report = text := by
  constructor
  · intro shown
    cases shown with
    | str => exact ⟨rfl, rfl⟩
    | other notText shown =>
      rw [reprOf_iff] at shown
      cases report with
      | str letters => exact absurd rfl (notText letters)
      | _ => exact shown
  · rintro ⟨short, rfl⟩
    cases report with
    | str text => exact .str text
    | _ => exact .other (by simp) ((reprOf_iff _ _).mpr ⟨short, rfl⟩)

theorem all_shown (reports : List Json) (texts : List String) :
    List.Forall₂ Shows reports texts ↔
      (∀ report ∈ reports, renders report = true) ∧ reports.map rendered = texts := by
  have shows_eq : Shows = fun report text => renders report = true ∧ rendered report = text := by
    ext report text
    exact shows_iff report text
  rw [shows_eq, List.forall₂_and_left, ← List.forall₂_map_left_iff (R := Eq),
    List.forall₂_eq_eq_eq]

theorem str_ok (report : Json) (text : String) : str report = .ok text ↔ Shows report text := by
  rw [shows_iff]
  by_cases short : renders report = true <;> simp [str, short, raise]

theorem mapM_str_ok (reports : List Json) (texts : List String) :
    reports.mapM str = .ok texts ↔ List.Forall₂ Shows reports texts := by
  simp only [mapM_ok, str_ok]

theorem actionOf_ok (bootChannel action : String) :
    actionOf bootChannel = .ok action ↔ (bootChannel, action) ∈ bootActionByChannel := by
  constructor
  · intro answered
    cases found : bootActionByChannel.lookup bootChannel with
    | none => simp [actionOf, found, raise] at answered
    | some known =>
      obtain ⟨front, back, split, _⟩ := List.lookup_eq_some_iff.mp found
      simp only [actionOf, found, Except.ok.injEq] at answered
      simp [split, answered]
  · intro listed
    simp only [bootActionByChannel, List.mem_cons, Prod.mk.injEq, List.not_mem_nil,
      or_false] at listed
    rcases listed with ⟨rfl, rfl⟩ | ⟨rfl, rfl⟩ | ⟨rfl, rfl⟩ | ⟨rfl, rfl⟩ | ⟨rfl, rfl⟩ <;> rfl

theorem verificationGates_ok (plan : ControlPlaneBootPlan) (gates : List String) :
    verificationGates plan = .ok gates ↔
      (plan.bootCapabilities.get "disk_write").hashable = true ∧
        gatesOf plan.toBootIntent = gates := by
  classical
  have kexec : (plan.bootCapabilities.get "kexec_allowed").isBool false = true ↔
      Json.lookup "kexec_allowed" plan.bootCapabilities = some (.bool false) := by
    rw [Json.isBool_iff, get_iff (by simp)]
  have scopes : (∃ name ∈ diskWriteScopes,
        Json.pyEq (plan.bootCapabilities.get "disk_write") (.str name) = true) ↔
      ∃ name ∈ diskWriteScopes,
        Json.lookup "disk_write" plan.bootCapabilities = some (.str name) := by
    refine exists_congr fun name => and_congr_right fun _ => ?_
    rw [Json.pyEq_str, get_iff (by simp)]
  simp only [verificationGates, then_ok, raiseWhen_ok, Bool.not_eq_false, pure, Except.pure,
    Except.ok.injEq]
  rw [gatesOf, if_congr kexec rfl rfl, if_congr scopes rfl rfl]

theorem planOf_ok (intent : BootIntent) (reports : List Json) (plan : ControlPlaneBootPlan) :
    planOf intent reports = .ok plan ↔
      plan.toBootIntent = intent ∧ (intent.bootChannel, plan.action) ∈ bootActionByChannel ∧
      List.Forall₂ Shows reports plan.proofReports ∧
      (intent.bootCapabilities.get "disk_write").hashable = true ∧
      gatesOf intent = plan.verificationGates ∧ plan.execute = false := by
  simp only [planOf, bind_ok, actionOf_ok, mapM_str_ok, verificationGates_ok]
  constructor
  · rintro ⟨action, known, texts, shown, gates, ⟨hashable, listed⟩, ⟨⟩⟩
    exact ⟨rfl, known, shown, hashable, listed, rfl⟩
  · obtain ⟨_, action, texts, gates, execute⟩ := plan
    rintro ⟨rfl, known, shown, hashable, listed, rfl⟩
    exact ⟨action, known, texts, shown, gates, ⟨hashable, listed⟩, rfl⟩

theorem planOf_returns {intent : BootIntent} {reports : List Json}
    (known : intent.bootChannel ∈ bootActionByChannel.map Prod.fst)
    (short : ∀ report ∈ reports, renders report = true)
    (hashable : (intent.bootCapabilities.get "disk_write").hashable = true) :
    ∃ plan, planOf intent reports = .ok plan := by
  obtain ⟨⟨channel, action⟩, listed, same⟩ := List.mem_map.mp known
  have planned : (intent.bootChannel, action) ∈ bootActionByChannel := same ▸ listed
  exact ⟨{ intent with
      action
      proofReports := reports.map rendered
      verificationGates := gatesOf intent },
    (planOf_ok _ _ _).mpr
      ⟨rfl, planned, (all_shown _ _).mpr ⟨short, rfl⟩, hashable, rfl, rfl⟩⟩

theorem plan_exact (doc : Dict) (plan : ControlPlaneBootPlan) :
    buildControlPlaneBootPlan doc = .ok plan ↔ SafePlan doc plan := by
  simp only [buildControlPlaneBootPlan, bind_ok, Prod.exists, checkedIntent_ok, planOf_ok]
  constructor
  · rintro ⟨_, reports, cleared, rfl, known, shown, hashable, gates, unexecuted⟩
    exact ⟨⟨reports, cleared, shown⟩, known, hashable, gates.symm, unexecuted⟩
  · rintro ⟨⟨reports, cleared, shown⟩, known, hashable, gates, unexecuted⟩
    exact ⟨_, reports, cleared, rfl, known, shown, hashable, gates.symm, unexecuted⟩

example :
    (buildControlPlaneBootPlan (exampleDoc (.str "recovery-scoped")
        [.str "device-claim", .arr [.str "\u00a0", .null]])).map
        (fun plan => (plan.action, plan.proofReports, plan.verificationGates)) =
      .ok ("plan-rescue", ["device-claim", "['\\xa0', None]"],
        fixedGates ++ ["verify-offline-fallback-signature-required", "verify-kexec-denied",
          "verify-disk-write-scope"]) := by
  decide +kernel

abbrev Refuses {α : Type} (check : Except Raised α) : Prop :=
  RaisesOnly controlPlaneBootReleaseSetError check

section Refuses

theorem refuse_refuses {α : Type} (message : String) :
    Refuses (refuse message : Except Raised α) := by
  rintro _ ⟨⟩
  rfl

theorem refuseWhen_refuses (bad : Prop) [Decidable bad] (message : String) :
    Refuses (refuseWhen bad message) := .raiseWhen bad message

variable (data : Dict) (key : String)

theorem requireStr_refuses : Refuses (requireStr data key) := by
  unfold requireStr
  split
  · split_ifs
    · exact refuse_refuses _
    · exact .ok _
  · exact refuse_refuses _

theorem requireDict_refuses : Refuses (requireDict data key) := by
  unfold requireDict
  split
  · exact .ok _
  · exact refuse_refuses _

theorem requireList_refuses : Refuses (requireList data key) := by
  unfold requireList
  split
  · exact .ok _
  · exact refuse_refuses _

theorem optionalRef_refuses (artifacts : Dict) : Refuses (optionalRef artifacts key) := by
  unfold optionalRef
  split
  · exact .ok _
  · exact .ok _
  · exact refuse_refuses _

theorem artifactRefs_refuses (artifacts : Dict) : Refuses (artifactRefs artifacts) := by
  refine .bind (.mapM fun key => ?_) fun _ _ => .bind (.mapM fun key => ?_) fun _ _ => .ok _
  · exact .bind (requireStr_refuses artifacts key) fun _ _ => .ok _
  · exact .bind (optionalRef_refuses key artifacts) fun _ _ => .ok _

theorem validateSigning_refuses (signing : Dict) : Refuses (validateSigning signing) := by
  refine .bind (requireStr_refuses _ _) fun _ _ => ?_
  refine .bind (requireStr_refuses _ _) fun _ _ => ?_
  refine .bind (requireStr_refuses _ _) fun _ _ => ?_
  refine .bind (requireDict_refuses _ _) fun _ _ => ?_
  refine .bind (requireStr_refuses _ _) fun _ _ => ?_
  refine .bind (refuseWhen_refuses _ _) fun _ _ => ?_
  refine .bind (refuseWhen_refuses _ _) fun _ _ => ?_
  refine .bind (refuseWhen_refuses _ _) fun _ _ => ?_
  exact refuseWhen_refuses _ _

theorem checkEntrypoint_refuses (index : Nat) (entrypoint : Json) :
    Refuses (checkEntrypoint index entrypoint) := by
  unfold checkEntrypoint
  split
  · refine .bind (requireStr_refuses _ _) fun _ _ => ?_
    refine .bind (requireStr_refuses _ _) fun _ _ => ?_
    exact .bind (requireStr_refuses _ _) fun _ _ => .ok _
  · exact refuse_refuses _

theorem checkEntrypoints_refuses (index : Nat) (entrypoints : List Json) :
    Refuses (checkEntrypoints index entrypoints) := by
  induction entrypoints generalizing index with
  | nil => exact .ok _
  | cons entrypoint rest ih =>
    exact .bind (checkEntrypoint_refuses index entrypoint) fun _ _ => ih (index + 1)

theorem requireReports_refuses (proofReporting : Dict) :
    Refuses (requireReports proofReporting) := by
  refine .bind (refuseWhen_refuses _ _) fun _ _ => ?_
  split
  · exact .ok _
  · exact refuse_refuses _

theorem checkFallback_refuses (offlineFallback : Dict) :
    Refuses (checkFallback offlineFallback) :=
  .bind (refuseWhen_refuses _ _) fun _ _ => refuseWhen_refuses _ _

theorem checkedIntent_refuses (doc : Dict) : Refuses (checkedIntent doc) := by
  unfold checkedIntent
  -- Six texts, six checks of them, and then the parts of the document.
  iterate 6 refine .bind (requireStr_refuses _ _) fun _ _ => ?_
  iterate 6 refine .bind (refuseWhen_refuses _ _) fun _ _ => ?_
  refine .bind (requireList_refuses _ _) fun _ _ => ?_
  refine .bind (refuseWhen_refuses _ _) fun _ _ => ?_
  refine .bind (checkEntrypoints_refuses _ _) fun _ _ => ?_
  refine .bind (requireDict_refuses _ _) fun _ _ => ?_
  refine .bind (artifactRefs_refuses _) fun _ _ => ?_
  refine .bind (requireDict_refuses _ _) fun _ _ => ?_
  refine .bind (validateSigning_refuses _) fun _ _ => ?_
  iterate 3 refine .bind (requireDict_refuses _ _) fun _ _ => ?_
  refine .bind (requireReports_refuses _) fun _ _ => ?_
  exact .bind (checkFallback_refuses _) fun _ _ => .ok _

end Refuses

theorem planOf_raised {intent : BootIntent} {reports : List Json} {raised : Raised}
    (failed : planOf intent reports = .error raised) :
    raised.cls ≠ controlPlaneBootReleaseSetError := by
  have foreign {α : Type} {cls : ExceptionClass} {check : Except Raised α}
      (only : RaisesOnly cls check) (other : cls ≠ controlPlaneBootReleaseSetError)
      (stopped : check = .error raised) : raised.cls ≠ controlPlaneBootReleaseSetError :=
    only raised stopped ▸ other
  have action : RaisesOnly .keyError (actionOf intent.bootChannel) := by
    unfold actionOf
    split
    · exact .ok _
    · rintro _ ⟨⟩
      rfl
  have text (item : Json) : RaisesOnly .valueError (str item) := by
    unfold str
    split_ifs
    · exact .ok _
    · rintro _ ⟨⟩
      rfl
  have gates (plan : ControlPlaneBootPlan) : RaisesOnly .typeError (verificationGates plan) :=
    .bind (.raiseWhen _ _) fun _ _ => .ok _
  simp only [planOf, bind_error] at failed
  rcases failed with stopped | ⟨_, _, stopped | ⟨_, _, stopped | ⟨_, _, ⟨⟩⟩⟩⟩
  · exact foreign action (by decide) stopped
  · exact foreign (.mapM text) (by decide) stopped
  · exact foreign (gates _) (by decide) stopped

def PlansOrRefuses (doc : Dict) : Prop :=
  (∃ plan, buildControlPlaneBootPlan doc = .ok plan) ∨
    ∃ message, buildControlPlaneBootPlan doc = .error ⟨controlPlaneBootReleaseSetError, message⟩

theorem plans_or_refuses_iff (doc : Dict) :
    PlansOrRefuses doc ↔ ∀ intent reports, Cleared doc intent reports →
      (intent.bootCapabilities.get "disk_write").hashable = true ∧
        ∀ report ∈ reports, renders report = true := by
  constructor
  · intro answered intent reports cleared
    have planned : buildControlPlaneBootPlan doc = planOf intent reports := by
      rw [buildControlPlaneBootPlan, (checkedIntent_ok _ _ _).mpr cleared]
      rfl
    rw [PlansOrRefuses, planned] at answered
    rcases answered with ⟨plan, built⟩ | ⟨message, failed⟩
    · have ⟨_, _, shown, hashable, _⟩ := (planOf_ok _ _ _).mp built
      exact ⟨hashable, ((all_shown _ _).mp shown).1⟩
    · exact absurd rfl (planOf_raised failed)
  · intro sound
    cases outcome : buildControlPlaneBootPlan doc with
    | ok plan => exact .inl ⟨plan, outcome⟩
    | error raised =>
      rcases (bind_error _ _ _).mp outcome with refused | ⟨⟨intent, reports⟩, checked, failed⟩
      · refine .inr ⟨raised.message, outcome.trans ?_⟩
        rw [← checkedIntent_refuses doc raised refused]
      · have cleared := (checkedIntent_ok _ _ _).mp checked
        have ⟨hashable, short⟩ := sound intent reports cleared
        obtain ⟨plan, built⟩ := planOf_returns cleared.knownChannel short hashable
        cases built.symm.trans failed

def raisedBy {α : Type} : Except Raised α → Option Raised
  | .ok _ => none
  | .error raised => some raised

theorem disk_write_list_raises :
    raisedBy (buildControlPlaneBootPlan
        (exampleDoc (.arr [.str "recovery-scoped"]) [.str "device-claim"])) =
      some ⟨.typeError, "unhashable type: 'list'"⟩ ∧
    ¬ PlansOrRefuses (exampleDoc (.arr [.str "recovery-scoped"]) [.str "device-claim"]) := by
  have raised : raisedBy (buildControlPlaneBootPlan
      (exampleDoc (.arr [.str "recovery-scoped"]) [.str "device-claim"])) =
        some ⟨.typeError, "unhashable type: 'list'"⟩ := by
    decide +kernel
  refine ⟨raised, ?_⟩
  rintro (⟨plan, built⟩ | ⟨message, failed⟩)
  · rw [built] at raised
    cases raised
  · rw [failed] at raised
    cases raised

end SourceosBoot.ControlPlane
