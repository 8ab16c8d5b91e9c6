import SourceosBoot.AbUpdate.Cli
import SourceosBoot.ControlPlane.PlanSafety

set_option autoImplicit false

namespace SourceosBoot.ControlPlane

open Python AbUpdate

def ControlPlaneBootPlan.toDict (plan : ControlPlaneBootPlan) : Dict := [
  ("boot_release_set_id", .str plan.bootReleaseSetId),
  ("base_release_set_ref", .str plan.baseReleaseSetRef),
  ("boot_mode", .str plan.bootMode),
  ("boot_channel", .str plan.bootChannel),
  ("action", .str plan.action),
  ("status", .str plan.status),
  ("policy_ref", .str plan.policyRef),
  ("platform_entrypoints", .arr plan.platformEntrypoints),
  ("artifact_refs", .obj (plan.artifactRefs.map fun ref => (ref.1, textOrNull ref.2))),
  ("signing", .obj plan.signing),
  ("boot_capabilities", .obj plan.bootCapabilities),
  ("proof_reports", .arr (plan.proofReports.map .str)),
  ("offline_fallback", .obj plan.offlineFallback),
  ("verification_gates", .arr (plan.verificationGates.map .str)),
  ("execute", .bool plan.execute)]

-- `{**plan.to_dict(), "execute": False}`.
def ControlPlaneBootPlan.shown (plan : ControlPlaneBootPlan) : Dict :=
  Json.assign "execute" (.bool false) plan.toDict

def controlPlaneOutput (plan : Dict) : Json := .obj [
  ("apiVersion", .str "sourceos.dev/v1"),
  ("kind", .str "ControlPlaneBootPlan"),
  ("plan", .obj plan)]

def planControlPlane (bootReleaseSet : JsonFile) : Effect (List Json) Int := do
  let doc ← ask fun _ => loadJson bootReleaseSet
  let plan ← ask fun _ => buildControlPlaneBootPlan doc
  modify fun printed => printed ++ [controlPlaneOutput plan.shown]
  return 0

theorem command_run (bootReleaseSet : JsonFile) (printed shown : List Json) (code : Int) :
    (planControlPlane bootReleaseSet).run printed = .ok code shown ↔
      code = 0 ∧ ∃ doc plan, loadJson bootReleaseSet = .ok doc ∧
        buildControlPlaneBootPlan doc = .ok plan ∧
        shown = printed ++ [controlPlaneOutput plan.shown] := by
  simp only [planControlPlane, ask_then_ok, modify_then]
  constructor
  · rintro ⟨doc, read, plan, built, ran⟩
    cases ran
    exact ⟨rfl, doc, plan, read, built, rfl⟩
  · rintro ⟨rfl, doc, plan, read, built, rfl⟩
    exact ⟨doc, read, plan, built, rfl⟩

theorem command_steady (bootReleaseSet : JsonFile) : Steady (planControlPlane bootReleaseSet) :=
  .ask_then fun _ _ => .ask_then fun _ _ => .ok 0 _ fun _ => rfl

def carriedKeys : List String := [
  "boot_release_set_id", "base_release_set_ref", "boot_mode", "boot_channel", "status",
  "policy_ref", "platform_entrypoints", "signing", "boot_capabilities", "offline_fallback"]

theorem built_cleared {doc : Dict} {plan : ControlPlaneBootPlan}
    (built : buildControlPlaneBootPlan doc = .ok plan) :
    ∃ reports, Cleared doc plan.toBootIntent reports := by
  simp only [buildControlPlaneBootPlan, bind_ok, Prod.exists, checkedIntent_ok, planOf_ok] at built
  obtain ⟨_, reports, cleared, rfl, _⟩ := built
  exact ⟨reports, cleared⟩

theorem shown_other (plan : ControlPlaneBootPlan) {key : String} (other : key ≠ "execute") :
    Json.lookup key plan.shown = Json.lookup key plan.toDict := by
  rw [ControlPlaneBootPlan.shown, Json.lookup_assign, if_neg other.symm]

theorem Cleared.carried {doc : Dict} {plan : ControlPlaneBootPlan} {reports : List Json}
    (cleared : Cleared doc plan.toBootIntent reports) :
    ∀ key ∈ carriedKeys, Json.lookup key plan.shown = Json.lookup key doc := by
  simp only [carriedKeys, List.forall_mem_cons]
  refine ⟨?_, ?_, ?_, ?_, ?_, ?_, ?_, ?_, ?_, ?_, by simp⟩
  all_goals rw [shown_other plan (by decide)]
  · exact cleared.bootReleaseSetId.1.symm
  · exact cleared.baseReleaseSetRef.1.symm
  · exact cleared.bootMode.1.symm
  · exact cleared.bootChannel.1.symm
  · exact cleared.status.1.symm
  · exact cleared.policyRef.1.symm
  · exact cleared.entrypoints.symm
  · exact cleared.signing.symm
  · exact cleared.bootCapabilities.symm
  · exact cleared.offlineFallback.symm

theorem shown_refs {artifacts : Dict} {refs : List (String × Option String)}
    (named : NamesArtifacts artifacts refs) {key : String}
    (listed : key ∈ requiredRefs ++ optionalRefs) :
    Json.lookup key (refs.map fun ref => (ref.1, textOrNull ref.2)) =
      some (artifacts.get key) := by
  have names : (refs.map fun ref => (ref.1, textOrNull ref.2)).map Prod.fst =
      requiredRefs ++ optionalRefs := by
    rw [List.map_map, ← named.names]
    rfl
  rw [← named.names] at listed
  obtain ⟨⟨_, ref⟩, among, rfl⟩ := List.mem_map.mp listed
  rw [named.given _ among]
  refine Json.lookup_of_mem (names ▸ by decide) (List.mem_map.mpr ⟨_, among, ?_⟩)
  cases ref <;> rfl

/--
What the command prints is the document's own: the members the two have in common
and the refs are unchanged, whatever the plan adds. It never says to execute.
-/
theorem printed_plan_carries {bootReleaseSet : JsonFile} {printed shown : List Json} {code : Int}
    (ran : (planControlPlane bootReleaseSet).run printed = .ok code shown) :
    ∃ doc plan artifacts refs : Dict, bootReleaseSet.content = .obj doc ∧
      shown = printed ++ [controlPlaneOutput plan] ∧
      (∀ key ∈ carriedKeys, Json.lookup key plan = Json.lookup key doc) ∧
      Json.lookup "artifacts" doc = some (.obj artifacts) ∧
      Json.lookup "artifact_refs" plan = some (.obj refs) ∧
      (∀ key ∈ requiredRefs ++ optionalRefs,
        Json.lookup key refs = some (artifacts.get key)) ∧
      Json.lookup "execute" plan = some (.bool false) := by
  obtain ⟨_, doc, plan, read, built, rfl⟩ := (command_run _ _ _ _).mp ran
  obtain ⟨reports, cleared⟩ := built_cleared built
  obtain ⟨artifacts, found, named⟩ := cleared.artifacts
  refine ⟨doc, plan.shown, artifacts, _, (loadJson_ok _ _).mp read, rfl, cleared.carried, found, ?_,
    fun key listed => shown_refs named listed, ?_⟩
  · rw [shown_other plan (by decide)]
    rfl
  · rw [ControlPlaneBootPlan.shown, Json.lookup_assign, if_pos rfl]

theorem printed_plan_carries_example :
    ∃ shown, (planControlPlane ⟨"boot-release-set.json",
        .obj (exampleDoc (.str "recovery-scoped") [.str "device-claim"])⟩).run [] = .ok 0 shown ∧
      ∃ doc plan artifacts refs : Dict,
        Json.obj (exampleDoc (.str "recovery-scoped") [.str "device-claim"]) = .obj doc ∧
        shown = [] ++ [controlPlaneOutput plan] ∧
        (∀ key ∈ carriedKeys, Json.lookup key plan = Json.lookup key doc) ∧
        Json.lookup "artifacts" doc = some (.obj artifacts) ∧
        Json.lookup "artifact_refs" plan = some (.obj refs) ∧
        (∀ key ∈ requiredRefs ++ optionalRefs,
          Json.lookup key refs = some (artifacts.get key)) ∧
        Json.lookup "execute" plan = some (.bool false) := by
  have planned : raisedBy (buildControlPlaneBootPlan
      (exampleDoc (.str "recovery-scoped") [.str "device-claim"])) = none := by
    decide +kernel
  cases built : buildControlPlaneBootPlan
      (exampleDoc (.str "recovery-scoped") [.str "device-claim"]) with
  | error raised => simp [built, raisedBy] at planned
  | ok plan =>
    have ran := (command_run ⟨"boot-release-set.json", .obj (exampleDoc (.str "recovery-scoped")
      [.str "device-claim"])⟩ [] _ 0).mpr ⟨rfl, _, plan, rfl, built, rfl⟩
    exact ⟨_, ran, printed_plan_carries ran⟩

end SourceosBoot.ControlPlane
