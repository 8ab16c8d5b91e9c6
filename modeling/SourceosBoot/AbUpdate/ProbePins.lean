import SourceosBoot.AbUpdate.Cli
import SourceosBoot.Shared.CanonicalJson

set_option autoImplicit false

-- As the canonical text tells the six fields, an edit of one of them does not keep the digest.

namespace SourceosBoot.AbUpdate

open Python

def projected (fields : List String) (values : String → Json) : Json :=
  .obj (fields.map fun field => (field, values field))

theorem lookup_projected (fields : List String) (values : String → Json) (field : String)
    (listed : field ∈ fields) :
    Json.lookup field (fields.map fun field => (field, values field)) = some (values field) := by
  induction fields with
  | nil => cases listed
  | cons first rest ih =>
    by_cases same : first = field
    · simp [Json.lookup, same]
    · have later := (List.mem_cons.mp listed).resolve_left (Ne.symm same)
      simpa [Json.lookup, same] using ih later

theorem projected_equal (fields : List String) (left right : String → Json) :
    Json.jsonEq (projected fields left) (projected fields right) = true ↔
      ∀ field ∈ fields, Json.jsonEq (left field) (right field) = true := by
  simp only [projected, Json.jsonEq, Json.same, List.length_map, decide_true, Bool.true_and,
    Json.sameMembers_iff, List.forall_mem_map]
  refine forall₂_congr fun field listed => ?_
  simp [lookup_projected fields right field listed]

section Probe

variable {probe : List (String × Json)}

def Carries (probe : List (String × Json)) : Prop :=
  ∀ field ∈ probeDigestFields, (Json.lookup field probe).isSome = true

def Agree (probe other : List (String × Json)) : Prop :=
  ∀ field ∈ probeDigestFields,
    Json.jsonEq ((Json.obj probe).memberOrNull field) ((Json.obj other).memberOrNull field) = true

theorem memberOrNull_plain (plain : (Json.obj probe).Plain) (field : String) :
    ((Json.obj probe).memberOrNull field).Plain := by
  cases plain with
  | obj _ each =>
    cases found : Json.lookup field probe with
    | none => simpa [Json.memberOrNull, Json.get?, found] using Json.Plain.null
    | some value => simpa [Json.memberOrNull, Json.get?, found] using each _ (Json.lookup_mem found)

theorem projected_plain (plain : (Json.obj probe).Plain) :
    (projected probeDigestFields (Json.obj probe).memberOrNull).Plain := by
  refine .obj ?_ (List.forall_mem_map.mpr fun field _ => memberOrNull_plain plain field)
  rw [List.map_map]
  change (probeDigestFields.map id).Nodup
  decide

theorem probeDefinitionDigest_carried (sha256 : String → String) (carries : Carries probe) :
    probeDefinitionDigest sha256 probe = .ok ("sha256:" ++
      sha256 (projected probeDigestFields (Json.obj probe).memberOrNull).dumps) := by
  have missing : (probeDigestFields.filter fun field => (Json.lookup field probe).isNone) = [] := by
    refine List.filter_eq_nil_iff.mpr fun field listed => ?_
    simp [Option.isSome_iff_ne_none.mp (carries field listed)]
  have core : (probeDigestFields.filterMap fun field =>
      (Json.lookup field probe).map fun value => (field, value)) =
      probeDigestFields.map fun field => (field, (Json.obj probe).memberOrNull field) := by
    rw [← List.filterMap_eq_map]
    refine List.filterMap_congr fun field listed => ?_
    obtain ⟨value, found⟩ := Option.isSome_iff_exists.mp (carries field listed)
    simp [Json.memberOrNull, Json.get?, found]
  simp only [probeDefinitionDigest, missing, core, raiseWhen, ne_eq, not_true_eq_false, if_false]
  rfl

end Probe

def checkPin (sha256 : String → String) (probe : List (String × Json)) :
    Except Raised String := do
  let recomputed ← probeDefinitionDigest sha256 probe
  let recorded := (Json.lookup "definitionDigest" probe).getD .null
  let identifier := shownText ((Json.lookup "id" probe).getD .null)
  raiseWhen (Json.pyEq recorded (.str recomputed) = false) .valueError
    (s!"health probe {identifier} carries a stale " ++
      s!"definitionDigest: recorded {shownText recorded}, but its checks hash to " ++
      s!"{recomputed}. The gate was edited after it was pinned; re-pin it " ++
      "deliberately rather than promoting through a gate nobody re-read.")
  return recomputed

-- Every machine that is loaded has passed the check of the digest.
theorem loadAbUpdateMachine_eq (outside : Outside) (args : ReplayArguments) :
    loadAbUpdateMachine outside args = (do
      let docs ← loadList args.slots "two UpdateSlot documents"
      let probe ← loadJson args.probe
      let recomputed ← checkPin outside.sha256 probe
      let healthProbe ← (Json.obj probe).getItem "id"
      let machine ← machineFromSlotDocuments docs {
        transactionId := args.transactionId
        healthProbeRef := shownText healthProbe
        healthProbeDigest := recomputed
        maxAttempts := args.maxAttempts
        clock := outside.clock }
      return (machine, healthProbe)) := by
  simp only [loadAbUpdateMachine, checkPin, bind_assoc, pure_bind]

def Passes (sha256 : String → String) (probe : List (String × Json)) : Prop :=
  ∃ digest, checkPin sha256 probe = .ok digest

theorem passes_iff (sha256 : String → String) (probe : List (String × Json)) :
    Passes sha256 probe ↔ ∃ digest, probeDefinitionDigest sha256 probe = .ok digest ∧
      Json.lookup "definitionDigest" probe = some (.str digest) := by
  have recorded (digest : String) :
      Json.pyEq ((Json.lookup "definitionDigest" probe).getD .null) (.str digest) = true ↔
        Json.lookup "definitionDigest" probe = some (.str digest) := by
    cases Json.lookup "definitionDigest" probe <;> simp
  simp only [Passes, checkPin, bind_ok]
  constructor
  · rintro ⟨digest, _, computed, ⟨⟩, kept, ⟨⟩⟩
    rw [raiseWhen_ok, Bool.not_eq_false, recorded] at kept
    exact ⟨digest, computed, kept⟩
  · rintro ⟨digest, computed, carried⟩
    refine ⟨digest, digest, computed, (), ?_, rfl⟩
    rwa [raiseWhen_ok, Bool.not_eq_false, recorded]

section Pair

variable {sha256 : String → String} (collisionFree : Function.Injective sha256)
  {probe other : List (String × Json)}
  (plain : (Json.obj probe).Plain) (otherPlain : (Json.obj other).Plain)
  (carries : Carries probe) (otherCarries : Carries other)
include collisionFree plain otherPlain carries otherCarries

theorem digest_equal_iff :
    probeDefinitionDigest sha256 probe = probeDefinitionDigest sha256 other ↔
      Agree probe other := by
  rw [probeDefinitionDigest_carried _ carries, probeDefinitionDigest_carried _ otherCarries,
    Except.ok.injEq, String.append_right_inj, collisionFree.eq_iff,
    Json.dumps_inj (projected_plain plain) (projected_plain otherPlain), projected_equal]
  rfl

theorem pin_kept_iff (passes : Passes sha256 probe)
    (carried : Json.lookup "definitionDigest" other = Json.lookup "definitionDigest" probe) :
    Passes sha256 other ↔ Agree probe other := by
  obtain ⟨digest, computed, recorded⟩ := (passes_iff _ _).mp passes
  rw [passes_iff, carried, recorded,
    ← digest_equal_iff collisionFree plain otherPlain carries otherCarries, computed]
  constructor
  · rintro ⟨_, same, ⟨⟩⟩
    exact same.symm
  · intro same
    exact ⟨digest, same.symm, rfl⟩

theorem probe_pin_exact :
    (probeDefinitionDigest sha256 probe = probeDefinitionDigest sha256 other ↔
      Agree probe other) ∧
    (Passes sha256 probe →
      Json.lookup "definitionDigest" other = Json.lookup "definitionDigest" probe →
      (Passes sha256 other ↔ Agree probe other)) :=
  ⟨digest_equal_iff collisionFree plain otherPlain carries otherCarries,
    pin_kept_iff collisionFree plain otherPlain carries otherCarries⟩

end Pair

def gate (passes : Int) : List (String × Json) := [
  ("id", .str "urn:srcos:update-health-probe:node"),
  ("definitionDigest",
    .str "sha256:06f20cc8a91b2bcb2f3034ad1899a58455065f3061fc70a2492f35cae051ee16"),
  ("evaluatedIn", .str "post-boot-userspace"),
  ("onProbeUnavailable", .str "fail"),
  ("timeoutSeconds", .int 180),
  ("minConsecutivePasses", .int passes),
  ("checks", .arr [.obj [("name", .str "alive"), ("blocking", .bool true)]]),
  ("watchdogs", .arr [])]

theorem gate_plain (passes : Int) : (Json.obj (gate passes)).Plain := by
  have check : (Json.obj [("name", .str "alive"), ("blocking", .bool true)]).Plain :=
    .obj (by decide) (by simp [Json.Plain.str, Json.Plain.bool])
  have checks : (Json.arr [.obj [("name", .str "alive"), ("blocking", .bool true)]]).Plain :=
    .arr (by simpa using check)
  have watchdogs : (Json.arr []).Plain := .arr (by simp)
  refine .obj (by simp [gate]) ?_
  simp [gate, checks, watchdogs, Json.Plain.str, Json.Plain.int]

theorem gate_carries (passes : Int) : Carries (gate passes) := by
  simp only [Carries, probeDigestFields, List.forall_mem_cons]
  exact ⟨rfl, rfl, rfl, rfl, rfl, rfl, by simp⟩

def gateText (passes : String) : String :=
  "\x7b\"checks\":[\x7b\"blocking\":true,\"name\":\"alive\"\x7d]," ++
    "\"evaluatedIn\":\"post-boot-userspace\",\"minConsecutivePasses\":" ++ passes ++
    ",\"onProbeUnavailable\":\"fail\",\"timeoutSeconds\":180,\"watchdogs\":[]\x7d"

-- SHA-256 of the texts of the two gates; the other texts get an answer each of their own.
def gateSha256 (text : String) : String :=
  if text = gateText "2" then "06f20cc8a91b2bcb2f3034ad1899a58455065f3061fc70a2492f35cae051ee16"
  else if text = gateText "1" then
    "4878f59a818322f28b7c88d591ab07a9b2aa11dbdfb43d0cb6c8b17ea1f7de90"
  else "other " ++ text

theorem gateSha256_injective : Function.Injective gateSha256 := by
  have marked (text digest : String) (unmarked : digest.toList.head? ≠ some 'o') :
      "other " ++ text ≠ digest := by
    rintro rfl
    simp at unmarked
  intro left right same
  unfold gateSha256 at same
  split_ifs at same with first second third fourth fifth sixth seventh eighth
  · rw [first, second]
  · exact absurd same (by decide)
  · exact absurd same.symm (marked _ _ (by decide))
  · exact absurd same (by decide)
  · simp_all
  · exact absurd same.symm (marked _ _ (by decide))
  · exact absurd same (marked _ _ (by decide))
  · exact absurd same (marked _ _ (by decide))
  · exact (String.append_right_inj _).mp same

theorem gate_dumps :
    (projected probeDigestFields (Json.obj (gate 2)).memberOrNull).dumps = gateText "2" := by
  decide +kernel

theorem gate_passes : Passes gateSha256 (gate 2) := by
  rw [passes_iff, probeDefinitionDigest_carried _ (gate_carries 2), gate_dumps]
  exact ⟨_, rfl, by simp [gate, gateSha256, Json.lookup]⟩

-- The relaxed gate still carries the digest of the one that was pinned.
theorem relaxed_gate_refused : ¬ Passes gateSha256 (gate 1) := by
  have exact := probe_pin_exact gateSha256_injective (gate_plain 2) (gate_plain 1)
    (gate_carries 2) (gate_carries 1)
  rw [exact.2 gate_passes rfl]
  intro agree
  have equal := agree "minConsecutivePasses" (by decide)
  revert equal
  decide

end SourceosBoot.AbUpdate
