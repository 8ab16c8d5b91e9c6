import SourceosBoot.Shared.Json
import SourceosBoot.Shared.Text

set_option autoImplicit false

namespace SourceosBoot.Rollback

open Python

/-- What `os` and `os.path` answer; an error is the text of an OSError. -/
structure FileSystem where
  isdir : String → Bool
  islink : String → Bool
  listdir : String → Except String (List String)
  realpath : String → Except String String

def joinPath (first second : String) : String :=
  if startswith second "/" then second
  else if first = "" ∨ endswith first "/" then first ++ second
  else first ++ "/" ++ second

def bootChainType : String := "asahi-m1n1-uboot-systemd-boot"
def asahiBootSchema : String := "sourceos.asahi-boot-chain/v0.1"

def nixProfilesSystem : String := "/nix/var/nix/profiles"
def currentSystemLink : String := "/run/current-system"
def systemProfile : String := "system"

def optionalText (text : Option String) : Json := text.elim .null .str

structure AsahiBootChainInfo where
  chainType : String
  m1n1Version : Option String
  ubootVersion : Option String
  efiVarsMutable : Bool := false
  deriving DecidableEq, Repr

namespace AsahiBootChainInfo

def toDict (info : AsahiBootChainInfo) : Json := .obj [
  ("type", .str info.chainType),
  ("m1n1Version", optionalText info.m1n1Version),
  ("ubootVersion", optionalText info.ubootVersion),
  ("efiVarsMutable", .bool info.efiVarsMutable)]

def validate (info : AsahiBootChainInfo) : List String :=
  (if info.efiVarsMutable then
    ["efiVarsMutable must be false on Apple Silicon — " ++
      "set boot.loader.efi.canTouchEfiVariables = false in NixOS config"]
  else []) ++
  if info.chainType ≠ bootChainType then
    [s!"unexpected chain_type {Python.repr info.chainType}; expected {Python.repr bootChainType}"]
  else []

end AsahiBootChainInfo

structure NixOSGeneration where
  number : Int
  storePath : String
  isCurrent : Bool := false
  deriving DecidableEq, Repr

def NixOSGeneration.toDict (generation : NixOSGeneration) : Json := .obj [
  ("number", .int generation.number),
  ("store_path", .str generation.storePath),
  ("is_current", .bool generation.isCurrent)]

structure AsahiRollbackPlan where
  schema : String
  chain : AsahiBootChainInfo
  currentGeneration : Option NixOSGeneration
  rollbackTarget : Option NixOSGeneration
  policyGate : String
  policyReason : String
  steps : List String
  deriving DecidableEq, Repr

namespace AsahiRollbackPlan

def toDict (plan : AsahiRollbackPlan) : Json := .obj [
  ("schema", .str plan.schema),
  ("chain", plan.chain.toDict),
  ("current_generation", plan.currentGeneration.elim .null NixOSGeneration.toDict),
  ("rollback_target", plan.rollbackTarget.elim .null NixOSGeneration.toDict),
  ("policy_gate", .str plan.policyGate),
  ("policy_reason", .str plan.policyReason),
  ("steps", .arr (plan.steps.map .str))]

def allowed (plan : AsahiRollbackPlan) : Bool := plan.policyGate = "allowed"

end AsahiRollbackPlan

structure AsahiBootChain where
  chain : AsahiBootChainInfo := ⟨bootChainType, none, none, false⟩
  profilesRoot : String := nixProfilesSystem
  currentLink : String := currentSystemLink

def generationNumber (entry : String) : Option Int :=
  -- The `N` of `system-<N>-link`.
  if startswith entry (systemProfile ++ "-") ∧ endswith entry "-link" then
    int (slice entry (systemProfile.length + 1) "-link".length)
  else none

def rollbackCommand : String := "nixos-rebuild switch --rollback"

namespace AsahiBootChain

variable (self : AsahiBootChain) (fs : FileSystem)

def systemProfileDir : String := joinPath self.profilesRoot systemProfile

def currentPath : Option String :=
  if fs.islink self.currentLink then (fs.realpath self.currentLink).toOption else none

def generationOf (entry : String) : Option NixOSGeneration := do
  -- One entry of the profile directory; another kind of entry, or one whose link cannot be
  -- followed, is passed over.
  let number ← generationNumber entry
  let storePath ← (fs.realpath (joinPath self.systemProfileDir entry)).toOption
  return ⟨number, storePath, self.currentPath fs = some storePath⟩

def detectGenerations : Except Raised (List NixOSGeneration) :=
  if fs.isdir self.systemProfileDir then
    match fs.listdir self.systemProfileDir with
    | .error message => raise .osError message
    | .ok entries =>
      .ok (sorted (·.number) ((sorted id entries).filterMap (self.generationOf fs)))
  else .ok []

def deny (current : Option NixOSGeneration) (reason : String) : AsahiRollbackPlan :=
  ⟨asahiBootSchema, self.chain, current, none, "denied", reason, []⟩

def rollbackSteps (target : NixOSGeneration) : List String := [
  rollbackCommand,
  s!"# rolls back to generation {target.number}: {target.storePath}",
  "# efiVarsMutable=false enforced — boot entry managed by systemd-boot, not EFI vars"]

def rollbackReason (current : Option NixOSGeneration) (target : NixOSGeneration) : String :=
  let shown := current.elim "?" fun generation => toString generation.number
  s!"rollback from generation {shown} to generation {target.number} via nixos-rebuild --rollback"

def planFor (generations : List NixOSGeneration) : AsahiRollbackPlan :=
  let current := generations.find? (·.isCurrent)
  if generations = [] then
    ⟨asahiBootSchema, self.chain, none, none, "allowed",
      "no NixOS generations detected — rollback command shown for reference", [rollbackCommand]⟩
  else
    match (generations.filter (!·.isCurrent)).getLast? with
    | none => self.deny current "no previous generation available to roll back to"
    -- The generations are sorted, so the last one that is not current is the latest of them.
    | some target => ⟨asahiBootSchema, self.chain, current, some target, "allowed",
        rollbackReason current target, rollbackSteps target⟩

def planRollback : Except Raised AsahiRollbackPlan :=
  if self.chain.validate ≠ [] then
    .ok (self.deny none ("; ".intercalate self.chain.validate))
  else do
    return self.planFor (← self.detectGenerations fs)

def IsGenerationLink (entry : String) : Prop :=
  generationNumber entry ≠ none ∧
    ∃ path, fs.realpath (joinPath self.systemProfileDir entry) = .ok path

def LeadsToCurrent (entry : String) : Prop :=
  ∃ path, fs.islink self.currentLink = true ∧ fs.realpath self.currentLink = .ok path ∧
    fs.realpath (joinPath self.systemProfileDir entry) = .ok path

variable {self fs}

theorem generationOf_some {entry : String} {generation : NixOSGeneration} :
    self.generationOf fs entry = some generation ↔
      generationNumber entry = some generation.number ∧
      fs.realpath (joinPath self.systemProfileDir entry) = .ok generation.storePath ∧
      generation.isCurrent = decide (self.currentPath fs = some generation.storePath) := by
  obtain ⟨number, storePath, isCurrent⟩ := generation
  cases numbered : generationNumber entry <;>
    cases resolved : fs.realpath (joinPath self.systemProfileDir entry) <;>
    simp [generationOf, numbered, resolved, Except.toOption]
  grind

theorem currentPath_some {path : String} :
    self.currentPath fs = some path ↔
      fs.islink self.currentLink = true ∧ fs.realpath self.currentLink = .ok path := by
  cases linked : fs.islink self.currentLink <;>
    cases resolved : fs.realpath self.currentLink <;>
    simp [currentPath, linked, resolved, Except.toOption]

theorem isGenerationLink_iff {entry : String} :
    self.IsGenerationLink fs entry ↔
      ∃ generation, self.generationOf fs entry = some generation := by
  constructor
  · rintro ⟨numbered, path, resolved⟩
    obtain ⟨number, known⟩ := Option.ne_none_iff_exists'.mp numbered
    exact ⟨⟨number, path, self.currentPath fs = some path⟩,
      generationOf_some.mpr ⟨known, resolved, rfl⟩⟩
  · rintro ⟨generation, found⟩
    obtain ⟨known, resolved, _⟩ := generationOf_some.mp found
    exact ⟨by simp [known], generation.storePath, resolved⟩

theorem isCurrent_iff {entry : String} {generation : NixOSGeneration}
    (found : self.generationOf fs entry = some generation) :
    generation.isCurrent = true ↔ self.LeadsToCurrent fs entry := by
  obtain ⟨_, resolved, current⟩ := generationOf_some.mp found
  rw [current, decide_eq_true_iff, currentPath_some]
  constructor
  · rintro ⟨linked, followed⟩
    exact ⟨generation.storePath, linked, followed, resolved⟩
  · rintro ⟨path, linked, followed, same⟩
    cases resolved.symm.trans same
    exact ⟨linked, followed⟩

theorem mem_detectGenerations {generations : List NixOSGeneration}
    (detected : self.detectGenerations fs = .ok generations) (generation : NixOSGeneration) :
    generation ∈ generations ↔
      fs.isdir self.systemProfileDir = true ∧
      ∃ entries, fs.listdir self.systemProfileDir = .ok entries ∧
        ∃ entry ∈ entries, self.generationOf fs entry = some generation := by
  rw [detectGenerations] at detected
  by_cases directory : fs.isdir self.systemProfileDir = true
  · rw [if_pos directory] at detected
    cases listed : fs.listdir self.systemProfileDir with
    | error message => simp [listed, raise] at detected
    | ok entries =>
      simp only [listed, Except.ok.injEq] at detected
      subst detected
      simp [directory, List.mem_filterMap]
  · simp only [directory, Bool.false_eq_true, if_false, Except.ok.injEq] at detected
    subst detected
    simp [directory]

def NothingBefore (self : AsahiBootChain) (fs : FileSystem) : Prop :=
  fs.isdir self.systemProfileDir = true ∧
    ∀ entries, fs.listdir self.systemProfileDir = .ok entries →
      (∃ entry ∈ entries, self.IsGenerationLink fs entry) ∧
      ∀ entry ∈ entries, self.IsGenerationLink fs entry → self.LeadsToCurrent fs entry

theorem nothingBefore_of_detected {generations : List NixOSGeneration}
    (detected : self.detectGenerations fs = .ok generations) :
    self.NothingBefore fs ↔
      generations ≠ [] ∧ ∀ generation ∈ generations, generation.isCurrent = true := by
  have found := mem_detectGenerations detected
  constructor
  · rintro ⟨directory, each⟩
    have listed : ∃ entries, fs.listdir self.systemProfileDir = .ok entries := by
      rw [detectGenerations, if_pos directory] at detected
      cases listed : fs.listdir self.systemProfileDir <;> simp [listed, raise] at detected ⊢
    obtain ⟨entries, listed⟩ := listed
    obtain ⟨⟨entry, among, link⟩, current⟩ := each entries listed
    obtain ⟨generation, known⟩ := isGenerationLink_iff.mp link
    refine ⟨List.ne_nil_of_mem ((found generation).mpr
      ⟨directory, entries, listed, entry, among, known⟩), fun other held => ?_⟩
    obtain ⟨_, others, listed', entry', among', known'⟩ := (found other).mp held
    cases listed.symm.trans listed'
    exact (isCurrent_iff known').mpr
      (current entry' among' (isGenerationLink_iff.mpr ⟨other, known'⟩))
  · rintro ⟨nonempty, current⟩
    obtain ⟨generation, held⟩ := List.exists_mem_of_ne_nil _ nonempty
    obtain ⟨directory, entries, listed, entry, among, known⟩ := (found generation).mp held
    refine ⟨directory, fun others listed' => ?_⟩
    cases listed.symm.trans listed'
    refine ⟨⟨entry, among, isGenerationLink_iff.mpr ⟨generation, known⟩⟩,
      fun entry' among' link => ?_⟩
    obtain ⟨other, known'⟩ := isGenerationLink_iff.mp link
    exact (isCurrent_iff known').mp
      (current other ((found other).mpr ⟨directory, entries, listed, entry', among', known'⟩))

theorem nothingBefore_of_raised {raised : Raised}
    (failed : self.detectGenerations fs = .error raised) : self.NothingBefore fs := by
  rw [detectGenerations] at failed
  by_cases directory : fs.isdir self.systemProfileDir = true
  · refine ⟨directory, fun entries listed => ?_⟩
    rw [if_pos directory, listed] at failed
    cases failed
  · simp [directory] at failed

inductive PlanShape : AsahiRollbackPlan → Prop
  | allowed {plan : AsahiRollbackPlan} (comments : List String) (gate : plan.policyGate = "allowed")
      (steps : plan.steps = rollbackCommand :: comments)
      (informational : ∀ comment ∈ comments, startswith comment "#" = true) : PlanShape plan
  | denied {plan : AsahiRollbackPlan} (gate : plan.policyGate = "denied") (steps : plan.steps = []) :
      PlanShape plan

theorem rollbackSteps_informational (target : NixOSGeneration) :
    ∀ comment ∈ (rollbackSteps target).tail, startswith comment "#" = true := by
  intro comment listed
  simp only [rollbackSteps, List.tail_cons, List.mem_pair] at listed
  rcases listed with rfl | rfl
  · exact startswith_append (startswith_append (startswith_append (by decide) _) _) _
  · decide

theorem planFor_shape (generations : List NixOSGeneration) :
    PlanShape (self.planFor generations) := by
  by_cases none : generations = []
  · simp only [planFor, none, if_true]
    exact .allowed [] rfl rfl (by simp)
  · simp only [planFor, none, if_false]
    cases (generations.filter (!·.isCurrent)).getLast? with
    | none => exact .denied rfl rfl
    | some target => exact .allowed _ rfl rfl (rollbackSteps_informational target)

theorem planRollback_shape {plan : AsahiRollbackPlan}
    (planned : self.planRollback fs = .ok plan) : PlanShape plan := by
  by_cases valid : self.chain.validate = []
  · rw [planRollback, if_neg (not_not_intro valid), bind_ok] at planned
    obtain ⟨generations, _, made⟩ := planned
    cases made
    exact planFor_shape generations
  · rw [planRollback, if_pos valid] at planned
    cases planned
    exact .denied rfl rfl

theorem planFor_allowed_iff (self : AsahiBootChain) (generations : List NixOSGeneration) :
    (self.planFor generations).allowed = true ↔
      ¬ (generations ≠ [] ∧ ∀ generation ∈ generations, generation.isCurrent = true) := by
  by_cases none : generations = []
  · simp [planFor, none, AsahiRollbackPlan.allowed]
  · simp only [planFor, none, if_false, ne_eq, not_false_eq_true, true_and]
    cases last : (generations.filter (!·.isCurrent)).getLast? with
    | none =>
      have empty := List.getLast?_eq_none_iff.mp last
      simpa [deny, AsahiRollbackPlan.allowed, List.filter_eq_nil_iff] using empty
    | some target =>
      have held := List.mem_of_getLast? last
      simp only [AsahiRollbackPlan.allowed, decide_true, true_iff]
      intro current
      simp [current target (List.mem_of_mem_filter held)] at held

theorem planRollback_allowed_iff (valid : self.chain.validate = []) :
    (∃ plan, self.planRollback fs = .ok plan ∧ plan.allowed = true) ↔
      ¬ self.NothingBefore fs := by
  rw [planRollback, if_neg (not_not_intro valid)]
  cases detected : self.detectGenerations fs with
  | error raised =>
    simp [bind, Except.bind, nothingBefore_of_raised detected]
  | ok generations =>
    rw [nothingBefore_of_detected detected, ← self.planFor_allowed_iff]
    simp [bind, Except.bind, pure, Except.pure]

end AsahiBootChain

end SourceosBoot.Rollback
