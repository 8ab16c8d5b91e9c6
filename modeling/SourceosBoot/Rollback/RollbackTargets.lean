import SourceosBoot.Rollback.AsahiBootChain
import SourceosBoot.Shared.Selection

set_option autoImplicit false

-- The highest generation that is not current is the one before the current generation where the
-- current one is the newest, and only there.

namespace SourceosBoot.Rollback

open Python

structure TargetsPrevious (generations : List NixOSGeneration) (plan : AsahiRollbackPlan) :
    Prop where
  previous : plan.allowed = true → ∀ target current, plan.rollbackTarget = some target →
    plan.currentGeneration = some current → target.number < current.number ∧
      ∀ generation ∈ generations,
        ¬ (target.number < generation.number ∧ generation.number < current.number)
  denied : ∀ current ∈ generations, current.isCurrent = true →
    (∀ generation ∈ generations, current.number ≤ generation.number) →
    plan.policyGate = "denied"

def NewestOf (generations : List NixOSGeneration) : Prop :=
  ∀ current ∈ generations, ∀ other ∈ generations, current.isCurrent = true →
    other.isCurrent = false → other.number < current.number

namespace AsahiBootChain

variable {self : AsahiBootChain} {fs : FileSystem} {generations : List NixOSGeneration}

theorem detectGenerations_ordered (detected : self.detectGenerations fs = .ok generations) :
    generations.Pairwise fun left right => left.number ≤ right.number := by
  rw [detectGenerations] at detected
  split at detected
  · cases listed : fs.listdir self.systemProfileDir with
    | error message => simp [listed, raise] at detected
    | ok entries =>
      simp only [listed, Except.ok.injEq] at detected
      rw [← detected]
      exact sorted_pairwise _ _
  · cases detected
    exact .nil

theorem planFor_without_target (self : AsahiBootChain) (nonempty : generations ≠ [])
    (last : (generations.filter (!·.isCurrent)).getLast? = none) :
    self.planFor generations = self.deny (generations.find? (·.isCurrent))
      "no previous generation available to roll back to" := by
  simp only [planFor, nonempty, if_false, last]

section Target

variable {target : NixOSGeneration}
  (last : (generations.filter (!·.isCurrent)).getLast? = some target)
include last

theorem planFor_with_target (self : AsahiBootChain) :
    self.planFor generations =
      ⟨asahiBootSchema, self.chain, generations.find? (·.isCurrent), some target, "allowed",
        rollbackReason (generations.find? (·.isCurrent)) target, rollbackSteps target⟩ := by
  have nonempty : generations ≠ [] := by
    rintro rfl
    simp at last
  simp only [planFor, nonempty, if_false, last]

theorem target_not_current : target ∈ generations ∧ target.isCurrent = false := by
  simpa using List.mem_filter.mp (List.mem_of_getLast? last)

variable (ordered : generations.Pairwise fun left right => left.number ≤ right.number)
include ordered

theorem target_greatest : ∀ other ∈ generations, other.isCurrent = false →
    other.number ≤ target.number := fun other listed unlike =>
  Selection.getLast?_greatest (ordered.filter _) last other
    (List.mem_filter.mpr ⟨listed, by simp [unlike]⟩)

theorem newest_of_target_below
    (below : ∀ current, generations.find? (·.isCurrent) = some current →
      target.number < current.number) : NewestOf generations := by
  intro current listed other among isCurrent unlike
  obtain ⟨first, found⟩ := Option.isSome_iff_exists.mp
    (List.find?_isSome.mpr ⟨current, listed, isCurrent⟩)
  have least := Selection.find?_least ordered found current listed isCurrent
  have most := target_greatest last ordered other among unlike
  have less := below first found
  omega

theorem target_before_current (newest : NewestOf generations) {current : NixOSGeneration}
    (found : generations.find? (·.isCurrent) = some current) :
    target.number < current.number ∧ ∀ generation ∈ generations,
      ¬ (target.number < generation.number ∧ generation.number < current.number) := by
  obtain ⟨held, notCurrent⟩ := target_not_current last
  have isCurrent : current.isCurrent = true := by simpa using List.find?_some found
  refine ⟨newest current (List.mem_of_find?_eq_some found) target held isCurrent notCurrent,
    fun generation listed => ?_⟩
  -- A generation is not between: a current one is no older, another one no newer.
  cases kind : generation.isCurrent with
  | true =>
    have least := Selection.find?_least ordered found generation listed kind
    omega
  | false =>
    have most := target_greatest last ordered generation listed kind
    omega

end Target

theorem planFor_targets_iff (self : AsahiBootChain)
    (ordered : generations.Pairwise fun left right => left.number ≤ right.number) :
    TargetsPrevious generations (self.planFor generations) ↔ NewestOf generations := by
  by_cases empty : generations = []
  · subst empty
    exact ⟨fun _ => by simp [NewestOf], fun _ => ⟨by simp [planFor], by simp⟩⟩
  cases last : (generations.filter (!·.isCurrent)).getLast? with
  | none =>
    have all : ∀ generation ∈ generations, generation.isCurrent = true := by
      simpa [List.filter_eq_nil_iff] using List.getLast?_eq_none_iff.mp last
    rw [self.planFor_without_target empty last]
    constructor
    · intro _ _ _ other listed _ notCurrent
      simp [all other listed] at notCurrent
    · intro _
      exact ⟨by simp [deny, AsahiRollbackPlan.allowed], fun _ _ _ _ => rfl⟩
  | some target =>
    rw [planFor_with_target last]
    constructor
    · intro targets
      exact newest_of_target_below last ordered fun current found =>
        (targets.previous rfl target current rfl found).1
    · intro newest
      constructor
      · intro _ chosen current named found
        obtain rfl : target = chosen := by simpa using named
        exact target_before_current last ordered newest found
      · intro current listed isCurrent oldest
        obtain ⟨held, notCurrent⟩ := target_not_current last
        have below := newest current listed target held isCurrent notCurrent
        have least := oldest target held
        omega

/-- Every generation link that does not lead to the current system has a smaller number than every
link that does. -/
def CurrentNewest (self : AsahiBootChain) (fs : FileSystem) : Prop :=
  fs.isdir self.systemProfileDir = true →
    ∀ entries, fs.listdir self.systemProfileDir = .ok entries →
      ∀ link ∈ entries, ∀ other ∈ entries, self.IsGenerationLink fs other →
        self.LeadsToCurrent fs link → ¬ self.LeadsToCurrent fs other →
          ∀ newer older, generationNumber link = some newer →
            generationNumber other = some older → older < newer

theorem currentNewest_of_detected (detected : self.detectGenerations fs = .ok generations) :
    self.CurrentNewest fs ↔ NewestOf generations := by
  have found := mem_detectGenerations detected
  constructor
  · intro newest current listed other among isCurrent unlike
    obtain ⟨directory, entries, read, link, inside, known⟩ := (found current).mp listed
    obtain ⟨_, others, again, otherLink, otherInside, otherKnown⟩ := (found other).mp among
    cases read.symm.trans again
    refine newest directory entries read link inside otherLink otherInside
      (isGenerationLink_iff.mpr ⟨other, otherKnown⟩) ((isCurrent_iff known).mp isCurrent) ?_
      current.number other.number (generationOf_some.mp known).1 (generationOf_some.mp otherKnown).1
    rw [← isCurrent_iff otherKnown, unlike]
    simp
  · intro newest directory entries read link inside other among isLink leads elsewhere newer older
      numbered otherNumbered
    obtain ⟨path, _, _, resolved⟩ := id leads
    obtain ⟨current, known⟩ : ∃ generation, self.generationOf fs link = some generation :=
      isGenerationLink_iff.mp ⟨by simp [numbered], path, resolved⟩
    obtain ⟨generation, otherKnown⟩ := isGenerationLink_iff.mp isLink
    have below := newest current ((found current).mpr ⟨directory, entries, read, link, inside, known⟩)
      generation ((found generation).mpr ⟨directory, entries, read, other, among, otherKnown⟩)
      ((isCurrent_iff known).mpr leads)
      (by rw [← Bool.not_eq_true, isCurrent_iff otherKnown]; exact elsewhere)
    have first := numbered.symm.trans (generationOf_some.mp known).1
    have second := otherNumbered.symm.trans (generationOf_some.mp otherKnown).1
    simp_all

theorem rollback_target_previous_iff (self : AsahiBootChain) (fs : FileSystem) :
    (∀ generations plan, self.detectGenerations fs = .ok generations →
      self.planRollback fs = .ok plan → TargetsPrevious generations plan) ↔
    (self.chain.validate = [] → self.CurrentNewest fs) := by
  cases detected : self.detectGenerations fs with
  | error raised =>
    -- Without a listing there is neither a plan nor a link.
    refine ⟨fun _ _ directory entries read link _ other among isLink _ elsewhere => ?_, by simp⟩
    have current := ((nothingBefore_of_raised detected).2 entries read).2
    exact absurd (current other among isLink) elsewhere
  | ok generations =>
    have ordered := detectGenerations_ordered detected
    rw [currentNewest_of_detected detected, ← self.planFor_targets_iff ordered]
    by_cases valid : self.chain.validate = []
    · have planned : self.planRollback fs = .ok (self.planFor generations) := by
        rw [planRollback, if_neg (not_not_intro valid), detected]
        rfl
      constructor
      · intro targets _
        exact targets generations _ rfl planned
      · intro targets found plan same made
        cases same
        cases planned.symm.trans made
        exact targets valid
    · refine ⟨fun _ holds => absurd holds valid, fun _ found plan _ made => ?_⟩
      rw [planRollback, if_pos valid] at made
      cases made
      exact ⟨by simp [deny, AsahiRollbackPlan.allowed], fun _ _ _ _ => rfl⟩

def rolledBackSystem : FileSystem where
  isdir := fun _ => true
  islink := fun _ => true
  listdir := fun _ => .ok ["system-1-link", "system-2-link", "system-3-link"]
  realpath := fun path => .ok (if path = currentSystemLink then
    joinPath (joinPath nixProfilesSystem systemProfile) "system-2-link" else path)

def generationAt (number : Int) (entry : String) (isCurrent : Bool) : NixOSGeneration :=
  ⟨number, joinPath (joinPath nixProfilesSystem systemProfile) entry, isCurrent⟩

def rolledBackGenerations : List NixOSGeneration :=
  [generationAt 1 "system-1-link" false, generationAt 2 "system-2-link" true,
    generationAt 3 "system-3-link" false]

theorem rolledBackSystem_detected :
    ({} : AsahiBootChain).detectGenerations rolledBackSystem = .ok rolledBackGenerations := by
  rfl

theorem rolled_back_system_goes_forward :
    ¬ ∀ generations plan, ({} : AsahiBootChain).detectGenerations rolledBackSystem = .ok generations →
      ({} : AsahiBootChain).planRollback rolledBackSystem = .ok plan →
        TargetsPrevious generations plan := by
  intro targets
  have planned : ({} : AsahiBootChain).planRollback rolledBackSystem =
      .ok (({} : AsahiBootChain).planFor rolledBackGenerations) := by
    rw [planRollback, if_neg (by decide), rolledBackSystem_detected]
    rfl
  obtain ⟨below, _⟩ := (targets _ _ rolledBackSystem_detected planned).previous rfl
    (generationAt 3 "system-3-link" false) (generationAt 2 "system-2-link" true) rfl rfl
  exact absurd below (by decide)

end AsahiBootChain

end SourceosBoot.Rollback
