import Mathlib.Data.List.Nodup
import Mathlib.Order.Lattice

set_option autoImplicit false

-- More than one winner is a tie, and a tie is no selection.

namespace Selection

variable {α ρ : Type} [LinearOrder ρ] (eligible : α → Bool) (rank : α → ρ)

def winners (candidates : List α) : List α :=
  candidates.filter fun candidate => eligible candidate &&
    candidates.all fun other => !eligible other || decide (rank other ≤ rank candidate)

theorem mem_winners (candidates : List α) (candidate : α) :
    candidate ∈ winners eligible rank candidates ↔ candidate ∈ candidates ∧
      eligible candidate = true ∧
      ∀ other ∈ candidates, eligible other = true → rank other ≤ rank candidate := by
  simp only [winners, List.mem_filter, Bool.and_eq_true, List.all_eq_true, Bool.or_eq_true,
    Bool.not_eq_true', decide_eq_true_eq]
  refine and_congr_right fun _ => and_congr_right fun _ => forall_congr' fun other =>
    forall_congr' fun _ => ?_
  cases eligible other <;> simp

theorem winners_eq_singleton (candidates : List α) (distinct : candidates.Nodup) (candidate : α)
    (listed : candidate ∈ candidates) :
    winners eligible rank candidates = [candidate] ↔ eligible candidate = true ∧
      ∀ other ∈ candidates, other ≠ candidate → eligible other = true →
        rank other < rank candidate := by
  have each := mem_winners eligible rank candidates
  constructor
  · intro only
    obtain ⟨_, fit, most⟩ := (each candidate).mp (by simp [only])
    refine ⟨fit, fun other inside different fits => lt_of_le_of_ne (most other inside fits) ?_⟩
    intro tied
    have also := (each other).mpr ⟨inside, fits, fun third third_in third_fits =>
      le_of_le_of_eq (most third third_in third_fits) tied.symm⟩
    exact different (by simpa [only] using also)
  · rintro ⟨fit, outranks⟩
    refine List.perm_singleton.mp ((List.perm_ext_iff_of_nodup (distinct.filter _)
      (List.nodup_singleton _)).mpr fun other => ?_)
    rw [List.mem_singleton]
    constructor
    · intro wins
      obtain ⟨inside, fits, most⟩ := (each other).mp wins
      by_contra different
      exact absurd (most candidate listed fit) (not_le_of_gt (outranks other inside different fits))
    · rintro rfl
      refine (each other).mpr ⟨listed, fit, fun third inside fits => ?_⟩
      by_cases same : third = other
      · rw [same]
      · exact le_of_lt (outranks third inside same fits)

section Ordered

variable {key : α → ρ} {items : List α} {wanted : α → Bool} {item : α}
  (ordered : items.Pairwise fun left right => key left ≤ key right)
include ordered

theorem find?_least (found : items.find? wanted = some item) :
    ∀ other ∈ items, wanted other = true → key item ≤ key other := by
  obtain ⟨_, front, back, rfl, before⟩ := List.find?_eq_some_iff_append.mp found
  intro other listed fits
  rcases List.mem_append.mp listed with earlier | later
  · have unfit := before other earlier
    simp [fits] at unfit
  · rcases List.mem_cons.mp later with rfl | later
    · exact le_refl _
    · exact (List.pairwise_cons.mp (List.pairwise_append.mp ordered).2.1).1 other later

theorem getLast?_greatest (last : items.getLast? = some item) :
    ∀ other ∈ items, key other ≤ key item := by
  obtain ⟨front, rfl⟩ := List.getLast?_eq_some_iff.mp last
  intro other listed
  rcases List.mem_append.mp listed with earlier | final
  · exact (List.pairwise_append.mp ordered).2.2 other earlier item (by simp)
  · rw [List.mem_singleton.mp final]

end Ordered

end Selection
