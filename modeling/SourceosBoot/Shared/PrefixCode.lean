import Mathlib.Data.List.Forall2

set_option autoImplicit false

-- An item is read back when its text, with what follows, tells the item and where it ends. A list
-- between separators is read back when its items are.

namespace PrefixCode

variable {α κ : Type} (write : α → List κ) (ends : List κ → Prop) (same : α → α → Prop)

def ReadBack (left right : α) : Prop :=
  ∀ rest later, ends rest → ends later →
    write left ++ rest = write right ++ later → same left right ∧ rest = later

def further (comma : κ) (items : List α) : List κ := items.flatMap fun item => comma :: write item

theorem intercalate_cons (comma : κ) (item : α) (items : List α) :
    [comma].intercalate ((item :: items).map write) = write item ++ further write comma items := by
  induction items generalizing item with
  | nil => simp [further]
  | cons next rest ih =>
    rw [List.map_cons, List.map_cons, List.intercalate_cons_cons, ← List.map_cons, ih]
    simp [further]

section Lists

variable {write ends same} {comma close : κ} {items others : List α}
  (readBack : ∀ item ∈ items, ∀ other ∈ others, ReadBack write ends same item other)
  (apart : comma ≠ close) (ends_comma : ∀ rest, ends (comma :: rest))
  (ends_close : ∀ rest, ends (close :: rest))

include ends_comma ends_close in
theorem ends_further (items : List α) (rest : List κ) :
    ends (further write comma items ++ close :: rest) := by
  cases items with
  | nil => exact ends_close rest
  | cons item items => exact ends_comma _

include readBack apart ends_comma ends_close

theorem further_read {rest later : List κ}
    (written : further write comma items ++ close :: rest =
      further write comma others ++ close :: later) :
    List.Forall₂ same items others ∧ rest = later := by
  induction items generalizing others with
  | nil =>
    cases others with
    | nil => exact ⟨.nil, List.tail_eq_of_cons_eq written⟩
    | cons other others => exact absurd (List.head_eq_of_cons_eq written).symm apart
  | cons item items ih =>
    cases others with
    | nil => exact absurd (List.head_eq_of_cons_eq written) apart
    | cons other others =>
      have tails : write item ++ (further write comma items ++ close :: rest) =
          write other ++ (further write comma others ++ close :: later) := by
        simpa [further] using written
      obtain ⟨first, left⟩ := readBack item (by simp) other (by simp) _ _
        (ends_further ends_comma ends_close _ _) (ends_further ends_comma ends_close _ _) tails
      obtain ⟨each, equal⟩ := ih
        (fun item listed other among => readBack item (.tail _ listed) other (.tail _ among)) left
      exact ⟨.cons first each, equal⟩

/-- No item begins with the closing bracket, so that the empty list is told from the others. -/
theorem list_read (opens : ∀ item ∈ items ++ others, ∀ rest, (write item ++ rest).head? ≠ some close)
    {rest later : List κ}
    (written : [comma].intercalate (items.map write) ++ close :: rest =
      [comma].intercalate (others.map write) ++ close :: later) :
    List.Forall₂ same items others ∧ rest = later := by
  cases items with
  | nil =>
    cases others with
    | nil => exact ⟨.nil, List.tail_eq_of_cons_eq written⟩
    | cons other others =>
      rw [intercalate_cons, List.append_assoc] at written
      exact absurd (congrArg List.head? written).symm (opens other (by simp) _)
  | cons item items =>
    cases others with
    | nil =>
      rw [intercalate_cons, List.append_assoc] at written
      exact absurd (congrArg List.head? written) (opens item (by simp) _)
    | cons other others =>
      -- With a separator put before them the two lists are further items.
      rw [intercalate_cons, intercalate_cons] at written
      exact further_read readBack apart ends_comma ends_close
        (by simpa [further] using congrArg (comma :: ·) written)

end Lists

end PrefixCode
