import Mathlib.Tactic.TypeStar

set_option autoImplicit false

inductive Regex
  | empty
  | oneOf (ranges : List (Char × Char))
  | seq (first second : Regex)
  | alt (first second : Regex)
  | many (inner : Regex)

namespace Regex

def inRanges (ranges : List (Char × Char)) (char : Char) : Bool :=
  ranges.any fun range => range.1.toNat ≤ char.toNat ∧ char.toNat ≤ range.2.toNat

-- Zero or more rounds, each of which takes something.
def repeated (round : List Char → List (List Char)) : Nat → List Char → List (List Char)
  | 0, chars => [chars]
  | fuel + 1, chars =>
    chars :: ((round chars).filter fun rest => rest.length < chars.length).flatMap
      (repeated round fuel)

/-- What can be left of the text after a match at its start. -/
def rests : Regex → List Char → List (List Char)
  | empty, chars => [chars]
  | oneOf ranges, chars => match chars with
    | [] => []
    | char :: rest => if inRanges ranges char then [rest] else []
  | seq first second, chars => (first.rests chars).flatMap second.rests
  | alt first second, chars => first.rests chars ++ second.rests chars
  | many inner, chars => repeated inner.rests chars.length chars

def literal (text : String) : Regex :=
  text.toList.foldr (fun char rest => seq (oneOf [(char, char)]) rest) empty

def times (inner : Regex) : Nat → Regex
  | 0 => empty
  | count + 1 => seq inner (times inner count)

def atMost (inner : Regex) : Nat → Regex
  | 0 => empty
  | count + 1 => alt (seq inner (atMost inner count)) empty

def optional (inner : Regex) : Regex := atMost inner 1

def atLeastOnce (inner : Regex) : Regex := seq inner (many inner)

def matchesStart (body : Regex) (text : String) : Bool := !(body.rests text.toList).isEmpty

def matchesWhole (body : Regex) (text : String) : Bool :=
  -- `$` is the end of the text, not the place before a last line feed.
  (body.rests text.toList).any (·.isEmpty)

/-- `re.match` of `^body$`, whose `$` is also the place before a last line feed. -/
def matchesLine (body : Regex) (text : String) : Bool :=
  (body.rests text.toList).any fun rest => rest = [] ∨ rest = ['\n']

def endsInLineFeed (text : String) : Bool := text.toList.getLast? = some '\n'

theorem mem_rests_oneOf (ranges : List (Char × Char)) (chars rest : List Char) :
    rest ∈ (oneOf ranges).rests chars ↔
      ∃ char, inRanges ranges char = true ∧ chars = char :: rest := by
  cases chars with
  | nil => simp [rests]
  | cons first tail =>
    by_cases within : inRanges ranges first = true
    · simp only [rests, within, if_true, List.mem_singleton, List.cons.injEq]
      exact ⟨fun same => ⟨first, within, rfl, same.symm⟩, fun ⟨_, _, _, same⟩ => same.symm⟩
    · simp only [rests, within, Bool.false_eq_true, if_false, List.not_mem_nil, false_iff]
      rintro ⟨char, listed, same⟩
      cases same
      exact within listed

theorem inRanges_single (char first : Char) :
    inRanges [(char, char)] first = true ↔ first = char := by
  simp only [inRanges, List.any_cons, List.any_nil, Bool.or_false, decide_eq_true_eq,
    ← Char.toNat_inj]
  omega

theorem mem_rests_single (char : Char) (chars rest : List Char) :
    rest ∈ (oneOf [(char, char)]).rests chars ↔ chars = char :: rest := by
  simp [mem_rests_oneOf, inRanges_single]

theorem rests_seq (first second : Regex) (chars : List Char) :
    (seq first second).rests chars = (first.rests chars).flatMap second.rests := rfl

theorem mem_rests_literal (text : String) (chars rest : List Char) :
    rest ∈ (literal text).rests chars ↔ chars = text.toList ++ rest := by
  rw [literal]
  induction text.toList generalizing chars with
  | nil => simp [rests, eq_comm]
  | cons char later ih =>
    rw [List.foldr_cons, rests_seq, List.mem_flatMap]
    simp only [ih, mem_rests_single, List.cons_append]
    exact ⟨by rintro ⟨_, rfl, rfl⟩; rfl, fun same => ⟨_, same, rfl⟩⟩

theorem matchesStart_literal (start text : String) :
    (literal start).matchesStart text = start.toList.isPrefixOf text.toList := by
  rw [Bool.eq_iff_iff, List.isPrefixOf_iff_prefix, matchesStart, Bool.not_eq_true',
    List.isEmpty_eq_false_iff_exists_mem]
  simp only [mem_rests_literal, List.IsPrefix, eq_comm]

theorem mem_repeated_oneOf (ranges : List (Char × Char)) (fuel : Nat) (chars rest : List Char)
    (enough : chars.length ≤ fuel) :
    rest ∈ repeated (oneOf ranges).rests fuel chars ↔
      ∃ front, chars = front ++ rest ∧ ∀ char ∈ front, inRanges ranges char = true := by
  induction fuel generalizing chars with
  | zero =>
    obtain rfl := List.length_eq_zero_iff.mp (Nat.le_zero.mp enough)
    simp [repeated, List.append_eq_nil_iff, @eq_comm _ [], and_assoc]
  | succ fuel ih =>
    simp only [repeated, List.mem_cons, List.mem_flatMap, List.mem_filter, decide_eq_true_eq,
      mem_rests_oneOf]
    constructor
    · rintro (rfl | ⟨middle, ⟨⟨char, within, rfl⟩, _⟩, later⟩)
      · exact ⟨[], rfl, by simp⟩
      · obtain ⟨front, rfl, all⟩ := (ih middle (by simpa using enough)).mp later
        exact ⟨char :: front, rfl, by simpa using ⟨within, all⟩⟩
    · rintro ⟨front, rfl, all⟩
      cases front with
      | nil => exact .inl rfl
      | cons char front =>
        have ⟨within, later⟩ := List.forall_mem_cons.mp all
        exact .inr ⟨front ++ rest, ⟨⟨char, within, rfl⟩, by simp⟩,
          (ih _ (by simpa using enough)).mpr ⟨front, rfl, later⟩⟩

theorem matchesWhole_literal_atLeastOnce (start : String) (ranges : List (Char × Char))
    (text : String) :
    (seq (literal start) (atLeastOnce (oneOf ranges))).matchesWhole text = true ↔
      ∃ chars, text.toList = start.toList ++ chars ∧ chars ≠ [] ∧
        ∀ char ∈ chars, inRanges ranges char = true := by
  simp only [matchesWhole, List.any_eq_true, List.isEmpty_iff, exists_eq_right, rests_seq,
    List.mem_flatMap, mem_rests_literal, atLeastOnce, mem_rests_oneOf]
  constructor
  · rintro ⟨middle, started, later, ⟨char, within, rfl⟩, ends⟩
    obtain ⟨front, rfl, all⟩ := (mem_repeated_oneOf ranges _ later [] (Nat.le_refl _)).mp ends
    exact ⟨_, started, by simp, by simpa using ⟨within, all⟩⟩
  · rintro ⟨chars, started, nonempty, all⟩
    cases chars with
    | nil => exact absurd rfl nonempty
    | cons char later =>
      have ⟨within, others⟩ := List.forall_mem_cons.mp all
      exact ⟨_, started, later, ⟨char, within, rfl⟩,
        (mem_repeated_oneOf ranges _ later [] (Nat.le_refl _)).mpr ⟨later, by simp, others⟩⟩

theorem suffix_of_repeated {round : List Char → List (List Char)}
    (suffix : ∀ chars, ∀ rest ∈ round chars, rest <:+ chars) (fuel : Nat) (chars : List Char) :
    ∀ rest ∈ repeated round fuel chars, rest <:+ chars := by
  induction fuel generalizing chars with
  | zero => simp [repeated]
  | succ fuel ih =>
    simp only [repeated, List.mem_cons, List.mem_flatMap, List.mem_filter]
    rintro rest (rfl | ⟨middle, ⟨taken, _⟩, later⟩)
    · exact List.suffix_rfl
    · exact (ih middle rest later).trans (suffix chars middle taken)

theorem suffix_of_rests (body : Regex) (chars : List Char) :
    ∀ rest ∈ body.rests chars, rest <:+ chars := by
  induction body generalizing chars with
  | empty => simp [rests]
  | oneOf ranges =>
    cases chars with
    | nil => simp [rests]
    | cons char tail =>
      by_cases within : inRanges ranges char = true <;> simp [rests, within]
  | seq first second ihFirst ihSecond =>
    simp only [rests, List.mem_flatMap]
    rintro rest ⟨middle, taken, later⟩
    exact (ihSecond middle rest later).trans (ihFirst chars middle taken)
  | alt first second ihFirst ihSecond =>
    simp only [rests, List.mem_append]
    rintro rest (left | right)
    · exact ihFirst chars rest left
    · exact ihSecond chars rest right
  | many inner ih => exact suffix_of_repeated ih chars.length chars

theorem matchesWhole_of_matchesLine {body : Regex} {text : String}
    (found : body.matchesLine text = true) (ending : endsInLineFeed text = false) :
    body.matchesWhole text = true := by
  simp only [matchesLine, List.any_eq_true, decide_eq_true_eq] at found
  obtain ⟨rest, left, rfl | rfl⟩ := found
  · exact List.any_eq_true.mpr ⟨[], left, rfl⟩
  · have ⟨front, joined⟩ := suffix_of_rests body text.toList _ left
    simp [endsInLineFeed, ← joined] at ending

theorem matchesLine_of_matchesWhole {body : Regex} {text : String}
    (found : body.matchesWhole text = true) : body.matchesLine text = true := by
  obtain ⟨rest, left, ended⟩ := List.any_eq_true.mp found
  exact List.any_eq_true.mpr ⟨rest, left, decide_eq_true (.inl (List.isEmpty_iff.mp ended))⟩

end Regex
