import SourceosBoot.Shared.Text

set_option autoImplicit false

-- A numeral of ordinary ASCII digits is read as the number it shows, up to 4300 digits.

namespace Python

theorem digitValue_ascii {char : Char} (digit : char.isDigit = true) :
    digitValue char = some (char.toNat - '0'.toNat) := by
  have bounds := Char.isDigit_iff_toNat.mp digit
  have first : zeros.find? (fun first => first ≤ char.toNat ∧ char.toNat < first + 10) =
      some '0'.toNat := by
    rw [zeros, List.find?_cons_of_pos]
    · rfl
    · have low : 0x30 ≤ char.toNat := bounds.1
      have high : char.toNat ≤ 0x39 := bounds.2
      simp only [decide_eq_true_eq]
      omega
  rw [digitValue, first, Option.map_some]

theorem digits_ascii {chars : List Char} (nonempty : chars ≠ [])
    (ascii : ∀ char ∈ chars, char.isDigit = true) :
    digits chars = some (chars.map fun char => char.toNat - '0'.toNat) := by
  induction chars with
  | nil => exact absurd rfl nonempty
  | cons first rest ih =>
    rw [List.forall_mem_cons] at ascii
    cases rest with
    | nil => simp [digits, digitValue_ascii ascii.1]
    | cons second rest =>
      have separator : second ≠ '_' := by
        rintro rfl
        have digit := ascii.2 '_' (by simp)
        simp at digit
      have later := ih (by simp) ascii.2
      rw [digits, digitValue_ascii ascii.1, later]
      · rfl
      · simp
      · simpa using separator

theorem natural_toDigits (number : Nat) :
    natural (Nat.toDigits 10 number) =
      if (Nat.toDigits 10 number).length ≤ maxStrDigits then some number else none := by
  have ascii : ∀ char ∈ Nat.toDigits 10 number, char.isDigit = true :=
    fun _ listed => Nat.isDigit_of_mem_toDigits (by decide) (by decide) listed
  have value : Nat.ofDigitChars 10 (Nat.toDigits 10 number) 0 = number :=
    Nat.ofDigitChars_ten_toDigits
  rw [Nat.ofDigitChars_eq_foldl] at value
  simp only [natural, digits_ascii Nat.toDigits_ne_nil ascii, Option.bind_eq_bind,
    Option.bind_some, List.length_map, List.foldl_map, value]
  rfl

theorem isIntSpace_digit {char : Char} (digit : char.isDigit = true) : isIntSpace char = false := by
  have low : 0x30 ≤ char.toNat := (Char.isDigit_iff_toNat.mp digit).1
  have high : char.toNat ≤ 0x39 := (Char.isDigit_iff_toNat.mp digit).2
  simp only [isIntSpace, isSpace, List.mem_cons, List.not_mem_nil]
  grind

theorem stripChars_unblank {blank : Char → Bool} {chars : List Char}
    (solid : ∀ char ∈ chars, blank char = false) : stripChars blank chars = chars := by
  have kept (chars : List Char) (solid : ∀ char ∈ chars, blank char = false) :
      chars.dropWhile blank = chars := by
    cases chars with
    | nil => rfl
    | cons first rest => simp [solid first (by simp)]
  rw [stripChars, kept chars solid, kept chars.reverse (by simpa using solid), List.reverse_reverse]

theorem int_repr (number : Nat) :
    int (toString number) =
      if (Nat.toDigits 10 number).length ≤ maxStrDigits then some (number : Int) else none := by
  have ascii : ∀ char ∈ Nat.toDigits 10 number, char.isDigit = true :=
    fun _ listed => Nat.isDigit_of_mem_toDigits (by decide) (by decide) listed
  have letters : (toString number).toList = Nat.toDigits 10 number := by simp
  rw [int, letters, stripChars_unblank fun char listed => isIntSpace_digit (ascii char listed)]
  split
  case h_1 rest signed | h_2 rest signed =>
    have digit := ascii _ (signed ▸ List.mem_cons_self)
    simp at digit
  case h_3 =>
    rw [natural_toDigits]
    split_ifs <;> rfl

theorem digitValue_lt {char : Char} {digit : Nat} (read : digitValue char = some digit) :
    digit < 10 := by
  obtain ⟨first, found, rfl⟩ := Option.map_eq_some_iff.mp read
  have bounds := List.find?_some found
  simp only [decide_eq_true_eq] at bounds
  omega

theorem digits_lt {chars : List Char} {read : List Nat} (known : digits chars = some read) :
    ∀ digit ∈ read, digit < 10 := by
  induction chars using digits.induct generalizing read with
  | case1 => cases known
  | case2 char =>
    obtain ⟨digit, value, rfl⟩ := Option.map_eq_some_iff.mp known
    simpa using digitValue_lt value
  | case3 char rest ih | case4 char rest _ _ ih =>
    simp only [digits, Option.bind_eq_bind, Option.bind_eq_some_iff, Option.pure_def,
      Option.some.injEq] at known
    obtain ⟨digit, value, others, later, rfl⟩ := known
    exact List.forall_mem_cons.mpr ⟨digitValue_lt value, ih later⟩

theorem foldl_lt {read : List Nat} (small : ∀ digit ∈ read, digit < 10) (start : Nat) :
    read.foldl (fun value digit => 10 * value + digit) start < 10 ^ read.length * (start + 1) := by
  induction read generalizing start with
  | nil => simp
  | cons digit rest ih =>
    rw [List.forall_mem_cons] at small
    have step : 10 * start + digit + 1 ≤ 10 * (start + 1) := by omega
    calc rest.foldl (fun value digit => 10 * value + digit) (10 * start + digit)
        < 10 ^ rest.length * (10 * start + digit + 1) := ih small.2 _
      _ ≤ 10 ^ rest.length * (10 * (start + 1)) := Nat.mul_le_mul_left _ step
      _ = 10 ^ (digit :: rest).length * (start + 1) := by
        rw [List.length_cons, Nat.pow_succ, Nat.mul_assoc]

theorem natural_lt {chars : List Char} {value : Nat} (known : natural chars = some value) :
    value < 10 ^ maxStrDigits := by
  simp only [natural, Option.bind_eq_bind, Option.bind_eq_some_iff] at known
  obtain ⟨read, digits, returned⟩ := known
  split_ifs at returned with short
  cases returned
  have bound := foldl_lt (digits_lt digits) 0
  rw [Nat.zero_add, Nat.mul_one] at bound
  exact bound.trans_le (Nat.pow_le_pow_right (by decide) short)

theorem int_lt {text : String} {value : Int} (read : int text = some value) :
    value.natAbs < 10 ^ maxStrDigits := by
  rw [int] at read
  split at read
  case h_2 =>
    obtain ⟨_, unsigned, rfl⟩ := Option.map_eq_some_iff.mp read
    obtain ⟨number, known, ⟨⟩⟩ := Option.bind_eq_some_iff.mp unsigned
    simpa using natural_lt known
  all_goals
    obtain ⟨number, known, rfl⟩ := Option.map_eq_some_iff.mp read
    simpa using natural_lt known

end Python
