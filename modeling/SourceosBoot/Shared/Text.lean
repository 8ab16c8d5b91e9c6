import Mathlib.Data.List.Sort
import Mathlib.Data.String.Basic
import SourceosBoot.Shared.Python

set_option autoImplicit false

namespace Python

def sorted {α κ : Type} [LE κ] [DecidableLE κ] (key : α → κ) (items : List α) : List α :=
  items.insertionSort fun left right => key left ≤ key right

@[simp] theorem mem_sorted {α κ : Type} [LE κ] [DecidableLE κ] (key : α → κ) (items : List α)
    (item : α) : item ∈ sorted key items ↔ item ∈ items :=
  (List.perm_insertionSort _ items).mem_iff

theorem sorted_pairwise {α κ : Type} [LinearOrder κ] (key : α → κ) (items : List α) :
    (sorted key items).Pairwise fun left right => key left ≤ key right := by
  have total : Std.Total fun left right : α => key left ≤ key right := ⟨fun _ _ => le_total _ _⟩
  have trans : IsTrans α fun left right => key left ≤ key right := ⟨fun _ _ _ => le_trans⟩
  exact List.pairwise_insertionSort _ items

theorem sorted_increasing {α κ : Type} [LinearOrder κ] (key : α → κ) (items : List α) :
    (sorted key items).Pairwise (fun left right => key left < key right) ↔
      items.Pairwise fun left right => key left ≠ key right := by
  have rearranged := (List.perm_insertionSort (fun left right => key left ≤ key right) items)
  refine Iff.trans ?_ (rearranged.pairwise_iff fun different => different.symm)
  exact ⟨fun strict => strict.imp ne_of_lt, fun different =>
    ((sorted_pairwise key items).and different).imp fun both => lt_of_le_of_ne both.1 both.2⟩

theorem sorted_map {α β κ : Type} [LE κ] [DecidableLE κ] {key : α → κ} {other : β → κ}
    (change : α → β) (kept : ∀ item, other (change item) = key item) (items : List α) :
    sorted other (items.map change) = (sorted key items).map change := by
  refine (List.map_insertionSort (fun left right => key left ≤ key right)
    (fun left right => other left ≤ other right) change items fun left _ right _ => ?_).symm
  rw [kept, kept]

theorem sorted_of_perm {α κ : Type} [LinearOrder κ] {key : α → κ} {items others : List α}
    (apart : ∀ left ∈ items, ∀ right ∈ items, key left = key right → left = right)
    (perm : items.Perm others) : sorted key items = sorted key others := by
  have rearranged : (sorted key items).Perm (sorted key others) :=
    ((List.perm_insertionSort _ items).trans perm).trans (List.perm_insertionSort _ others).symm
  refine rearranged.eq_of_pairwise ?_ (sorted_pairwise key items) (sorted_pairwise key others)
  intro left right first second before after
  rw [mem_sorted] at first second
  exact apart left first right (perm.mem_iff.mpr second) (le_antisymm before after)

def startswith (text start : String) : Bool := start.toList.isPrefixOf text.toList

theorem startswith_append {text start : String} (found : startswith text start = true)
    (rest : String) : startswith (text ++ rest) start = true := by
  simp only [startswith, List.isPrefixOf_iff_prefix, String.toList_append] at found ⊢
  exact found.trans (List.prefix_append _ _)

def endswith (text ending : String) : Bool := ending.toList.isSuffixOf text.toList

def slice (text : String) (first last : Nat) : String :=
  -- `text[first:-last]`.
  String.ofList ((text.toList.take (text.length - last)).drop first)

-- The zeros of the decimal digits of Unicode, each followed by its one to nine.
def zeros : List Nat :=
  [0x30, 0x660, 0x6f0, 0x7c0, 0x966, 0x9e6, 0xa66, 0xae6, 0xb66, 0xbe6, 0xc66, 0xce6, 0xd66,
    0xde6, 0xe50, 0xed0, 0xf20, 0x1040, 0x1090, 0x17e0, 0x1810, 0x1946, 0x19d0, 0x1a80, 0x1a90,
    0x1b50, 0x1bb0, 0x1c40, 0x1c50, 0xa620, 0xa8d0, 0xa900, 0xa9d0, 0xa9f0, 0xaa50, 0xabf0,
    0xff10, 0x104a0, 0x10d30, 0x11066, 0x110f0, 0x11136, 0x111d0, 0x112f0, 0x11450, 0x114d0,
    0x11650, 0x116c0, 0x11730, 0x118e0, 0x11950, 0x11c50, 0x11d50, 0x11da0, 0x16a60, 0x16ac0,
    0x16b50, 0x1d7ce, 0x1d7d8, 0x1d7e2, 0x1d7ec, 0x1d7f6, 0x1e140, 0x1e2f0, 0x1e950, 0x1fbf0]

def digitValue (char : Char) : Option Nat :=
  (zeros.find? fun first => first ≤ char.toNat ∧ char.toNat < first + 10).map (char.toNat - ·)

def isSpace (char : Char) : Bool :=
  char.toNat ∈ [0x20, 0x85, 0xa0, 0x1680, 0x2028, 0x2029, 0x202f, 0x205f, 0x3000] ∨
    (0x9 ≤ char.toNat ∧ char.toNat ≤ 0xd) ∨ (0x1c ≤ char.toNat ∧ char.toNat ≤ 0x1f) ∨
    (0x2000 ≤ char.toNat ∧ char.toNat ≤ 0x200a)

def isIntSpace (char : Char) : Bool :=
  -- The separators 0x1c to 0x1f are white space for `strip`, and not for `int`.
  isSpace char ∧ ¬ (0x1c ≤ char.toNat ∧ char.toNat ≤ 0x1f)

def stripChars (blank : Char → Bool) (chars : List Char) : List Char :=
  ((chars.dropWhile blank).reverse.dropWhile blank).reverse

def strip (text : String) : String := String.ofList (stripChars isSpace text.toList)

-- The digits of a numeral after its sign: single underscores may stand between two digits.
def digits : List Char → Option (List Nat)
  | [] => none
  | [char] => (digitValue char).map fun digit => [digit]
  | char :: '_' :: rest => do return (← digitValue char) :: (← digits rest)
  | char :: rest => do return (← digitValue char) :: (← digits rest)

def maxStrDigits : Nat := 4300

def natural (chars : List Char) : Option Nat := do
  let read ← digits chars
  if read.length ≤ maxStrDigits then
    return read.foldl (fun value digit => 10 * value + digit) 0
  else none

/-- `int(text)`; `none` where it raises ValueError. -/
def int (text : String) : Option Int :=
  match stripChars isIntSpace text.toList with
  | '+' :: rest => (natural rest).map Int.ofNat
  | '-' :: rest => (natural rest).map fun value => -(value : Int)
  | rest => (natural rest).map Int.ofNat

end Python
