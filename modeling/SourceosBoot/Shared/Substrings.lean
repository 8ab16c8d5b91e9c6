import Mathlib.Data.List.Infix
import SourceosBoot.Shared.Text

set_option autoImplicit false

namespace Python

/-- `item in text`. -/
def occursIn (item text : String) : Bool := decide (item.toList <:+: text.toList)

def wordsFrom : List Char → List Char → List (List Char)
  | word, [] => if word = [] then [] else [word]
  | word, char :: rest =>
    if isSpace char then
      if word = [] then wordsFrom [] rest else word :: wordsFrom [] rest
    else wordsFrom (word ++ [char]) rest

/-- `text.split()`. -/
def split (text : String) : List String := (wordsFrom [] text.toList).map String.ofList

section Joined

variable {α : Type} {separator : α} {word : List α} (unbroken : separator ∉ word)
include unbroken

theorem prefix_separator {back : List α} (starts : word <+: separator :: back) : word = [] := by
  cases word with
  | nil => rfl
  | cons first rest =>
    rw [(List.cons_prefix_cons.mp starts).1] at unbroken
    exact absurd List.mem_cons_self unbroken

theorem infix_across {front back : List α} :
    word <:+: front ++ separator :: back ↔ word <:+: front ∨ word <:+: back := by
  constructor
  · rw [List.infix_append_iff]
    rintro (inFront | inBack | ⟨first, last, rfl, ends, starts⟩)
    · exact .inl inFront
    · rcases List.infix_cons_iff.mp inBack with starts | later
      · exact .inl (prefix_separator unbroken starts ▸ List.nil_infix)
      · exact .inr later
    · rw [List.mem_append, not_or] at unbroken
      rw [prefix_separator unbroken.2 starts, List.append_nil]
      exact .inl ends.isInfix
  · rintro (⟨before, after, rfl⟩ | ⟨before, after, rfl⟩)
    · exact ⟨before, after ++ separator :: back, by simp⟩
    · exact ⟨front ++ separator :: before, after, by simp⟩

theorem infix_intercalate (nonempty : word ≠ []) (parts : List (List α)) :
    word <:+: [separator].intercalate parts ↔ ∃ part ∈ parts, word <:+: part := by
  induction parts with
  | nil => simp [List.intercalate, nonempty]
  | cons part parts ih =>
    cases parts with
    | nil => simp
    | cons next parts =>
      rw [List.intercalate_cons_cons, List.append_assoc, List.singleton_append,
        infix_across unbroken, ih]
      simp

end Joined

theorem occursIn_lines {item : String} (nonempty : item ≠ "") (line : '\n' ∉ item.toList)
    (parts : List String) :
    occursIn item ("\n".intercalate parts) = true ↔ ∃ part ∈ parts, occursIn item part = true := by
  have shown : item.toList ≠ [] := by simpa using nonempty
  have joined : ("\n".intercalate parts).toList = ['\n'].intercalate (parts.map String.toList) :=
    String.toList_intercalate
  simp [occursIn, joined, infix_intercalate line shown]

end Python
