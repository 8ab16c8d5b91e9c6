import SourceosBoot.Shared.JsonDumps
import SourceosBoot.Shared.PrefixCode

set_option autoImplicit false

-- Two values without floating-point numbers have one canonical text exactly when they are equal as
-- JSON values.

namespace Json

open PrefixCode

def hexValue (digit : Char) : Nat :=
  if digit.isDigit then digit.toNat - '0'.toNat else digit.toNat - 'a'.toNat + 10

theorem hexValue_digitChar : ∀ digit < 16, hexValue digit.digitChar = digit := by decide

def shortEscapes : List (Char × Nat) :=
  [('"', 0x22), ('\\', 0x5c), ('n', 0xa), ('r', 0xd), ('t', 0x9), ('b', 0x8), ('f', 0xc)]

def readUnit : List Char → Option (Nat × List Char)
  | [] => none
  | char :: rest =>
    if char ≠ '\\' then some (char.toNat, rest)
    else match rest with
      | [] => none
      | letter :: rest =>
        if letter ≠ 'u' then (shortEscapes.lookup letter).map (·, rest)
        else match rest with
          | first :: second :: third :: fourth :: rest =>
            some (hexValue first * 0x1000 + hexValue second * 0x100 + hexValue third * 16 +
              hexValue fourth, rest)
          | _ => none

theorem readUnit_hexEscape (unit : Nat) (small : unit < 0x10000) (rest : List Char) :
    readUnit (hexEscape unit ++ rest) = some (unit, rest) := by
  have digit (place : Nat) : hexValue (place % 16).digitChar = place % 16 :=
    hexValue_digitChar _ (Nat.mod_lt _ (by decide))
  simp only [hexEscape, readUnit, List.cons_append, List.map_cons, List.map_nil, List.nil_append,
    ne_eq, not_true_eq_false, if_false, digit]
  rw [show unit / 0x1000 % 16 * 0x1000 + unit / 0x100 % 16 * 0x100 + unit / 16 % 16 * 16 +
    unit % 16 = unit by omega]

def highSurrogate (char : Char) : Nat := 0xd800 + (char.toNat - 0x10000) / 0x400

def lowSurrogate (char : Char) : Nat := 0xdc00 + (char.toNat - 0x10000) % 0x400

inductive Dumped (char : Char) : List Char → Prop
  | short (letter : Char) (escape : letter ≠ 'u')
      (listed : shortEscapes.lookup letter = some char.toNat) : Dumped char ['\\', letter]
  | itself (quote : char ≠ '"') (backslash : char ≠ '\\') (basic : char.toNat < 0x10000) :
      Dumped char [char]
  | escaped (basic : char.toNat < 0x10000) : Dumped char (hexEscape char.toNat)
  | surrogates (beyond : ¬ char.toNat < 0x10000) :
      Dumped char (hexEscape (highSurrogate char) ++ hexEscape (lowSurrogate char))

theorem dumpChar_dumped (char : Char) : Dumped char (dumpChar char) := by
  rw [dumpChar]
  by_cases quote : char = '"'
  · subst quote
    exact .short '"' (by decide) rfl
  rw [if_neg quote]
  by_cases backslash : char = '\\'
  · subst backslash
    exact .short '\\' (by decide) rfl
  rw [if_neg backslash]
  by_cases newline : char = '\n'
  · subst newline
    exact .short 'n' (by decide) rfl
  rw [if_neg newline]
  by_cases carriage : char = '\r'
  · subst carriage
    exact .short 'r' (by decide) rfl
  rw [if_neg carriage]
  by_cases tab : char = '\t'
  · subst tab
    exact .short 't' (by decide) rfl
  rw [if_neg tab]
  by_cases backspace : char.toNat = 0x8
  · rw [if_pos backspace]
    exact .short 'b' (by decide) (backspace ▸ rfl)
  rw [if_neg backspace]
  by_cases formfeed : char.toNat = 0xc
  · rw [if_pos formfeed]
    exact .short 'f' (by decide) (formfeed ▸ rfl)
  rw [if_neg formfeed]
  by_cases printable : 0x20 ≤ char.toNat ∧ char.toNat ≤ 0x7e
  · rw [if_pos printable]
    exact .itself quote backslash (by omega)
  rw [if_neg printable]
  by_cases basic : char.toNat < 0x10000
  · rw [if_pos basic]
    exact .escaped basic
  · rw [if_neg basic]
    exact .surrogates basic

theorem short_basic {letter : Char} {unit : Nat}
    (listed : shortEscapes.lookup letter = some unit) : unit < 0x10000 := by
  obtain ⟨front, back, split, _⟩ := List.lookup_eq_some_iff.mp listed
  have small : ∀ escape ∈ shortEscapes, escape.2 < 0x10000 := by decide
  exact small (letter, unit) (by simp [split])

theorem readUnit_dumpChar (char : Char) (basic : char.toNat < 0x10000) (rest : List Char) :
    readUnit (dumpChar char ++ rest) = some (char.toNat, rest) := by
  have dumped := dumpChar_dumped char
  generalize dumpChar char = written at dumped
  cases dumped with
  | short letter escape listed => simp [readUnit, escape, listed]
  | itself _ backslash => simp [readUnit, backslash]
  | escaped => exact readUnit_hexEscape _ basic rest
  | surrogates beyond => exact absurd basic beyond

theorem toNat_valid (char : Char) :
    char.toNat < 0xd800 ∨ 0xdfff < char.toNat ∧ char.toNat < 0x110000 := char.valid

theorem dumpChar_surrogates (char : Char) (beyond : ¬ char.toNat < 0x10000) :
    dumpChar char = hexEscape (highSurrogate char) ++ hexEscape (lowSurrogate char) := by
  have dumped := dumpChar_dumped char
  generalize dumpChar char = written at dumped
  cases dumped with
  | short letter _ listed => exact absurd (short_basic listed) beyond
  | itself _ _ basic => exact absurd basic beyond
  | escaped basic => exact absurd basic beyond
  | surrogates => rfl

theorem surrogates_bound (char : Char) (beyond : ¬ char.toNat < 0x10000) :
    0xd800 ≤ highSurrogate char ∧ highSurrogate char < 0xdc00 ∧ lowSurrogate char < 0x10000 := by
  have valid := toNat_valid char
  unfold highSurrogate lowSurrogate
  omega

theorem readUnit_surrogates (char : Char) (beyond : ¬ char.toNat < 0x10000) (rest : List Char) :
    readUnit (dumpChar char ++ rest) =
      some (highSurrogate char, hexEscape (lowSurrogate char) ++ rest) := by
  have bound := surrogates_bound char beyond
  rw [dumpChar_surrogates char beyond, List.append_assoc, readUnit_hexEscape _ (by omega)]

theorem dumpChar_read {left right : Char} {rest later : List Char}
    (written : dumpChar left ++ rest = dumpChar right ++ later) : left = right ∧ rest = later := by
  have units := congrArg readUnit written
  have leftValid := toNat_valid left
  have rightValid := toNat_valid right
  by_cases leftBasic : left.toNat < 0x10000 <;> by_cases rightBasic : right.toNat < 0x10000
  · rw [readUnit_dumpChar _ leftBasic, readUnit_dumpChar _ rightBasic] at units
    simp only [Option.some.injEq, Prod.mk.injEq] at units
    exact ⟨Char.toNat_inj.mp units.1, units.2⟩
  · have bound := surrogates_bound right rightBasic
    rw [readUnit_dumpChar _ leftBasic, readUnit_surrogates _ rightBasic] at units
    simp only [Option.some.injEq, Prod.mk.injEq] at units
    omega
  · have bound := surrogates_bound left leftBasic
    rw [readUnit_surrogates _ leftBasic, readUnit_dumpChar _ rightBasic] at units
    simp only [Option.some.injEq, Prod.mk.injEq] at units
    omega
  · have leftBound := surrogates_bound left leftBasic
    have rightBound := surrogates_bound right rightBasic
    rw [readUnit_surrogates _ leftBasic, readUnit_surrogates _ rightBasic] at units
    simp only [Option.some.injEq, Prod.mk.injEq] at units
    have lows := congrArg readUnit units.2
    rw [readUnit_hexEscape _ leftBound.2.2, readUnit_hexEscape _ rightBound.2.2] at lows
    simp only [Option.some.injEq, Prod.mk.injEq] at lows
    refine ⟨Char.toNat_inj.mp ?_, lows.2⟩
    have high := units.1
    have low := lows.1
    unfold highSurrogate at high
    unfold lowSurrogate at low
    omega

theorem dumpChar_head (char : Char) :
    ∃ first rest, dumpChar char = first :: rest ∧ first ≠ '"' := by
  have dumped := dumpChar_dumped char
  generalize dumpChar char = written at dumped
  cases dumped with
  | itself quote => exact ⟨char, [], rfl, quote⟩
  | short | escaped | surrogates => exact ⟨'\\', _, rfl, by decide⟩

theorem letters_read {left right rest later : List Char}
    (written : left.flatMap dumpChar ++ '"' :: rest = right.flatMap dumpChar ++ '"' :: later) :
    left = right ∧ rest = later := by
  induction left generalizing right with
  | nil =>
    cases right with
    | nil => exact ⟨rfl, List.tail_eq_of_cons_eq written⟩
    | cons char right =>
      obtain ⟨first, more, text, other⟩ := dumpChar_head char
      rw [List.flatMap_cons, text] at written
      exact absurd (List.head_eq_of_cons_eq written).symm other
  | cons char left ih =>
    cases right with
    | nil =>
      obtain ⟨first, more, text, other⟩ := dumpChar_head char
      rw [List.flatMap_cons, text] at written
      exact absurd (List.head_eq_of_cons_eq written) other
    | cons other right =>
      rw [List.flatMap_cons, List.flatMap_cons, List.append_assoc, List.append_assoc] at written
      obtain ⟨rfl, left⟩ := dumpChar_read written
      obtain ⟨rfl, equal⟩ := ih left
      exact ⟨rfl, equal⟩

theorem toList_dumpString (text : String) :
    (dumpString text).toList = '"' :: text.toList.flatMap dumpChar ++ ['"'] := by
  simp [dumpString]

theorem dumpString_read {left right : String} {rest later : List Char}
    (written : (dumpString left).toList ++ rest = (dumpString right).toList ++ later) :
    left = right ∧ rest = later := by
  simp only [toList_dumpString, List.cons_append, List.append_assoc, List.nil_append,
    List.cons.injEq, true_and] at written
  obtain ⟨letters, equal⟩ := letters_read written
  exact ⟨String.toList_injective letters, equal⟩

def Ends (rest : List Char) : Prop := ∀ char ∈ rest.head?, char.isDigit = false

theorem natural_read {left right : Nat} {rest later : List Char} (ends : Ends rest)
    (others : Ends later)
    (written : Nat.toDigits 10 left ++ rest = Nat.toDigits 10 right ++ later) :
    left = right ∧ rest = later := by
  have digitsOf (number : Nat) {rest : List Char} (ends : Ends rest) :
      (Nat.toDigits 10 number ++ rest).takeWhile Char.isDigit = Nat.toDigits 10 number := by
    have all_digits : ∀ char ∈ Nat.toDigits 10 number, char.isDigit = true :=
      fun _ listed => Nat.isDigit_of_mem_toDigits (by decide) (by decide) listed
    have stop : rest.takeWhile Char.isDigit = [] := by
      cases rest with
      | nil => rfl
      | cons char rest => simp [ends char rfl]
    rw [List.takeWhile_append_of_pos all_digits, stop, List.append_nil]
  have digits := congrArg (List.takeWhile Char.isDigit) written
  rw [digitsOf left ends, digitsOf right others] at digits
  refine ⟨?_, List.append_cancel_left (digits ▸ written)⟩
  have value := congrArg (Nat.ofDigitChars 10 · 0) digits
  simpa only [Nat.ofDigitChars_ten_toDigits] using value

@[simp] theorem toList_ofNat (number : Nat) :
    (toString (Int.ofNat number)).toList = Nat.toDigits 10 number := by
  simp [Int.repr]

@[simp] theorem toList_negSucc (number : Nat) :
    (toString (Int.negSucc number)).toList = '-' :: Nat.toDigits 10 (number + 1) := by
  simp [Int.repr]

theorem digits_unsigned (number : Nat) (rest later : List Char) :
    Nat.toDigits 10 number ++ rest ≠ '-' :: later := by
  cases digits : Nat.toDigits 10 number with
  | nil => exact absurd digits Nat.toDigits_ne_nil
  | cons first more =>
    have digit : first.isDigit = true :=
      Nat.isDigit_of_mem_toDigits (by decide : 0 < 10) (by decide) (digits ▸ List.mem_cons_self)
    rintro ⟨⟩
    simp at digit

theorem integer_read {left right : Int} {rest later : List Char} (ends : Ends rest)
    (others : Ends later)
    (written : (toString left).toList ++ rest = (toString right).toList ++ later) :
    left = right ∧ rest = later := by
  cases left with
  | ofNat left =>
    cases right with
    | ofNat right =>
      rw [toList_ofNat, toList_ofNat] at written
      obtain ⟨rfl, equal⟩ := natural_read ends others written
      exact ⟨rfl, equal⟩
    | negSucc right =>
      rw [toList_ofNat, toList_negSucc] at written
      exact absurd written (digits_unsigned _ _ _)
  | negSucc left =>
    cases right with
    | ofNat right =>
      rw [toList_ofNat, toList_negSucc] at written
      exact absurd written.symm (digits_unsigned _ _ _)
    | negSucc right =>
      rw [toList_negSucc, toList_negSucc] at written
      obtain ⟨same, equal⟩ := natural_read ends others (List.tail_eq_of_cons_eq written)
      obtain rfl : left = right := by omega
      exact ⟨rfl, equal⟩

def text (value : Json) : List Char := (dumps value).toList

def memberText (member : String × Json) : List Char :=
  (dumpString member.1).toList ++ ':' :: text member.2

theorem dumpItems_eq (items : List Json) : dumpItems items = items.map dumps := by
  induction items with
  | nil => rfl
  | cons item rest ih => rw [dumpItems, ih, List.map_cons]

theorem dumpMembers_eq (members : List (String × Json)) :
    dumpMembers members = members.map fun member => (member.1, dumps member.2) := by
  induction members with
  | nil => rfl
  | cons member rest ih => rw [dumpMembers, ih, List.map_cons]

theorem text_arr (items : List Json) :
    text (.arr items) = '[' :: [','].intercalate (items.map text) ++ [']'] := by
  simp only [text, dumps, dumpItems_eq, String.toList_append, String.toList_intercalate,
    List.map_map]
  rfl

theorem text_obj (members : List (String × Json)) :
    text (.obj members) =
      '\x7b' :: [','].intercalate ((Python.sorted Prod.fst members).map memberText) ++ ['\x7d'] := by
  have shown : Python.sorted (fun member => member.1) (dumpMembers members) =
      (Python.sorted Prod.fst members).map fun member => (member.1, dumps member.2) := by
    rw [dumpMembers_eq]
    exact Python.sorted_map _ (fun _ => rfl) members
  have member (name : String) (value : Json) :
      (dumpString name ++ ":" ++ dumps value).toList = memberText (name, value) := by
    simp [memberText, text]
  simp [text, dumps, shown, Function.comp_def, member]

def typeOf (first : Char) : Option String :=
  if first = 'n' then some "NoneType"
  else if first = 't' ∨ first = 'f' then some "bool"
  else if first = '"' then some "str"
  else if first = '[' then some "list"
  else if first = '\x7b' then some "dict"
  else if first = '-' ∨ first.isDigit then some "int"
  else none

theorem typeOf_digit (first : Char) (digit : first.isDigit = true) :
    typeOf first = some "int" := by
  have other (letter : Char) (noDigit : letter.isDigit = false) : first ≠ letter := by
    rintro rfl
    simp [digit] at noDigit
  simp [typeOf, digit, other]

theorem text_head {value : Json} (plain : value.Plain) :
    ∃ first rest, text value = first :: rest ∧ typeOf first = some value.pyType := by
  cases plain with
  | null => exact ⟨'n', _, rfl, rfl⟩
  | bool value => cases value <;> exact ⟨_, _, rfl, rfl⟩
  | str letters => exact ⟨'"', _, toList_dumpString letters, rfl⟩
  | arr => exact ⟨'[', _, text_arr _, rfl⟩
  | obj => exact ⟨'\x7b', _, text_obj _, rfl⟩
  | int value =>
    cases value with
    | negSucc number => exact ⟨'-', _, toList_negSucc number, rfl⟩
    | ofNat number =>
      have text : text (.int (Int.ofNat number)) = Nat.toDigits 10 number := toList_ofNat number
      cases digits : Nat.toDigits 10 number with
      | nil => exact absurd digits Nat.toDigits_ne_nil
      | cons first rest =>
        refine ⟨first, rest, text.trans digits, typeOf_digit first ?_⟩
        exact Nat.isDigit_of_mem_toDigits (by decide : 0 < 10) (by decide)
          (digits ▸ List.mem_cons_self)

theorem pyType_read {left right : Json} (plain : left.Plain) (other : right.Plain)
    {rest later : List Char} (written : text left ++ rest = text right ++ later) :
    left.pyType = right.pyType := by
  obtain ⟨first, more, begun, type⟩ := text_head plain
  obtain ⟨head, tail, started, kind⟩ := text_head other
  rw [begun, started] at written
  rw [List.head_eq_of_cons_eq written, kind] at type
  exact (Option.some.inj type).symm

theorem text_opens {value : Json} (plain : value.Plain) {close : Char}
    (closing : typeOf close = none) (rest : List Char) :
    (text value ++ rest).head? ≠ some close := by
  obtain ⟨first, more, begun, type⟩ := text_head plain
  rintro same
  rw [begun] at same
  obtain rfl : first = close := Option.some.inj same
  simp [closing] at type

theorem ends_cons {char : Char} (noDigit : char.isDigit = false) (rest : List Char) :
    Ends (char :: rest) := by
  rintro _ ⟨⟩
  exact noDigit

def SameMember (member other : String × Json) : Prop :=
  member.1 = other.1 ∧ jsonEq member.2 other.2 = true

theorem jsonEq_of_sorted {members others : List (String × Json)}
    (named : (others.map Prod.fst).Nodup)
    (alike : List.Forall₂ SameMember (Python.sorted Prod.fst members)
      (Python.sorted Prod.fst others)) : jsonEq (.obj members) (.obj others) = true := by
  have partner {items choices : List (String × Json)} (alike : List.Forall₂ SameMember items choices)
      (item : String × Json) (listed : item ∈ items) : ∃ choice ∈ choices, SameMember item choice := by
    induction alike with
    | nil => cases listed
    | cons first _ ih =>
      rcases List.mem_cons.mp listed with rfl | later
      · exact ⟨_, List.mem_cons_self, first⟩
      · obtain ⟨choice, among, equal⟩ := ih later
        exact ⟨choice, .tail _ among, equal⟩
  have length : members.length = others.length := by
    simpa [Python.sorted] using alike.length_eq
  simp only [jsonEq, same, length, decide_true, Bool.true_and, sameMembers_iff]
  intro member listed
  obtain ⟨⟨key, value⟩, among, named_alike, equal⟩ :=
    partner alike member ((Python.mem_sorted _ _ _).mpr listed)
  rw [Python.mem_sorted] at among
  exact ⟨value, named_alike ▸ lookup_of_mem named among, equal⟩

theorem memberText_read {member other : String × Json}
    (value : ReadBack text Ends (fun left right => jsonEq left right = true) member.2 other.2) :
    ReadBack memberText Ends SameMember member other := by
  intro rest later ends stops written
  simp only [memberText, List.append_assoc] at written
  obtain ⟨key, values⟩ := dumpString_read written
  obtain ⟨equal, left⟩ := value rest later ends stops (List.tail_eq_of_cons_eq values)
  exact ⟨⟨key, equal⟩, left⟩

theorem memberText_opens (member : String × Json) (rest : List Char) :
    (memberText member ++ rest).head? ≠ some '\x7d' := by
  simp [memberText, toList_dumpString]

theorem text_read {left : Json} (plain : left.Plain) {right : Json} (other : right.Plain) :
    ReadBack text Ends (fun left right => jsonEq left right = true) left right := by
  induction plain generalizing right with
  | null =>
    intro rest later _ _ written
    have type := pyType_read .null other written
    cases other with
    | null => exact ⟨rfl, List.append_cancel_left written⟩
    | _ => simp [pyType] at type
  | bool value =>
    intro rest later _ _ written
    have type := pyType_read (.bool value) other written
    cases other with
    | bool truth =>
      cases value <;> cases truth
      · exact ⟨rfl, List.append_cancel_left written⟩
      · cases written
      · cases written
      · exact ⟨rfl, List.append_cancel_left written⟩
    | _ => simp [pyType] at type
  | int value =>
    intro rest later ends stops written
    have type := pyType_read (.int value) other written
    cases other with
    | int number =>
      obtain ⟨rfl, equal⟩ := integer_read ends stops written
      exact ⟨by simp [jsonEq, same, Json.number], equal⟩
    | _ => simp [pyType] at type
  | str letters =>
    intro rest later _ _ written
    have type := pyType_read (.str letters) other written
    cases other with
    | str others =>
      obtain ⟨rfl, equal⟩ := dumpString_read written
      exact ⟨by simp [jsonEq], equal⟩
    | _ => simp [pyType] at type
  | @arr items each ih =>
    intro rest later _ _ written
    have type := pyType_read (.arr each) other written
    cases other with
    | @arr others others_each =>
      simp only [text_arr, List.cons_append, List.append_assoc, List.nil_append, List.cons.injEq,
        true_and] at written
      have opens : ∀ item ∈ items ++ others, ∀ rest, (text item ++ rest).head? ≠ some ']' := by
        intro item listed
        refine text_opens ?_ (by decide)
        exact (List.mem_append.mp listed).elim (each item) (others_each item)
      obtain ⟨alike, equal⟩ := list_read
        (fun item listed other among => ih item listed (others_each other among))
        (by decide) (ends_cons (by decide)) (ends_cons (by decide)) opens written
      exact ⟨(sameItems_iff _ _ _).mpr alike, equal⟩
    | _ => simp [pyType] at type
  | @obj members named each ih =>
    intro rest later _ _ written
    have type := pyType_read (.obj named each) other written
    cases other with
    | @obj others others_named others_each =>
      simp only [text_obj, List.cons_append, List.append_assoc, List.nil_append, List.cons.injEq,
        true_and] at written
      have readBack : ∀ member ∈ Python.sorted Prod.fst members,
          ∀ other ∈ Python.sorted Prod.fst others, ReadBack memberText Ends SameMember member other := by
        intro member listed other among
        rw [Python.mem_sorted] at listed among
        exact memberText_read (ih member listed (others_each other among))
      obtain ⟨alike, equal⟩ := list_read readBack (by decide) (ends_cons (by decide))
        (ends_cons (by decide)) (fun member _ => memberText_opens member) written
      exact ⟨jsonEq_of_sorted others_named alike, equal⟩
    | _ => simp [pyType] at type

theorem dumpMembers_perm {members others : List (String × Json)}
    (named : (members.map Prod.fst).Nodup) (length : members.length = others.length)
    (alike : ∀ member ∈ members, ∃ other, lookup member.1 others = some other ∧
      dumps member.2 = dumps other) : (dumpMembers members).Perm (dumpMembers others) := by
  rw [dumpMembers_eq, dumpMembers_eq]
  have distinct : (members.map fun member => (member.1, dumps member.2)).Nodup := by
    refine List.Nodup.of_map Prod.fst ?_
    rwa [List.map_map]
  refine (List.subperm_of_subset distinct ?_).perm_of_length_le (by simp [length])
  intro shown listed
  obtain ⟨member, among, rfl⟩ := List.mem_map.mp listed
  obtain ⟨other, found, equal⟩ := alike member among
  exact List.mem_map.mpr ⟨_, lookup_mem found, by rw [equal]⟩

theorem dumpItems_of_alike {items others : List Json}
    (each : ∀ item ∈ items, ∀ other ∈ others, jsonEq item other = true → dumps item = dumps other)
    (alike : List.Forall₂ (fun item other => jsonEq item other = true) items others) :
    dumpItems items = dumpItems others := by
  induction alike with
  | nil => rfl
  | cons first _ ih =>
    rw [dumpItems, dumpItems, each _ (.head _) _ (.head _) first,
      ih fun item listed other among => each item (.tail _ listed) other (.tail _ among)]

theorem sorted_of_named {members others : List (String × Json)}
    (named : (members.map Prod.fst).Nodup)
    (perm : (dumpMembers members).Perm (dumpMembers others)) :
    Python.sorted (fun member => member.1) (dumpMembers members) =
      Python.sorted (fun member => member.1) (dumpMembers others) := by
  have distinct : ((dumpMembers members).map Prod.fst).Nodup := by
    rwa [dumpMembers_eq, List.map_map]
  exact Python.sorted_of_perm
    (fun _ first _ second same => List.inj_on_of_nodup_map distinct first second same) perm

theorem dumps_of_jsonEq {left : Json} (plain : left.Plain) {right : Json} (other : right.Plain)
    (equal : jsonEq left right = true) : dumps left = dumps right := by
  induction plain generalizing right with
  | null => rw [(same_null _ _).mp equal]
  | bool value => rw [(jsonEq_bool _ _).mp equal]
  | str letters => rw [(same_str _ _ _).mp equal]
  | int value =>
    cases other with
    | int number =>
      simp only [jsonEq, same, Json.number, Option.some.injEq, decide_eq_true_eq] at equal
      rw [Rat.intCast_inj.mp equal]
    | _ => simp [jsonEq, same, Json.number] at equal
  | arr each ih =>
    cases other with
    | arr others_each =>
      rw [jsonEq, same, sameItems_iff] at equal
      rw [dumps, dumps, dumpItems_of_alike (fun item listed other among =>
        ih item listed (others_each other among)) equal]
    | _ => simp [jsonEq, same] at equal
  | @obj members named each ih =>
    cases other with
    | @obj others others_named others_each =>
      simp only [jsonEq, same, Bool.and_eq_true, decide_eq_true_eq, sameMembers_iff] at equal
      have perm := dumpMembers_perm named equal.1 fun member listed => by
        obtain ⟨value, found, alike⟩ := equal.2 member listed
        exact ⟨value, found, ih member listed (others_each _ (lookup_mem found)) alike⟩
      rw [dumps, dumps, sorted_of_named named perm]
    | _ => simp [jsonEq, same] at equal

theorem dumps_inj {left right : Json} (plain : left.Plain) (other : right.Plain) :
    dumps left = dumps right ↔ jsonEq left right = true := by
  refine ⟨fun written => ?_, dumps_of_jsonEq plain other⟩
  have end_of_text : Ends [] := by simp [Ends]
  refine (text_read plain other [] [] end_of_text end_of_text ?_).1
  rw [text, text, written]

theorem str_of_dumps {letters : String} {other : Json} (plain : other.Plain)
    (same : dumps (.str letters) = dumps other) : other = .str letters :=
  (same_str _ _ _).mp ((dumps_inj (.str letters) plain).mp same)

theorem truthy_of_dumps {left right : Json} (plain : left.Plain) (other : right.Plain)
    (same : dumps left = dumps right) : left.truthy = right.truthy := by
  have equal := (dumps_inj plain other).mp same
  cases plain with
  | null => rw [(same_null _ _).mp equal]
  | bool value => rw [(jsonEq_bool _ _).mp equal]
  | str letters => rw [(same_str _ _ _).mp equal]
  | int value =>
    cases other with
    | int number =>
      simp only [jsonEq, Json.same, Json.number, Option.some.injEq, decide_eq_true_eq] at equal
      rw [Rat.intCast_inj.mp equal]
    | _ => simp [jsonEq, Json.same, Json.number] at equal
  | @arr items _ =>
    cases other with
    | @arr others _ =>
      rw [jsonEq, Json.same, sameItems_iff] at equal
      cases equal <;> rfl
    | _ => simp [jsonEq, Json.same] at equal
  | @obj members _ _ =>
    cases other with
    | @obj others _ _ =>
      simp only [jsonEq, Json.same, Bool.and_eq_true, decide_eq_true_eq] at equal
      cases members <;> cases others <;> simp_all [truthy]
    | _ => simp [jsonEq, Json.same] at equal

theorem Plain.of_lookup {members : List (String × Json)} {key : String} {value : Json}
    (plain : (Json.obj members).Plain) (found : lookup key members = some value) : value.Plain := by
  cases plain with
  | obj _ each => exact each _ (lookup_mem found)

theorem lookup_of_dumps {members others : List (String × Json)} (plain : (obj members).Plain)
    (other : (obj others).Plain) (same : dumps (.obj members) = dumps (.obj others))
    (key : String) : (lookup key members).map dumps = (lookup key others).map dumps := by
  have found_in {members others : List (String × Json)} (plain : (obj members).Plain)
      (other : (obj others).Plain) (same : dumps (.obj members) = dumps (.obj others))
      {value : Json} (found : lookup key members = some value) :
      ∃ item, lookup key others = some item ∧ dumps value = dumps item := by
    have equal := (dumps_inj plain other).mp same
    simp only [jsonEq, Json.same, Bool.and_eq_true, decide_eq_true_eq, sameMembers_iff] at equal
    obtain ⟨item, there, alike⟩ := equal.2 _ (lookup_mem found)
    exact ⟨item, there, dumps_of_jsonEq (plain.of_lookup found) (other.of_lookup there) alike⟩
  cases found : lookup key members with
  | some value =>
    obtain ⟨item, there, equal⟩ := found_in plain other same found
    rw [there, Option.map_some, Option.map_some, equal]
  | none =>
    cases there : lookup key others with
    | none => rfl
    | some item =>
      obtain ⟨_, found', _⟩ := found_in other plain same.symm there
      cases found.symm.trans found'

end Json
