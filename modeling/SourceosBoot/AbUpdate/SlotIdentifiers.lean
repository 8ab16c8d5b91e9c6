import Mathlib.Data.List.Forall2
import SourceosBoot.AbUpdate.SlotRoundTrips

set_option autoImplicit false

namespace SourceosBoot.AbUpdate

open Python Schema UpdateSlotSchema

def slotIdPattern : Pattern := ⟨.seq (.literal "urn:srcos:update-slot:") localIdPattern, true⟩

def targetRefPattern : Pattern := ⟨.literal "urn:srcos:", false⟩

theorem patterns_listed :
    ("id", { type := some ["string"], pattern := some slotIdPattern }) ∈
      updateSlotSchema.properties ∧
    ("targetRef", { type := some ["string"], pattern := some targetRefPattern }) ∈
      updateSlotSchema.properties := by
  constructor <;> simp [updateSlotSchema, slotIdPattern, targetRefPattern]

def lastSegment (urn : String) : List Char := (urn.toList.reverse.takeWhile (· ≠ ':')).reverse

structure Admitted (targetRef : String) : Prop where
  prefixed : targetRefPattern.search targetRef = true
  named : lastSegment targetRef ≠ []

section Characters

variable (isalnum : Char → Bool)

def KeptInId (char : Char) : Prop := isalnum char = true ∨ char ∈ ['.', '_', '~', '-']

instance (char : Char) : Decidable (KeptInId isalnum char) :=
  inferInstanceAs (Decidable (_ ∨ _))

def sanitised (char : Char) : Char := if KeptInId isalnum char then char else '_'

def Blurred (char : Char) : Prop := char = '_' ∨ ¬ KeptInId isalnum char

def SameInId (left right : Char) : Prop :=
  left = right ∨ Blurred isalnum left ∧ Blurred isalnum right

theorem localId_toList (urn : String) :
    (localId isalnum urn).toList = (lastSegment urn).map (sanitised isalnum) :=
  String.toList_ofList

theorem sanitised_blurred {char : Char} (blurred : Blurred isalnum char) :
    sanitised isalnum char = '_' := by
  rcases blurred with rfl | dropped
  · simp [sanitised]
  · simp [sanitised, dropped]

theorem sanitised_cases (char : Char) :
    sanitised isalnum char = char ∨ Blurred isalnum char := by
  by_cases kept : KeptInId isalnum char
  · exact .inl (if_pos kept)
  · exact .inr (.inr kept)

theorem sanitised_eq_iff (left right : Char) :
    sanitised isalnum left = sanitised isalnum right ↔ SameInId isalnum left right := by
  constructor
  · intro same
    rcases sanitised_cases isalnum left with leftKept | leftBlurred <;>
      rcases sanitised_cases isalnum right with rightKept | rightBlurred
    · exact .inl (leftKept.symm.trans (same.trans rightKept))
    · rw [leftKept, sanitised_blurred isalnum rightBlurred] at same
      exact .inr ⟨.inl same, rightBlurred⟩
    · rw [rightKept, sanitised_blurred isalnum leftBlurred] at same
      exact .inr ⟨leftBlurred, .inl same.symm⟩
    · exact .inr ⟨leftBlurred, rightBlurred⟩
  · rintro (rfl | ⟨leftBlurred, rightBlurred⟩)
    · rfl
    · rw [sanitised_blurred isalnum leftBlurred, sanitised_blurred isalnum rightBlurred]

theorem isAlphanum_iff (char : Char) :
    char.isAlphanum = true ↔ 'A'.toNat ≤ char.toNat ∧ char.toNat ≤ 'Z'.toNat ∨
      'a'.toNat ≤ char.toNat ∧ char.toNat ≤ 'z'.toNat ∨
      '0'.toNat ≤ char.toNat ∧ char.toNat ≤ '9'.toNat := by
  change (decide (char.val ≥ 'A'.val ∧ char.val ≤ 'Z'.val)
    || (decide (char.val ≥ 'a'.val) && decide (char.val ≤ 'z'.val))
    || (decide (char.val ≥ '0'.val) && decide (char.val ≤ '9'.val))) = true ↔ _
  simp only [Bool.or_eq_true, Bool.and_eq_true, decide_eq_true_eq, ge_iff_le,
    UInt32.le_iff_toNat_le, Char.toNat, or_assoc]

def idRanges : List (Char × Char) :=
  [('A', 'Z'), ('a', 'z'), ('0', '9'), ('.', '.'), ('_', '_'), ('~', '~'), ('-', '-')]

theorem inRanges_idRanges (char : Char) :
    Regex.inRanges idRanges char = true ↔
      char.isAlphanum = true ∨ char ∈ ['.', '_', '~', '-'] := by
  simp only [isAlphanum_iff, idRanges, Regex.inRanges, List.any_cons, List.any_nil, Bool.or_false,
    Bool.or_eq_true, decide_eq_true_eq, List.mem_cons, List.not_mem_nil, or_false,
    ← Char.toNat_inj]
  omega

/-- `str.isalnum` of an ASCII character. -/
def AsciiAlnum : Prop := ∀ char : Char, char.toNat < 128 → isalnum char = char.isAlphanum

def AsciiOnly (urn : String) : Prop :=
  ∀ char ∈ lastSegment urn, isalnum char = true → char.toNat < 128

instance (urn : String) : Decidable (AsciiOnly isalnum urn) :=
  List.decidableBAll (fun char => isalnum char = true → char.toNat < 128) (lastSegment urn)

theorem sanitised_inRanges (ascii : AsciiAlnum isalnum) (char : Char) :
    Regex.inRanges idRanges (sanitised isalnum char) = true ↔
      (isalnum char = true → char.toNat < 128) := by
  by_cases alphanumeric : isalnum char = true
  · have kept : sanitised isalnum char = char := if_pos (.inl alphanumeric)
    rw [kept, inRanges_idRanges]
    constructor
    · rintro (within | listed) _
      · simp only [isAlphanum_iff, Char.reduceToNat] at within
        omega
      · simp only [List.mem_cons, List.not_mem_nil, or_false] at listed
        rcases listed with rfl | rfl | rfl | rfl <;> decide
    · intro low
      exact .inl (ascii char (low alphanumeric) ▸ alphanumeric)
  · refine iff_of_true ?_ fun found => absurd found alphanumeric
    rw [inRanges_idRanges]
    by_cases marked : char ∈ ['.', '_', '~', '-']
    · rw [sanitised, if_pos (.inr marked)]
      exact .inr marked
    · have dropped : ¬ KeptInId isalnum char := not_or.mpr ⟨alphanumeric, marked⟩
      simp [sanitised_blurred isalnum (.inr dropped)]

end Characters

section Identifiers

variable (isalnum : Char → Bool)

def idTail (targetRef : String) (label : SlotLabel) : List Char :=
  (lastSegment targetRef).map (sanitised isalnum) ++ '_' :: label.lower.toList

theorem joined_toList (start name ending : String) :
    (start ++ name ++ "_" ++ ending).toList =
      start.toList ++ (name.toList ++ '_' :: ending.toList) := by
  rw [String.toList_append, String.toList_append, String.toList_append, List.append_assoc,
    List.append_assoc]
  rfl

theorem slotId_toList (targetRef : String) (label : SlotLabel) :
    (slotId isalnum targetRef label).toList =
      "urn:srcos:update-slot:".toList ++ idTail isalnum targetRef label := by
  rw [idTail, ← localId_toList]
  exact joined_toList _ _ _

theorem slotIdPattern_iff (text : String) :
    slotIdPattern.search text = true ↔
      ∃ chars, text.toList = "urn:srcos:update-slot:".toList ++ chars ∧ chars ≠ [] ∧
        ∀ char ∈ chars, Regex.inRanges idRanges char = true :=
  Regex.matchesWhole_literal_atLeastOnce "urn:srcos:update-slot:" idRanges text

theorem slotId_valid_iff (ascii : AsciiAlnum isalnum) (targetRef : String) (label : SlotLabel) :
    slotIdPattern.search (slotId isalnum targetRef label) = true ↔ AsciiOnly isalnum targetRef := by
  have ending : ('_' :: label.lower.toList).all (Regex.inRanges idRanges) = true := by
    cases label <;> decide
  rw [slotIdPattern_iff, slotId_toList]
  constructor
  · rintro ⟨chars, same, _, all⟩ char listed
    obtain rfl := List.append_cancel_left same
    have shown := all _ (List.mem_append_left _ (List.mem_map_of_mem listed))
    exact (sanitised_inRanges isalnum ascii char).mp shown
  · intro plain
    refine ⟨_, rfl, by simp [idTail], ?_⟩
    intro shown listed
    rcases List.mem_append.mp listed with segment | letters
    · obtain ⟨char, inSegment, rfl⟩ := List.mem_map.mp segment
      exact (sanitised_inRanges isalnum ascii char).mpr (plain char inSegment)
    · exact List.all_eq_true.mp ending shown letters

theorem slotId_eq_iff (left right : String) (leftLabel rightLabel : SlotLabel) :
    slotId isalnum left leftLabel = slotId isalnum right rightLabel ↔
      leftLabel = rightLabel ∧
        List.Forall₂ (SameInId isalnum) (lastSegment left) (lastSegment right) := by
  have letters :
      ('_' :: leftLabel.lower.toList).length = ('_' :: rightLabel.lower.toList).length := by
    cases leftLabel <;> cases rightLabel <;> rfl
  have sameLetters : '_' :: leftLabel.lower.toList = '_' :: rightLabel.lower.toList ↔
      leftLabel = rightLabel := by
    cases leftLabel <;> cases rightLabel <;> decide
  have sameSegments :
      (lastSegment left).map (sanitised isalnum) = (lastSegment right).map (sanitised isalnum) ↔
        List.Forall₂ (SameInId isalnum) (lastSegment left) (lastSegment right) := by
    rw [← List.forall₂_eq_eq_eq, List.forall₂_map_left_iff, List.forall₂_map_right_iff]
    simp only [sanitised_eq_iff]
  rw [← String.toList_inj, slotId_toList, slotId_toList, List.append_cancel_left_eq, idTail, idTail,
    ← sameLetters, ← sameSegments]
  constructor
  · intro same
    exact (List.append_inj' same letters).symm
  · rintro ⟨sameEnd, sameStart⟩
    rw [sameEnd, sameStart]

end Identifiers

section Documents

variable (isalnum : Char → Bool)

structure IdsIdentify (left right : Machine) : Prop where
  valid : ∀ doc ∈ left.toSlotDocuments isalnum ++ right.toSlotDocuments isalnum,
    ∃ id, doc.get? "id" = some (.str id) ∧ slotIdPattern.search id = true
  distinct : ∀ leftLabel rightLabel,
    (left.documentOf isalnum leftLabel).get? "id" =
      (right.documentOf isalnum rightLabel).get? "id" →
    left.config.targetRef = right.config.targetRef ∧ leftLabel = rightLabel

theorem documentOf_id (machine : Machine) (label : SlotLabel) :
    (machine.documentOf isalnum label).get? "id" =
      some (.str (slotId isalnum machine.config.targetRef label)) :=
  slotMembers_fixed _ _ _ _ rfl

theorem mem_toSlotDocuments {machine : Machine} {doc : Json} :
    doc ∈ machine.toSlotDocuments isalnum ↔ ∃ label, machine.documentOf isalnum label = doc := by
  constructor
  · intro listed
    obtain ⟨label, _, same⟩ := List.mem_map.mp listed
    exact ⟨label, same⟩
  · rintro ⟨label, rfl⟩
    exact documentOf_listed isalnum label machine

theorem ids_valid_iff (ascii : AsciiAlnum isalnum) (machine : Machine) :
    (∀ doc ∈ machine.toSlotDocuments isalnum,
      ∃ id, doc.get? "id" = some (.str id) ∧ slotIdPattern.search id = true) ↔
      AsciiOnly isalnum machine.config.targetRef := by
  constructor
  · intro valid
    obtain ⟨id, read, found⟩ := valid _ (documentOf_listed isalnum .A machine)
    rw [documentOf_id, Option.some.injEq, Json.str.injEq] at read
    exact (slotId_valid_iff isalnum ascii _ .A).mp (read ▸ found)
  · intro plain doc listed
    obtain ⟨label, rfl⟩ := (mem_toSlotDocuments isalnum).mp listed
    have found := (slotId_valid_iff isalnum ascii _ label).mpr plain
    exact ⟨_, documentOf_id isalnum machine label, found⟩

theorem ids_distinct_iff (left right : Machine) :
    (∀ leftLabel rightLabel,
      (left.documentOf isalnum leftLabel).get? "id" =
        (right.documentOf isalnum rightLabel).get? "id" →
      left.config.targetRef = right.config.targetRef ∧ leftLabel = rightLabel) ↔
      (List.Forall₂ (SameInId isalnum) (lastSegment left.config.targetRef)
        (lastSegment right.config.targetRef) → left.config.targetRef = right.config.targetRef) := by
  simp only [documentOf_id, Option.some.injEq, Json.str.injEq, slotId_eq_iff]
  constructor
  · intro distinct segments
    exact (distinct .A .A ⟨rfl, segments⟩).1
  · rintro identified leftLabel rightLabel ⟨labels, segments⟩
    exact ⟨identified segments, labels⟩

-- Of any two targets: nothing here asks that the contract admits them.
theorem ids_identify_iff (ascii : AsciiAlnum isalnum) (left right : Machine) :
    IdsIdentify isalnum left right ↔
      (AsciiOnly isalnum left.config.targetRef ∧ AsciiOnly isalnum right.config.targetRef) ∧
      (left.config.targetRef = right.config.targetRef ∨
        ¬ List.Forall₂ (SameInId isalnum) (lastSegment left.config.targetRef)
          (lastSegment right.config.targetRef)) := by
  rw [← ids_valid_iff isalnum ascii left, ← ids_valid_iff isalnum ascii right,
    ← List.forall_mem_append, or_comm, ← imp_iff_not_or, ← ids_distinct_iff]
  constructor
  · exact fun identify => ⟨identify.valid, identify.distinct⟩
  · exact fun ⟨valid, distinct⟩ => ⟨valid, distinct⟩

end Documents

-- `str.isalnum` on the characters of the examples.
def exampleAlnum (char : Char) : Bool := char.isAlphanum || char == 'é'

theorem exampleAlnum_ascii : AsciiAlnum exampleAlnum := by
  intro char low
  have plain : char ≠ 'é' := by
    rintro rfl
    revert low
    decide
  simp [exampleAlnum, plain]

def exampleMachineFor (targetRef : String) : Machine :=
  { exampleMachine with config := { exampleMachine.config with targetRef := targetRef } }

theorem ids_identify_iff_edges :
    IdsIdentify exampleAlnum exampleMachine (exampleMachineFor "urn:srcos:node:edge_08") :=
  (ids_identify_iff exampleAlnum exampleAlnum_ascii exampleMachine
    (exampleMachineFor "urn:srcos:node:edge_08")).mpr
    ⟨⟨by decide +kernel, by decide +kernel⟩,
      .inr fun same => absurd same.length_eq (by decide +kernel)⟩

theorem slot_ids_misidentify :
    (∀ targetRef ∈ ["urn:srcos:node:é", "urn:srcos:node:edge", "urn:srcos:app:edge"],
      Admitted targetRef) ∧
    ¬ IdsIdentify exampleAlnum (exampleMachineFor "urn:srcos:node:é")
      (exampleMachineFor "urn:srcos:node:é") ∧
    ¬ IdsIdentify exampleAlnum (exampleMachineFor "urn:srcos:node:edge")
      (exampleMachineFor "urn:srcos:app:edge") := by
  refine ⟨?_, fun identify => ?_, fun identify => ?_⟩
  · simp only [List.forall_mem_cons, List.not_mem_nil, false_implies, implies_true, and_true]
    refine ⟨?_, ?_, ?_⟩ <;> constructor <;> decide +kernel
  · have valid := (List.forall_mem_append.mp identify.valid).1
    have plain := (ids_valid_iff exampleAlnum exampleAlnum_ascii _).mp valid
    exact absurd (plain 'é' (by decide +kernel) (by decide)) (by decide)
  · have one := (ids_distinct_iff exampleAlnum _ _).mp identify.distinct
    have sameSegment : lastSegment (exampleMachineFor "urn:srcos:app:edge").config.targetRef =
        lastSegment (exampleMachineFor "urn:srcos:node:edge").config.targetRef := by
      decide +kernel
    rw [sameSegment] at one
    exact absurd (one (List.forall₂_same.mpr fun _ _ => .inl rfl)) (by decide +kernel)

end SourceosBoot.AbUpdate
