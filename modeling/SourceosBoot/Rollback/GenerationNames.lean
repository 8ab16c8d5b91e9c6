import Mathlib.Data.List.Pairwise
import SourceosBoot.Rollback.AsahiBootChain
import SourceosBoot.Shared.Numerals

set_option autoImplicit false

-- `int` reads other numerals than the ordinary decimal ones, and none of more than 4300 digits.

namespace SourceosBoot.Rollback

open Python

def generationName (number : Nat) : String := s!"system-{number}-link"

theorem toList_generationName (number : Nat) :
    (generationName number).toList =
      "system-".toList ++ (toString number).toList ++ "-link".toList := by
  simp only [generationName, String.toList_append]
  rfl

theorem slice_generationName (number : Nat) :
    slice (generationName number) (systemProfile.length + 1) "-link".length = toString number := by
  have front : ("system-".toList ++ (toString number).toList).length =
      (generationName number).length - "-link".length := by
    rw [← String.length_toList, toList_generationName, show "-link".length = 5 from rfl]
    simp
  rw [slice, toList_generationName, List.take_left' front, List.drop_left' (by decide),
    String.ofList_toList]

theorem generationNumber_ordinary (number : Nat) :
    generationNumber (generationName number) =
      if (Nat.toDigits 10 number).length ≤ maxStrDigits then some (number : Int) else none := by
  have starts : startswith (generationName number) (systemProfile ++ "-") = true := by
    rw [startswith, toList_generationName, List.append_assoc, List.isPrefixOf_iff_prefix]
    exact List.prefix_append _ _
  have stops : endswith (generationName number) "-link" = true := by
    rw [endswith, toList_generationName, List.isSuffixOf_iff_suffix]
    exact List.suffix_append _ _
  rw [generationNumber, if_pos ⟨starts, stops⟩, slice_generationName, int_repr]

theorem short_of_read {number : Nat} {entry : String}
    (read : generationNumber entry = some (number : Int)) :
    (Nat.toDigits 10 number).length ≤ maxStrDigits := by
  rw [generationNumber] at read
  split_ifs at read
  rw [Nat.length_toDigits_le_iff (by decide) (by decide)]
  simpa using int_lt read

namespace AsahiBootChain

variable (self : AsahiBootChain) (fs : FileSystem)

def Resolves (entry : String) : Prop :=
  ∃ path, fs.realpath (joinPath self.systemProfileDir entry) = .ok path

structure DetectsOrdinary (entries : List String) : Prop where
  detected : ∃ generations, self.detectGenerations fs = .ok generations ∧
    (∀ generation, generation ∈ generations ↔ ∃ number : Nat, generationName number ∈ entries ∧
      generation.number = number ∧
      fs.realpath (joinPath self.systemProfileDir (generationName number)) =
        .ok generation.storePath ∧
      generation.isCurrent = decide (self.currentPath fs = some generation.storePath)) ∧
    generations.Pairwise fun left right => left.number < right.number
  unordered : ∀ others, others.Perm entries →
    self.detectGenerations { fs with listdir := fun _ => .ok others } = self.detectGenerations fs

def OrdinaryOnly (entries : List String) : Prop :=
  ∀ entry ∈ entries, self.Resolves fs entry →
    (generationNumber entry ≠ none → ∃ number, entry = generationName number) ∧
    ∀ number, entry = generationName number → (Nat.toDigits 10 number).length ≤ maxStrDigits

variable {self fs} {entries : List String}

theorem detectGenerations_eq (directory : fs.isdir self.systemProfileDir = true)
    (listed : fs.listdir self.systemProfileDir = .ok entries) :
    self.detectGenerations fs =
      .ok (sorted (·.number) ((sorted id entries).filterMap (self.generationOf fs))) := by
  rw [detectGenerations, if_pos directory, listed]

theorem detectGenerations_unordered (directory : fs.isdir self.systemProfileDir = true)
    (listed : fs.listdir self.systemProfileDir = .ok entries) (others : List String)
    (perm : others.Perm entries) :
    self.detectGenerations { fs with listdir := fun _ => .ok others } =
      self.detectGenerations fs := by
  have same : sorted id others = sorted id entries := sorted_of_perm (fun _ _ _ _ same => same) perm
  have first : self.detectGenerations { fs with listdir := fun _ => .ok others } =
      .ok (sorted (·.number) ((sorted id others).filterMap (self.generationOf fs))) :=
    detectGenerations_eq directory rfl
  rw [first, same, detectGenerations_eq directory listed]

def Apart (self : AsahiBootChain) (fs : FileSystem) (left right : String) : Prop :=
  ∀ generation, self.generationOf fs left = some generation →
    ∀ other, self.generationOf fs right = some other → generation.number ≠ other.number

theorem Apart.symm {left right : String} (apart : self.Apart fs left right) :
    self.Apart fs right left := fun generation first other second =>
  Ne.symm (apart other second generation first)

theorem increasing_iff (entries : List String) :
    (sorted (fun generation : NixOSGeneration => generation.number)
      ((sorted id entries).filterMap (self.generationOf fs))).Pairwise
        (fun left right => left.number < right.number) ↔
      entries.Pairwise (self.Apart fs) := by
  rw [sorted_increasing, List.pairwise_filterMap]
  exact (List.perm_insertionSort _ entries).pairwise_iff Apart.symm

theorem generationOf_ordinary {number : Nat} {generation : NixOSGeneration}
    (short : (Nat.toDigits 10 number).length ≤ maxStrDigits) :
    self.generationOf fs (generationName number) = some generation ↔
      generation.number = number ∧
      fs.realpath (joinPath self.systemProfileDir (generationName number)) =
        .ok generation.storePath ∧
      generation.isCurrent = decide (self.currentPath fs = some generation.storePath) := by
  rw [generationOf_some, generationNumber_ordinary, if_pos short, Option.some.injEq, eq_comm]

section Listing

variable (directory : fs.isdir self.systemProfileDir = true)
  (listed : fs.listdir self.systemProfileDir = .ok entries)
include directory listed

theorem mem_listed {generations : List NixOSGeneration}
    (detected : self.detectGenerations fs = .ok generations) (generation : NixOSGeneration) :
    generation ∈ generations ↔
      ∃ entry ∈ entries, self.generationOf fs entry = some generation := by
  rw [mem_detectGenerations detected]
  simp [directory, listed]

theorem OrdinaryOnly.detects (ordinary : self.OrdinaryOnly fs entries) (distinct : entries.Nodup) :
    self.DetectsOrdinary fs entries := by
  have detected := detectGenerations_eq directory listed
  have known {entry : String} {generation : NixOSGeneration} (among : entry ∈ entries)
      (found : self.generationOf fs entry = some generation) :
      ∃ number, entry = generationName number ∧
        (Nat.toDigits 10 number).length ≤ maxStrDigits := by
    obtain ⟨read, resolved, _⟩ := generationOf_some.mp found
    obtain ⟨named, short⟩ := ordinary entry among ⟨_, resolved⟩
    obtain ⟨number, name⟩ := named (by simp [read])
    exact ⟨number, name, short number name⟩
  refine ⟨⟨_, detected, fun generation => ?_, ?_⟩, detectGenerations_unordered directory listed⟩
  · rw [mem_listed directory listed detected]
    constructor
    · rintro ⟨entry, among, found⟩
      obtain ⟨number, rfl, short⟩ := known among found
      exact ⟨number, among, (generationOf_ordinary short).mp found⟩
    · rintro ⟨number, among, shape⟩
      have short := (ordinary _ among ⟨_, shape.2.1⟩).2 number rfl
      exact ⟨_, among, (generationOf_ordinary short).mpr shape⟩
  · rw [increasing_iff]
    refine distinct.imp_of_mem fun {left right} first second different => ?_
    intro generation found other also same
    obtain ⟨number, rfl, short⟩ := known first found
    obtain ⟨second, rfl, otherShort⟩ := known second also
    have left := ((generationOf_ordinary short).mp found).1
    have right := ((generationOf_ordinary otherShort).mp also).1
    exact different (congrArg generationName (by omega))

theorem DetectsOrdinary.ordinary (detects : self.DetectsOrdinary fs entries) :
    self.OrdinaryOnly fs entries := by
  obtain ⟨⟨generations, detected, exact, increasing⟩, _⟩ := detects
  have short {number : Nat} (among : generationName number ∈ entries)
      (resolves : self.Resolves fs (generationName number)) :
      (Nat.toDigits 10 number).length ≤ maxStrDigits := by
    obtain ⟨path, resolved⟩ := resolves
    have yielded := (exact ⟨number, path, self.currentPath fs = some path⟩).mpr
      ⟨number, among, rfl, resolved, rfl⟩
    obtain ⟨_, _, found⟩ := (mem_listed directory listed detected _).mp yielded
    exact short_of_read (generationOf_some.mp found).1
  rintro entry among ⟨path, resolved⟩
  constructor
  · intro read
    obtain ⟨number, read⟩ := Option.ne_none_iff_exists'.mp read
    have found : self.generationOf fs entry =
        some ⟨number, path, self.currentPath fs = some path⟩ :=
      generationOf_some.mpr ⟨read, resolved, rfl⟩
    obtain ⟨decimal, listed_too, shape⟩ :=
      (exact _).mp ((mem_listed directory listed detected _).mpr ⟨entry, among, found⟩)
    have also := (generationOf_ordinary (short listed_too ⟨_, shape.2.1⟩)).mpr shape
    -- Two names of one generation would give it twice, and the numbers would not increase.
    refine ⟨decimal, by_contra fun different => ?_⟩
    have apart : entries.Pairwise (self.Apart fs) := by
      rw [detectGenerations_eq directory listed, Except.ok.injEq] at detected
      rwa [← increasing_iff, detected]
    have : Std.Symm (self.Apart fs) := ⟨fun _ _ => Apart.symm⟩
    exact apart.forall among listed_too different _ found _ also rfl
  · rintro number rfl
    exact short among ⟨path, resolved⟩

end Listing

theorem detects_ordinary_iff (self : AsahiBootChain) (fs : FileSystem) (entries : List String)
    (directory : fs.isdir self.systemProfileDir = true)
    (listed : fs.listdir self.systemProfileDir = .ok entries) (distinct : entries.Nodup) :
    self.DetectsOrdinary fs entries ↔ self.OrdinaryOnly fs entries :=
  ⟨fun detects => detects.ordinary directory listed,
    fun ordinary => ordinary.detects directory listed distinct⟩

def listing (entries : List String) : FileSystem where
  isdir := fun _ => true
  islink := fun _ => false
  listdir := fun _ => .ok entries
  realpath := .ok

def mixedEntries : List String := ["per-user", "system-10-link", "system-9-link"]

theorem detects_ordinary_iff_mixed :
    ({} : AsahiBootChain).DetectsOrdinary (listing mixedEntries) mixedEntries ↔
      ({} : AsahiBootChain).OrdinaryOnly (listing mixedEntries) mixedEntries :=
  detects_ordinary_iff {} (listing mixedEntries) mixedEntries rfl rfl (by decide)

theorem padded_name_detected :
    ¬ ({} : AsahiBootChain).DetectsOrdinary (listing ["system-01-link"]) ["system-01-link"] := by
  intro detects
  have ordinary := detects.ordinary rfl rfl "system-01-link" (by simp) ⟨_, rfl⟩
  obtain ⟨number, padded⟩ := ordinary.1 (by decide)
  have read : generationNumber "system-01-link" = some 1 := by decide
  have same := congrArg generationNumber padded
  rw [read, generationNumber_ordinary, if_pos (ordinary.2 number padded)] at same
  have one : (number : Int) = 1 := (Option.some.inj same).symm
  obtain rfl : number = 1 := by omega
  exact absurd padded (by decide)

end AsahiBootChain

end SourceosBoot.Rollback
