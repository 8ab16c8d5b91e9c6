import SourceosBoot.AbUpdate.UpdateChains
import SourceosBoot.AbUpdate.TransactionDocuments

set_option autoImplicit false

namespace SourceosBoot.AbUpdate

open Python Transition

def promotedDigest (transaction : Machine × List Event) : Option String :=
  let after := device.run transaction.1 transaction.2
  if after.phase = .promoted then some after.candidateDigest else none

def promotions (past : List (Machine × List Event)) : List String :=
  past.filterMap promotedDigest

def labelAfter (start : SlotLabel) (promoted : List String) : SlotLabel :=
  if promoted.length % 2 = 0 then start else start.other

def ActiveIs (docs : List Json) (label : SlotLabel) (digest : String) : Prop :=
  ∃ doc, docs.filter (hasMember · "role" (.str "active")) = [doc] ∧
    doc.get? "slot" = some (.str label.name) ∧ doc.get? "payloadDigest" = some (.str digest)

theorem filterMap_concat {α β : Type} (choose : α → Option β) (items : List α) (item : α) :
    (items ++ [item]).filterMap choose = items.filterMap choose ++ (choose item).toList := by
  cases chosen : choose item <;> simp [chosen]

theorem promotions_append (past : List (Machine × List Event))
    (transaction : Machine × List Event) :
    promotions (past ++ [transaction]) = promotions past ++ (promotedDigest transaction).toList :=
  filterMap_concat promotedDigest past transaction

theorem labelAfter_concat (start : SlotLabel) (promoted : List String) (digest : String) :
    labelAfter start (promoted ++ [digest]) = (labelAfter start promoted).other := by
  unfold labelAfter
  rw [List.length_append, List.length_singleton]
  rcases Nat.mod_two_eq_zero_or_one promoted.length with even | odd
  · rw [if_pos even, if_neg (by omega)]
  · rw [if_pos (by omega), if_neg (by omega), SlotLabel.other_other]

def FallsBackTo (docs : List Json) (label : SlotLabel) (digest : String) : Prop :=
  ∀ arguments : MachineArguments, 1 ≤ arguments.maxAttempts → arguments.maxAttempts ≤ 7 →
    ∃ machine, machineFromSlotDocuments docs arguments = .ok (some machine) ∧
      Ready label machine (· = digest)

section Transaction

variable {label : SlotLabel} {machine : Machine} {digest : String}
  (ready : Ready label machine (· = digest)) (events : List Event)
  (wellFormed : ∀ event ∈ events, event.WellFormed)
include ready

theorem Ready.digest_after :
    ((device.run machine events).slots.get
        ((device.run machine events).goodSlot label)).payloadDigest =
      some ((promotedDigest (machine, events)).getD digest) := by
  have sound := run_sound ready.contracted.sound events
  by_cases promoted : (device.run machine events).phase = .promoted
  · have written := sound.stage.digest (by simp [promoted])
    simpa [Machine.goodSlot, promotedDigest, promoted] using written
  · obtain ⟨_, held, rfl⟩ := ready.digest
    have kept := (run_kept ready.contracted.sound.standing events).payloadDigest
    simp [Machine.goodSlot, promotedDigest, promoted, kept, held]

omit ready in
theorem goodSlot_after (start : SlotLabel) (past : List (Machine × List Event))
    (standing : label = labelAfter start (promotions past)) :
    (device.run machine events).goodSlot label =
      labelAfter start (promotions (past ++ [(machine, events)])) := by
  rw [promotions_append]
  by_cases promoted : (device.run machine events).phase = .promoted
  · simp [Machine.goodSlot, promotedDigest, promoted, labelAfter_concat, standing]
  · simp [Machine.goodSlot, promotedDigest, promoted, standing]

include wellFormed

theorem Ready.falls_back (isalnum : Char → Bool) :
    FallsBackTo ((device.run machine events).toSlotDocuments isalnum)
      ((device.run machine events).goodSlot label)
      ((promotedDigest (machine, events)).getD digest) := by
  intro arguments someAttempts triesWidth
  have sound := run_sound ready.contracted.sound events
  have contract := ready.contracted.run_contract ready.texts events wellFormed
  have conforming := run_conforming (ready.contracted.conforming ready.texts) events wellFormed
  refine ⟨(device.run machine events).restarted arguments,
    toSlotDocuments_restart sound contract arguments someAttempts triesWidth isalnum,
    restarted_contracted sound contract arguments someAttempts triesWidth, ?_, _, ?_, rfl⟩
  · intro other
    rw [restarted_get]
    exact (conforming.texts other).shown
  · rw [restarted_get]
    exact (shown_of_nonempty (contract _).digest).trans (ready.digest_after events)

theorem Ready.active_after (isalnum : Char → Bool) :
    ActiveIs ((device.run machine events).toSlotDocuments isalnum)
      ((device.run machine events).goodSlot label)
      ((promotedDigest (machine, events)).getD digest) := by
  have roles := (run_sound ready.contracted.sound events).standing.good_roles
  have contract := ready.contracted.run_contract ready.texts events wellFormed
  have held := ready.digest_after events
  generalize (device.run machine events).goodSlot label = good at roles held
  have shown : (promotedDigest (machine, events)).getD digest ≠ "" := by
    intro empty
    exact (contract good).digest (by rw [held, empty])
  refine ⟨(device.run machine events).documentOf isalnum good, ?_, ?_, ?_⟩
  · apply toSlotDocuments_filter <;> rw [Machine.documentOf, slotDocument_active]
    · simp [roles.active]
    · simp [roles.candidate]
  · rw [Machine.documentOf, slotDocument_slot, (device.run machine events).slots.labelled]
  · exact slotDocument_digest _ _ _ _ _ held shown

end Transaction

theorem ContractPair.falls_back {left right : Json} (pair : ContractPair left right)
    (apart : left.get? "slot" ≠ right.get? "slot") {label : SlotLabel} {digest : String}
    (active : ActiveIs [left, right] label digest) : FallsBackTo [left, right] label digest := by
  intro arguments someAttempts triesWidth
  have ⟨machine, built⟩ :=
    contract_pair_builds left right arguments pair apart someAttempts triesWidth
  have ⟨fallback, contracted⟩ := built.contracted
  obtain ⟨members, listed, describes, _⟩ := built.described fallback
  obtain ⟨doc, only, named, held⟩ := active
  have isActive := describes.active
  rw [decide_eq_true contracted.initial.roles.active] at isActive
  have kept : Json.obj members ∈ [left, right].filter (hasMember · "role" (.str "active")) :=
    List.mem_filter.mpr ⟨listed, isActive⟩
  have same : Json.obj members = doc := by simpa [only] using kept
  subst same
  have label_same : (machine.slots.get fallback).slot.name = label.name := by
    simpa [Json.get?, describes.label] using named
  rw [machine.slots.labelled] at label_same
  obtain rfl : fallback = label := by
    cases fallback <;> cases label <;> simp [SlotLabel.name] at label_same ⊢
  have digest_same := describes.payloadDigest
  simp only [Json.get?] at held
  rw [held] at digest_same
  exact ⟨machine, built.built, contracted, built.texts, digest, (Option.some.inj digest_same).symm,
    rfl⟩

theorem getLastD_append_toList (texts : List String) (last : Option String) (default : String) :
    (texts ++ last.toList).getLastD default = last.getD (texts.getLastD default) := by
  cases last <;> simp

theorem Chain.settles {isalnum : Char → Bool} {left right : Json}
    {past : List (Machine × List Event)} {docs : List Json}
    (chain : Chain isalnum [left, right] past docs) (pair : ContractPair left right)
    (apart : left.get? "slot" ≠ right.get? "slot") {start : SlotLabel} {digest : String}
    (active : ActiveIs [left, right] start digest) :
    ActiveIs docs (labelAfter start (promotions past)) ((promotions past).getLastD digest) ∧
      FallsBackTo docs (labelAfter start (promotions past))
        ((promotions past).getLastD digest) := by
  induction chain with
  | start => exact ⟨active, pair.falls_back apart active⟩
  | restart past docs _ arguments machine built events wellFormed ih =>
    have ⟨someAttempts, triesWidth⟩ :=
      machineFromSlotDocuments_budget docs arguments machine built
    obtain ⟨same, rebuilt, ready⟩ := ih.2 arguments someAttempts triesWidth
    obtain rfl : machine = same := by simpa [built] using rebuilt
    have same_slot : (device.run machine events).goodSlot _ = labelAfter start _ :=
      goodSlot_after events start past rfl
    rw [← same_slot, promotions_append, getLastD_append_toList]
    exact ⟨ready.active_after events wellFormed isalnum,
      ready.falls_back events wellFormed isalnum⟩

/--
After any chain of transactions the active slot is the first one when an even
number of them was promoted and the other one when an odd number was, and it holds
the payload that was promoted last.
-/
theorem active_after_chain (left right : Json) (pair : ContractPair left right)
    (apart : left.get? "slot" ≠ right.get? "slot") (start : SlotLabel) (digest : String)
    (active : ActiveIs [left, right] start digest) (isalnum : Char → Bool)
    (past : List (Machine × List Event)) (docs : List Json)
    (chain : Chain isalnum [left, right] past docs) :
    ActiveIs docs (labelAfter start (promotions past)) ((promotions past).getLastD digest) :=
  (chain.settles pair apart active).1

theorem active_after_chain_example :
    ActiveIs ((device.run exampleMachine promotingEvents).toSlotDocuments Char.isAlphanum)
      (labelAfter .A (promotions [(exampleMachine, promotingEvents)]))
      ((promotions [(exampleMachine, promotingEvents)]).getLastD
        "sha256:b73d34fdc15b73c8efeb4527811459b62addf6e4c4a69730f81244ff0beab97e") :=
  active_after_chain exampleActive exampleCandidate exampleMachine_built.pair
    (by simp [exampleActive, exampleCandidate, Json.get?, Json.lookup]) .A _
    ⟨exampleActive, rfl, rfl, rfl⟩ Char.isAlphanum _ _
    (.restart [] _ .start exampleArguments exampleMachine exampleMachine_built.built promotingEvents
      (by simp [promotingEvents, Event.WellFormed]; decide +kernel))

end SourceosBoot.AbUpdate
