import Mathlib.Data.Rat.Lemmas
import Mathlib.Tactic.Common
import SourceosBoot.Shared.JsonSchema
import SourceosBoot.AbUpdate.MachineState

set_option autoImplicit false

namespace SourceosBoot.AbUpdate

open Python

namespace UpdateSlotSchema

def localIdPattern : Regex :=
  -- `[A-Za-z0-9._~-]+`
  .atLeastOnce (.oneOf [('A', 'Z'), ('a', 'z'), ('0', '9'), ('.', '.'), ('_', '_'), ('~', '~'),
    ('-', '-')])

def digestPattern : Pattern where
  -- `^sha256:[a-f0-9]{64}$`
  body := .seq (.literal "sha256:") (.times (.oneOf [('a', 'f'), ('0', '9')]) 64)
  toEnd := true

def member (key : String) (value : Json) : Schema where
  properties := [(key, { const := some value })]
  required := [key]

def writingHoldsCandidate : Schema where
  ifThen := some (member "state" (.str "writing"), member "role" (.str "candidate"))

def activeIsBootable : Schema where
  ifThen := some (member "role" (.str "active"), {
    properties := [("successful", { const := some (.bool true) }),
      ("bootPriority", { minimum := some 1 })]
    required := ["successful", "bootPriority"] })

def unbootableIsZeroed : Schema where
  ifThen := some (member "state" (.str "unbootable"), {
    properties := [("bootPriority", { const := some (.int 0) }),
      ("successful", { const := some (.bool false) })]
    required := ["bootPriority", "successful"] })

def goodIsSuccessful : Schema where
  ifThen := some (member "state" (.str "good"), member "successful" (.bool true))

def successfulHasDigest : Schema where
  ifThen := some (member "successful" (.bool true), { required := ["payloadDigest"] })

end UpdateSlotSchema

open UpdateSlotSchema in
/-- `schemas/ab-update/UpdateSlot.json`, less its descriptions and formats. -/
def updateSlotSchema : Schema where
  type := some ["object"]
  additionalProperties := .forbidden
  required := ["id", "type", "specVersion", "targetRef", "slot", "role", "state", "bootPriority",
    "triesRemaining", "successful", "currentlyRunning"]
  allOf := [writingHoldsCandidate, activeIsBootable, unbootableIsZeroed, goodIsSuccessful,
    successfulHasDigest]
  properties := [
    ("id", {
      type := some ["string"]
      pattern := some ⟨.seq (.literal "urn:srcos:update-slot:") localIdPattern, true⟩ }),
    ("type", { const := some (.str "UpdateSlot") }),
    ("specVersion", { const := some (.str "0.1.0") }),
    ("targetRef", { type := some ["string"], pattern := some ⟨.literal "urn:srcos:", false⟩ }),
    ("slot", { type := some ["string"], enum := some [.str "A", .str "B"] }),
    ("role", { type := some ["string"], enum := some [.str "active", .str "candidate"] }),
    ("state", {
      type := some ["string"]
      enum := some [.str "empty", .str "writing", .str "written", .str "trying", .str "good",
        .str "unbootable"] }),
    ("bootPriority", { type := some ["integer"], minimum := some 0, maximum := some 15 }),
    ("triesRemaining", { type := some ["integer"], minimum := some 0, maximum := some 7 }),
    ("successful", { type := some ["boolean"] }),
    ("currentlyRunning", { type := some ["boolean"] }),
    ("payloadDigest", { type := some ["string"], pattern := some digestPattern }),
    ("payloadRef", { type := some ["string"], minLength := 1 }),
    ("version", { type := some ["string"], minLength := 1 }),
    ("installedAt", { type := some ["string", "null"] }),
    ("lastBootedAt", { type := some ["string", "null"] }),
    ("lastProbeVerdict", {
      type := some ["string", "null"]
      enum := some [.str "pass", .str "fail", .null] })]

def slotLabels : List SlotLabel := [.A, .B]

def roles : List Role := [.active, .candidate]

def slotStates : List Lifecycle := [.empty, .writing, .written, .trying, .good, .unbootable]

def oneOf {α : Type} (choices : List α) (name : α → String) (message : String → String)
    (value : Json) : Except Raised α :=
  -- `if value not in {...}: raise ValueError(message)`, for a set of names.
  if value.hashable then
    match choices.find? fun choice => Json.pyEq (.str (name choice)) value with
    | some choice => .ok choice
    | none => raise .valueError (message value.repr)
  else raise .typeError s!"unhashable type: '{value.pyType}'"

def asInt : Json → Option Int
  | .int value => some value
  | .float value _ => if value.den = 1 then some value.num else none
  | _ => none

def asBool : Json → Option Bool
  | .bool value => some value
  | _ => none

def asText : Json → Option String
  | .str text => some text
  | _ => none

def asOptionalText : Json → Option (Option String)
  | .null => some none
  | .str text => some (some text)
  | _ => none

/-- `slot_from_document`, with the checks of `SlotState`. The answer is `none` where a field the
class does not check is not of its annotated type. -/
def slotFromDocument (doc : Json) : Except Raised (Option SlotState) := do
  let slot ← doc.getItem "slot"
  let role ← doc.getItem "role"
  let state ← doc.getItem "state"
  let bootPriority ← doc.getItem "bootPriority"
  let triesRemaining ← doc.getItem "triesRemaining"
  let successful ← doc.getItem "successful"
  let currentlyRunning ← doc.getItem "currentlyRunning"
  let payloadDigest ← doc.getD "payloadDigest" .null
  let payloadRef ← doc.getD "payloadRef" .null
  let version ← doc.getD "version" .null
  let lastProbeVerdict ← doc.getD "lastProbeVerdict" .null
  let slot ← oneOf slotLabels SlotLabel.name
    (fun shown => s!"slot must be 'A' or 'B', got {shown}") slot
  let role ← oneOf roles Role.name
    (fun shown => s!"role must be 'active' or 'candidate', got {shown}") role
  let state ← oneOf slotStates Lifecycle.name (fun shown => s!"unknown slot state {shown}") state
  return do
    some {
      slot := slot
      role := role
      state := state
      bootPriority := ← asInt bootPriority
      triesRemaining := ← asInt triesRemaining
      successful := ← asBool successful
      currentlyRunning := ← asBool currentlyRunning
      payloadDigest := ← asOptionalText payloadDigest
      payloadRef := ← asOptionalText payloadRef
      version := ← asOptionalText version
      lastProbeVerdict := ← asOptionalText lastProbeVerdict }

def targetOf (doc : Json) : Except Raised Json := do
  let target ← doc.getItem "targetRef"
  raiseWhen (target.hashable = false) .typeError s!"unhashable type: '{target.pyType}'"
  return target

def dictionary (left right : SlotState) : List (String × SlotState) :=
  if right.slot = left.slot then [(left.slot.name, right)]
  else [(left.slot.name, left), (right.slot.name, right)]

-- `machine_from_slot_documents`; `none` as for `slot_from_document`.
def machineFromSlotDocuments (docs : List Json) (arguments : MachineArguments) :
    Except Raised (Option Machine) :=
  match docs with
  | [left, right] => do
    let target ← targetOf left
    let otherTarget ← targetOf right
    raiseWhen (Json.pyEq target otherTarget = false) .valueError
      "both slots must belong to the same targetRef"
    let leftSlot ← slotFromDocument left
    let rightSlot ← slotFromDocument right
    match asText target, leftSlot, rightSlot with
    | some targetRef, some leftSlot, some rightSlot => do
      let machine ← Machine.postInit { arguments with targetRef := targetRef }
        (dictionary leftSlot rightSlot)
      return some machine
    | _, _, _ => return none
  | _ => raise .valueError "expected exactly two UpdateSlot documents"

def localId (isalnum : Char → Bool) (urn : String) : String :=
  -- `_local`; `isalnum` is the method of `str`.
  let tail := (urn.toList.reverse.takeWhile (· ≠ ':')).reverse
  String.ofList (tail.map fun char =>
    if isalnum char ∨ char ∈ ['.', '_', '~', '-'] then char else '_')

-- `if text: doc[key] = text`.
def optionalMember (key : String) : Option String → List (String × Json)
  | none => []
  | some text => if text = "" then [] else [(key, .str text)]

def fixedMembers (isalnum : Char → Bool) (targetRef : String) (label : SlotLabel)
    (slot : SlotState) : List (String × Json) :=
  [("id", .str s!"urn:srcos:update-slot:{localId isalnum targetRef}_{label.lower}"),
    ("type", .str "UpdateSlot"),
    ("specVersion", .str specVersion),
    ("targetRef", .str targetRef),
    ("slot", .str slot.slot.name),
    ("role", .str slot.role.name),
    ("state", .str slot.state.name),
    ("bootPriority", .int slot.bootPriority),
    ("triesRemaining", .int slot.triesRemaining),
    ("successful", .bool slot.successful),
    ("currentlyRunning", .bool slot.currentlyRunning)]

def slotMembers (isalnum : Char → Bool) (targetRef : String) (label : SlotLabel)
    (slot : SlotState) : List (String × Json) :=
  fixedMembers isalnum targetRef label slot
    ++ optionalMember "payloadDigest" slot.payloadDigest
    ++ optionalMember "payloadRef" slot.payloadRef
    ++ optionalMember "version" slot.version
    ++ optionalMember "lastProbeVerdict" slot.lastProbeVerdict

theorem slotMembers_fixed (isalnum : Char → Bool) (targetRef : String) (label : SlotLabel)
    (slot : SlotState) {key : String} {item : Json}
    (found : Json.lookup key (fixedMembers isalnum targetRef label slot) = some item) :
    Json.lookup key (slotMembers isalnum targetRef label slot) = some item := by
  simp [slotMembers, Json.lookup_append, found]

def slotDocument (isalnum : Char → Bool) (targetRef : String) (label : SlotLabel)
    (slot : SlotState) : Json :=
  -- One round of the loop of `to_slot_documents`.
  .obj (slotMembers isalnum targetRef label slot)

def Machine.toSlotDocuments (isalnum : Char → Bool) (machine : Machine) : List Json :=
  slotLabels.map fun label =>
    slotDocument isalnum machine.config.targetRef label (machine.slots.get label)

end SourceosBoot.AbUpdate
