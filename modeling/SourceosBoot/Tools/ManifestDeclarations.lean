import SourceosBoot.Shared.Json
import SourceosBoot.Shared.Substrings

set_option autoImplicit false

namespace SourceosBoot.Tools

open Python

def knownUnimplemented : List String := [
  "boot.rollback.planned",
  "boot.rollback.applied",
  "boot.rollback.denied",
  "boot.chain.validated",
  "boot.efi_vars_mutable",
  "boot.rollback.forced",
  "boot.generation.deletion"]

def checkedKeys : List String := ["auditEvents", "dangerousSurfaces"]

def selfPath : String := "tools/validate_manifest_declarations.py"

def excluded : List String := [".sourceos/manifest.json", selfPath]

/-- What the script finds: the manifest if it is there, what `git ls-files` prints, and the text
of a file, which is `none` where reading it is an `OSError`. -/
structure Repository where
  manifest : Option Json
  lsFiles : Except Raised String
  readText : String → Option String

def sourceBlob (repository : Repository) : Except Raised String := do
  let files := split (← repository.lsFiles)
  return "\n".intercalate ((files.filter (· ∉ excluded)).filterMap repository.readText)

-- `for item in value`.
def iterate : Json → Except Raised (List Json)
  | .arr items => .ok items
  | .str text => .ok (text.toList.map fun char => .str (String.singleton char))
  | .obj members => .ok (members.map fun member => .str member.1)
  | other => raise .typeError s!"'{other.pyType}' object is not iterable"

def declarations (manifest : Json) (key : String) : Except Raised (List Json) := do
  iterate (← manifest.getD key (.arr []))

def operand : Json → Except Raised String
  | .str text => .ok text
  | other => raise .typeError
    s!"'in <string>' requires string as left operand, not {other.pyType}"

structure Tally where
  found : List String := []
  debt : List String := []
  missing : List String := []

section Main

-- `KNOWN_UNIMPLEMENTED`, which changes from one version of the script to the next.
variable (known : List String)

def Tally.add (blob key : String) (tally : Tally) (item : String) : Tally :=
  let entry := s!"{key}:{item}"
  if occursIn item blob then { tally with found := tally.found ++ [entry] }
  else if item ∈ known then { tally with debt := tally.debt ++ [entry] }
  else { tally with missing := tally.missing ++ [entry] }

def tallyKey (blob : String) (manifest : Json) (tally : Tally) (key : String) :
    Except Raised Tally := do
  let items ← declarations manifest key
  items.foldlM (fun tally item => do return tally.add known blob key (← operand item)) tally

def tallied (blob : String) (manifest : Json) : Except Raised Tally :=
  checkedKeys.foldlM (tallyKey known blob manifest) {}

-- The set `declared`; by now every item is known to be a string.
def declared (manifest : Json) : Except Raised (List String) := do
  return (← checkedKeys.mapM fun key => do (← declarations manifest key).mapM operand).flatten

def undeclared (items : List String) : List String :=
  (sorted id (known.filter (· ∉ items))).map fun item =>
    s!"KNOWN_UNIMPLEMENTED lists {Python.repr item}, which the manifest no longer declares"

def outlived (blob : String) : List String :=
  (sorted id (known.filter (occursIn · blob))).map fun item =>
    s!"KNOWN_UNIMPLEMENTED lists {Python.repr item}, which IS now implemented — remove it, " ++
      "or it will keep excusing a future regression"

structure Printed where
  stdout : List String := []
  stderr : List String := []

def print (line : String) : Effect Printed Unit :=
  modify fun printed => { printed with stdout := printed.stdout ++ [line] }

def printError (line : String) : Effect Printed Unit :=
  modify fun printed => { printed with stderr := printed.stderr ++ [line] }

def advice : String :=
  "\nA manifest declaration must correspond to something in the source. " ++
    "Implement it, or - only if it is genuinely deferred - add it to " ++
    "KNOWN_UNIMPLEMENTED with a dated reason."

-- The end of `main`: what is printed behind the two lists.
def conclude (tally : Tally) (missing : List String) : Effect Printed Int := do
  if missing ≠ [] then
    printError (s!"\n{missing.length} declaration(s) with no implementation and no dated " ++
      "exemption:\n")
    missing.forM fun item => printError s!"  {item}"
    printError advice
    return 1
  if tally.debt ≠ [] then
    print (s!"\nOK ratchet holds — {tally.found.length} implemented, " ++
      s!"{tally.debt.length} known debt, 0 new")
  else
    print (s!"\nOK every manifest declaration corresponds to source " ++
      s!"({tally.found.length} checked)")
  return 0

-- `main`, of a version of the script that lists `known`.
def mainWith (repository : Repository) : Effect Printed Int :=
  match repository.manifest with
  | none => do
    print "no manifest at .sourceos/manifest.json; nothing to check"
    return 0
  | some manifest => do
    let blob ← ask fun _ => sourceBlob repository
    let tally ← ask fun _ => tallied known blob manifest
    (sorted id tally.found).forM fun item => print s!"  IMPLEMENTED  {item}"
    (sorted id tally.debt).forM fun item =>
      print s!"  DEBT         {item}  (declared, emitted by nothing)"
    let items ← ask fun _ => declared manifest
    conclude tally (tally.missing ++ undeclared known items ++ outlived known blob)

end Main

def main (repository : Repository) : Effect Printed Int := mainWith knownUnimplemented repository

end SourceosBoot.Tools
