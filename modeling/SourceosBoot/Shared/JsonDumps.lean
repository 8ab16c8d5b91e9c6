import SourceosBoot.Shared.Json
import SourceosBoot.Shared.Text

set_option autoImplicit false

-- `json.dumps(value, sort_keys=True, separators=(",", ":"))`, which is all ASCII.

namespace Json

def hexEscape (unit : Nat) : List Char :=
  '\\' :: 'u' :: [unit / 0x1000 % 16, unit / 0x100 % 16, unit / 16 % 16, unit % 16].map
    Nat.digitChar

def dumpChar (char : Char) : List Char :=
  if char = '"' then ['\\', '"']
  else if char = '\\' then ['\\', '\\']
  else if char = '\n' then ['\\', 'n']
  else if char = '\r' then ['\\', 'r']
  else if char = '\t' then ['\\', 't']
  else if char.toNat = 0x8 then ['\\', 'b']
  else if char.toNat = 0xc then ['\\', 'f']
  else if 0x20 ≤ char.toNat ∧ char.toNat ≤ 0x7e then [char]
  else if char.toNat < 0x10000 then hexEscape char.toNat
  -- Beyond the basic plane a character is two surrogates.
  else hexEscape (0xd800 + (char.toNat - 0x10000) / 0x400) ++
    hexEscape (0xdc00 + (char.toNat - 0x10000) % 0x400)

def dumpString (text : String) : String :=
  String.ofList (['"'] ++ text.toList.flatMap dumpChar ++ ['"'])

mutual

def dumps : Json → String
  | null => "null"
  | bool value => if value then "true" else "false"
  | int value => toString value
  | float _ shown => shown
  | str text => dumpString text
  | arr items => "[" ++ ",".intercalate (dumpItems items) ++ "]"
  | obj members =>
    let shown := (Python.sorted (·.1) (dumpMembers members)).map fun member =>
      dumpString member.1 ++ ":" ++ member.2
    "\x7b" ++ ",".intercalate shown ++ "\x7d"

def dumpItems : List Json → List String
  | [] => []
  | item :: rest => dumps item :: dumpItems rest

def dumpMembers : List (String × Json) → List (String × String)
  | [] => []
  | (key, value) :: rest => (key, dumps value) :: dumpMembers rest

end

example : dumps (.obj [("b", .arr [.bool true, .null, .int (-3)]), ("a", .str "é\n")]) =
    "\x7b\"a\":\"\\u00e9\\n\",\"b\":[true,null,-3]\x7d" := by decide +kernel

end Json
