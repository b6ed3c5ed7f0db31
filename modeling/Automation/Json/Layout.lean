import Automation.Json.Printer

/-!
# Indented JSON

The text of a value with one item or member on a line, indented by two spaces for every level.
-/

namespace Automation.Json

private def newLine (level : Nat) : String := "\n" ++ String.ofList (List.replicate (2 * level) ' ')

mutual

/-- The indented text of a value that stands at a level. -/
def Value.layout (level : Nat) : Value → String
  | .array [] => "[]"
  | .array (v :: rest) =>
    "[" ++ newLine (level + 1) ++ v.layout (level + 1) ++ Value.layoutItems (level + 1) rest ++
      newLine level ++ "]"
  | .object [] => "\x7b\x7d"
  | .object ((k, v) :: rest) =>
    "\x7b" ++ newLine (level + 1) ++ quote k ++ ": " ++ v.layout (level + 1) ++
      Value.layoutMembers (level + 1) rest ++ newLine level ++ "\x7d"
  | v => v.render

def Value.layoutItems (level : Nat) : List Value → String
  | [] => ""
  | v :: rest => "," ++ newLine level ++ v.layout level ++ Value.layoutItems level rest

def Value.layoutMembers (level : Nat) : List (String × Value) → String
  | [] => ""
  | (k, v) :: rest =>
    "," ++ newLine level ++ quote k ++ ": " ++ v.layout level ++ Value.layoutMembers level rest

end

end Automation.Json
