import Automation.Text.Basic

/-!
# Code fences

Models like to wrap JSON in a fenced code block. The payload is what is inside of the fence, or the
whole answer if there is none.
-/

namespace Automation.Model

private def fence : List Char := List.replicate 3 (Char.ofNat 0x60)

/-- The characters without `lead` in front, or all of them. -/
private def withoutLead (lead cs : List Char) : List Char := (Text.dropLead? lead cs).getD cs

private def withoutTail (tail cs : List Char) : List Char := (Text.dropTail? tail cs).getD cs

/-- The answer without a fence around it, with or without the word `json` behind the opening one. -/
def stripFences (answer : String) : String :=
  let cs := Text.trimChars answer.toList
  let cs := withoutLead fence (withoutLead (fence ++ "json".toList) cs)
  String.ofList (Text.trimChars (withoutTail fence cs))

end Automation.Model
