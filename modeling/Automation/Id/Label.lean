import Automation.Id

/-!
# Labels for identifiers

Generated identifiers differ from run to run. In a text they can be replaced by labels in the order
of their appearance, so that two texts that differ in nothing else become equal.
-/

namespace Automation.Id

private def isLowerHex (c : Char) : Bool := c.isDigit || ('a' ≤ c && c ≤ 'f')

private def matchesGroups : List Nat → List Char → Bool
  | [], _ => true
  | n :: rest, cs =>
    (cs.take n).length == n && (cs.take n).all isLowerHex &&
      match rest, cs.drop n with
      | [], _ => true
      | _, '-' :: more => matchesGroups rest more
      | _, _ => false

/-- Whether the characters begin with the text of an identifier in lower case. -/
def leads (cs : List Char) : Bool := cs[8]? == some '-' && matchesGroups [8, 4, 4, 4, 12] cs

/-- Whether the characters begin with an identifier of the generated kind. -/
def leadsGenerated (cs : List Char) : Bool :=
  cs[8]? == some '-' && cs[14]? == some '7' &&
    (match cs[19]? with
      | some c => c == '8' || c == '9' || c == 'a' || c == 'b'
      | none => false) && leads cs

/-- The identifiers in the characters, `skip` of which belong to one found already. -/
def inChars : (skip : Nat) → List Char → List String
  | _, [] => []
  | skip + 1, _ :: rest => inChars skip rest
  | 0, c :: rest =>
    if leads (c :: rest) then String.ofList ((c :: rest).take 36) :: inChars 35 rest
    else inChars 0 rest

/-- The identifiers in a text, whatever its case. -/
def inText (text : String) : List String := inChars 0 (text.toList.map Char.toLower)

/-- The characters with every generated identifier outside of `kept` replaced by its label; `labels`
holds those replaced before, latest first, and `skip` characters belong to the last one. -/
def relabel (kept : List String) : (skip : Nat) → (labels : List String) → List Char → List Char
  | _, _, [] => []
  | skip + 1, labels, _ :: rest => relabel kept skip labels rest
  | 0, labels, c :: rest =>
    let id := String.ofList ((c :: rest).take 36)
    if leadsGenerated (c :: rest) then
      if kept.contains id then (c :: rest).take 36 ++ relabel kept 35 labels rest
      else
        let labels := if labels.contains id then labels else id :: labels
        let n := labels.length - (labels.findIdx (· == id))
        ("uuid-" ++ toString n).toList ++ relabel kept 35 labels rest
    else c :: relabel kept 0 labels rest

end Automation.Id
