import Automation.Json.Printer
import Automation.Workflow.Braces

/-!
# References to step outputs

A step's parameter may refer to the output of another step, or to a field of it, as a whole value
`step:<id>.output.<field>` or in double braces inside a longer text. References are replaced while
the workflow runs, when the output is known.
-/

namespace Automation

/-- A reference to the output of a step. -/
structure Reference where
  stepId : String
  /-- The field of the output that is meant, if not all of it. -/
  field : Option String := none
deriving DecidableEq, Repr

namespace Reference

def isNameChar (c : Char) : Bool := Text.isAsciiAlphanumeric c || c == '_' || c == '-'

/-- A step id or field name: one or more such characters. -/
def isName (cs : List Char) : Bool := !cs.isEmpty && cs.all isNameChar

def lead : List Char := "step:".toList

def outputMark : List Char := ".output".toList

/-- Reads a reference that fills the characters, blanks around it apart. -/
def ofChars? (cs : List Char) : Option Reference := do
  let rest ← Text.dropLead? lead (Text.trimChars cs)
  let (id, tail) ← Text.cutAt outputMark rest
  if !isName id then none
  match tail with
  | [] => some ⟨String.ofList id, none⟩
  | '.' :: field =>
    if isName field then some ⟨String.ofList id, some (String.ofList field)⟩ else none
  | _ => none

def ofText? (s : String) : Option Reference := ofChars? s.toList

def render (r : Reference) : String :=
  let base := "step:" ++ r.stepId ++ ".output"
  match r.field with
  | none => base
  | some f => base ++ "." ++ f

def toJson (r : Reference) : Json.Value :=
  .record [("step_id", .string r.stepId), ("field", .text? r.field), ("text", .string r.render)]

def ofPiece? : Piece → Option Reference
  | .plain _ => none
  | .braced inner => ofChars? inner

/-- A reference inside a text, with the places of its first byte and behind its last. -/
structure Embedded where
  start : Nat
  stop : Nat
  reference : Reference
deriving DecidableEq, Repr

/-- The references in braces inside a text, in order. -/
def embedded (cs : List Char) : List Embedded :=
  (Piece.place 0 (Piece.ofChars cs)).filterMap fun p =>
    (ofPiece? p.piece).map fun r => ⟨p.start, p.stop, r⟩

/-- The references in a text: the one that it is as a whole, or those embedded in it. -/
def inText (s : String) : List Reference :=
  match ofText? s with
  | some r => [r]
  | none => (Piece.ofChars s.toList).filterMap ofPiece?

mutual

def inValue : Json.Value → List Reference
  | .string s => inText s
  | .array items => inItems items
  | .object members => inMembers members
  | _ => []

def inItems : List Json.Value → List Reference
  | [] => []
  | v :: rest => inValue v ++ inItems rest

def inMembers : List (String × Json.Value) → List Reference
  | [] => []
  | (_, v) :: rest => inValue v ++ inMembers rest

end

end Reference

abbrev Outputs := Json.Members

namespace Outputs

open Json

inductive Error where
  | noOutput (reference : Reference)
  | noField (reference : Reference) (field : String)
deriving DecidableEq, Repr

def Error.message : Error → String
  | .noOutput r =>
    let text := r.render
    let step := r.stepId
    s!"`{text}` is not available: step `{step}` has no output"
  | .noField r field =>
    let text := r.render
    s!"`{text}` is not available: output has no field `{field}`"

/-- Adds the output of a step that has none yet; whether it was added. -/
def add (outputs : Outputs) (stepId : String) (output : Value) : Bool × Outputs :=
  if Entries.has outputs stepId then (false, outputs)
  else (true, Entries.insert outputs stepId output)

def lookup (outputs : Outputs) (r : Reference) : Except Error Value :=
  match Entries.get? outputs r.stepId with
  | none => .error (.noOutput r)
  | some output =>
    match r.field with
    | none => .ok output
    | some field =>
      match output.member? field with
      | some v => .ok v
      | none => .error (.noField r field)

/-- How a value reads inside a text: a string as it is, any other value as JSON. -/
def inserted : Value → String
  | .string s => s
  | v => v.render

/-- The characters of a part, a reference replaced. -/
def resolvePiece (outputs : Outputs) (p : Piece) : Except Error (List Char) :=
  match Reference.ofPiece? p with
  | none => .ok p.chars
  | some r => (outputs.lookup r).map fun v => (inserted v).toList

/-- A text with its references replaced. A reference that fills the text gives the value itself. -/
def resolveText (outputs : Outputs) (s : String) : Except Error Value :=
  match Reference.ofText? s with
  | some r => outputs.lookup r
  | none => do
    let parts ← (Piece.ofChars s.toList).mapM (resolvePiece outputs)
    return .string (String.ofList parts.flatten)

mutual

/-- A value with all references replaced. -/
def resolve (outputs : Outputs) : Value → Except Error Value
  | .string s => resolveText outputs s
  | .array items => (resolveItems outputs items).map .array
  | .object members => (resolveMembers outputs members).map .object
  | v => .ok v

def resolveItems (outputs : Outputs) : List Value → Except Error (List Value)
  | [] => .ok []
  | v :: rest => do
    let w ← resolve outputs v
    return w :: (← resolveItems outputs rest)

def resolveMembers (outputs : Outputs) :
    List (String × Value) → Except Error (List (String × Value))
  | [] => .ok []
  | (k, v) :: rest => do
    let w ← resolve outputs v
    return (k, w) :: (← resolveMembers outputs rest)

end

end Outputs

end Automation
