import Automation.Json.Decode

/-!
# Drivers

A driver carries out operations of some service. It declares its operations with the parameters
each requires and understands, and answers a call with an outcome.
-/

namespace Automation

structure Operation where
  name : String
  description : String := ""
  required : List String := []
  optional : List String := []
deriving DecidableEq, Repr

structure DriverInfo where
  name : String
  description : String := ""
  operations : List Operation := []
deriving DecidableEq, Repr

structure Outcome where
  success : Bool
  result : Option Json.Value := none
  output : Option Json.Value := none
  error : Option String := none
deriving Inhabited

namespace Operation

open Json

def decode : Decoder Operation :=
  Decoder.record ["name", "description", "required_params", "optional_params"] fun r => do
    return {
      name := ← r.required "name" Decoder.string
      description := ← r.orElse "description" Decoder.string ""
      required := ← r.orElse "required_params" (Decoder.list Decoder.string) []
      optional := ← r.orElse "optional_params" (Decoder.list Decoder.string) [] }

def toJson (o : Operation) : Value :=
  .record [("name", .string o.name), ("description", .string o.description),
    ("required_params", .strings o.required), ("optional_params", .strings o.optional)]

end Operation

namespace DriverInfo

/-- The first declared operation of that name. -/
def operation? (d : DriverInfo) (name : String) : Option Operation :=
  d.operations.find? (·.name == name)

def toJson (d : DriverInfo) : Json.Value :=
  .record [("name", .string d.name), ("description", .string d.description),
    ("operations", .array (d.operations.map Operation.toJson))]

end DriverInfo

namespace Outcome

open Json

/-- A success whose raw result is also its output. -/
def ok (output : Value) : Outcome :=
  { success := true, result := some output, output := some output }

def okWith (result output : Value) : Outcome :=
  { success := true, result := some result, output := some output }

def failed (error : String) : Outcome := { success := false, error := some error }

/-- What later steps see: the output, else the raw result, else null. -/
def effectiveOutput (o : Outcome) : Value := (o.output <|> o.result).getD .null

def decode : Decoder Outcome :=
  Decoder.record ["success", "result", "output", "error"] fun r => do
    return {
      success := ← r.required "success" Decoder.bool
      result := ← r.maybe "result" Decoder.value
      output := ← r.maybe "output" Decoder.value
      error := ← r.maybe "error" Decoder.string }

def toJson (o : Outcome) : Value :=
  .record [("success", .bool o.success), ("result", o.result.getD .null),
    ("output", o.output.getD .null), ("error", .text? o.error)]

end Outcome

end Automation
