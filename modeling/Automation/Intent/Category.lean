import Automation.Json.Decode
import Automation.Text.Case

/-!
# What a request is about

The category and the complexity of a request or of a template.
-/

namespace Automation

open Json

inductive Category where
  | email
  | content
  | data
  | scheduling
  | tasks
  | other
deriving DecidableEq, Repr

/-- How many actions a request or template chains. -/
inductive Complexity where
  | simple
  | medium
  | complex
deriving DecidableEq, Repr

namespace Category

def all : List Category := [email, content, data, scheduling, tasks, other]

def text : Category → String
  | email => "email"
  | content => "content"
  | data => "data"
  | scheduling => "scheduling"
  | tasks => "tasks"
  | other => "other"

/-- Reads a category in any case and with blanks around it; any other text means `other`. -/
def ofText (s : String) : Category :=
  let name := Text.asciiLower (Text.trim s)
  (all.find? (·.text == name)).getD other

def decode : Decoder Category := Decoder.word (all.map fun c => (c.text, c))

end Category

namespace Complexity

def all : List Complexity := [simple, medium, complex]

def text : Complexity → String
  | simple => "simple"
  | medium => "medium"
  | complex => "complex"

def rank : Complexity → Nat
  | simple => 0
  | medium => 1
  | complex => 2

/-- Reads a complexity in any case and with blanks around it. -/
def ofText? (s : String) : Option Complexity :=
  let name := Text.asciiLower (Text.trim s)
  all.find? (·.text == name)

def decode : Decoder Complexity := Decoder.word (all.map fun c => (c.text, c))

end Complexity

end Automation
