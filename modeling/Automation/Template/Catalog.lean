import Automation.Template.Standard
import Automation.Toml.Reader

/-!
# Template catalogs

A catalog is an ordered list of templates with different ids. It is read from TOML text, and a
second catalog may be merged on top: a template with a known id takes the place of the earlier one,
all others follow behind.
-/

namespace Automation

open Json

namespace Template

/-- Keywords trimmed and in lower case, without blank ones and repetitions. -/
def normalizeKeywords (keywords : List String) : List String :=
  keywords.foldl (fun seen raw =>
    let k := Text.lower (Text.trim raw)
    if k.isEmpty || seen.contains k then seen else seen ++ [k]) []

def decode : Decoder Template :=
  Decoder.record ["id", "name", "description", "category", "keywords", "complexity",
      "required_user_input", "steps", "usage_count", "success_rate"] fun r => do
    return {
      id := ← r.required "id" Decoder.string
      name := ← r.required "name" Decoder.string
      description := ← r.orElse "description" Decoder.string ""
      category := ← r.required "category" Category.decode
      keywords := ← r.orElse "keywords" (Decoder.list Decoder.string) []
      complexity := ← r.orElse "complexity" Complexity.decode .simple
      requiredUserInput := ← r.orElse "required_user_input" Decoder.bool false
      steps := ← r.required "steps" (Decoder.list StepSkeleton.decode)
      usageCount := ← r.orElse "usage_count" (Decoder.natBits 64) 0
      successRate := ← r.orElse "success_rate"
        (Decoder.filterMap Decoder.float fun x => some x.toBits) 0 }

def toJson (t : Template) : Value :=
  .record [("id", .string t.id), ("name", .string t.name), ("description", .string t.description),
    ("category", .string t.category.text), ("keywords", .strings t.keywords),
    ("complexity", .string t.complexity.text),
    ("required_user_input", .bool t.requiredUserInput),
    ("steps", .array (t.steps.map StepSkeleton.toJson)), ("usage_count", .nat t.usageCount),
    ("success_rate", .number (.float t.successRate))]

end Template

/-- Templates in the order in which they are offered. -/
structure Catalog where
  templates : List Template := []

namespace Catalog

inductive Error where
  /-- Not TOML, or not of the form of a catalog. -/
  | malformed
  | duplicateId (id : String)
  | noSteps (id : String)
  /-- The file could not be read. -/
  | unreadable
deriving DecidableEq, Repr

/-- The cause in words, where it is one of the catalog's own. -/
def Error.reason? : Error → Option String
  | .malformed => none
  | .unreadable => none
  | .duplicateId id => some s!"duplicate template id `{id}`"
  | .noSteps id => some s!"template `{id}` has no steps"

def standard : Catalog := ⟨Template.Standard.all⟩

def get? (c : Catalog) (id : String) : Option Template := c.templates.find? (·.id == id)

/-- The template with the id, or else the first of that name, in any case of ASCII letters. -/
def find? (c : Catalog) (idOrName : String) : Option Template :=
  let name := Text.trim idOrName
  c.get? name <|> c.templates.find? fun t => Text.sameAsciiLetters t.name name

/-- The catalog with one template more, which must have steps and an id of its own. -/
def add (c : Catalog) (t : Template) : Except Error Catalog :=
  if (c.get? t.id).isSome then .error (.duplicateId t.id)
  else if t.steps.isEmpty then .error (.noSteps t.id)
  else .ok ⟨c.templates ++ [{ t with keywords := Template.normalizeKeywords t.keywords }]⟩

private def decodeFile : Decoder (List Template) :=
  Decoder.record ["templates"] fun r => r.orElse "templates" (Decoder.list Template.decode) []

/-- The templates of a catalog file as they are written. -/
def written? (text : String) : Option (List Template) :=
  (Toml.read? text).bind fun s => decodeFile (2 * maxDepth) s

def ofToml (text : String) : Except Error Catalog :=
  match written? text with
  | none => .error .malformed
  | some templates => templates.foldlM add {}

/-- Templates with one more: it takes the place of one with its id, or stands behind the others. -/
def put (t : Template) : List Template → List Template
  | [] => [t]
  | s :: rest => if s.id = t.id then t :: rest else s :: put t rest

/-- The catalog with another one on top. -/
def merge (c other : Catalog) : Catalog :=
  ⟨other.templates.foldl (fun ts t => put t ts) c.templates⟩

def size (c : Catalog) : Nat := c.templates.length

end Catalog

end Automation
