import Automation.Json.Basic
import Automation.Workflow.Braces

/-!
# Placeholders

A value of a step skeleton may hold names in double braces, with or without a default behind a bar.
Binding replaces each by the parameter of that name, or by its default; one that has neither stays.
Braced parts that are no placeholders stay as they are.
-/

namespace Automation

/-- A name to be filled in, and what stands in if nothing is given. -/
structure Placeholder where
  key : String
  default : Option (List Char) := none
deriving DecidableEq, Repr

abbrev Params := Entries String

namespace Placeholder

/-- A placeholder name: a letter or underscore, then letters, digits and underscores. -/
def isKey : List Char → Bool
  | [] => false
  | c :: cs => (c.isAlpha || c == '_') && cs.all fun d => Text.isAsciiAlphanumeric d || d == '_'

/-- Reads what stands between braces. -/
def ofChars? (inner : List Char) : Option Placeholder :=
  let (key, default) := match Text.cutWhere (· == '|') inner with
    | some (k, d) => (Text.trimChars k, some d)
    | none => (Text.trimChars inner, none)
  if isKey key then some ⟨String.ofList key, default⟩ else none

def ofPiece? : Piece → Option Placeholder
  | .plain _ => none
  | .braced inner => ofChars? inner

/-- A placeholder inside a text, with the places of its first byte and behind its last. -/
structure Embedded where
  start : Nat
  stop : Nat
  placeholder : Placeholder

def embedded (cs : List Char) : List Embedded :=
  (Piece.place 0 (Piece.ofChars cs)).filterMap fun p =>
    (ofPiece? p.piece).map fun q => ⟨p.start, p.stop, q⟩

def keysInText (s : String) : List String :=
  (Piece.ofChars s.toList).filterMap fun p => (ofPiece? p).map (·.key)

def value? (params : Params) (p : Placeholder) : Option (List Char) :=
  ((Entries.get? params p.key).map String.toList) <|> p.default

/-- A part of a text with its placeholder replaced, and whether it had to stay. -/
def bindPiece (params : Params) (p : Piece) : List Char × Bool :=
  match ofPiece? p with
  | none => (p.chars, false)
  | some q =>
    match q.value? params with
    | some v => (v, false)
    | none => (p.chars, true)

/-- A text with its placeholders replaced, and whether one had to stay. -/
def bindText (params : Params) (s : String) : String × Bool :=
  let parts := (Piece.ofChars s.toList).map (bindPiece params)
  (String.ofList (parts.flatMap (·.1)), parts.any (·.2))

mutual

/-- A value with the placeholders in all its strings replaced, and whether one had to stay. -/
def bind (params : Params) : Json.Value → Json.Value × Bool
  | .string s =>
    let (t, unbound) := bindText params s
    (.string t, unbound)
  | .array items =>
    let (bound, unbound) := bindItems params items
    (.array bound, unbound)
  | .object members =>
    let (bound, unbound) := bindMembers params members
    (.object bound, unbound)
  | v => (v, false)

def bindItems (params : Params) : List Json.Value → List Json.Value × Bool
  | [] => ([], false)
  | v :: rest =>
    let (w, u) := bind params v
    let (ws, us) := bindItems params rest
    (w :: ws, u || us)

def bindMembers (params : Params) : List (String × Json.Value) → List (String × Json.Value) × Bool
  | [] => ([], false)
  | (k, v) :: rest =>
    let (w, u) := bind params v
    let (ws, us) := bindMembers params rest
    ((k, w) :: ws, u || us)

end

mutual

def keysIn : Json.Value → List String
  | .string s => keysInText s
  | .array items => keysInItems items
  | .object members => keysInMembers members
  | _ => []

def keysInItems : List Json.Value → List String
  | [] => []
  | v :: rest => keysIn v ++ keysInItems rest

def keysInMembers : List (String × Json.Value) → List String
  | [] => []
  | (_, v) :: rest => keysIn v ++ keysInMembers rest

end

end Placeholder

end Automation
