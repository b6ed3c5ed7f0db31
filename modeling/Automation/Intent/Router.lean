import Automation.Text.Case
import Automation.Text.Letter

/-!
# Keyword routing

Handlers own phrases. A text goes to the handler of which the most different phrases stand in it as
whole words; among equals, to the one that was added first. Phrases are sought from left to right,
the longest first, without overlap and in any case of ASCII letters.
-/

namespace Automation

/-- A phrase in lower case, with the place of its handler. -/
structure Keyword where
  phrase : String
  handler : Nat
deriving DecidableEq, Repr

/-- Handlers in the order in which they were added, and their phrases. -/
structure Router where
  handlers : List String := []
  keywords : List Keyword := []

namespace Router

/-- Where a text goes: to a handler, with the phrases of it that were found. -/
structure Route where
  handler : String
  matched : List String
deriving DecidableEq, Repr

/-- The place of a handler among handlers, which it joins if it is new. -/
def place (handlers : List String) (handler : String) : Nat × List String :=
  match handlers.findIdx? (· == handler) with
  | some i => (i, handlers)
  | none => (handlers.length, handlers ++ [handler])

/-- The router with further phrases for a handler; blank ones are left out. -/
def addKeywords (r : Router) (handler : String) (phrases : List String) : Router :=
  let (i, handlers) := place r.handlers handler
  let cleaned := (phrases.map fun p => Text.lower (Text.trim p)).filter (!·.isEmpty)
  { handlers, keywords := r.keywords ++ cleaned.map fun p => ⟨p, i⟩ }

/-- The characters behind a phrase, when they begin with it in any case of ASCII letters. -/
def dropPhrase? : (phrase : List Char) → List Char → Option (List Char)
  | [], cs => some cs
  | _ :: _, [] => none
  | p :: phrase, c :: cs => if p = c.toLower then dropPhrase? phrase cs else none

/-- The longest keyword that the characters begin with; the first of several with the same
phrase. -/
def longest? (keywords : List Keyword) (cs : List Char) : Option Keyword :=
  keywords.foldl (fun best k =>
    if (dropPhrase? k.phrase.toList cs).isSome && best.all (·.phrase.length < k.phrase.length) then
      some k
    else best) none

def isWordPart (c : Char) : Bool := Text.isAlphanumeric c || c == '_'

/-- The keywords that stand in the characters as whole words, in order. The character in front is
`before`, and the first `skip` characters belong to a keyword found before. -/
def occurrences (keywords : List Keyword) (before : Option Char) (skip : Nat) :
    List Char → List Keyword
  | [] => []
  | c :: cs =>
    match skip with
    | skip + 1 => occurrences keywords (some c) skip cs
    | 0 =>
      match longest? keywords (c :: cs) with
      | none => occurrences keywords (some c) 0 cs
      | some k =>
        let behind := ((c :: cs).drop k.phrase.length).head?
        let rest := occurrences keywords (some c) (k.phrase.length - 1) cs
        if before.any isWordPart || behind.any isWordPart then rest else k :: rest

def phrasesOf (found : List Keyword) (handler : Nat) : List String :=
  ((found.filter (·.handler = handler)).map (·.phrase)).foldl
    (fun seen p => if seen.contains p then seen else seen ++ [p]) []

/-- The route with the most phrases, the first among equals; none if no phrase was found. -/
def best? : List Route → Option Route
  | [] => none
  | r :: rest =>
    match best? rest with
    | some s => if r.matched.length < s.matched.length then some s else some r
    | none => some r

def route (r : Router) (text : String) : Option Route :=
  let found := occurrences r.keywords none 0 text.toList
  let routes := ((List.range r.handlers.length).zip r.handlers).map fun (i, handler) =>
    (⟨handler, phrasesOf found i⟩ : Route)
  best? (routes.filter (!·.matched.isEmpty))

end Router

end Automation
