import Automation.Http.Address

/-!
# URLs

A URL is read leniently and written in one normal form: blanks around it are dropped, backslashes
count as slashes in the common schemes, dot segments are resolved, and characters that may not stand
in a part are percent-encoded. Names and passwords in front of the host are not kept.
-/

namespace Automation.Http

/-- A URL in its normal form. -/
structure Url where
  scheme : String
  /-- Name or address, in its normal form. -/
  host : Option String
  /-- The port, unless it is the usual one of the scheme. -/
  port : Option Nat := none
  path : String
  query : Option String := none
  fragment : Option String := none
deriving DecidableEq, Repr

namespace Url

def commonSchemes : List (String × Nat) :=
  [("http", 80), ("https", 443), ("ws", 80), ("wss", 443), ("ftp", 21)]

def isCommon (scheme : String) : Bool := (commonSchemes.lookup scheme).isSome

/-- Writes the characters with those of a class percent-encoded, and all beyond ASCII. -/
def encode (encoded : Char → Bool) (cs : List Char) : List Char :=
  cs.flatMap fun c =>
    if c.toNat < 0x20 || 0x7F ≤ c.toNat || encoded c then
      (String.singleton c).toUTF8.toList.flatMap fun b =>
        let digits := (Nat.toDigits 16 b.toNat).map Char.toUpper
        '%' :: (if digits.length < 2 then '0' :: digits else digits)
    else [c]

private def among (s : String) (c : Char) : Bool := s.toList.contains c

/-- What a part of a path means: this place, the place above, or a name. -/
inductive Segment where
  | here
  | above
  | name (cs : List Char)

private def Segment.of (cs : List Char) : Segment :=
  let rec plain : List Char → List Char
    | '%' :: '2' :: 'e' :: rest => '.' :: plain rest
    | '%' :: '2' :: 'E' :: rest => '.' :: plain rest
    | c :: rest => c :: plain rest
    | [] => []
  match plain cs with
  | ['.'] => .here
  | ['.', '.'] => .above
  | _ => .name (encode (among " \"#<>?`\x7b\x7d") cs)

/-- The segments of a path with dots resolved, those before in reverse. -/
def resolve : (before : List (List Char)) → List (List Char) → List (List Char)
  | before, [] => before.reverse
  | before, [last] =>
    match Segment.of last with
    | .here => ([] :: before).reverse
    | .above => ([] :: before.drop 1).reverse
    | .name cs => (cs :: before).reverse
  | before, s :: t :: rest =>
    match Segment.of s with
    | .here => resolve before (t :: rest)
    | .above => resolve (before.drop 1) (t :: rest)
    | .name cs => resolve (cs :: before) (t :: rest)

/-- A path from the root in its normal form. -/
def normalPath (isSlash : Char → Bool) (cs : List Char) : String :=
  let cs := match cs with
    | c :: rest => if isSlash c then rest else c :: rest
    | [] => []
  String.ofList ('/' :: ['/'].intercalate (resolve [] (Text.splitWhere isSlash cs)))

/-- Name or address and port of an authority. -/
def splitAuthority (cs : List Char) : List Char × List Char :=
  let cs := (Text.splitWhere (· == '@') cs).getLast?.getD []
  if cs.head? == some '[' then
    (cs.takeWhile (· != ']') ++ (cs.dropWhile (· != ']')).take 1, (cs.dropWhile (· != ']')).drop 1)
  else (cs.takeWhile (· != ':'), cs.dropWhile (· != ':'))

/-- The port behind a host; none if it is left out or the usual one. -/
def portOf (scheme : String) : List Char → Except UrlError (Option Nat)
  | [] => .ok none
  | ':' :: digits =>
    if !digits.all Char.isDigit then .error .invalidPort
    else
      let n := digits.foldl (fun n c => min (n * 10 + (c.toNat - 48)) 70000) 0
      if n > 65535 then .error .invalidPort
      else if digits.isEmpty || commonSchemes.lookup scheme = some n then .ok none
      else .ok (some n)
  | _ => .error .invalidPort

/-- Path, query and fragment, still as written. -/
def splitRest (cs : List Char) : List Char × Option (List Char) × Option (List Char) :=
  let front := cs.takeWhile (· != '#')
  let fragment := (cs.dropWhile (· != '#')).tail?
  (front.takeWhile (· != '?'), (front.dropWhile (· != '?')).tail?, fragment)

def normalQuery (scheme : String) (cs : List Char) : String :=
  let encoded := if isCommon scheme then " \"#<>'" else " \"#<>"
  String.ofList (encode (among encoded) cs)

def normalFragment (cs : List Char) : String := String.ofList (encode (among " \"<>`") cs)

private def isForbiddenHost (c : Char) : Bool :=
  c == Char.ofNat 0 || among "\t\n\r #/:<>?@[\\]^|" c

/-- The host of an uncommon scheme. -/
def plainHost (cs : List Char) : Except UrlError (List Char) :=
  if cs.head? == some '[' then Host.parse cs
  else if cs.any isForbiddenHost then .error .invalidCharacter
  else .ok (encode (fun _ => false) cs)

/-- The URL of what stands behind the scheme and the slashes. -/
def ofAuthority (scheme : String) (cs : List Char) : Except UrlError Url := do
  let common := isCommon scheme
  let isSlash (c : Char) : Bool := c == '/' || (common && c == '\\')
  let ends (c : Char) : Bool := isSlash c || c == '?' || c == '#'
  let authority := cs.takeWhile (!ends ·)
  let (name, port) := splitAuthority authority
  if name.isEmpty && (common || authority.any fun c => c == ':' || c == '@') then
    throw .emptyHost
  let host ← if common then Host.parse name else plainHost name
  let port ← portOf scheme port
  let (path, query, fragment) := splitRest (cs.dropWhile (!ends ·))
  return { scheme, host := some (String.ofList host), port
           path := if path.isEmpty && !common then "" else normalPath isSlash path
           query := query.map (normalQuery scheme)
           fragment := fragment.map normalFragment }

def ofFile (cs : List Char) : Except UrlError Url := do
  let isSlash (c : Char) : Bool := c == '/' || c == '\\'
  let (host, cs) := match cs with
    | a :: b :: rest =>
      if isSlash a && isSlash b then
        let ends (c : Char) : Bool := isSlash c || c == '?' || c == '#'
        (rest.takeWhile (!ends ·), rest.dropWhile (!ends ·))
      else ([], cs)
    | _ => ([], cs)
  let host ← if host.isEmpty then pure [] else Host.parse host
  let (path, query, fragment) := splitRest cs
  let host := String.ofList host
  return { scheme := "file", host := some (if host == "localhost" then "" else host)
           path := normalPath isSlash path
           query := query.map (normalQuery "file")
           fragment := fragment.map normalFragment }

/-- The URL of an uncommon scheme without a host. -/
def ofPath (scheme : String) (cs : List Char) : Url :=
  let (path, query, fragment) := splitRest cs
  { scheme, host := none
    path := if path.head? == some '/' then normalPath (· == '/') path
      else String.ofList (encode (fun _ => false) path)
    query := query.map (normalQuery scheme)
    fragment := fragment.map normalFragment }

private def isSchemeChar (c : Char) : Bool :=
  c.isAlpha || c.isDigit || c == '+' || c == '-' || c == '.'

def ofText (text : String) : Except UrlError Url :=
  let isEdge (c : Char) : Bool := c.toNat ≤ 0x20
  let cs := (Text.dropTrailing isEdge (text.toList.dropWhile isEdge)).filter fun c =>
    !(c == '\t' || c == '\n' || c == '\r')
  let scheme := (String.ofList (cs.takeWhile isSchemeChar)).toLower
  match cs, cs.dropWhile isSchemeChar with
  | first :: _, ':' :: rest =>
    if !first.isAlpha then .error .relative
    else if isCommon scheme then
      ofAuthority scheme (rest.dropWhile fun c => c == '/' || c == '\\')
    else if scheme == "file" then ofFile rest
    else match rest with
      | '/' :: '/' :: rest => ofAuthority scheme rest
      | rest => .ok (ofPath scheme rest)
  | _, _ => .error .relative

def hasHost (u : Url) : Bool := u.host.any (!·.isEmpty)

def render (u : Url) : String :=
  let authority := match u.host with
    | some h => "//" ++ h ++ (match u.port with
      | some p => ":" ++ toString p
      | none => "")
    | none => ""
  let query := match u.query with
    | some q => "?" ++ q
    | none => ""
  let fragment := match u.fragment with
    | some f => "#" ++ f
    | none => ""
  u.scheme ++ ":" ++ authority ++ u.path ++ query ++ fragment

end Url

end Automation.Http
