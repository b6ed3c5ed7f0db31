import Automation.Text.Basic
import Automation.Text.Case

/-!
# Hosts

The host of a URL: a domain name, an address of four bytes, or an address of eight groups in
brackets. Names are in lower case, and labels with other than ASCII characters are written in their
ASCII form.
-/

namespace Automation.Http

inductive UrlError where
  | emptyHost
  | invalidName
  | invalidPort
  | invalidAddress
  | invalidGroups
  | invalidCharacter
  | relative
deriving DecidableEq, Repr

def UrlError.message : UrlError → String
  | emptyHost => "empty host"
  | invalidName => "invalid international domain name"
  | invalidPort => "invalid port number"
  | invalidAddress => "invalid IPv4 address"
  | invalidGroups => "invalid IPv6 address"
  | invalidCharacter => "invalid domain character"
  | relative => "relative URL without a base"

namespace Host

/-! ## ASCII forms of names -/

/-- The digit of the ASCII form for a number below 36. -/
def punyDigit (n : Nat) : Char := if n < 26 then Char.ofNat (97 + n) else Char.ofNat (22 + n)

/-- How the bias changes with a number of digits written. -/
def adapt (delta points : Nat) (isFirst : Bool) : Nat :=
  let rec shrink : (fuel : Nat) → Nat → Nat → Nat
    | 0, d, k => k + 36 * d / (d + 38)
    | fuel + 1, d, k => if d > 455 then shrink fuel (d / 35) (k + 36) else k + 36 * d / (d + 38)
  let delta := if isFirst then delta / 700 else delta / 2
  shrink 64 (delta + delta / points) 0

/-- The digits of a number, each with a base of its own. -/
def punyNumber (bias : Nat) : (fuel : Nat) → (k q : Nat) → List Char
  | 0, _, _ => []
  | fuel + 1, k, q =>
    let t := if k ≤ bias then 1 else if k ≥ bias + 26 then 26 else k - bias
    if q < t then [punyDigit q]
    else punyDigit (t + (q - t) % (36 - t)) :: punyNumber bias fuel (k + 36) ((q - t) / (36 - t))

/-- The state of the encoder: the code point reached, the distance since the last digits, the bias,
the number of characters written and the digits in reverse. -/
structure Puny where
  delta : Nat
  bias : Nat
  written : Nat
  made : List Char

/-- One pass over the label for the code point `m`. -/
def punyPass (m basic : Nat) (s : Puny) (c : Char) : Puny :=
  if c.toNat < m then { s with delta := s.delta + 1 }
  else if c.toNat = m then
    { delta := 0
      bias := adapt s.delta (s.written + 1) (s.written = basic)
      written := s.written + 1
      made := (punyNumber s.bias 64 36 s.delta).reverse ++ s.made }
  else s

/-- Writes the code points of a label from `n` on, in increasing order. -/
def punyLoop (label : List Char) (basic : Nat) : (points : List Nat) → (n : Nat) → Puny → Puny
  | [], _, s => s
  | m :: rest, n, s =>
    let s := { s with delta := s.delta + (m - n) * (s.written + 1) }
    let s := label.foldl (punyPass m basic) s
    punyLoop label basic rest (m + 1) { s with delta := s.delta + 1 }

def asciiLabel (label : List Char) : List Char :=
  if label.all (·.toNat < 128) then label
  else
    let plain := label.filter (·.toNat < 128)
    let points := ((label.map Char.toNat).filter (128 ≤ ·)).mergeSort.eraseDups
    let s := punyLoop label plain.length points 128 ⟨0, 72, plain.length, []⟩
    "xn--".toList ++ plain ++ (if plain.isEmpty then [] else ['-']) ++ s.made.reverse

def isForbidden (c : Char) : Bool :=
  c.toNat ≤ 0x20 || c.toNat = 0x7F || "%#/:<>?@[\\]^`\x7b|\x7d".toList.contains c

def asciiName (cs : List Char) : Except UrlError (List Char) :=
  let lower := (Text.lower (String.ofList cs)).toList
  let labels := (Text.splitWhere (fun c => c == '.' || c == '。') lower).map asciiLabel
  let name := ['.'].intercalate labels
  if name.any isForbidden then .error .invalidName else .ok name

/-! ## Addresses of four bytes -/

/-- A part of an address: decimal, octal behind a zero, or hexadecimal. -/
def addressPart? (cs : List Char) : Option Nat :=
  let digits (base : Nat) (cs : List Char) : Option Nat :=
    cs.foldlM (fun n c =>
      let d := if c.isDigit then c.toNat - 48
        else if 'a' ≤ c && c ≤ 'f' then c.toNat - 87
        else if 'A' ≤ c && c ≤ 'F' then c.toNat - 55
        else 99
      if d < base then some (n * base + d) else none) 0
  match cs with
  | [] => none
  | '0' :: 'x' :: rest => digits 16 rest
  | '0' :: 'X' :: rest => digits 16 rest
  | '0' :: d :: rest => digits 8 (d :: rest)
  | cs => digits 10 cs

private def dotted (cs : List Char) : List (List Char) :=
  let parts := Text.splitWhere (· == '.') cs
  if parts.length > 1 && parts.getLast? == some [] then parts.dropLast else parts

/-- Whether the last part of a name is a number, so that the name must be an address. -/
def endsInNumber (cs : List Char) : Bool :=
  match (dotted cs).getLast? with
  | none => false
  | some last =>
    (!last.isEmpty && last.all Char.isDigit) ||
      ((last.take 2 == ['0', 'x'] || last.take 2 == ['0', 'X']) && (addressPart? last).isSome)

def address (cs : List Char) : Except UrlError (List Char) :=
  let parts := dotted cs
  match parts.mapM addressPart? with
  | none => .error .invalidAddress
  | some ns =>
    let init := ns.dropLast
    let last := ns.getLast?.getD 0
    if ns.length > 4 || init.any (· > 255) || last ≥ Nat.pow 256 (5 - ns.length) then
      .error .invalidAddress
    else
      let high := (init.zip [3, 2, 1]).foldl (fun n (b, i) => n + b * Nat.pow 256 i) 0
      let n := high + last
      let bytes := [n / 0x1000000, n / 0x10000 % 256, n / 256 % 256, n % 256]
      .ok (String.intercalate "." (bytes.map toString)).toList

/-! ## Addresses of eight groups -/

private def hexGroup? (cs : List Char) : Option Nat :=
  if cs.isEmpty || cs.length > 4 then none else addressPart? ('0' :: 'x' :: cs)

/-- The groups of a text without a gap; the last part may be an address of four bytes. -/
def groups? (cs : List Char) : Option (List Nat) :=
  if cs.isEmpty then some []
  else
    let parts := Text.splitWhere (· == ':') cs
    let last := parts.getLast?.getD []
    if last.contains '.' then do
      let init ← parts.dropLast.mapM hexGroup?
      let bytes ← (Text.splitWhere (· == '.') last).mapM fun b =>
        if b.isEmpty || !b.all Char.isDigit || b.length > 3 || (b.length > 1 && b.head? == some '0')
        then none else (addressPart? b).filter (· < 256)
      match bytes with
      | [a, b, c, d] => some (init ++ [a * 256 + b, c * 256 + d])
      | _ => none
    else parts.mapM hexGroup?

/-- The eight groups of an address, in which a gap stands for zeros. -/
def eightGroups? (cs : List Char) : Option (List Nat) :=
  match Text.cutAt [':', ':'] cs with
  | none => (groups? cs).filter (·.length = 8)
  | some (before, behind) => do
    let a ← groups? before
    let b ← groups? behind
    if a.length + b.length < 8 then
      some (a ++ List.replicate (8 - a.length - b.length) 0 ++ b)
    else none

private def hexText (n : Nat) : String := String.ofList (Nat.toDigits 16 n)

/-- Where the first of the longest runs of zeros begins, and its length. -/
def zeroRun (gs : List Nat) : Nat × Nat :=
  (List.range gs.length).foldl (fun (at_, len) i =>
    let n := ((gs.drop i).takeWhile (· = 0)).length
    if n > len then (i, n) else (at_, len)) (0, 0)

def groups (cs : List Char) : Except UrlError (List Char) :=
  match eightGroups? cs with
  | none => .error .invalidGroups
  | some gs =>
    let (start, len) := zeroRun gs
    let joined (gs : List Nat) : String := String.intercalate ":" (gs.map hexText)
    let text := if len < 2 then joined gs
      else joined (gs.take start) ++ "::" ++ joined (gs.drop (start + len))
    .ok ("[" ++ text ++ "]").toList

/-! ## Hosts -/

private def hexByte? (a b : Char) : Option UInt8 := do
  let n ← addressPart? ['0', 'x', a, b]
  return n.toUInt8

def percentDecode : List Char → List UInt8
  | '%' :: a :: b :: rest =>
    match hexByte? a b with
    | some byte => byte :: percentDecode rest
    | none => '%'.toNat.toUInt8 :: percentDecode (a :: b :: rest)
  | c :: rest => (String.singleton c).toUTF8.toList ++ percentDecode rest
  | [] => []

def parse (cs : List Char) : Except UrlError (List Char) :=
  if cs.head? == some '[' then
    if cs.getLast? == some ']' then groups (cs.drop 1).dropLast else .error .invalidGroups
  else do
    let bytes := ByteArray.mk (percentDecode cs).toArray
    let some text := String.fromUTF8? bytes | .error .invalidName
    let name ← asciiName text.toList
    if name.isEmpty then .error .emptyHost
    if endsInNumber name then address name else return name

end Host

end Automation.Http
