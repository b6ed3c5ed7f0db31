import Automation.Json.Basic

/-!
# JSON text

The compact text of a value: no blanks, members in their stored order. In strings the quote, the
backslash and the control characters below U+0020 are escaped and nothing else.
-/

namespace Automation.Json

def hexDigit (n : Nat) : Char :=
  if n < 10 then Char.ofNat (48 + n) else Char.ofNat (87 + n)

def escapeChar (c : Char) : List Char :=
  match c.toNat with
  | 0x22 => ['\\', '"']
  | 0x5C => ['\\', '\\']
  | 0x08 => ['\\', 'b']
  | 0x09 => ['\\', 't']
  | 0x0A => ['\\', 'n']
  | 0x0C => ['\\', 'f']
  | 0x0D => ['\\', 'r']
  | n => if n < 0x20 then ['\\', 'u', '0', '0', hexDigit (n / 16), hexDigit (n % 16)] else [c]

/-- The text of a string with its quotes. -/
def quote (s : String) : String :=
  String.ofList ('"' :: s.toList.flatMap escapeChar ++ ['"'])

mutual

def Value.render : Value → String
  | .null => "null"
  | .bool b => if b then "true" else "false"
  | .number n => n.render
  | .string s => quote s
  | .array items => "[" ++ Value.renderItems items ++ "]"
  | .object members => "\x7b" ++ Value.renderMembers members ++ "\x7d"

def Value.renderItems : List Value → String
  | [] => ""
  | v :: [] => v.render
  | v :: w :: rest => v.render ++ "," ++ Value.renderItems (w :: rest)

def Value.renderMembers : List (String × Value) → String
  | [] => ""
  | (k, v) :: [] => quote k ++ ":" ++ v.render
  | (k, v) :: entry :: rest =>
    quote k ++ ":" ++ v.render ++ "," ++ Value.renderMembers (entry :: rest)

end

end Automation.Json
