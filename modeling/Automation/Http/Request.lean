import Automation.Driver.Basic
import Automation.Http.Url
import Automation.Json.Access
import Automation.Json.Printer

/-!
# Requests and replies

A request to a peer is answered with a reply, or not at all. The parameters of a driver call make a
request, and what comes back makes the outcome of the call.
-/

namespace Automation.Http

open Json

structure Request where
  method : String
  url : Url
  headers : List (String × String) := []
  /-- A text, or JSON. -/
  body : Option (String ⊕ Value) := none

structure Reply where
  status : Nat
  headers : Entries String := []
  body : List UInt8 := []
  elapsedMs : Nat := 0

inductive SendError where
  /-- This is no URL. -/
  | noUrl
  /-- Nothing can be sent to such a URL. -/
  | unsendable (url : Url)
  | unreachable (url : Url)

def SendError.message : SendError → String
  | noUrl => "builder error"
  | unsendable url => "builder error for url (" ++ url.render ++ ")"
  | unreachable url => "error sending request for url (" ++ url.render ++ ")"

/-- Whoever requests are sent to. -/
abbrev Peer := Request → Except SendError Reply

/-- Requests are sent to a host, under one of two schemes. -/
def Url.isSendable (u : Url) : Bool := u.hasHost && (u.scheme == "http" || u.scheme == "https")

def nobody : Peer := fun r =>
  if r.url.isSendable then .error (.unreachable r.url) else .error (.unsendable r.url)

inductive CallError where
  | unknownOperation (operation : String)
  | invalid (operation reason : String)
  | failed (operation reason : String)

def CallError.message : CallError → String
  | unknownOperation o => s!"operation not found: `{o}` on driver `http`"
  | invalid o reason => s!"invalid parameters for `{o}`: {reason}"
  | failed o reason => s!"execution failed for `{o}`: {reason}"

def methods : List String := ["GET", "POST", "PUT", "PATCH", "DELETE", "HEAD"]

def isHeaderName (s : String) : Bool :=
  !s.isEmpty && s.utf8ByteSize < 65536 && s.toList.all fun c =>
    Text.isAsciiAlphanumeric c || "!#$%&'*+-.^_`|~".toList.contains c

/-- Whether a text may be the value of a header: no control characters but the tab. -/
def isHeaderValue (s : String) : Bool :=
  s.toList.all fun c => c == '\t' || (0x20 ≤ c.toNat && c.toNat ≠ 0x7F)

def badHeaderValue : String := "failed to parse header value"

def readHeaders : Members → Except String (List (String × String))
  | [] => .ok []
  | (name, .string value) :: rest => do
    if !isHeaderName name then
      throw ("invalid header name `" ++ name ++ "`: invalid HTTP header name")
    if !isHeaderValue value then
      throw ("invalid header value for `" ++ name ++ "`: " ++ badHeaderValue)
    return (name, value) :: (← readHeaders rest)
  | _ :: rest => readHeaders rest

/-- The method of a call: the operation's own, or the one that the parameters name. -/
def methodOf (operation : String) (parameters : Value) : Except CallError String :=
  match operation with
  | "get" => .ok "GET"
  | "post" => .ok "POST"
  | "request" =>
    match parameters.textAt? "method" with
    | some m => .ok m
    | none => .error (.invalid operation "missing required string field `method`")
  | _ => .error (.unknownOperation operation)

def Request.ofCall (operation : String) (parameters : Members) : Except CallError Request := do
  let v : Value := .object parameters
  let invalid {α : Type} (reason : String) : Except CallError α :=
    .error (.invalid operation reason)
  let name ← methodOf operation v
  let some text := v.textAt? "url" | invalid "missing required string field `url`"
  let method := Text.upper name
  if !methods.contains method then
    invalid ("unsupported HTTP method `" ++ name ++ "`. Supported: " ++
      String.intercalate ", " methods)
  let url ← match Url.ofText text with
    | .ok url => pure url
    | .error e => invalid ("invalid URL `" ++ text ++ "`: " ++ e.message)
  let headers ← match readHeaders (v.membersAt "headers") with
    | .ok hs => pure hs
    | .error reason => invalid reason
  let body := match v.valueAt "body" with
    | .string s => some (.inl s)
    | .object ms => some (.inr (.object ms))
    | .array xs => some (.inr (.array xs))
    | _ => none
  return { method, url, headers, body }

def maxBodyBytes : Nat := 1024 * 1024

/-- The body as text; what lies beyond the limit is cut off. -/
def Reply.text (r : Reply) : String :=
  if r.body.length ≤ maxBodyBytes then Text.ofUtf8Lossy r.body
  else Text.ofUtf8Lossy (r.body.take maxBodyBytes) ++ "\n... [body truncated at 1 MB]"

/-- The output of a call, as its reply gives it. -/
def Reply.toJson (r : Reply) : Value :=
  .record [("status", .nat r.status), ("headers", .stringMap r.headers), ("body", .string r.text),
    ("elapsed_ms", .nat r.elapsedMs)]

/-- What the answer of a peer amounts to. -/
def conclude (operation url : String) : Except SendError Reply → Except CallError Value
  | .error e => .error (.failed operation ("HTTP request failed: " ++ e.message))
  | .ok r =>
    if 400 ≤ r.status then
      let status := r.status
      .error (.failed operation s!"`{url}` answered with status {status}")
    else .ok r.toJson

def call (peer : Peer) (operation : String) (parameters : Members) : Outcome :=
  let result := do
    let r ← Request.ofCall operation parameters
    conclude operation (Value.textAt (.object parameters) "url") (peer r)
  match result with
  | .ok output => .ok output
  | .error e => .failed e.message

end Automation.Http
