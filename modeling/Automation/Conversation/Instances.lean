import Automation.Conversation.State
import Automation.Decimal.Reader
import Automation.Time.Instant

/-!
# Instances

A conversation is held by an instance for its agent and session. Instances that have been idle for
too long are replaced when they are asked for and removed by sweeps, which take place at most once
per interval. An instance that handles a message is locked: no other message gets at it, and it is
neither replaced nor removed for being idle.
-/

namespace Automation

open Json

structure InstanceSettings where
  /-- Hours after which an idle instance may be removed. -/
  idleTtlHours : Float := 2.0
  /-- Seconds between two sweeps at least. -/
  sweepIntervalSecs : Nat := 300
  /-- How many turns a conversation keeps. -/
  historyLimit : Nat := 50
  /-- How many recent turns are shown to the classifier. -/
  contextWindow : Nat := 6

namespace InstanceSettings

def decode : Decoder InstanceSettings :=
  Decoder.record ["idle_ttl_hours", "sweep_interval_secs", "history_limit", "context_window"]
    fun r => do
    let d : InstanceSettings := {}
    return {
      idleTtlHours := ← r.orElse "idle_ttl_hours" Decoder.float d.idleTtlHours
      sweepIntervalSecs := ← r.orElse "sweep_interval_secs" (Decoder.natBits 64) d.sweepIntervalSecs
      historyLimit := ← r.orElse "history_limit" (Decoder.natBits 64) d.historyLimit
      contextWindow := ← r.orElse "context_window" (Decoder.natBits 64) d.contextWindow }

def toJson (s : InstanceSettings) : Value :=
  .record [("idle_ttl_hours", .float s.idleTtlHours),
    ("sweep_interval_secs", .nat s.sweepIntervalSecs),
    ("history_limit", .nat s.historyLimit), ("context_window", .nat s.contextWindow)]

/-- The time after which an idle instance may be removed, in nanoseconds: the hours in seconds,
rounded. There is none of `2^64` seconds or more. -/
def idleTtlNanos? (s : InstanceSettings) : Option Nat :=
  let hours := if s.idleTtlHours > 0.0 then s.idleTtlHours else 0.0
  (Decimal.units? 9 (hours * 3600.0)).filter (· < UInt64.size * Time.nanosPerSecond)

end InstanceSettings

/-- Whom an instance belongs to. -/
structure InstanceKey where
  agentId : String
  sessionId : String
deriving DecidableEq, Repr

namespace InstanceKey

def text (k : InstanceKey) : String := k.agentId ++ "/" ++ k.sessionId

/-- What a message is told while another one is handled. -/
def busyMessage (k : InstanceKey) : String :=
  s!"instance {k.agentId}/{k.sessionId} is busy; retry later"

/-- What is said of a key without an instance. -/
def absentMessage (k : InstanceKey) : String := s!"no instance for {k.agentId}/{k.sessionId}"

/-- Agents in order, and the sessions of each in order. -/
def le (a b : InstanceKey) : Bool :=
  a.agentId < b.agentId || (a.agentId == b.agentId && !(b.sessionId < a.sessionId))

end InstanceKey

/-- A live instance. -/
structure Instance where
  /-- The number under which it was created; no other instance has it. -/
  serial : Nat
  key : InstanceKey
  createdAt : Time.Instant
  /-- Milliseconds since 1970. -/
  lastAccessed : Int
  /-- Whether a message is being handled. -/
  busy : Bool := false
  conversation : Conversation

namespace Instance

def maxMillis : Int := Nat.pow 2 63 - 1

/-- Records an access; the time of the last one never goes back. -/
def touch (i : Instance) (now : Time.Instant) : Instance :=
  { i with lastAccessed := max i.lastAccessed now.toMillis }

/-- Whether it has been idle for more than so many milliseconds. -/
def isExpired (i : Instance) (ttlMs : Nat) (now : Time.Instant) : Bool :=
  min (ttlMs : Int) maxMillis < now.toMillis - i.lastAccessed

def lastAccess (i : Instance) : Time.Instant :=
  (Time.Instant.ofMillis? i.lastAccessed).getD i.createdAt

/-- The status as listings show it. Of a busy instance nothing is known but that it is busy. -/
def status (i : Instance) (now : Time.Instant) : Value :=
  let idle := (now.toNanos - i.lastAccess.toNanos).tdiv Time.nanosPerSecond
  let c := i.conversation
  .record [("agent_id", .string i.key.agentId), ("session_id", .string i.key.sessionId),
    ("created_at", .string i.createdAt.render), ("last_accessed", .string i.lastAccess.render),
    ("idle_secs", .int (max idle 0)),
    ("history_len", .nat (if i.busy then 0 else c.history.turns.length)),
    ("has_pending_workflow", .bool (!i.busy && c.pending.isSome)),
    ("awaiting_selection", .bool (!i.busy && c.selection.isSome)),
    ("busy", .bool i.busy)]

end Instance

/-- The live instances, at most one for a key. -/
structure Instances where
  /-- Milliseconds after which an idle instance may be removed. -/
  ttlMs : Nat
  sweepIntervalMs : Nat
  historyLimit : Nat
  /-- When the last sweep took place, in milliseconds since 1970. -/
  lastSweep : Int
  live : List Instance := []
  /-- The number of the next instance. -/
  next : Nat := 0

namespace Instances

/-- No instances, with the given settings; none if the idle time cannot be represented. -/
def ofSettings? (s : InstanceSettings) (now : Time.Instant) : Option Instances := do
  let ttl ← s.idleTtlNanos?
  return {
    ttlMs := ttl / 1000000
    sweepIntervalMs := s.sweepIntervalSecs * 1000
    historyLimit := s.historyLimit
    lastSweep := now.toMillis }

def get? (t : Instances) (key : InstanceKey) : Option Instance := t.live.find? (·.key = key)

def update (t : Instances) (serial : Nat) (f : Instance → Instance) : Instances :=
  { t with live := t.live.map fun i => if i.serial = serial then f i else i }

/-- Whether an instance may be removed for being idle. -/
def evicts (t : Instances) (now : Time.Instant) (i : Instance) : Bool :=
  i.isExpired t.ttlMs now && !i.busy

def sweep (t : Instances) (now : Time.Instant) : Instances :=
  { t with live := t.live.filter fun i => !t.evicts now i }

/-- Sweeps if the interval since the last sweep has passed. -/
def maybeSweep (t : Instances) (now : Time.Instant) : Instances :=
  if now.toMillis - t.lastSweep < min (t.sweepIntervalMs : Int) Instance.maxMillis then t
  else ({ t with lastSweep := now.toMillis }).sweep now

/-- The table with a new instance for a key, in place of the one before. -/
def create (t : Instances) (key : InstanceKey) (initData : Value) (now : Time.Instant) :
    Instance × Instances :=
  let i : Instance := {
    serial := t.next
    key
    createdAt := now
    lastAccessed := now.toMillis
    conversation := { history := History.empty t.historyLimit, initData } }
  (i, { t with live := t.live.filter (·.key ≠ key) ++ [i], next := t.next + 1 })

/-- The instance of a key, touched; it is created if there is none or if it may be removed. -/
def getOrCreate (t : Instances) (key : InstanceKey) (initData : Value) (now : Time.Instant) :
    Instance × Instances :=
  let t := t.maybeSweep now
  let (i, t) := match t.get? key with
    | some i => if t.evicts now i then t.create key initData now else (i, t)
    | none => t.create key initData now
  (i.touch now, t.update i.serial (·.touch now))

def remove (t : Instances) (key : InstanceKey) : Instances :=
  { t with live := t.live.filter (·.key ≠ key) }

def clear (t : Instances) : Instances := { t with live := [] }

def lock? (t : Instances) (i : Instance) : Option Instances :=
  if i.busy then none else some (t.update i.serial fun i => { i with busy := true })

/-- Starts to handle a message: the instance of the key, locked; none if it is locked already. -/
def beginTurn (t : Instances) (key : InstanceKey) (now : Time.Instant) :
    Option Instance × Instances :=
  let (i, t) := t.getOrCreate key .null now
  match t.lock? i with
  | some t => (some i, t)
  | none => (none, t)

def store (t : Instances) (serial : Nat) (c : Conversation) : Instances :=
  t.update serial fun i => { i with conversation := c }

/-- Ends the handling of a message: the conversation is kept and the instance unlocked and
touched. -/
def finish (t : Instances) (serial : Nat) (c : Conversation) (now : Time.Instant) : Instances :=
  t.update serial fun i => { i with conversation := c, busy := false }.touch now

/-- The statuses of all instances in the order of their keys. -/
def statuses (t : Instances) (now : Time.Instant) : List Value :=
  (t.live.mergeSort fun a b => a.key.le b.key).map (·.status now)

end Instances

end Automation
