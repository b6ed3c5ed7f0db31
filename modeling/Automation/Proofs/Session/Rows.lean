import Automation.Proofs.Session.Exclusion

/-!
# The rows of a conversation

A message that has been answered gives its instance back, and only then records its text and its
answer, one after the other. If no message gets the instance of a key before the messages ahead of
it have recorded both turns, the rows of the key are grouped by the messages that they come from.
-/

namespace Automation.Session

open Interleaving (share)
open Process (Follows)

variable {s : Service} {key : InstanceKey} {text : String}

/-! ## What one message records -/

/-- The turn of the key that a request records. -/
def turn? (key : InstanceKey) : ServiceRequest → Option Model.Message
  | .logTurn key' turn => if key' = key then some turn else none
  | _ => none

/-- A request to begin a turn or to record one is about the key. -/
def IsOf (key : InstanceKey) : ServiceRequest → Prop
  | .beginTurn key' | .logTurn key' _ => key' = key
  | _ => True

/-- What a message has come to, and the turns that it has recorded. -/
structure Progress where
  phase : Phase
  noted : List Model.Message

namespace Progress

def after (key : InstanceKey) (x : Progress) (e : Service.Deed) : Progress :=
  ⟨x.phase.after e, x.noted ++ (turn? key e.request).toList⟩

/-- What is recorded are turns of the message in their order, and it has been answered before. -/
structure Tidy (text : String) (x : Progress) : Prop where
  turns : x.noted <+: x.phase.turns text
  answered : x.noted ≠ [] → ∃ serial answer, x.phase = .answered serial answer

def rule (key : InstanceKey) (text : String) :
    Process.Rule ServiceRequest ServiceRequest.Answer Progress :=
  ⟨after key, fun x r => x.Tidy text ∧ IsOf key r⟩

/-- Everything is recorded. -/
def Complete (text : String) (x : Progress) : Prop := x.Tidy text ∧ x.noted = x.phase.turns text

private theorem tidy_nil (x : Phase) : Tidy text ⟨x, []⟩ := ⟨List.nil_prefix, fun h => absurd rfl h⟩

private theorem foldl_after (log : List Service.Deed) (x : Progress) :
    log.foldl (after key) x =
      ⟨log.foldl Phase.after x.phase, x.noted ++ log.filterMap fun e => turn? key e.request⟩ := by
  induction log generalizing x with
  | nil => simp
  | cons e log ih =>
    rw [List.foldl_cons, ih, List.foldl_cons, List.filterMap_cons]
    cases h : turn? key e.request <;> simp [after, h]

private theorem after_of_not_conversation {r : ServiceRequest} {a : r.Answer}
    (h : r.isOfConversation = false) (x : Progress) : after key x ⟨r, a⟩ = x := by
  have hturn : turn? key r = none := by
    cases r with
    | logTurn => cases h
    | _ => rfl
  simp [after, hturn, Phase.after_of_not_table (ServiceRequest.not_table_of_not_conversation h)]

private theorem after_endTurn {serial serial' : Nat} {c c' : Conversation}
    {noted : List Model.Message}
    {message : String} {a : Unit} (h : Phase.lastText c'.history = message) :
    after key ⟨.asked serial c, noted⟩ ⟨.endTurn serial' c', a⟩ =
      ⟨.answered serial message, noted⟩ := by
  simp [after, turn?, Phase.after, h]

private theorem after_logTurn {serial : Nat} {answer : String} {noted : List Model.Message}
    {turn : Model.Message} {a : Unit} :
    after key ⟨.answered serial answer, noted⟩ ⟨.logTurn key turn, a⟩ =
      ⟨.answered serial answer, noted ++ [turn]⟩ := by
  simp [after, turn?, Phase.after]

end Progress

private theorem isOf_of_not_conversation {r : ServiceRequest} (h : r.isOfConversation = false) :
    IsOf key r := by
  cases r with
  | beginTurn | logTurn => cases h
  | _ => trivial

private theorem handle_records (s : Service) (key : InstanceKey) (serial : Nat) (c : Conversation)
    (text : String) :
    Follows (Progress.rule key text) (fun x _ => x.Complete text) ⟨.begun serial c, []⟩
      (s.handle key serial c text) := by
  let asked : Conversation := { c with history := c.history.pushUser text }
  refine .perform ⟨Progress.tidy_nil _, trivial⟩ fun kept => ?_
  have hdoes := Service.respond_does (s.accounts_upheld key) asked (Text.trim text)
    (c.history.recent s.settings.instances.contextWindow)
  have hrespond : Follows (Progress.rule key text) (fun x _ => x = ⟨.asked serial asked, []⟩)
      ⟨.asked serial asked, []⟩ (s.respond key asked (Text.trim text)
        (c.history.recent s.settings.instances.contextWindow)) := by
    exact hdoes.stay (fun _ r hr => ⟨Progress.tidy_nil _, isOf_of_not_conversation hr⟩)
      (fun _ r a hr => Progress.after_of_not_conversation hr _) fun _ _ _ => rfl
  refine hrespond.bind ?_
  rintro _ ⟨response, c'⟩ rfl
  have htold := lastText_pushAssistant c'.history response.message
  refine .perform ⟨Progress.tidy_nil _, trivial⟩ fun ended => ?_
  change Follows _ _ (Progress.after key _ _) _
  rw [Progress.after_endTurn htold]
  -- the turns are recorded after the instance has been given back
  refine .perform ⟨Progress.tidy_nil _, rfl⟩ fun first => ?_
  change Follows _ _ (Progress.after key _ _) _
  rw [Progress.after_logTurn]
  refine .perform ⟨⟨⟨_, rfl⟩, fun _ => ⟨_, _, rfl⟩⟩, rfl⟩ fun second => ?_
  change Follows _ _ (Progress.after key _ _) _
  rw [Progress.after_logTurn]
  exact .done ⟨⟨List.prefix_rfl, fun _ => ⟨_, _, rfl⟩⟩, rfl⟩

private theorem send_records (s : Service) (key : InstanceKey) (text : String) :
    Follows (Progress.rule key text) (fun x _ => x.Complete text) ⟨.waiting, []⟩
      (s.send key text) := by
  unfold Service.send
  split
  · exact .done ⟨Progress.tidy_nil _, rfl⟩
  · split
    · exact .done ⟨Progress.tidy_nil _, rfl⟩
    · refine .perform ⟨Progress.tidy_nil _, rfl⟩ ?_
      rintro (_ | ⟨serial, c⟩)
      · exact .done ⟨Progress.tidy_nil _, rfl⟩
      · exact handle_records s key serial c text

/-- What a message has come to and recorded, and that everything is recorded when it has ended. -/
theorem progress_of_course {p : Caller} (htask : p.task = .send key text)
    (h : Process.Course (p.task.process s) p.past p.rest) :
    let noted := (untimed p.past).filterMap fun e => turn? key e.request
    Progress.Tidy text ⟨phase p, noted⟩ ∧
      ∀ r, p.rest = .done r → noted = (phase p).turns text := by
  intro noted
  rw [htask] at h
  obtain ⟨q, hq, hc⟩ := course_timed h
  have hfollows := (send_records s key text).course hc
  change Follows _ _ (List.foldl (Progress.after key) _ _) q at hfollows
  rw [Progress.foldl_after, List.nil_append] at hfollows
  cases q with
  | done r =>
    cases hfollows with
    | done hcomplete => exact ⟨hcomplete.1, fun _ _ => hcomplete.2⟩
  | ask r next =>
    refine ⟨hfollows.allows.1, fun r' hr' => ?_⟩
    rw [hq] at hr'
    cases hr'

/-- A request to begin a turn or to record one comes from a message to that key. -/
def Call.Owns (call : Call) : Request → Prop
  | .service (.beginTurn key) | .service (.logTurn key _) => ∃ text, call = .send key text
  | _ => True

private theorem timed_asks {only : ServiceRequest → Prop} {p : Serving Response} (h : p.Asks only) :
    (timed p).Asks fun r => ∃ r', r = .service r' ∧ only r' := by
  induction p with
  | done r => exact .done _
  | ask r next ih =>
    cases h with
    | ask hr hnext => exact .ask ⟨r, rfl, hr⟩ fun a => ih a.2 (hnext a.2)

private theorem send_asks (s : Service) (key : InstanceKey) (text : String) :
    (s.send key text).Asks (IsOf key) :=
  (send_records s key text).stay (fun _ _ hr => hr.2) (fun _ _ _ _ => rfl) fun _ _ _ => trivial

theorem process_asks (s : Service) (call : Call) : (call.process s).Asks call.Owns := by
  cases call with
  | send key text =>
    refine (timed_asks (send_asks s key text)).mono ?_
    rintro _ ⟨r, rfl, hr⟩
    cases r with
    | beginTurn | logTurn => exact ⟨text, by rw [show _ = key from hr]⟩
    | _ => trivial
  | create key initData =>
    refine (timed_asks (createInstance_asks key initData)).mono ?_
    rintro _ ⟨r, rfl, rfl⟩
    trivial
  | list =>
    refine (timed_asks listInstances_asks).mono ?_
    rintro _ ⟨r, rfl, rfl⟩
    trivial
  | sweep => exact .ask trivial fun _ => .done _
  | maybeSweep => exact .ask trivial fun _ => .done _

/-! ## Rows -/

/-- Who got the instance of the key in an event. -/
def began? (key : InstanceKey) : Event → Option Nat
  | (n, ⟨.service (.beginTurn key'), (_, some _)⟩) => if key' = key then some n else none
  | _ => none

/-- The messages that got the instance of the key, in their order. -/
def began (key : InstanceKey) (log : List Event) : List Nat := log.filterMap (began? key)

/-- The row that an event adds to the record of the key, with the message that it comes from. -/
def row? (key : InstanceKey) : Event → Option (Nat × Model.Message)
  | (n, ⟨.service r, _⟩) => (turn? key r).map (n, ·)
  | _ => none

/-- The record of the key: its rows in the order in which they were recorded. -/
def rows (key : InstanceKey) (log : List Event) : List (Nat × Model.Message) :=
  log.filterMap (row? key)

/-- The turns on record that come from one message. -/
def rowsOf (key : InstanceKey) (n : Nat) (log : List Event) : List Model.Message :=
  ((rows key log).filter (·.1 = n)).map (·.2)

section Rows

variable {log more : List Event} {e : Event} {m n : Nat} {turn : Model.Message}

private theorem rows_append : rows key (log ++ more) = rows key log ++ rows key more :=
  List.filterMap_append

theorem began_append : began key (log ++ more) = began key log ++ began key more :=
  List.filterMap_append

private theorem rowsOf_append :
    rowsOf key n (log ++ more) = rowsOf key n log ++ rowsOf key n more := by
  simp [rowsOf, rows_append]

private theorem rows_singleton : rows key [e] = (row? key e).toList := by
  cases h : row? key e <;> simp [rows, h]

theorem began_singleton : began key [e] = (began? key e).toList := by
  cases h : began? key e <;> simp [began, h]

private theorem rowsOf_self (h : row? key e = some (n, turn)) : rowsOf key n [e] = [turn] := by
  simp [rowsOf, rows_singleton, h]

private theorem rowsOf_of_ne (h : row? key e = some (n, turn)) (hm : m ≠ n) :
    rowsOf key m [e] = [] := by
  simp [rowsOf, rows_singleton, h, Ne.symm hm]

private theorem rowsOf_of_none (h : row? key e = none) : rowsOf key n [e] = [] := by
  simp [rowsOf, rows_singleton, h]

theorem began?_eq_some (h : began? key e = some n) : ∃ now serial c,
    e = (n, ⟨.service (.beginTurn key), (now, some (serial, c))⟩) := by
  unfold began? at h
  split at h
  · next key' now held =>
    split at h
    · next hkey =>
      cases h
      exact ⟨now, held.1, held.2, by rw [hkey]⟩
    · cases h
  · cases h

private theorem turn?_eq_some {r : ServiceRequest} (h : turn? key r = some turn) :
    r = .logTurn key turn := by
  unfold turn? at h
  split at h
  · split at h
    · next hkey =>
      cases h
      rw [hkey]
    · cases h
  · cases h

theorem row?_eq_some (h : row? key e = some (n, turn)) :
    ∃ a, e = (n, ⟨.service (.logTurn key turn), a⟩) := by
  unfold row? at h
  split at h
  · next r a =>
    obtain ⟨turn', hturn, heq⟩ := Option.map_eq_some_iff.mp h
    cases heq
    cases turn?_eq_some hturn
    exact ⟨a, rfl⟩
  · cases h

theorem got?_eq_some {serial : Nat} (h : got? serial e = some n) : ∃ key now c,
    e = (n, ⟨.service (.beginTurn key), (now, some (serial, c))⟩) := by
  unfold got? at h
  split at h
  · next key now held c =>
    split at h
    · next hheld =>
      cases h
      exact ⟨key, now, c, by rw [hheld]⟩
    · cases h
  · cases h

private theorem row?_of_began (h : began? key e = some n) : row? key e = none := by
  obtain ⟨now, serial, c, rfl⟩ := began?_eq_some h
  rfl

theorem rowsOf_eq (key : InstanceKey) (n : Nat) (log : List Event) :
    rowsOf key n log = (untimed (share n log)).filterMap fun x => turn? key x.request := by
  unfold rowsOf rows untimed share
  rw [List.filter_filterMap, List.map_filterMap, List.filterMap_filterMap, List.filterMap_filterMap]
  congr 1
  funext ⟨k, ⟨r, a⟩⟩
  by_cases hk : k = n
  · cases r with
    | service r => cases h : turn? key r <;> simp [row?, hk, h]
    | sweep | maybeSweep => simp [row?, hk]
  · cases r with
    | service r => cases h : turn? key r <;> simp [row?, hk, h]
    | sweep | maybeSweep => simp [row?, hk]

/-- No message records more than two turns or any before it got its instance, which it gets once. -/
structure Regular (key : InstanceKey) (log : List Event) : Prop where
  few : ∀ n, (rowsOf key n log).length ≤ 2
  mem_began : ∀ n, rowsOf key n log ≠ [] → n ∈ began key log
  once : (began key log).Nodup

/-- No message gets the instance of the key before those ahead of it have recorded both turns. -/
def Separate (key : InstanceKey) (log : List Event) : Prop :=
  ∀ before e after, log = before ++ e :: after → (began? key e).isSome = true →
    ∀ m ∈ began key before, (rowsOf key m before).length = 2

private theorem separate_iff :
    Separate key log ↔ ∀ i : Fin log.length, (began? key log[i]).isSome = true →
    ∀ m ∈ began key (log.take i), (rowsOf key m (log.take i)).length = 2 := by
  constructor
  · intro h i
    refine h (log.take i) log[i] (log.drop (i + 1)) ?_
    simp
  · rintro h before e after rfl hbegan m hm
    have hlt : before.length < (before ++ e :: after).length := by simp
    have hat := h ⟨before.length, hlt⟩
    simp only [Fin.getElem_fin, List.take_left] at hat
    exact hat (by simpa using hbegan) m hm

instance : Decidable (Separate key log) := decidable_of_iff _ separate_iff.symm

/-- The rows are grouped by the messages that they come from, in the order of these. -/
def Grouped (key : InstanceKey) (log : List Event) : Prop :=
  rows key log = (began key log).flatMap fun n => (rowsOf key n log).map (n, ·)

theorem Separate.of_append (h : Separate key (log ++ more)) : Separate key log := by
  intro before e after hlog
  refine h before e (after ++ more) ?_
  rw [hlog, List.append_assoc, List.cons_append]

private theorem Separate.recorded {ms : List Nat} (h : Separate key log)
    (hbegan : began key log = ms ++ [n]) (hm : m ∈ ms) : 2 ≤ (rowsOf key m log).length := by
  obtain ⟨before, rest, rfl, hbefore, hrest⟩ := List.filterMap_eq_append_iff.mp hbegan
  obtain ⟨others, e, after, rfl, hothers, he, -⟩ := List.filterMap_eq_cons_iff.mp hrest
  have hnone : began key others = [] := List.filterMap_eq_nil_iff.mpr hothers
  have hmem : m ∈ began key (before ++ others) := by
    rwa [began_append, hnone, List.append_nil, show began key before = ms from hbefore]
  have htwo := h (before ++ others) e after (by simp) (by rw [he]; rfl) m hmem
  have hsplit : before ++ (others ++ e :: after) = (before ++ others) ++ e :: after := by simp
  rw [hsplit, rowsOf_append, List.length_append]
  omega

private theorem Separate.eq_last {ms : List Nat} {l : Nat} (h : Separate key log)
    (hreg : Regular key (log ++ [e])) (hrow : row? key e = some (n, turn))
    (hbegan : began key log = ms ++ [l]) (hn : n ∈ began key log) : n = l ∧ n ∉ ms := by
  have hnot : n ∉ ms := by
    intro hmem
    have htwo := h.recorded hbegan hmem
    have hfew := hreg.few n
    rw [rowsOf_append, rowsOf_self hrow, List.length_append, List.length_singleton] at hfew
    omega
  rw [hbegan, List.mem_append, List.mem_singleton] at hn
  exact ⟨hn.resolve_left hnot, hnot⟩

/-- If no message begins too early, each event leaves the rows grouped. -/
theorem Grouped.concat (h : Grouped key log) (hreg : Regular key log)
    (hreg' : Regular key (log ++ [e])) (hsep : Separate key log) : Grouped key (log ++ [e]) := by
  unfold Grouped at h ⊢
  rw [rows_append, began_append, rows_singleton, began_singleton, h, List.flatMap_append]
  cases hbegan : began? key e with
  | some n =>
    -- who begins has recorded nothing yet
    have hrow := row?_of_began hbegan
    have hnew : n ∉ began key log := by
      have honce := hreg'.once
      rw [began_append, began_singleton, hbegan] at honce
      intro hmem
      exact List.disjoint_of_nodup_append honce hmem (by simp)
    have hnone : rowsOf key n log = [] := by
      by_contra hsome
      exact hnew (hreg.mem_began n hsome)
    simp [hrow, rowsOf_append, rowsOf_of_none hrow, hnone]
  | none =>
    cases hrow : row? key e with
    | none => simp [rowsOf_append, rowsOf_of_none hrow]
    | some row =>
      obtain ⟨n, turn⟩ := row
      have hmem : n ∈ began key log := by
        have hmem := hreg'.mem_began n (by simp [rowsOf_append, rowsOf_self hrow])
        rwa [began_append, began_singleton, hbegan, Option.toList_none, List.append_nil] at hmem
      obtain ⟨ms, l, hms⟩ := List.eq_nil_or_concat' (began key log) |>.resolve_left
        (List.ne_nil_of_mem hmem)
      obtain ⟨rfl, hnot⟩ := hsep.eq_last hreg' hrow hms hmem
      have hothers : (ms.flatMap fun m => (rowsOf key m (log ++ [e])).map (m, ·)) =
          ms.flatMap fun m => (rowsOf key m log).map (m, ·) := by
        refine List.flatMap_congr fun m hm => ?_
        have hne : m ≠ n := fun heq => hnot (heq ▸ hm)
        rw [rowsOf_append, rowsOf_of_ne hrow hne, List.append_nil]
      rw [hms, List.flatMap_append, List.flatMap_append, hothers]
      simp [rowsOf_append, rowsOf_self hrow]

end Rows

end Automation.Session
