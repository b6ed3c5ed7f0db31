import Automation.Proofs.Session.Rows

/-!
# The record of a conversation

The rows of a key are a pair for each message, in the order in which the messages got their
instances, as long as none gets its instance before the messages ahead of it have recorded both
turns. Otherwise the pairs may be torn apart.
-/

namespace Automation.Session

open History (latest)
open Interleaving (Move Reaches share)

variable {ρ : Type} {s : Service} {others : Surroundings ρ} {enters : Call → Prop}
  {key : InstanceKey} {text : String}

/-! ## Messages and their rows -/

section Reached

variable {s₀ : Shared ρ} {log : List Event} {t : State ρ} {m n : Nat}

private theorem sender_of_event (h : Reaches (sessions s others enters) s₀ log t) {n : Nat}
    {x : Dealing} (hx : (n, x) ∈ log) : ∃ p, t.parties[n]? = some p ∧ p.task.Owns x.request := by
  have hshare := Interleaving.mem_share hx rfl
  rw [← h.pastOf_eq n, Interleaving.pastOf] at hshare
  cases hp : t.parties[n]? with
  | none =>
    rw [hp] at hshare
    cases hshare
  | some p =>
    rw [hp] at hshare
    have hcourse := h.party_course p (List.mem_of_getElem? hp)
    exact ⟨p, rfl, (process_asks s p.task).course hcourse x hshare⟩

private theorem said_eq {p : Caller} (hp : t.parties[n]? = some p)
    (htask : p.task = .send key text) : said t n = (phase p).turns text := by
  rw [said, Standings.turns, about_standings [] hp htask, phase_standings [] hp]
  rfl

private theorem rowsOf_sender (h : Reaches (sessions s others enters) s₀ log t) {p : Caller}
    (hp : t.parties[n]? = some p) (htask : p.task = .send key text) :
    rowsOf key n log <+: said t n ∧
      (rowsOf key n log ≠ [] → ∃ serial answer, phase p = .answered serial answer) ∧
      ∀ r, p.rest = .done r → rowsOf key n log = said t n := by
  have hpast : share n log = p.past := by
    rw [← h.pastOf_eq n, Interleaving.pastOf, hp]
    rfl
  rw [rowsOf_eq, hpast, said_eq hp htask]
  obtain ⟨htidy, hends⟩ :=
    progress_of_course htask (h.party_course p (List.mem_of_getElem? hp))
  exact ⟨htidy.turns, htidy.answered, hends⟩

private theorem sender_of_rowsOf (h : Reaches (sessions s others enters) s₀ log t)
    (hrows : rowsOf key n log ≠ []) :
    ∃ p text, t.parties[n]? = some p ∧ p.task = .send key text := by
  obtain ⟨turn, hturn⟩ := List.exists_mem_of_ne_nil _ hrows
  obtain ⟨⟨k, turn'⟩, hrow, rfl⟩ := List.mem_map.mp hturn
  obtain ⟨hmem, hk⟩ := List.mem_filter.mp hrow
  obtain rfl : k = n := by simpa using hk
  obtain ⟨e, he, hevent⟩ := List.mem_filterMap.mp hmem
  obtain ⟨a, rfl⟩ := row?_eq_some hevent
  obtain ⟨p, hp, text, htask⟩ := sender_of_event h he
  exact ⟨p, text, hp, htask⟩

private theorem mem_began_iff (h : Reaches (sessions s others enters) s₀ log t)
    (hlive : s₀.table.live = []) {p : Caller} (hp : t.parties[n]? = some p)
    (htask : p.task = .send key text) :
    n ∈ began key log ↔ ∃ serial, (phase p).serial? = some serial := by
  obtain ⟨-, hfits⟩ := fits_of_reaches h hlive
  have hserved (serial : Nat) : n ∈ served serial log ↔ (phase p).serial? = some serial := by
    rw [← phase_standings log hp]
    exact hfits.got serial n
  constructor
  · intro hn
    obtain ⟨e, he, hevent⟩ := List.mem_filterMap.mp hn
    obtain ⟨now, serial, c, rfl⟩ := began?_eq_some hevent
    exact ⟨serial, (hserved serial).mp (List.mem_filterMap.mpr ⟨_, he, by simp [got?]⟩)⟩
  · rintro ⟨serial, hserial⟩
    obtain ⟨e, he, hevent⟩ := List.mem_filterMap.mp ((hserved serial).mpr hserial)
    obtain ⟨key', now, c, rfl⟩ := got?_eq_some hevent
    -- who gets an instance gets that of the key it was sent to
    obtain ⟨q, hq, text', htask'⟩ := sender_of_event h he
    cases hp.symm.trans hq
    cases htask.symm.trans htask'
    exact List.mem_filterMap.mpr ⟨_, he, by simp [began?]⟩

private theorem began_nodup (h : Reaches (sessions s others enters) s₀ log t)
    (hlive : s₀.table.live = []) : (began key log).Nodup := by
  induction h with
  | stay => exact List.nodup_nil
  | @move log log' t u h m ih =>
    cases m with
    | join => simpa using ih
    | @answer ps sh sh' n task past r next a hp ha =>
      rw [began_append, began_singleton]
      cases hbegan : began? key (n, ⟨r, a⟩) with
      | none => simpa using ih
      | some k =>
        obtain ⟨now, serial, c, heq⟩ := began?_eq_some hbegan
        obtain ⟨rfl, hx⟩ := Prod.mk.inj heq
        cases hx
        refine ih.append (List.nodup_singleton _) ?_
        rw [Option.toList_some, List.disjoint_singleton]
        intro hmem
        obtain ⟨hcourse, -⟩ := fits_of_reaches h hlive
        obtain ⟨text, htask, hwaiting⟩ :=
          waiting_of_beginTurn (hcourse _ (List.mem_of_getElem? hp))
        obtain ⟨serial, hserial⟩ := (mem_began_iff h hlive hp htask).mp hmem
        rw [hwaiting] at hserial
        cases hserial

private theorem regular_of_reaches (h : Reaches (sessions s others enters) s₀ log t)
    (hlive : s₀.table.live = []) (key : InstanceKey) : Regular key log := by
  constructor
  case few =>
    intro n
    by_cases hrows : rowsOf key n log = []
    · simp [hrows]
    · obtain ⟨p, text, hp, htask⟩ := sender_of_rowsOf h hrows
      obtain ⟨hstart, -, -⟩ := rowsOf_sender h hp htask
      refine Nat.le_trans hstart.length_le ?_
      rw [said_eq hp htask]
      cases phase p <;> simp [Phase.turns]
  case mem_began =>
    intro n hrows
    obtain ⟨p, text, hp, htask⟩ := sender_of_rowsOf h hrows
    obtain ⟨-, hanswered, -⟩ := rowsOf_sender h hp htask
    obtain ⟨serial, answer, hphase⟩ := hanswered hrows
    exact (mem_began_iff h hlive hp htask).mpr ⟨serial, by rw [hphase]; rfl⟩
  case once => exact began_nodup h hlive

private theorem grouped_of_reaches (h : Reaches (sessions s others enters) s₀ log t)
    (hlive : s₀.table.live = []) (hsep : Separate key log) : Grouped key log := by
  induction h with
  | stay => rfl
  | move h m ih =>
    have hgrouped := ih hsep.of_append
    cases m with
    | join => simpa using hgrouped
    | answer hp ha =>
      have hafter := Interleaving.Course.move h (.answer hp ha)
      exact hgrouped.concat (regular_of_reaches h hlive key)
        (regular_of_reaches hafter hlive key) hsep.of_append

/-! ## The record and the history -/

private theorem old_or_new {sh sh' : Shared ρ} {r : Request} {a : r.Answer} {j : Instance}
    (hs : sh.table.Sound) (h : Shared.answers others sh r a sh')
    (hj : sh'.table.get? key = some j) :
    (∃ i, sh.table.get? key = some i ∧ i.serial = j.serial) ∨ sh.table.next ≤ j.serial := by
  have tended {t' : Instances} {j : Instance} (ht : sh.table.Tended t')
      (hj : t'.get? key = some j) :
      (∃ i, sh.table.get? key = some i ∧ i.serial = j.serial) ∨ sh.table.next ≤ j.serial := by
    rcases ht.old key j hj with ⟨i, hi, hsame⟩ | ⟨hnew, -⟩
    · exact .inl ⟨i, hi, by rw [hsame]⟩
    · exact .inr hnew
  have updated {t' : Instances} {serial : Nat} {f : Instance → Instance}
      (hkey : ∀ i, (f i).key = i.key) (hserial : ∀ i, (f i).serial = i.serial)
      (hj : (t'.update serial f).get? key = some j) :
      ∃ i, t'.get? key = some i ∧ i.serial = j.serial := by
    obtain ⟨i, hi, heq, -⟩ := Instances.exists_of_get?_update hkey hserial hj
    exact ⟨i, hi, heq.symm⟩
  cases r with
  | sweep =>
    obtain ⟨-, rfl⟩ := h
    exact tended (hs.tended_sweep a.1) hj
  | maybeSweep =>
    obtain ⟨-, rfl⟩ := h
    exact tended (hs.tended_maybeSweep a.1) hj
  | service r =>
    have hserves := h.2.2
    cases r with
    | openInstance k initData =>
      have htable : sh'.table = (sh.table.getOrCreate k initData a.1).2 := hserves.2.1
      exact tended (hs.tended_getOrCreate k initData a.1) (htable ▸ hj)
    | beginTurn k =>
      obtain ⟨-, hbegin⟩ := beginTurn_of_serves hserves
      have htended := hs.tended_getOrCreate k .null a.1
      split at hbegin
      · exact tended htended (hbegin.2 ▸ hj)
      · rw [hbegin.2] at hj
        obtain ⟨i, hi, hserial⟩ := updated (fun _ => by rfl) (fun _ => by rfl) hj
        exact hserial ▸ tended htended hi
    | keepTurn | endTurn =>
      rw [show sh'.table = _ from hserves.2.1] at hj
      exact .inl (updated (fun _ => by rfl) (fun _ => by rfl) hj)
    | removeInstance k =>
      rw [show sh'.table = sh.table.remove k from hserves.2.1, Instances.remove,
        hs.get?_filter] at hj
      exact .inl ⟨j, (Option.filter_eq_some_iff.mp hj).1, rfl⟩
    | clearInstances =>
      rw [show sh'.table = sh.table.clear from hserves.2.1] at hj
      cases hj
    | listInstances =>
      have htable : sh'.table = sh.table := hserves.2.1
      exact .inl ⟨j, htable ▸ hj, rfl⟩
    | _ =>
      have htable : sh'.table = sh.table := table_of_serves rfl hserves
      exact .inl ⟨j, htable ▸ hj, rfl⟩

private theorem begins_with {u : State ρ} {now : Time.Instant} {serial : Nat} {c : Conversation}
    (h : Reaches (sessions s others enters) s₀ log t) (hlive : s₀.table.live = [])
    (m : Move (sessions s others enters) t
      [(n, ⟨.service (.beginTurn key), (now, some (serial, c))⟩)] u) :
    ∃ i, u.shared.table.get? key = some i ∧ i.serial = serial := by
  obtain ⟨hcourse, -⟩ := fits_of_reaches h hlive
  obtain ⟨p, text, hp, htask, -, hphase, -, -⟩ := begins_of_move hcourse m
  obtain ⟨-, hfits⟩ := fits_of_reaches (Interleaving.Course.move h m) hlive
  have hhandles : Handles u n key serial := ⟨p, text, c, hp, htask, by rw [hphase]; rfl⟩
  obtain ⟨i, hi, hserial, -⟩ := kept_of_fits hfits hhandles
  exact ⟨i, hi, hserial⟩

/-- The messages that got the instance of a key are the latest that got one. -/
theorem served_suffix (h : Reaches (sessions s others enters) s₀ log t)
    (hlive : s₀.table.live = []) {i : Instance} (hi : t.shared.table.get? key = some i) :
    served i.serial log <:+ began key log := by
  induction h generalizing i with
  | stay => simp [Instances.get?, hlive] at hi
  | @move log log' t u h m ih =>
    obtain ⟨hcourse, hfits⟩ := fits_of_reaches h hlive
    cases m with
    | join => simpa using ih hi
    | @answer ps sh sh' n task past r next a hp ha =>
      have hbefore : served i.serial log <:+ began key log := by
        rcases old_or_new hfits.sound ha hi with ⟨j, hj, hserial⟩ | hnew
        · exact hserial ▸ ih hj
        · -- nobody got an instance that is new
          have hnone : served i.serial log = [] := by
            refine List.eq_nil_iff_forall_not_mem.mpr fun k hk => ?_
            exact absurd (hfits.below i.serial k hk) (Nat.not_lt.mpr hnew)
          rw [hnone]
          exact List.nil_suffix
      have hmove : Move (sessions s others enters) _ [(n, ⟨r, a⟩)] _ := .answer hp ha
      obtain ⟨-, hafter⟩ := fits_of_reaches (Interleaving.Course.move h hmove) hlive
      have hserved : served i.serial (log ++ [(n, ⟨r, a⟩)]) =
          served i.serial log ++ (got? i.serial (n, ⟨r, a⟩)).toList := by
        cases hgot : got? i.serial (n, ⟨r, a⟩) <;> simp [served, hgot]
      -- the event gives the instance to a message exactly if it gives one of the key
      have hsame : got? i.serial (n, ⟨r, a⟩) = began? key (n, ⟨r, a⟩) := by
        cases hbegan : began? key (n, ⟨r, a⟩) with
        | some k =>
          obtain ⟨now, serial, c, heq⟩ := began?_eq_some hbegan
          rw [heq] at hmove
          obtain ⟨j, hj, rfl⟩ := begins_with h hlive hmove
          cases hi.symm.trans hj
          rw [heq]
          simp [got?]
        | none =>
          refine Option.eq_none_iff_forall_ne_some.mpr fun k hgot => ?_
          obtain ⟨key', now, c, heq⟩ := got?_eq_some hgot
          rw [heq] at hmove
          obtain ⟨j, hj, hserial⟩ := begins_with h hlive hmove
          obtain rfl := hafter.sound.eq_of_serial hj hi hserial
          obtain rfl : key' = key :=
            (Instances.key_of_get? hj).symm.trans (Instances.key_of_get? hi)
          rw [heq] at hbegan
          simp [began?] at hbegan
      obtain ⟨pre, hpre⟩ := hbefore
      refine ⟨pre, ?_⟩
      rw [hserved, hsame, began_append, began_singleton, ← List.append_assoc, hpre]

/-- A message to the key has ended with a response. -/
def Ended (t : State ρ) (key : InstanceKey) (n : Nat) (text : String) (r : Response) : Prop :=
  ∃ p, t.parties[n]? = some p ∧ p.task = .send key text ∧ p.rest = .done (some r)

/-- No message to the key is under way. -/
def Quiet (key : InstanceKey) (t : State ρ) : Prop :=
  ∀ p ∈ t.parties, ∀ text, p.task = .send key text → ∃ r, p.rest = .done r

/-- The turns that a message and its response make. -/
def exchanged (text : String) (r : Response) : List Model.Message :=
  [{ role := .user, content := text }, { role := .assistant, content := r.message }]

/-- The record of a key is a pair for each message that got the instance, in their order, and what
is in the history is the end of it. -/
structure Paired (key : InstanceKey) (log : List Event) (t : State ρ) : Prop where
  pairs : ∃ answered : List (Nat × String × Response), answered.map (·.1) = began key log ∧
    (∀ x ∈ answered, Ended t key x.1 x.2.1 x.2.2 ∧ x.2.2.status ≠ .busy) ∧
    (rows key log).map (·.2) = answered.flatMap fun x => exchanged x.2.1 x.2.2
  history : ∀ i, t.shared.table.get? key = some i →
    i.conversation.history.turns <:+ (rows key log).map (·.2)

/-- What is on record for a key. -/
structure OnRecord (key : InstanceKey) (log : List Event) (t : State ρ) : Prop where
  /-- A message gets the instance once, and what it records are its turns in their order. -/
  once : (began key log).Nodup
  own : ∀ n, rowsOf key n log <+: said t n
  /-- In the end its text and its answer are on record, unless it got no instance. -/
  ended : ∀ n text r, Ended t key n text r →
    (n ∈ began key log ∧ r.status ≠ .busy ∧ rowsOf key n log = exchanged text r) ∨
      (n ∉ began key log ∧ rowsOf key n log = [] ∧
        (r = { status := .busy, message := key.busyMessage } ∨ r.status = .error))
  /-- If no message gets the instance too early, the record is in the order of the messages. -/
  grouped : Separate key log → Grouped key log
  paired : Separate key log → Quiet key t → Paired key log t

private theorem rowsOf_prefix (h : Reaches (sessions s others enters) s₀ log t) (key : InstanceKey)
    (n : Nat) : rowsOf key n log <+: said t n := by
  by_cases hrows : rowsOf key n log = []
  · rw [hrows]
    exact List.nil_prefix
  · obtain ⟨p, text, hp, htask⟩ := sender_of_rowsOf h hrows
    exact (rowsOf_sender h hp htask).1

/-- A message that has ended with an answer has recorded it; otherwise it got no instance. -/
theorem recorded_of_ended (h : Reaches (sessions s others enters) s₀ log t)
    (hlive : s₀.table.live = []) {r : Response} (hended : Ended t key n text r) :
    (n ∈ began key log ∧ r.status ≠ .busy ∧ rowsOf key n log = exchanged text r) ∨
      (n ∉ began key log ∧ rowsOf key n log = [] ∧
        (r = { status := .busy, message := key.busyMessage } ∨ r.status = .error)) := by
  obtain ⟨p, hp, htask, hrest⟩ := hended
  obtain ⟨hcourse, -⟩ := fits_of_reaches h hlive
  have hbegan := mem_began_iff h hlive hp htask
  obtain ⟨-, -, hrows⟩ := rowsOf_sender h hp htask
  rw [hrows _ hrest, said_eq hp htask]
  have hpc := hcourse p (List.mem_of_getElem? hp)
  rw [hrest] at hpc
  obtain ⟨response, heq, hcloses⟩ := closes_of_course htask hpc
  cases heq
  cases hphase : phase p with
  | waiting =>
    rw [hphase] at hcloses hbegan
    exact .inr ⟨by simp [hbegan, Phase.serial?], rfl, .inr hcloses⟩
  | refused =>
    rw [hphase] at hcloses hbegan
    exact .inr ⟨by simp [hbegan, Phase.serial?], rfl, .inl hcloses⟩
  | answered serial answer =>
    rw [hphase] at hcloses hbegan
    obtain ⟨rfl, hstatus⟩ := hcloses
    exact .inl ⟨hbegan.mpr ⟨serial, rfl⟩, hstatus, rfl⟩
  | begun | asked =>
    rw [hphase] at hcloses
    exact hcloses.elim

private theorem exists_ended (h : Reaches (sessions s others enters) s₀ log t)
    (hquiet : Quiet key t) (hn : n ∈ began key log) : ∃ text r, Ended t key n text r := by
  obtain ⟨e, he, hevent⟩ := List.mem_filterMap.mp hn
  obtain ⟨now, serial, c, rfl⟩ := began?_eq_some hevent
  obtain ⟨p, hp, text, htask⟩ := sender_of_event h he
  have hmem := List.mem_of_getElem? hp
  obtain ⟨r, hrest⟩ := hquiet p hmem text htask
  have hpc := h.party_course p hmem
  rw [hrest] at hpc
  obtain ⟨response, rfl, -⟩ := closes_of_course htask hpc
  exact ⟨text, response, p, hp, htask, hrest⟩

private theorem paired_of_grouped (h : Reaches (sessions s others enters) s₀ log t)
    (hlive : s₀.table.live = []) (hquiet : Quiet key t) (hgrouped : Grouped key log) :
    Paired key log t := by
  have hrows : (rows key log).map (·.2) = (began key log).flatMap fun n => rowsOf key n log := by
    rw [hgrouped, List.map_flatMap]
    simp [Function.comp_def]
  have hanswered : ∀ n ∈ began key log, ∃ x : String × Response,
      Ended t key n x.1 x.2 ∧ x.2.status ≠ .busy ∧ rowsOf key n log = exchanged x.1 x.2 := by
    intro n hn
    obtain ⟨text, r, hended⟩ := exists_ended h hquiet hn
    rcases recorded_of_ended h hlive hended with ⟨-, hstatus, hpair⟩ | ⟨hnot, -⟩
    · exact ⟨(text, r), hended, hstatus, hpair⟩
    · exact absurd hn hnot
  have : Nonempty (String × Response) := ⟨"", ⟨.busy, "", none, none, [], [], none, none⟩⟩
  choose! answer hended hstatus hpair using hanswered
  constructor
  case pairs =>
    refine ⟨(began key log).map fun n => (n, answer n), by simp [Function.comp_def], ?_, ?_⟩
    · intro x hx
      obtain ⟨n, hn, rfl⟩ := List.mem_map.mp hx
      exact ⟨hended n hn, hstatus n hn⟩
    · rw [hrows, List.flatMap_map]
      exact List.flatMap_congr hpair
  case history =>
    intro i hi
    obtain ⟨-, hfits⟩ := fits_of_reaches h hlive
    obtain ⟨pre, hpre⟩ := served_suffix h hlive hi
    have hsaid : (served i.serial log).flatMap (said t) =
        (served i.serial log).flatMap fun n => rowsOf key n log := by
      refine List.flatMap_congr fun n hn => ?_
      obtain ⟨p, hp, htask, hrest⟩ := hended n (hpre ▸ List.mem_append_right pre hn)
      exact ((rowsOf_sender h hp htask).2.2 _ hrest).symm
    have hturns : i.conversation.history.turns = latest i.conversation.history.limit
        ((served i.serial log).flatMap (said t)) := hfits.history key i hi
    rw [hturns, hsaid, hrows, ← hpre, List.flatMap_append]
    exact (List.drop_suffix _ _).trans (List.suffix_append _ _)

/-- Whatever is called in whatever order, each message that is answered leaves its text and its
answer on record. If none begins before those ahead of it are recorded the record is in order. -/
theorem sessions_recorded (h : Reaches (sessions s others enters) s₀ log t)
    (hlive : s₀.table.live = []) (key : InstanceKey) : OnRecord key log t where
  once := began_nodup h hlive
  own := rowsOf_prefix h key
  ended := fun _ _ _ => recorded_of_ended h hlive
  grouped := grouped_of_reaches h hlive
  paired := fun hsep hquiet => paired_of_grouped h hlive hquiet (grouped_of_reaches h hlive hsep)

end Reached

/-! ## Two cancellations

Two messages come to a key one after the other. Either the first is recorded before the second
begins, or both are answered before either is recorded, and then they take turns. -/

namespace TwoCancellations

open BusyHour (busy table calls)

/-- The conversation with the text, and with the answer to it. -/
def asked (c : Conversation) (text : String) : Conversation :=
  { c with history := c.history.pushUser text }

def response (c : Conversation) (text : String) : Response := (Service.cancel (asked c text)).1

def answered (c : Conversation) (text : String) : Conversation :=
  let turn := Service.cancel (asked c text)
  { turn.2 with history := turn.2.history.pushAssistant turn.1.message }

/-- The table after the instance with a number has been through a turn. -/
def passed (t : Instances) (serial : Nat) (c : Conversation) (text : String) : Instances :=
  ((t.beginTurn busy ⟨0, 0⟩).2.store serial (asked c text)).finish serial (answered c text) ⟨0, 0⟩

/-- What a cancellation asks until it is answered. -/
def turn (serial : Nat) (c : Conversation) (text : String) : List Dealing :=
  [⟨.service (.beginTurn busy), (⟨0, 0⟩, some (serial, c))⟩,
    ⟨.service (.keepTurn serial (asked c text)), (⟨0, 0⟩, ())⟩,
    ⟨.service (.endTurn serial (answered c text)), (⟨0, 0⟩, ())⟩]

/-- What is left of it then. -/
def recording (text : String) (r : Response) : Process Request Request.Answer (Option Response) :=
  .ask (.service (.logTurn busy { role := .user, content := text })) fun _ =>
    .ask (.service (.logTurn busy { role := .assistant, content := r.message })) fun _ =>
      .done (some r)

abbrev start : Shared Unit := ⟨⟨0, 0⟩, table, ()⟩

private theorem reaches_passed {log : List Event} {ps : List Caller} {t : Instances}
    {n serial : Nat}
    {c : Conversation} {text : String} (h : Reaches calls start log ⟨ps, ⟨⟨0, 0⟩, t, ()⟩⟩)
    (hp : ps[n]? = some (calls.newcomer (.send busy text)))
    (htext : Text.isBlankText text = false) (hcancel : Reply.isCancel (Text.trim text) = true)
    (hbegin : (t.beginTurn busy ⟨0, 0⟩).1.map (fun i => (i.serial, i.conversation)) =
      some (serial, c)) :
    Reaches calls start (log ++ (turn serial c text).map (n, ·))
      ⟨ps.set n ⟨.send busy text, turn serial c text, recording text (response c text)⟩,
        ⟨⟨0, 0⟩, passed t serial c text, ()⟩⟩ := by
  have hkey : Service.checkKey busy = none := by decide +kernel
  obtain ⟨next, hsend, hnext⟩ := send_process Service.board hkey htext
  have hgoes : calls.newcomer (.send busy text) =
      ⟨.send busy text, [], .ask (.service (.beginTurn busy)) next⟩ := by
    rw [← hsend]
    rfl
  have hrest : next (⟨0, 0⟩, some (serial, c)) =
      .ask (.service (.keepTurn serial (asked c text))) fun _ =>
        .ask (.service (.endTurn serial (answered c text))) fun _ =>
          recording text (response c text) :=
    (hnext _ _ _).trans (handle_cancel Service.board busy serial c hcancel)
  obtain ⟨hn, -⟩ := List.getElem?_eq_some_iff.mp hp
  let locked := (t.beginTurn busy ⟨0, 0⟩).2
  have hbegun : calls.answers ⟨⟨0, 0⟩, t, ()⟩ (.service (.beginTurn busy))
      (⟨0, 0⟩, some (serial, c)) ⟨⟨0, 0⟩, locked, ()⟩ := ⟨Int.le_refl _, rfl, hbegin.symm, rfl, rfl⟩
  have hkept : calls.answers ⟨⟨0, 0⟩, locked, ()⟩ (.service (.keepTurn serial (asked c text)))
      (⟨0, 0⟩, ()) ⟨⟨0, 0⟩, locked.store serial (asked c text), ()⟩ :=
    ⟨Int.le_refl _, rfl, rfl, rfl, rfl⟩
  have hended : calls.answers ⟨⟨0, 0⟩, locked.store serial (asked c text), ()⟩
      (.service (.endTurn serial (answered c text))) (⟨0, 0⟩, ())
      ⟨⟨0, 0⟩, passed t serial c text, ()⟩ := ⟨Int.le_refl _, rfl, rfl, rfl, rfl⟩
  obtain ⟨hn, -⟩ := List.getElem?_eq_some_iff.mp hp
  have begun := h.move (.answer (hp.trans (congrArg some hgoes)) hbegun)
  rw [newcomers_sessions, List.append_nil, hrest] at begun
  have kept := begun.move (.answer (List.getElem?_set_self hn) hkept)
  rw [newcomers_sessions, List.append_nil, List.set_set] at kept
  have ended := kept.move (.answer (List.getElem?_set_self hn) hended)
  rw [newcomers_sessions, List.append_nil, List.set_set, List.append_assoc,
    List.append_assoc] at ended
  exact ended

/-- The conversation before the first message, and before the second. -/
def first : Conversation := { history := History.empty 50 }

def second : Conversation := answered first "cancel"

/-- The events up to the answer to each message, and those in which it is recorded. -/
def firstTurn : List Event := (turn 0 first "cancel").map (0, ·)

def secondTurn : List Event := (turn 0 second "stop").map (1, ·)

def row (n : Nat) (turn : Model.Message) : Event :=
  (n, ⟨.service (.logTurn busy turn), (⟨0, 0⟩, ())⟩)

def answer : String := "There's nothing to cancel."

def closed : Instances := passed (passed table 0 first "cancel") 0 second "stop"

private theorem arrives : Reaches calls start []
    ⟨[calls.newcomer (.send busy "cancel"), calls.newcomer (.send busy "stop")], start⟩ :=
  (Interleaving.Course.stay.move (.join trivial)).move (.join trivial)

private theorem reaches_first : Reaches calls start firstTurn
    ⟨[⟨.send busy "cancel", turn 0 first "cancel", recording "cancel" (response first "cancel")⟩,
      calls.newcomer (.send busy "stop")], ⟨⟨0, 0⟩, passed table 0 first "cancel", ()⟩⟩ :=
  reaches_passed (n := 0) arrives rfl (by decide +kernel) (by decide +kernel) rfl

private theorem stop_text : Text.isBlankText "stop" = false := by decide +kernel

private theorem stop_cancels : Reply.isCancel (Text.trim "stop") = true := by decide +kernel

/-- Both messages have ended. -/
def Over (t : State Unit) : Prop :=
  ∃ past past', t = ⟨[⟨.send busy "cancel", past, .done (some (response first "cancel"))⟩,
    ⟨.send busy "stop", past', .done (some (response second "stop"))⟩], ⟨⟨0, 0⟩, closed, ()⟩⟩

private theorem Over.quiet {t : State Unit} (h : Over t) : Quiet busy t := by
  obtain ⟨past, past', rfl⟩ := h
  intro p hp text htask
  simp only [List.mem_cons, List.not_mem_nil, or_false] at hp
  rcases hp with rfl | rfl
  · exact ⟨_, rfl⟩
  · exact ⟨_, rfl⟩

private theorem reaches_recorded {log : List Event} {ps : List Caller} {t : Instances} {n : Nat}
    {task : Call} {past : List Dealing} {turn : Model.Message} {next}
    (h : Reaches calls start log ⟨ps, ⟨⟨0, 0⟩, t, ()⟩⟩)
    (hp : ps[n]? = some ⟨task, past, .ask (.service (.logTurn busy turn)) next⟩) :
    Reaches calls start (log ++ [row n turn])
      ⟨ps.set n ⟨task, past ++ [(row n turn).2], next (⟨0, 0⟩, ())⟩, ⟨⟨0, 0⟩, t, ()⟩⟩ := by
  have hrecorded : calls.answers ⟨⟨0, 0⟩, t, ()⟩ (.service (.logTurn busy turn)) (⟨0, 0⟩, ())
      ⟨⟨0, 0⟩, t, ()⟩ := ⟨Int.le_refl _, rfl, rfl, trivial⟩
  have recorded := h.move (.answer hp hrecorded)
  rwa [newcomers_sessions, List.append_nil] at recorded

/-- The first message is recorded before the second begins. -/
def inOrder : List Event :=
  firstTurn ++ [row 0 ⟨.user, "cancel"⟩] ++ [row 0 ⟨.assistant, answer⟩] ++
    secondTurn ++ [row 1 ⟨.user, "stop"⟩] ++ [row 1 ⟨.assistant, answer⟩]

private theorem reaches_inOrder : ∃ t, Reaches calls start inOrder t ∧ Over t := by
  have recorded := reaches_recorded (n := 0) (reaches_recorded (n := 0) reaches_first rfl) rfl
  have both := reaches_passed (n := 1) recorded rfl stop_text stop_cancels rfl
  have ended := reaches_recorded (n := 1) (reaches_recorded (n := 1) both rfl) rfl
  exact ⟨_, ended, _, _, rfl⟩

/-- Both are answered first, and then record their turns in turn. -/
def torn : List Event :=
  firstTurn ++ secondTurn ++ [row 0 ⟨.user, "cancel"⟩] ++ [row 1 ⟨.user, "stop"⟩] ++
    [row 0 ⟨.assistant, answer⟩] ++ [row 1 ⟨.assistant, answer⟩]

private theorem reaches_torn : ∃ t, Reaches calls start torn t ∧ Over t := by
  have both := reaches_passed (n := 1) reaches_first rfl stop_text stop_cancels rfl
  have asked := reaches_recorded (n := 1) (reaches_recorded (n := 0) both rfl) rfl
  have ended := reaches_recorded (n := 1) (reaches_recorded (n := 0) asked rfl) rfl
  exact ⟨_, ended, _, _, rfl⟩

end TwoCancellations

open TwoCancellations BusyHour

/-- If the messages are recorded in order the record is. -/
theorem sessions_recorded_inOrder : ∃ t, Reaches calls start inOrder t ∧ OnRecord busy inOrder t ∧
    Separate busy inOrder ∧ Quiet busy t ∧ Paired busy inOrder t ∧
    (rows busy inOrder).map (·.2.content) = ["cancel", answer, "stop", answer] := by
  obtain ⟨t, hreaches, hover⟩ := reaches_inOrder
  have hrecord : OnRecord busy inOrder t := sessions_recorded hreaches rfl busy
  have hseparate : Separate busy inOrder := by decide +kernel
  have hrows : (rows busy inOrder).map (·.2.content) = ["cancel", answer, "stop", answer] := by
    decide +kernel
  exact ⟨t, hreaches, hrecord, hseparate, hover.quiet, hrecord.paired hseparate hover.quiet, hrows⟩

/-- When they are not, the turns of both messages are mixed, and the record is not a list of pairs.
The history still is one. -/
theorem torn_not_paired : ∃ t, Reaches calls start torn t ∧ Quiet busy t ∧ ¬ Paired busy torn t ∧
    (rows busy torn).map (·.2.content) = ["cancel", "stop", answer, answer] ∧
    (t.shared.table.get? busy).map (·.conversation.history.turns.map (·.content)) =
      some ["cancel", answer, "stop", answer] := by
  obtain ⟨t, hreaches, hover⟩ := reaches_torn
  have hquiet := hover.quiet
  obtain ⟨past, past', rfl⟩ := hover
  have hrows : (rows busy torn).map (·.2.content) = ["cancel", "stop", answer, answer] := by
    decide +kernel
  have hroles : ((rows busy torn).map (·.2)).map (·.role) =
      [.user, .user, .assistant, .assistant] := by decide +kernel
  have hhistory : (closed.get? busy).map (·.conversation.history.turns.map (·.content)) =
      some ["cancel", answer, "stop", answer] := by decide +kernel
  refine ⟨_, hreaches, hquiet, fun hpaired => ?_, hrows, hhistory⟩
  -- in a list of pairs the second row is an answer
  obtain ⟨answered, -, -, hpairs⟩ := hpaired.pairs
  have hmixed := congrArg (List.map (·.role)) hpairs
  rw [hroles] at hmixed
  cases answered with
  | nil => cases hmixed
  | cons x answered => simp [exchanged] at hmixed

end Automation.Session
