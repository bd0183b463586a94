/-
AlertRelay/Proofs/Delivery/Lists.lean

What sends leave on the lists.

A send comes to one of a few ends, and each is known by what it does to the lists (`sent`): the
event lacks something and nothing is pushed; the event is refused; the event is put and the mark
after it is refused; or all that is due is put.  The third end is the only one that fails and yet
changes a list: no push takes an event back, so the event stays without its
mark, and the consumers that wait for one are not told of it.

A queue that refuses nothing knows only the first end and the last.  What a send puts on a list
then depends on the event and on the names alone (`puts`), and after any number of sends a list is
made of what each of them has put on it, the newest first (`list_sendAll`).  A mark is no event, so
the events among the payloads are those that were sent to this very list, whatever other list takes
its marks here (`events_sendAll`).
-/
import AlertRelay.Delivery
import AlertRelay.Proofs.Event.Json
import AlertRelay.Tick

namespace AlertRelay

/-! ### Complete events -/

namespace MissingField

/-- The required fields, in the order in which they are looked at. -/
def order : List MissingField :=
  [.entity, .check, .state, .summary]

/-- What an event holds in a required field. -/
def text (e : Event) : MissingField → String
  | .entity => e.entity
  | .check => e.check
  | .state => e.state
  | .summary => e.summary

end MissingField

namespace Event

/-- An event in which no required field is empty. -/
def IsComplete (e : Event) : Prop :=
  ∀ f ∈ MissingField.order, f.text e ≠ ""

instance (e : Event) : Decidable e.IsComplete :=
  inferInstanceAs (Decidable (∀ f ∈ MissingField.order, f.text e ≠ ""))

/-- The complaint is about the first required field that is empty. -/
theorem missing?_eq_find? (e : Event) :
    e.missing? = MissingField.order.find? fun f => f.text e = "" := by
  unfold missing? MissingField.order
  split_ifs <;> simp_all [MissingField.text]

theorem missing?_eq_none_iff {e : Event} : e.missing? = none ↔ e.IsComplete := by
  rw [missing?_eq_find?, List.find?_eq_none]
  simp [IsComplete]

/-- A mark is no event. -/
theorem parse_actionMark : (parse actionMark).toOption = none := rfl

end Event

/-! ### One push -/

namespace Queue

/-- A push that is not refused answers with the length of its list. -/
theorem push_of_accepted {q : Queue} {name : String} {payload : Bytes}
    (h : q.refuses q.attempts name payload = none) :
    q.push name payload =
      (.ok ((q.put name payload).list name).length,
        { q.put name payload with attempts := q.attempts + 1 }) := by
  simp only [push, h]
  rfl

theorem push_of_refused {q : Queue} {name : String} {payload : Bytes} {fault : QueueFault}
    (h : q.refuses q.attempts name payload = some fault) :
    q.push name payload = (.error fault, { q with attempts := q.attempts + 1 }) := by
  simp only [push, h]

end Queue

/-! ### One send -/

namespace Delivery

variable (d : Delivery) (e : Event) (q : Queue)

/-- The ends of a send. -/
inductive Sent : Except SendFault Nat × Queue → Prop where
  /-- The event lacks a field. -/
  | lacks (f : MissingField) (missing : e.missing? = some f) : Sent (.error (.invalid f), q)
  /-- The event is refused. -/
  | refused (fault : QueueFault) (complete : e.IsComplete)
      (event : q.refuses q.attempts d.name (utf8 e.json) = some fault) :
      Sent (.error (.queue fault), { q with attempts := q.attempts + 1 })
  /-- The event is put and its mark is refused. -/
  | unmarked (fault : QueueFault) (complete : e.IsComplete)
      (event : q.refuses q.attempts d.name (utf8 e.json) = none) (waits : 2 ≤ d.version)
      (mark : q.refuses (q.attempts + 1) (actionsList d.name) actionMark = some fault) :
      Sent (.error (.queue fault),
        { q.put d.name (utf8 e.json) with attempts := q.attempts + 2 })
  /-- The event is put, for consumers that wait for no mark. -/
  | unwaited (complete : e.IsComplete)
      (event : q.refuses q.attempts d.name (utf8 e.json) = none) (waits : ¬ 2 ≤ d.version) :
      Sent (.ok ((q.put d.name (utf8 e.json)).list d.name).length,
        { q.put d.name (utf8 e.json) with attempts := q.attempts + 1 })
  /-- The event is put and its mark after it. -/
  | marked (complete : e.IsComplete)
      (event : q.refuses q.attempts d.name (utf8 e.json) = none) (waits : 2 ≤ d.version)
      (mark : q.refuses (q.attempts + 1) (actionsList d.name) actionMark = none) :
      Sent (.ok ((q.put d.name (utf8 e.json)).list d.name).length,
        { (q.put d.name (utf8 e.json)).put (actionsList d.name) actionMark with
          attempts := q.attempts + 2 })

/-- **A send** comes to one of its ends. -/
theorem sent : d.Sent e q (d.send e q) := by
  unfold send
  split
  · rename_i f hmissing
    exact .lacks f hmissing
  · rename_i hmissing
    have hcomplete := Event.missing?_eq_none_iff.1 hmissing
    cases hevent : q.refuses q.attempts d.name (utf8 e.json) with
    | some fault =>
      rw [Queue.push_of_refused hevent]
      exact .refused fault hcomplete hevent
    | none =>
      rw [Queue.push_of_accepted hevent]
      by_cases hwaits : 2 ≤ d.version
      · cases hmark : q.refuses (q.attempts + 1) (actionsList d.name) actionMark with
        | some fault =>
          have hpush := Queue.push_of_refused
            (q := { q.put d.name (utf8 e.json) with attempts := q.attempts + 1 }) hmark
          simp only [mark, hwaits, if_true, hpush]
          exact .unmarked fault hcomplete hevent hwaits hmark
        | none =>
          have hpush := Queue.push_of_accepted
            (q := { q.put d.name (utf8 e.json) with attempts := q.attempts + 1 }) hmark
          simp only [mark, hwaits, if_true, hpush]
          exact .marked hcomplete hevent hwaits hmark
      · simp only [mark, hwaits, if_false]
        exact .unwaited hcomplete hevent hwaits

/-! ### Sends that fail -/

/-- The event is put and the mark that is due after it is refused. -/
def LeavesUnmarked : Prop :=
  e.IsComplete ∧ q.refuses q.attempts d.name (utf8 e.json) = none ∧ 2 ≤ d.version ∧
    q.refuses (q.attempts + 1) (actionsList d.name) actionMark ≠ none

variable {d e q}

/-- **A failed send** leaves all lists as they were, unless its event is put and the mark for it is
refused; then the event is at the head of its list and nothing else has changed. -/
theorem failed_send_lists (hfailed : (d.send e q).1.isOk = false) :
    ((∀ name, (d.send e q).2.list name = q.list name) ↔ ¬ d.LeavesUnmarked e q) ∧
      (d.LeavesUnmarked e q →
        ∀ name, (d.send e q).2.list name = (q.put d.name (utf8 e.json)).list name) := by
  have hsent := d.sent e q
  generalize d.send e q = result at hsent hfailed ⊢
  cases hsent with
  | lacks f missing =>
    have hnot : ¬ d.LeavesUnmarked e q := fun h => by
      rw [Event.missing?_eq_none_iff.2 h.1] at missing
      cases missing
    exact ⟨iff_of_true (fun name => rfl) hnot, fun h => absurd h hnot⟩
  | refused fault complete event =>
    have hnot : ¬ d.LeavesUnmarked e q := fun h => by
      rw [h.2.1] at event
      cases event
    exact ⟨iff_of_true (fun name => rfl) hnot, fun h => absurd h hnot⟩
  | unmarked fault complete event waits mark =>
    have hleaves : d.LeavesUnmarked e q := ⟨complete, event, waits, by simp [mark]⟩
    refine ⟨iff_of_false (fun hsame => ?_) (not_not_intro hleaves), fun _ name => rfl⟩
    -- the list of events is longer by one
    have hlist : (q.put d.name (utf8 e.json)).list d.name = q.list d.name := hsame d.name
    rw [Queue.list_put, if_pos rfl] at hlist
    exact absurd (congrArg List.length hlist) (by simp)
  | unwaited complete event waits => cases hfailed
  | marked complete event waits mark => cases hfailed

/-- A queue that takes events and refuses their marks. -/
def marksRefused : Queue where
  refuses _ name _ :=
    if name = "events_actions" then some (.unavailable "connection reset") else none

/-- A report that all is well. -/
def pingFine : Event :=
  Event.service "web1" "ping" "ok" "fine" 1700000000

theorem failed_send_lists_marksRefused :
    ({} : Delivery).LeavesUnmarked pingFine marksRefused ∧
      ∀ name, (({} : Delivery).send pingFine marksRefused).2.list name =
        (marksRefused.put "events" (utf8 pingFine.json)).list name := by
  have hleaves : ({} : Delivery).LeavesUnmarked pingFine marksRefused := by
    refine ⟨by decide, by decide, by decide, by decide⟩
  exact ⟨hleaves, (failed_send_lists rfl).2 hleaves⟩

/-- **An event without its mark**: the send fails and the tick counts the state as failed, but the
event is on its list. -/
theorem event_left_unmarked :
    (({} : Delivery).send pingFine marksRefused).1 =
        .error (.queue (.unavailable "connection reset")) ∧
      (({} : Delivery).send pingFine marksRefused).2.list "events" = [utf8 pingFine.json] ∧
      marksRefused.list "events" = [] ∧
      (({} : Delivery).send pingFine marksRefused).2.list "events_actions" = [] ∧
      (Tick.attempt { now := 1700000000 } ⟨pingFine, 300⟩
          ⟨.ofIntake {}, marksRefused, {}⟩).1.failed = 1 :=
  ⟨rfl, rfl, rfl, rfl, rfl⟩

variable (d e q)

/-! ### Sends to a queue that refuses nothing -/

/-- What handing an event over puts on a list, the newest first. -/
def puts (name : String) : List Bytes :=
  if e.IsComplete then
    (if 2 ≤ d.version ∧ name = actionsList d.name then [actionMark] else []) ++
      if name = d.name then [utf8 e.json] else []
  else []

/-- What the sender is told: the first required field that is empty, or how long the list is with
the event. -/
def answer : Except SendFault Nat :=
  match MissingField.order.find? fun f => f.text e = "" with
  | some f => .error (.invalid f)
  | none => .ok ((q.put d.name (utf8 e.json)).list d.name).length

/-- A list does not take its own marks, since its name is shorter than that of their list. -/
theorem ne_actionsList (name : String) : name ≠ actionsList name := fun he => by
  have hlength := congrArg String.length he
  simp [actionsList] at hlength

theorem puts_name : d.puts e d.name = if e.IsComplete then [utf8 e.json] else [] := by
  simp [puts, ne_actionsList]

/-- The events among what a send puts on a list. -/
theorem events_puts (name : String) :
    (d.puts e name).filterMap (fun payload => (Event.parse payload).toOption) =
      if d.name = name ∧ e.IsComplete then [e] else [] := by
  have hevent : (Event.parse (utf8 e.json)).toOption = some e := by
    rw [Event.parse_json]
    rfl
  unfold puts
  by_cases hcomplete : e.IsComplete
  · by_cases hname : name = d.name
    · subst hname
      simp [hcomplete, ne_actionsList, hevent]
    · have hother : ¬ (d.name = name ∧ e.IsComplete) := fun h => hname h.1.symm
      rw [if_pos hcomplete, if_neg hname, if_neg hother, List.append_nil]
      split_ifs
      · simp [Event.parse_actionMark]
      · rfl
  · simp [hcomplete]

end Delivery

/-- A queue that refuses nothing. -/
def Queue.Open (q : Queue) : Prop :=
  ∀ n name payload, q.refuses n name payload = none

namespace Delivery

variable {q : Queue}

/-- **One send** answers, puts what is due on each list, and leaves the queue as willing as it
was. -/
theorem send_of_open (d : Delivery) (e : Event) (hq : q.Open) :
    (d.send e q).1 = d.answer e q ∧ (d.send e q).2.Open ∧
      ∀ name, (d.send e q).2.list name = d.puts e name ++ q.list name := by
  have hsent := d.sent e q
  generalize d.send e q = result at hsent ⊢
  cases hsent with
  | lacks f missing =>
    have hfind := e.missing?_eq_find? ▸ missing
    have hnot : ¬ e.IsComplete := fun hc => by
      rw [Event.missing?_eq_none_iff.2 hc] at missing
      cases missing
    exact ⟨by simp [answer, hfind], hq, fun name => by simp [puts, hnot]⟩
  | refused fault complete event => simp [hq _ _ _] at event
  | unmarked fault complete event waits mark => simp [hq _ _ _] at mark
  | unwaited complete event waits =>
    have hfind := e.missing?_eq_find? ▸ Event.missing?_eq_none_iff.2 complete
    refine ⟨by simp [answer, hfind], hq, fun name => ?_⟩
    show (q.put d.name (utf8 e.json)).list name = _
    rw [Queue.list_put]
    split_ifs <;> simp_all [puts]
  | marked complete event waits mark =>
    have hfind := e.missing?_eq_find? ▸ Event.missing?_eq_none_iff.2 complete
    refine ⟨by simp [answer, hfind], hq, fun name => ?_⟩
    show ((q.put d.name (utf8 e.json)).put (actionsList d.name) actionMark).list name = _
    rw [Queue.list_put, Queue.list_put, Queue.list_put]
    split_ifs <;> simp_all [puts]

/-- Hands events over, one after the other: the answers, and the queue afterwards. -/
def sendAll : List (Delivery × Event) → Queue → List (Except SendFault Nat) × Queue
  | [], q => ([], q)
  | (d, e) :: sends, q =>
    let (result, q) := d.send e q
    let (results, q) := sendAll sends q
    (result :: results, q)

theorem sendAll_append (sends more : List (Delivery × Event)) (q : Queue) :
    sendAll (sends ++ more) q =
      ((sendAll sends q).1 ++ (sendAll more (sendAll sends q).2).1,
        (sendAll more (sendAll sends q).2).2) := by
  induction sends generalizing q with
  | nil => rfl
  | cons s sends ih => simp [sendAll, ih]

theorem length_sendAll (sends : List (Delivery × Event)) (q : Queue) :
    (sendAll sends q).1.length = sends.length := by
  induction sends generalizing q with
  | nil => rfl
  | cons s sends ih => simp [sendAll, ih]

/-- **A run of sends** puts on each list what each of them puts there, and leaves the queue as
willing as it was. -/
theorem sendAll_of_open (sends : List (Delivery × Event)) (hq : q.Open) :
    (sendAll sends q).2.Open ∧ ∀ name,
      (sendAll sends q).2.list name =
        (sends.reverse.flatMap fun s => s.1.puts s.2 name) ++ q.list name := by
  -- the first send comes to lie under what the others put
  induction sends generalizing q with
  | nil => exact ⟨hq, fun name => rfl⟩
  | cons s sends ih =>
    obtain ⟨-, hopen, hlist⟩ := send_of_open s.1 s.2 hq
    obtain ⟨hopen', hlist'⟩ := ih hopen
    refine ⟨hopen', fun name => ?_⟩
    show (sendAll sends (s.1.send s.2 q).2).2.list name = _
    rw [hlist', hlist]
    simp

theorem open_empty : ({} : Queue).Open := fun _ _ _ => rfl

/-- **The events** on a list after a run of sends: the complete ones that were sent to it, the
newest first, before those that were there. -/
theorem events_sendAll_of_open (sends : List (Delivery × Event)) (hq : q.Open) (name : String) :
    (sendAll sends q).2.events name =
      ((sends.filter fun s => s.1.name = name ∧ s.2.IsComplete).map (·.2)).reverse ++
        q.events name := by
  rw [Queue.events, (sendAll_of_open sends hq).2, List.filterMap_append, List.filterMap_flatMap,
    ← List.map_reverse, ← List.filter_reverse]
  refine congrArg (· ++ q.events name) ?_
  generalize sends.reverse = sends
  induction sends with
  | nil => rfl
  | cons s sends ih =>
    rw [List.flatMap_cons, ih, events_puts, List.filter_cons]
    by_cases h : s.1.name = name ∧ s.2.IsComplete <;> simp [h]

end Delivery

end AlertRelay
