/-
AlertRelay/Proofs/Probe/Relay.lean

Findings, relayed.

Of a stream of findings those about no host are passed over, and what is left is a run of sends:
one for each other finding, in the order of their arrival (`Delivery.notify_eq_sendAll`).  A send
that fails, for the event or for the queue, is one of the run like any other, so nothing that goes
wrong ends it or keeps a later finding from its turn.

On a queue that refuses nothing it can be said in advance what comes of the run: the list holds the
events that lack nothing, the newest first.  What such an event says is what was found
(`Finding.event_eq_ok_iff`).
-/
import AlertRelay.Proofs.Probe.Reports

namespace AlertRelay

namespace Finding

/-! ### The event about a finding -/

/-- What an event tells of a finding. -/
structure Tells (f : Finding) (e : Event) : Prop where
  entity : f.entity = .ok e.entity
  check : e.check = f.monitor
  type : e.type = "service"
  state : e.state = if f.up then "ok" else "critical"
  time : e.time = f.time
  summary : e.summary = f.message ++ " [" ++ toString f.latencyMs ++ "ms]"
  details : e.details = none
  tags : e.tags = none

variable {f : Finding}

/-- **The event about a finding** is there if it is about a host, and tells what was found. -/
theorem event_eq_ok_iff {e : Event} : f.event = .ok e ↔ f.Tells e := by
  cases hentity : f.entity with
  | error fault =>
    constructor
    · intro he
      simp [event, hentity, Except.map] at he
    · intro h
      rw [h.entity] at hentity
      cases hentity
  | ok entity =>
    have hevent : f.event = .ok (.service entity f.monitor f.state f.summary f.time) := by
      rw [event, hentity]
      rfl
    rw [hevent, Except.ok.injEq]
    constructor
    · rintro rfl
      exact ⟨hentity, rfl, rfl, rfl, rfl, rfl, rfl, rfl⟩
    · intro h
      obtain rfl : entity = e.entity := Except.ok.inj (hentity.symm.trans h.entity)
      obtain ⟨entity', check, type, state, summary, time, details, tags⟩ := e
      obtain ⟨-, rfl, rfl, rfl, rfl, rfl, rfl, rfl⟩ := h
      rfl

theorem Tells.state_eq_ok_iff {e : Event} (h : f.Tells e) : e.state = "ok" ↔ f.up = true := by
  rw [h.state]
  cases f.up <;> decide

theorem exists_event_iff : (∃ e, f.event = .ok e) ↔ ∃ entity, f.entity = .ok entity := by
  constructor
  · rintro ⟨e, he⟩
    exact ⟨e.entity, (event_eq_ok_iff.1 he).entity⟩
  · rintro ⟨entity, hentity⟩
    exact ⟨_, by rw [event, hentity]; rfl⟩

/-- **The host** of a connection is everything before the last colon. -/
theorem entity_tcp_iff (htcp : f.kind = .tcp) {host : String} :
    f.entity = .ok host ↔ ∃ port, ':' ∉ port.toList ∧ f.target = host ++ ":" ++ port := by
  have hentity : f.entity = .ok host ↔ ∃ port, splitLastColon? f.target = some (host, port) := by
    unfold entity
    rw [htcp]
    dsimp only
    cases hsplit : splitLastColon? f.target with
    | none => simp
    | some parts =>
      obtain ⟨before, after⟩ := parts
      simp
  rw [hentity]
  exact exists_congr fun port => splitLastColon?_eq_some_iff

/-- A target without a colon names no connection. -/
theorem exists_event_tcp_iff (htcp : f.kind = .tcp) :
    (∃ e, f.event = .ok e) ↔ ':' ∈ f.target.toList := by
  rw [exists_event_iff]
  constructor
  · rintro ⟨host, hhost⟩
    obtain ⟨port, -, htarget⟩ := (entity_tcp_iff htcp).1 hhost
    simp [htarget]
  · intro hcolon
    -- the last colon is the first one from the end
    obtain ⟨after, before, hback, hfree⟩ := List.eq_append_cons_of_mem (List.mem_reverse.2 hcolon)
    refine ⟨String.ofList before.reverse, (entity_tcp_iff htcp).2 ⟨.ofList after.reverse, ?_, ?_⟩⟩
    · simpa using hfree
    · have htarget := congrArg List.reverse hback
      rw [List.reverse_reverse] at htarget
      rw [← String.toList_inj, htarget]
      simp

end Finding

namespace Delivery

variable (d : Delivery) (findings : List Finding) (q : Queue)

/-! ### A stream of findings -/

/-- The events about the findings of a stream, in its order. -/
def eventsOf : List Event :=
  findings.filterMap fun f => f.event.toOption

/-- **A stream of findings** is a run of sends. -/
theorem notify_eq_sendAll :
    d.notify findings q = (sendAll ((eventsOf findings).map fun e => (d, e)) q).2 := by
  unfold notify eventsOf
  induction findings generalizing q with
  | nil => rfl
  | cons f findings ih =>
    rw [List.foldl_cons, ih, List.filterMap_cons]
    unfold notifyOne
    cases f.event with
    | error fault => rfl
    | ok e => rfl

/-- How a stream of findings is relayed. -/
structure Relays : Prop where
  /-- Each finding about a host is tried once, in the order of arrival, whatever becomes of the
  others; no other finding is tried. -/
  attempts : d.notify findings q = (sendAll ((eventsOf findings).map fun e => (d, e)) q).2
  /-- There are as many answers as findings about a host, also after one that is a fault. -/
  answers : (sendAll ((eventsOf findings).map fun e => (d, e)) q).1.length =
    findings.countP fun f => f.entity.isOk
  /-- On a queue that refuses nothing, what lacks nothing comes to lie on the list. -/
  events : q.Open → (d.notify findings q).events d.name =
    ((eventsOf findings).filter fun e => e.IsComplete).reverse ++ q.events d.name
  /-- An event tells what was found. -/
  tells : ∀ (f : Finding) (e : Event), f.event = .ok e ↔ f.Tells e
  state : ∀ (f : Finding) (e : Event), f.event = .ok e → (e.state = "ok" ↔ f.up = true)
  /-- A connection is about everything before the last colon of its target. -/
  host : ∀ f : Finding, f.kind = .tcp → ∀ host, f.entity = .ok host ↔
    ∃ port, ':' ∉ port.toList ∧ f.target = host ++ ":" ++ port
  /-- Without a colon it is about nothing. -/
  colon : ∀ f : Finding, f.kind = .tcp → ((∃ e, f.event = .ok e) ↔ ':' ∈ f.target.toList)

/-- **A stream of findings is relayed** to its end, each finding about a host in one attempt. -/
theorem notify_relays : d.Relays findings q where
  attempts := d.notify_eq_sendAll findings q
  answers := by
    rw [length_sendAll, List.length_map, eventsOf, List.length_filterMap_eq_countP]
    apply List.countP_congr
    intro f _
    unfold Finding.event
    cases f.entity <;> rfl
  events hq := by
    rw [d.notify_eq_sendAll findings q]
    exact d.events_sendAll_same (eventsOf findings) hq
  tells _ _ := Finding.event_eq_ok_iff
  state _ _ he := (Finding.event_eq_ok_iff.1 he).state_eq_ok_iff
  host _ htcp _ := Finding.entity_tcp_iff htcp
  colon _ htcp := Finding.exists_event_tcp_iff htcp

end Delivery

end AlertRelay
