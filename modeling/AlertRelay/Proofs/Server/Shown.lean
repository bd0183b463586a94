/-
AlertRelay/Proofs/Server/Shown.lean

What somebody sees who asks for the states.

The answer is a text, and whoever reads it as JSON finds one member for each state, under its key,
with the text of the state as its value (`shown_dump`).  Nothing is lost in the text: the members
are those of the states that were asked for, in their order.

Which states these are is decided when the question gets into the intake: it is answered with what
is due then, in however many steps the owner comes to it (`snapshot_of_running`).  A question that
never gets in has no answer.
-/
import AlertRelay.Proofs.Payload.Native
import AlertRelay.Proofs.Store.Due
import AlertRelay.Server.Response

namespace AlertRelay

/-! ### Texts of values -/

/-- **A value that the relay writes** is read back as a whole text. -/
theorem Json.parse_write {v : Json} (hv : Plain maxDepth v) : parse (utf8 v.write) = .ok v := by
  have hread : value maxDepth (spelled (chars v) ++ []) = .ok (v, []) := value_chars hv trivial
  rw [List.append_nil] at hread
  rw [parse, readWhole, write, utf8_ofList, hread]
  rfl

/-- A state opens two brackets, its own and that of its labels. -/
theorem CachedState.plain_toJson (s : CachedState) (depth : Nat) :
    Json.Plain (depth + 2) s.toJson := by
  refine .object fun m hm => ?_
  rcases s.value_of_mem hm with ⟨f, hv⟩ | hv
  · exact Event.plain_value hv depth
  · rw [hv]
    exact .integer _ (Json.isWhole_toInt s.ttl)

/-- **The text of some states** spells their objects under their keys. -/
theorem States.parse_json (states : States) :
    Json.parse (utf8 states.json) =
      .ok (.object (states.toList.map fun e => (e.1, e.2.toJson))) := by
  refine Json.parse_write (.object fun m hm => ?_)
  obtain ⟨e, -, rfl⟩ := List.mem_map.1 hm
  exact e.2.plain_toJson 124

theorem KeyedMap.lookup_map {α β : Type} (f : α → β) (key : String)
    (entries : List (String × α)) :
    lookup key (entries.map fun e => (e.1, f e.2)) = (lookup key entries).map f := by
  induction entries with
  | nil => rfl
  | cons e rest ih =>
    by_cases hk : key = e.1
    · simp [lookup, hk]
    · simp [lookup, hk, ih]

/-! ### Answers -/

namespace Response

/-- The answer that shows some states. -/
def dump (states : States) : Response :=
  { type := some "application/json", text := states.json }

/-- The members of an answer that is an object, each with the text of its value. -/
def shown (r : Response) : List (String × String) :=
  match Json.parse (utf8 r.text) with
  | .ok (.object members) => members.map fun m => (m.1, m.2.write)
  | _ => []

/-- The text of a member. -/
def textUnder (r : Response) (key : String) : Option String :=
  KeyedMap.lookup key r.shown

/-- **What is shown** of some states. -/
theorem shown_dump (states : States) :
    (dump states).shown = states.toList.map fun e => (e.1, e.2.json) := by
  simp only [shown, dump, states.parse_json, List.map_map]
  rfl

theorem textUnder_dump (states : States) (key : String) :
    (dump states).textUnder key = (states.get? key).map CachedState.json := by
  rw [textUnder, shown_dump]
  exact KeyedMap.lookup_map CachedState.json key states.toList

end Response

/-! ### Questions -/

namespace Store

/-- **A question** to an owner that is at work in the end is answered with what was due when it got
into the intake, or it never got in. -/
theorem snapshot_of_running (s : Store) (moments : List Action)
    (ho : (s.snapshot moments).2.owner = .running) :
    (∃ k, (s.run (moments.take k)).owner = .running ∧
        (s.snapshot moments).1 = .ended (.ok (s.run (moments.take k)).due)) ∨
      ((s.snapshot moments).1 = .waiting ∧
        ∀ k, (s.run (moments.take k)).capacity ≤ (s.run (moments.take k)).waiting.length) := by
  unfold snapshot at ho ⊢
  have hsubmitted := submitted s.withTicket (.snapshot s.tickets) moments
  generalize submit (.snapshot s.tickets) moments s.withTicket = result at hsubmitted ho ⊢
  cases hsubmitted with
  | accepted k s' offer =>
    left
    rw [run_withTicket] at offer
    obtain ⟨-, -, hs'⟩ := offer_eq_accepted_iff.1 offer
    have howner : s'.owner = .running := (takeMany_owner _ s').symm.trans ho
    have hbefore : (s.run (moments.take k)).owner = .running := by
      rw [← howner, hs']
      rfl
    have hdue : s'.due = (s.run (moments.take k)).due := due_of_accepted offer
    have hwaiting : s'.waiting =
        (s.run (moments.take k)).waiting ++ [.snapshot s.tickets] := by
      rw [hs']
      rfl
    refine ⟨k, hbefore, ?_⟩
    show s'.settle.answerTo s.tickets = _
    rw [answerTo_settle howner hwaiting, hdue]
  | timedOut full =>
    refine .inr ⟨rfl, fun k => ?_⟩
    have hfull := full k
    rw [run_withTicket] at hfull
    exact (offer_eq_full_iff.1 hfull).2
  | closed k stopped =>
    rw [stopped] at ho
    cases ho

/-- A question does not stop the owner. -/
theorem snapshot_owner {s : Store} {moments : List Action}
    (ho : ∀ k, (s.run (moments.take k)).owner = .running) :
    (s.snapshot moments).2.owner = .running := by
  unfold snapshot
  have hsubmitted := submitted s.withTicket (.snapshot s.tickets) moments
  generalize submit (.snapshot s.tickets) moments s.withTicket = result at hsubmitted ⊢
  cases hsubmitted with
  | accepted k s' offer =>
    rw [run_withTicket] at offer
    obtain ⟨-, -, hs'⟩ := offer_eq_accepted_iff.1 offer
    show s'.settle.owner = .running
    rw [settle, takeMany_owner, hs']
    exact ho k
  | timedOut full =>
    show (s.withTicket.run moments).owner = .running
    rw [run_withTicket, ← List.take_length (l := moments)]
    exact ho moments.length
  | closed k stopped =>
    rw [run_withTicket] at stopped
    exact absurd (stopped.symm.trans (ho k)) (by decide)

variable {s : Store} {path target : String} {n : Network} {now : Int64} {moments : List Action}
  {body : Body}

/-- A question for the states is one to the store, unless it is at the place where health is asked
for. -/
theorem answer_get (hat : Route.isAt path target = true)
    (hhealth : Route.isAt healthPath target = false) :
    s.answer path n now moments { method := "GET", target, body } =
      ⟨Response.ofStates (s.snapshot moments).1, (s.snapshot moments).2, none⟩ := by
  simp [answer, hat, hhealth]

/-- **Who asks** an owner that is at work in the end is shown what was due at some moment of the
waiting, or there was no room at any. -/
theorem answer_get_of_running (hat : Route.isAt path target = true)
    (hhealth : Route.isAt healthPath target = false)
    (ho : (s.answer path n now moments { method := "GET", target, body }).store.owner = .running) :
    (∃ k, (s.run (moments.take k)).owner = .running ∧
        (s.answer path n now moments { method := "GET", target, body }).response =
          some (.dump (s.run (moments.take k)).due)) ∨
      ((s.answer path n now moments { method := "GET", target, body }).response = none ∧
        ∀ k, (s.run (moments.take k)).capacity ≤ (s.run (moments.take k)).waiting.length) := by
  rw [answer_get hat hhealth] at ho ⊢
  rcases s.snapshot_of_running moments ho with ⟨k, hbefore, hanswer⟩ | ⟨hwaiting, hfull⟩
  · left
    refine ⟨k, hbefore, ?_⟩
    show Response.ofStates (s.snapshot moments).1 = _
    rw [hanswer]
    rfl
  · right
    refine ⟨?_, hfull⟩
    show Response.ofStates (s.snapshot moments).1 = _
    rw [hwaiting]
    rfl

end Store

end AlertRelay
