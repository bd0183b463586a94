/-
AlertRelay/Proofs/Server/Post.lean

The answer to a post, and what it is worth.

Senders are always answered with the status 200, so all they learn is in the text.  A posted body is
dealt with in one of seven ways (`Dealt`), and only one of them brings a command into the intake.
This is the one that is answered with the state, and it is told apart from the others by its text
alone (`ofPost_eq_echo_iff`).  In the other six the store is what others have made of it.

The state that is shown to the sender is not read from the cache; it is the one that was offered.
So what it says about later questions has to be proved: the state is due from the moment on in which
it was accepted, a command of somebody else changes this only under the same key, and who asks is
shown what is due (`shows_of_accepted`).
-/
import AlertRelay.Proofs.Server.Body
import AlertRelay.Proofs.Server.Shown

namespace AlertRelay

/-! ### What a post comes to -/

/-- What a body that arrives at some time means. -/
def Body.Means (b : Body) (now : Int64) (n : Normalized) : Prop :=
  ∃ raw, b.read = .ok raw ∧ normalize raw now = .ok n

/-- A body has one meaning. -/
theorem Body.Means.unique {b : Body} {now : Int64} {m n : Normalized} (hm : b.Means now m)
    (hn : b.Means now n) : m = n := by
  obtain ⟨raw, hread, hmeaning⟩ := hm
  obtain ⟨raw', hread', hmeaning'⟩ := hn
  obtain rfl : raw = raw' := Except.ok.inj (hread.symm.trans hread')
  exact Except.ok.inj (hmeaning.symm.trans hmeaning')

/-- A body that means something can be gathered. -/
theorem Body.Means.read_ne {b : Body} {now : Int64} {m : Normalized} (hm : b.Means now m)
    (f : BodyFault) : b.read ≠ .error f := by
  obtain ⟨raw, hread, -⟩ := hm
  simp [hread]

/-- A body that means something is not refused. -/
theorem Body.Means.normalize_ne {b : Body} {now : Int64} {m : Normalized} (hm : b.Means now m)
    {raw : Bytes} (hread : b.read = .ok raw) (r : Refusal) : normalize raw now ≠ .error r := by
  obtain ⟨raw', hread', hmeaning⟩ := hm
  obtain rfl : raw = raw' := Except.ok.inj (hread.symm.trans hread')
  simp [hmeaning]

namespace Store

/-- Others have done something, and at some moment a state was accepted. -/
def Took (s : Store) (moments : List Action) (state : CachedState) (s' : Store) : Prop :=
  ∃ k, (s.run (moments.take k)).offer (.upsert state) = .accepted s'

/-- The ways in which a posted body is dealt with. -/
inductive Dealt (s : Store) (n : Network) (now : Int64) (moments : List Action) (b : Body) :
    Posted → Prop where
  /-- It cannot be gathered. -/
  | unread (f : BodyFault) (read : b.read = .error f) :
      Dealt s n now moments b { result := .refused (.body f), store := s }
  /-- It means nothing. -/
  | meaningless (raw : Bytes) (r : Refusal) (read : b.read = .ok raw)
      (refusal : normalize raw now = .error r) :
      Dealt s n now moments b { result := .refused (.payload r), store := s }
  | confirmed (url : String) (reply : Reply) (means : b.Means now (.confirmation url))
      (fetch : n.fetch url = .ok reply) :
      Dealt s n now moments b { result := .confirmed, store := s, asked := some url }
  | unconfirmed (url : String) (f : RequestFault) (means : b.Means now (.confirmation url))
      (fetch : n.fetch url = .error f) :
      Dealt s n now moments b
        { result := .refused (.confirmation f), store := s, asked := some url }
  | cached (state : CachedState) (shape : Shape) (s' : Store)
      (means : b.Means now (.state state shape)) (took : s.Took moments state s') :
      Dealt s n now moments b { result := .cached state, store := s' }
  /-- There is no room for it. -/
  | saturated (state : CachedState) (shape : Shape) (means : b.Means now (.state state shape))
      (full : ∀ k, (s.run (moments.take k)).offer (.upsert state) = .full) :
      Dealt s n now moments b
        { result := .refused (.store (.saturated (s.run moments).submitTimeout))
          store := s.run moments }
  /-- The owner has stopped before there was room. -/
  | closed (state : CachedState) (shape : Shape) (k : Nat)
      (means : b.Means now (.state state shape))
      (stopped : (s.run (moments.take k)).owner = .stopped) :
      Dealt s n now moments b
        { result := .refused (.store .closed), store := s.run (moments.take k) }

/-- **A post** is dealt with in one of seven ways. -/
theorem dealt (s : Store) (n : Network) (now : Int64) (moments : List Action) (b : Body) :
    Dealt s n now moments b (s.post n now moments b) := by
  unfold post
  split
  · rename_i f hread
    exact .unread f hread
  · rename_i raw hread
    split
    · rename_i r hrefusal
      exact .meaningless raw r hread hrefusal
    · rename_i state shape hmeaning
      have hmeans : b.Means now (.state state shape) := ⟨raw, hread, hmeaning⟩
      unfold cachePosted upsert
      have hsubmitted := s.submitted (.upsert state) moments
      generalize submit (.upsert state) moments s = result at hsubmitted ⊢
      cases hsubmitted with
      | accepted k s' offer => exact .cached state shape s' hmeans ⟨k, offer⟩
      | timedOut full => exact .saturated state shape hmeans full
      | closed k stopped => exact .closed state shape k hmeans stopped
    · rename_i url hmeaning
      have hmeans : b.Means now (.confirmation url) := ⟨raw, hread, hmeaning⟩
      unfold confirmPosted
      cases hfetch : n.fetch url with
      | ok reply => exact .confirmed url reply hmeans hfetch
      | error f => exact .unconfirmed url f hmeans hfetch

end Store

/-! ### What the sender is told -/

namespace Response

/-- The answer that shows the sender the text of a state. -/
def echo (json : String) : Response :=
  plain ("Caching state: " ++ json ++ "\n")

/-- No complaint looks like the text of a state. -/
theorem echo_ne_complaint (json text : String) : echo json ≠ plain ("Error: " ++ text) := by
  intro he
  have hfirst := congrArg (fun r => r.text.toList.head?) he
  simp [echo, plain] at hfirst

/-- **The answer with a state** is given if a state has been cached, and shows this state. -/
theorem ofPost_eq_echo_iff {result : PostResult} {json : String} :
    ofPost result = echo json ↔ ∃ s, result = .cached s ∧ json = s.json := by
  constructor
  · intro he
    cases result with
    | cached s =>
      have htext : "Caching state: " ++ s.json ++ "\n" = "Caching state: " ++ json ++ "\n" :=
        congrArg Response.text he
      refine ⟨s, rfl, ?_⟩
      simpa [eq_comm] using htext
    | confirmed => cases he
    | refused f =>
      have hcomplaint : echo json = plain ("Error: " ++ (f.message ++ "\n")) := by
        rw [← he, ofPost, String.append_assoc]
      exact absurd hcomplaint (echo_ne_complaint json _)
  · rintro ⟨s, rfl, rfl⟩
    rfl

theorem ofPost_status (result : PostResult) : (ofPost result).status = 200 := by
  cases result <;> rfl

end Response

/-- **The answer to a post** shows a state, is empty, or complains. -/
theorem Response.ofPost_cases (result : PostResult) :
    (∃ s, result = .cached s ∧ ofPost result = echo s.json) ∨
      ((∀ s, result ≠ .cached s) ∧
        (ofPost result = bare 200 ∨
          ∃ f : PostFault, ofPost result = plain ("Error: " ++ f.message ++ "\n"))) := by
  cases result with
  | cached s => exact .inl ⟨s, rfl, rfl⟩
  | confirmed => exact .inr ⟨by simp, .inl rfl⟩
  | refused f => exact .inr ⟨by simp, .inr ⟨f, rfl⟩⟩

namespace Store

variable {s : Store} {n : Network} {now : Int64} {moments : List Action} {b : Body} {p : Posted}

/-! ### What has become of the store -/

/-- An owner that has taken a state has not stopped. -/
theorem Took.owner_ne_stopped {state : CachedState} {s' : Store}
    (ht : s.Took moments state s') : s'.owner ≠ .stopped := by
  obtain ⟨k, offer⟩ := ht
  obtain ⟨howner, -, rfl⟩ := offer_eq_accepted_iff.1 offer
  exact howner

/-- **A body that means a state** is cached, or there is never room for it, or the owner has
stopped. -/
theorem Dealt.of_state (hd : Dealt s n now moments b p) {state : CachedState} {shape : Shape}
    (hmeans : b.Means now (.state state shape)) :
    (p.result = .cached state ∧ s.Took moments state p.store) ∨
      (∀ k, (s.run (moments.take k)).offer (.upsert state) = .full) ∨
      ∃ k, p.store = s.run (moments.take k) ∧ (s.run (moments.take k)).owner = .stopped := by
  cases hd with
  | unread f read => exact absurd read (hmeans.read_ne f)
  | meaningless raw r read refusal => exact absurd refusal (hmeans.normalize_ne read r)
  | confirmed url reply means fetch => cases means.unique hmeans
  | unconfirmed url f means fetch => cases means.unique hmeans
  | cached state' shape' s' means took =>
    obtain ⟨rfl, -⟩ := Normalized.state.inj (means.unique hmeans)
    exact .inl ⟨rfl, took⟩
  | saturated state' shape' means full =>
    obtain ⟨rfl, -⟩ := Normalized.state.inj (means.unique hmeans)
    exact .inr (.inl full)
  | closed state' shape' k means stopped => exact .inr (.inr ⟨k, rfl, stopped⟩)

/-- **A state is reported as cached** exactly if the body means it and the store has taken it. -/
theorem Dealt.result_eq_cached_iff (hd : Dealt s n now moments b p) {state : CachedState} :
    p.result = .cached state ↔
      (∃ shape, b.Means now (.state state shape)) ∧ s.Took moments state p.store := by
  constructor
  · intro hresult
    cases hd with
    | cached state' shape s' means took =>
      obtain rfl : state' = state := PostResult.cached.inj hresult
      exact ⟨⟨shape, means⟩, took⟩
    | _ => cases hresult
  · rintro ⟨⟨shape, hmeans⟩, htook⟩
    rcases hd.of_state hmeans with ⟨hresult, -⟩ | hfull | ⟨k, hstore, hstopped⟩
    · exact hresult
    · obtain ⟨k, offer⟩ := htook
      rw [hfull k] at offer
      cases offer
    · rw [← hstore] at hstopped
      exact absurd hstopped htook.owner_ne_stopped

/-- **Nothing else** brings anything in: the store is what others have made of it. -/
theorem Dealt.store_eq (hd : Dealt s n now moments b p) (hnot : ∀ state, p.result ≠ .cached state) :
    ∃ k, p.store = s.run (moments.take k) := by
  cases hd with
  | cached state shape s' means took => exact absurd rfl (hnot state)
  | saturated state shape means full => exact ⟨moments.length, by rw [List.take_length]⟩
  | closed state shape k means stopped => exact ⟨k, rfl⟩
  | _ => exact ⟨0, rfl⟩

/-- **The network** is asked exactly if the body is a subscription that is to be confirmed. -/
theorem Dealt.asked_eq_iff (hd : Dealt s n now moments b p) {url : String} :
    p.asked = some url ↔ b.Means now (.confirmation url) := by
  constructor
  · intro hasked
    cases hd with
    | confirmed url' reply means fetch =>
      obtain rfl : url' = url := Option.some.inj hasked
      exact means
    | unconfirmed url' f means fetch =>
      obtain rfl : url' = url := Option.some.inj hasked
      exact means
    | _ => cases hasked
  · intro hmeans
    cases hd with
    | unread f read => exact absurd read (hmeans.read_ne f)
    | meaningless raw r read refusal => exact absurd refusal (hmeans.normalize_ne read r)
    | confirmed url' reply means fetch =>
      obtain rfl := Normalized.confirmation.inj (means.unique hmeans)
      rfl
    | unconfirmed url' f means fetch =>
      obtain rfl := Normalized.confirmation.inj (means.unique hmeans)
      rfl
    | cached state shape s' means took => cases means.unique hmeans
    | saturated state shape means full => cases means.unique hmeans
    | closed state shape k means stopped => cases means.unique hmeans

/-! ### What is shown after it -/

/-- What is shown to somebody who asks after a state was accepted, if others have had some commands
accepted since. -/
structure ShowsAfter (before : States) (state : CachedState) (others : List Command)
    (shown : Response) : Prop where
  status : shown.status = 200
  /-- The state, unless one of the commands is about its key. -/
  own : (∀ c ∈ others, c.key? ≠ some state.key) → shown.textUnder state.key = some state.json
  /-- Everything else as if nothing had been posted. -/
  rest : ∀ key, key ≠ state.key → shown.textUnder key =
    ((others.foldl Command.apply before).get? key).map CachedState.json

theorem showsAfter_dump (before : States) (state : CachedState) (others : List Command) :
    ShowsAfter before state others
      (.dump (others.foldl Command.apply (before.insert state.key state))) where
  status := rfl
  own := by
    intro hother
    rw [Response.textUnder_dump, get?_foldl_apply, lastWord_eq_none_iff.2 hother,
      KeyedMap.get?_insert, if_pos rfl]
    rfl
  rest := by
    intro key hkey
    rw [Response.textUnder_dump, get?_foldl_apply, get?_foldl_apply, KeyedMap.get?_insert,
      if_neg hkey]

/-- **Who asks later** is shown the state that was accepted, or there is no room for the
question. -/
theorem shows_of_accepted {before after : Store} {state : CachedState}
    (offer : before.offer (.upsert state) = .accepted after) (between later : List Action)
    {path target : String} {body : Body} (hat : Route.isAt path target = true)
    (hhealth : Route.isAt healthPath target = false)
    (ho : ((after.run between).answer path n now later
      { method := "GET", target, body }).store.owner = .running) :
    (∃ i shown, ((after.run between).answer path n now later
          { method := "GET", target, body }).response = some shown ∧
        ShowsAfter before.due state (after.accepts (between ++ later.take i)) shown) ∨
      (((after.run between).answer path n now later
          { method := "GET", target, body }).response = none ∧
        ∀ i, (after.run (between ++ later.take i)).capacity ≤
          (after.run (between ++ later.take i)).waiting.length) := by
  rcases answer_get_of_running hat hhealth ho with ⟨i, howner, hanswer⟩ | ⟨hnone, hfull⟩
  · left
    rw [← run_append] at howner hanswer
    have hdue : (after.run (between ++ later.take i)).due =
        (after.accepts (between ++ later.take i)).foldl Command.apply
          (before.due.insert state.key state) := by
      rw [due_run (by simp [howner]), due_of_accepted offer]
      rfl
    rw [hdue] at hanswer
    exact ⟨i, _, hanswer, showsAfter_dump _ _ _⟩
  · right
    refine ⟨hnone, fun i => ?_⟩
    rw [run_append]
    exact hfull i

/-- A post at the place of the states. -/
theorem answer_post {path target : String} (hat : Route.isAt path target = true) :
    s.answer path n now moments { method := "POST", target, body := b } =
      ⟨some (.ofPost (s.post n now moments b).result), (s.post n now moments b).store,
        (s.post n now moments b).asked⟩ := by
  simp [answer, hat]

/-- What the answer to a posted body is worth. -/
structure Truthful (s : Store) (path : String) (n : Network) (now : Int64) (moments : List Action)
    (b : Body) (a : Answered) : Prop where
  /-- There is an answer, and its status is 200. -/
  answered : ∃ response, a.response = some response ∧ response.status = 200
  /-- It shows the text of a state exactly if the body means this state and the store has taken
  it. -/
  echo : ∀ json, a.response = some (.plain ("Caching state: " ++ json ++ "\n")) ↔
    ∃ state shape, b.Means now (.state state shape) ∧ s.Took moments state a.store ∧
      json = state.json
  /-- Otherwise it is empty or a complaint, and the store is what others have made of it. -/
  otherwise : (∃ json, a.response = some (.plain ("Caching state: " ++ json ++ "\n"))) ∨
    (a.response = some (.bare 200) ∨
        ∃ f : PostFault, a.response = some (.plain ("Error: " ++ f.message ++ "\n"))) ∧
      ∃ k, a.store = s.run (moments.take k)
  /-- The network is asked exactly if the body is a subscription that is to be confirmed. -/
  asked : ∀ url, a.asked = some url ↔ b.Means now (.confirmation url)
  /-- Whoever asks an owner at work after the store has taken a state is shown it, unless there is
  no room for the question. -/
  shown : ∀ state k, (s.run (moments.take k)).offer (.upsert state) = .accepted a.store →
    ∀ (between later : List Action) (n' : Network) (now' : Int64) (target : String) (b' : Body),
      Route.isAt path target = true → Route.isAt healthPath target = false →
      ∀ q : Answered,
        q = (a.store.run between).answer path n' now' later
          { method := "GET", target, body := b' } →
        q.store.owner = .running →
        (∃ i shown, q.response = some shown ∧
            ShowsAfter (s.run (moments.take k)).due state
              (a.store.accepts (between ++ later.take i)) shown) ∨
          (q.response = none ∧ ∀ i, (a.store.run (between ++ later.take i)).capacity ≤
            (a.store.run (between ++ later.take i)).waiting.length)

/-- **The answer to a post tells the truth**, whatever is posted, whatever the network answers, and
however it stands with the store. -/
theorem answer_truthful (s : Store) (path target : String) (n : Network) (now : Int64)
    (moments : List Action) (b : Body) (hat : Route.isAt path target = true) :
    Truthful s path n now moments b
      (s.answer path n now moments { method := "POST", target, body := b }) := by
  rw [answer_post hat]
  have hdealt := s.dealt n now moments b
  generalize s.post n now moments b = p at hdealt ⊢
  refine ⟨⟨_, rfl, Response.ofPost_status p.result⟩, fun json => ?_, ?_,
    fun url => hdealt.asked_eq_iff, ?_⟩
  · have hecho : some (Response.ofPost p.result) = some (.echo json) ↔
        ∃ state, p.result = .cached state ∧ json = state.json := by
      rw [Option.some.injEq, Response.ofPost_eq_echo_iff]
    refine hecho.trans ⟨?_, ?_⟩
    · rintro ⟨state, hresult, rfl⟩
      obtain ⟨⟨shape, hmeans⟩, htook⟩ := hdealt.result_eq_cached_iff.1 hresult
      exact ⟨state, shape, hmeans, htook, rfl⟩
    · rintro ⟨state, shape, hmeans, htook, rfl⟩
      exact ⟨state, hdealt.result_eq_cached_iff.2 ⟨⟨shape, hmeans⟩, htook⟩, rfl⟩
  · rcases Response.ofPost_cases p.result with ⟨state, -, hecho⟩ | ⟨hnot, hother⟩
    · exact .inl ⟨state.json, congrArg some hecho⟩
    · refine .inr ⟨?_, hdealt.store_eq hnot⟩
      rcases hother with hbare | ⟨f, hcomplaint⟩
      · exact .inl (congrArg some hbare)
      · exact .inr ⟨f, congrArg some hcomplaint⟩
  · rintro state k offer between later n' now' target' b' hat' hhealth q rfl ho
    exact shows_of_accepted offer between later hat' hhealth ho

/-- A report that all is well. -/
def fine : CachedState where
  event := { Event.service "web1" "ping" "ok" "fine" 1700000000 with
    tags := some (.ofList [(fromBroker, brokerName)]) }
  ttl := 300

/-- The report in two chunks. -/
def fineBody : Body where
  chunks := [(utf8 fine.json).take 20, (utf8 fine.json).drop 20]

theorem means_fineBody (now : Int64) : fineBody.Means now (.state fine .native) := by
  have hchunks : fineBody.chunks.flatten = utf8 fine.json := by
    simp [fineBody]
  have hlength : (utf8 fine.json).length ≤ Body.limit := by decide +kernel
  refine ⟨utf8 fine.json, ?_, ?_⟩
  · rw [Body.read_of_le rfl (by rwa [hchunks]), hchunks]
  · refine (normalize_json_iff fine).2 ⟨by decide, by decide, by decide, by decide, ?_⟩ now
    exact ⟨_, brokerName, rfl, by decide, by decide⟩

/-- An empty store that has been posted the report. -/
def fineAnswered : Answered :=
  (ofIntake {}).start.answer "/state" .isolated 1700000000 []
    { method := "POST", target := "/state", body := fineBody }

theorem fineAnswered_store :
    fineAnswered.store = { (ofIntake {}).start with waiting := [.upsert fine] } := by
  have hat : Route.isAt "/state" "/state" = true := by decide +kernel
  obtain ⟨raw, hread, hmeaning⟩ := means_fineBody 1700000000
  rw [fineAnswered, answer_post hat]
  simp only [post, hread, hmeaning]
  rfl

theorem answer_truthful_fine :
    Route.isAt "/state" "/state" = true ∧
      fineAnswered.response = some (.plain ("Caching state: " ++ fine.json ++ "\n")) ∧
      ∃ shown, ((fineAnswered.store.run [.take]).answer "/state" .isolated 1700000060 []
          { method := "GET", target := "/state" }).response = some shown ∧
        shown.textUnder "web1:ping" = some fine.json := by
  have hat : Route.isAt "/state" "/state" = true := by decide +kernel
  have hhealth : Route.isAt healthPath "/state" = false := by decide +kernel
  have htrue : Truthful (ofIntake {}).start "/state" .isolated 1700000000 [] fineBody
      fineAnswered := answer_truthful (ofIntake {}).start "/state" "/state" .isolated 1700000000 []
    fineBody hat
  have htook : ((ofIntake {}).start.run ([].take 0)).offer (.upsert fine) =
      .accepted fineAnswered.store := by
    rw [fineAnswered_store]
    rfl
  refine ⟨hat, ?_, ?_⟩
  · exact (htrue.echo fine.json).2 ⟨fine, .native, means_fineBody _, ⟨0, htook⟩, rfl⟩
  · have howner : ((fineAnswered.store.run [.take]).answer "/state" .isolated 1700000060 []
        { method := "GET", target := "/state" }).store.owner = .running := by
      rw [answer_get hat hhealth, fineAnswered_store]
      rfl
    rcases htrue.shown fine 0 htook [.take] [] .isolated 1700000060 "/state" { chunks := [] } hat
        hhealth _ rfl howner with ⟨i, shown, hresponse, hshows⟩ | ⟨-, hfull⟩
    · refine ⟨shown, hresponse, hshows.own fun c hc => ?_⟩
      -- nobody else has done anything
      rw [List.take_nil] at hc
      cases hc
    · have hroom := hfull 0
      rw [fineAnswered_store] at hroom
      exact absurd hroom (by decide)

end Store

end AlertRelay
