/-
AlertRelay/Proofs/Probe/Reports.lean

Which monitors report.

Of a monitor only the two spans of time are looked at when its settings are read.  Its name and its
target have their turn when a finding becomes an event: the event is about the host that the target
names, so a target without one is passed over, and consumers refuse an event without an entity or a
check.  The other required fields are never empty: the state is one of two words, and the time that
a look took stands in every summary.

So the name and the target of a monitor decide once and for all whether it reports
(`Finding.event_complete_iff`): neither the outcome nor the time of a look matters.  A monitor that
reports puts one event on the list for every look, and one that does not is heard of never, however
often it looks (`MonitoringSettings.load_reports`).
-/
import AlertRelay.Probe.Notify
import AlertRelay.Proofs.Delivery.Writes
import AlertRelay.Proofs.Faults
import AlertRelay.Settings.Monitoring

namespace AlertRelay

/-! ### Targets -/

/-- Only the empty name is shown as nothing. -/
theorem Host.text_ne_empty {h : Host} (hne : h ≠ .name "") : h.text ≠ "" := by
  cases h with
  | name s => exact fun he => hne (congrArg Host.name he)
  | v4 a =>
    intro he
    have hlength := congrArg String.length he
    simp only [Host.text, Ip.v4Text, String.intercalate_cons_cons, String.length_append] at hlength
    simp at hlength
  | v6 gs =>
    intro he
    have hlength := congrArg String.length he
    simp [Host.text] at hlength

theorem Url.text_of_host? {url : Url} {host : Host} (h : url.host? = some host) :
    host.text ≠ "" := by
  unfold Url.host? at h
  split at h
  · cases h
  · split at h
    · cases h
    · rename_i hne
      cases h
      exact Host.text_ne_empty hne

/-- A text is cut where no colon follows. -/
theorem splitLastColon?_eq_some_iff {s a b : String} :
    splitLastColon? s = some (a, b) ↔ ':' ∉ b.toList ∧ s = a ++ ":" ++ b := by
  constructor
  · intro h
    have hcut := List.takeWhile_append_dropWhile (p := (· ≠ ':')) (l := s.toList.reverse)
    have hskipped := List.all_takeWhile (p := (· ≠ ':')) (l := s.toList.reverse)
    have hstop := List.head?_dropWhile_not (· ≠ ':') s.toList.reverse
    simp only [splitLastColon?] at h
    generalize s.toList.reverse.takeWhile (· ≠ ':') = skipped at *
    cases hdrop : s.toList.reverse.dropWhile (· ≠ ':') with
    | nil => rw [hdrop] at h; cases h
    | cons c before =>
      rw [hdrop] at h hcut hstop
      obtain ⟨rfl, rfl⟩ := Prod.mk.inj (Option.some.inj h)
      -- what stops the search from the end is a colon
      obtain rfl : c = ':' := by simpa using hstop
      constructor
      · intro hmem
        have hcolon := List.all_eq_true.1 hskipped ':' (by simpa using hmem)
        simp at hcolon
      · have hback := congrArg List.reverse hcut
        rw [List.reverse_reverse] at hback
        rw [← String.toList_inj, ← hback]
        simp
  · rintro ⟨hfree, rfl⟩
    have hskip : ∀ c ∈ b.toList.reverse, decide (c ≠ ':') = true := by
      intro c hc
      apply decide_eq_true
      rintro rfl
      exact hfree (List.mem_reverse.1 hc)
    have hback : (a ++ ":" ++ b).toList.reverse = b.toList.reverse ++ ':' :: a.toList.reverse := by
      simp
    simp only [splitLastColon?, hback, List.dropWhile_append_of_pos hskip,
      List.takeWhile_append_of_pos hskip]
    simp

/-- A target that names a host: as a URL, or by some text before the last colon. -/
def ProbeKind.NamesHost (k : ProbeKind) (target : String) : Prop :=
  match k with
  | .httpStatus => ∃ url host, Url.parse target = .ok url ∧ url.host? = some host
  | .tcp => ∃ host port, host ≠ "" ∧ ':' ∉ port.toList ∧ target = host ++ ":" ++ port

namespace Finding

theorem exists_urlHost_iff {target : String} :
    (∃ entity, urlHost target = .ok entity ∧ entity ≠ "") ↔
      ProbeKind.httpStatus.NamesHost target := by
  constructor
  · rintro ⟨entity, hentity, -⟩
    unfold urlHost at hentity
    split at hentity
    · cases hentity
    · rename_i url hparse
      cases hhost : url.host? with
      | none => simp [hhost] at hentity
      | some host => exact ⟨url, host, hparse, hhost⟩
  · rintro ⟨url, host, hparse, hhost⟩
    have hne := Url.text_of_host? hhost
    -- the entity is the host, with the port if the URL has one
    cases hport : url.port? with
    | none => exact ⟨host.text, by simp only [urlHost, hparse, hhost, hport], hne⟩
    | some port =>
      refine ⟨host.text ++ ":" ++ toString port, by simp only [urlHost, hparse, hhost, hport], ?_⟩
      simp

variable (f : Finding)

/-- A finding is about a host if its target names one. -/
theorem exists_entity_iff :
    (∃ entity, f.entity = .ok entity ∧ entity ≠ "") ↔ f.kind.NamesHost f.target := by
  unfold entity
  cases f.kind with
  | httpStatus => exact exists_urlHost_iff
  | tcp =>
    constructor
    · rintro ⟨host, hhost, hne⟩
      cases hsplit : splitLastColon? f.target with
      | none => simp [hsplit] at hhost
      | some parts =>
        obtain ⟨hfree, htarget⟩ := splitLastColon?_eq_some_iff.1 hsplit
        obtain rfl : parts.1 = host := by simpa [hsplit] using hhost
        exact ⟨parts.1, parts.2, hne, hfree, htarget⟩
    · rintro ⟨host, port, hne, hfree, htarget⟩
      have hsplit := splitLastColon?_eq_some_iff.2 ⟨hfree, htarget⟩
      exact ⟨host, by simp [hsplit], hne⟩

theorem state_ne_empty : f.state ≠ "" := by
  unfold state
  split <;> decide

theorem summary_ne_empty : f.summary ≠ "" := by
  intro he
  have hlength := congrArg String.length he
  simp [summary] at hlength

/-- **The event** about a finding lacks nothing if the monitor has a name and the target names a
host. -/
theorem event_complete_iff :
    (∃ e, f.event = .ok e ∧ e.missing? = none) ↔ f.monitor ≠ "" ∧ f.kind.NamesHost f.target := by
  rw [← exists_entity_iff]
  constructor
  · rintro ⟨e, he, hcomplete⟩
    cases hentity : f.entity with
    | error fault => simp [event, hentity, Except.map] at he
    | ok entity =>
      obtain rfl : Event.service entity f.monitor f.state f.summary f.time = e := by
        simpa [event, hentity, Except.map] using he
      rw [Event.missing?_eq_none_iff] at hcomplete
      exact ⟨hcomplete .check (by decide), entity, rfl, hcomplete .entity (by decide)⟩
  · rintro ⟨hmonitor, entity, hentity, hne⟩
    refine ⟨Event.service entity f.monitor f.state f.summary f.time,
      by simp [event, hentity, Except.map], ?_⟩
    simp [Event.missing?, Event.service, hne, hmonitor, f.state_ne_empty, f.summary_ne_empty]

/-- The event that is handed over for a finding. -/
def report? : Option Event :=
  f.event.toOption.filter fun e => e.IsComplete

variable {f} in
theorem report?_eq_some_iff {e : Event} :
    f.report? = some e ↔ f.event = .ok e ∧ e.missing? = none := by
  rw [Event.missing?_eq_none_iff]
  cases hevent : f.event with
  | error fault => simp [report?, hevent, Except.toOption]
  | ok e' =>
    simp only [report?, hevent, Except.toOption, Option.filter_eq_some_iff, Option.some.injEq,
      Except.ok.injEq, decide_eq_true_eq]

end Finding

/-! ### Findings that are handed over -/

namespace Delivery

variable (d : Delivery) {q : Queue}

/-- **One finding** puts its event on the list, if it has one, and otherwise nothing anywhere. -/
theorem notifyOne_of_open (f : Finding) (hq : q.Open) :
    (d.notifyOne q f).Open ∧
      (d.notifyOne q f).list d.name = (f.report?.map fun e => utf8 e.json).toList ++ q.list d.name ∧
      (f.report? = none → d.notifyOne q f = q) := by
  unfold notifyOne
  cases hevent : f.event with
  | error fault =>
    have hnone : f.report? = none := by simp [Finding.report?, hevent, Except.toOption]
    simp [hnone, hq]
  | ok e =>
    obtain ⟨-, hopen, hlist⟩ := send_of_open d e hq
    have hreport : f.report? = if e.IsComplete then some e else none := by
      simp [Finding.report?, hevent, Except.toOption, Option.filter]
    refine ⟨hopen, ?_, ?_⟩
    · rw [hlist, puts_name, hreport]
      split <;> rfl
    · -- an event that lacks something is refused before the queue is asked
      intro hnone
      cases hmissing : e.missing? with
      | none => simp [hreport, Event.missing?_eq_none_iff.1 hmissing] at hnone
      | some field => simp [send, hmissing]

/-- **The events** of some findings come to lie on the list, the newest first. -/
theorem events_notify (findings : List Finding) (hq : q.Open) :
    (d.notify findings q).events d.name =
      (findings.filterMap Finding.report?).reverse ++ q.events d.name := by
  unfold notify
  induction findings generalizing q with
  | nil => rfl
  | cons f findings ih =>
    obtain ⟨hopen, hlist, -⟩ := d.notifyOne_of_open f hq
    have hevents : (d.notifyOne q f).events d.name = f.report?.toList ++ q.events d.name := by
      rw [Queue.events, hlist, List.filterMap_append]
      cases f.report? <;> simp [Queue.events, Event.parse_json, Except.toOption]
    rw [List.foldl_cons, ih hopen, hevents, List.filterMap_cons]
    cases f.report? <;> simp

end Delivery

/-! ### Monitors that are set -/

/-- A look at a target, and what it has brought. -/
structure Look where
  monitor : Monitor
  time : Int64
  latencyMs : UInt64
  outcome : Outcome

/-- The finding of a look. -/
def Look.finding (l : Look) : Finding :=
  l.monitor.finding l.time l.latencyMs l.outcome

/-- A monitor with a name, whose target names a host. -/
def Monitor.Reports (m : Monitor) : Prop :=
  m.name ≠ "" ∧ m.kind.NamesHost m.target

namespace MonitoringSettings

variable {s : MonitoringSettings} {path : String} {disk : Disk}

/-- What is read has passed the check. -/
theorem check_of_load (h : load path disk = .ok s) : s.check = .ok () := by
  obtain ⟨text, -, h⟩ := bind_eq_ok.1 h
  split at h
  · cases h
  · obtain ⟨⟨⟩, hcheck, h⟩ := bind_eq_ok.1 h
    cases h
    exact hcheck

/-- In settings that pass the check, every monitor does. -/
theorem check_of_mem (h : s.check = .ok ()) {w : MonitorSettings} (hw : w ∈ s.monitors) :
    w.check = .ok () := by
  obtain ⟨address, -, h⟩ := bind_eq_ok.1 h
  dsimp only at h
  split at h
  · cases h
  exact forM_eq_ok_iff.1 h w hw

/-- A monitor that passes the check has both of its spans. -/
theorem spans_of_check {w : MonitorSettings} (h : w.check = .ok ()) :
    (∃ interval, w.interval = .ok interval) ∧ ∃ timeout, w.timeoutSpan = .ok timeout := by
  obtain ⟨interval, hinterval, h⟩ := bind_eq_ok.1 h
  obtain ⟨timeout, htimeout, -⟩ := bind_eq_ok.1 h
  exact ⟨⟨interval, hinterval⟩, timeout, htimeout⟩

/-- All monitors that are not switched off can be set up. -/
theorem monitors?_of_load (h : load path disk = .ok s) :
    ∃ ms, s.monitors? = .ok ms ∧
      (s.monitors.filter (·.enabled)).map MonitorSettings.monitor = ms.map .ok := by
  apply exists_mapM_ok
  intro w hw
  have hcheck := check_of_mem (check_of_load h) (List.mem_of_mem_filter hw)
  obtain ⟨⟨interval, hinterval⟩, timeout, htimeout⟩ := spans_of_check hcheck
  refine ⟨⟨w.name, w.kind, w.url, interval, timeout⟩, ?_⟩
  rw [MonitorSettings.monitor, htimeout, hinterval]
  rfl

/-- **The monitors of a file** that can be read are all set up.  On a queue that refuses nothing,
each look of a monitor with a name and a target that names a host puts one event on the list, and
nothing comes of the looks of any other. -/
theorem load_reports (h : load path disk = .ok s) :
    ∃ ms, s.monitors? = .ok ms ∧
      (s.monitors.filter (·.enabled)).map MonitorSettings.monitor = ms.map .ok ∧
      ∀ q : Queue, q.Open →
        (∀ l : Look, l.monitor ∈ ms →
          (l.monitor.Reports ∧ ∃ e, l.finding.event = .ok e ∧ e.missing? = none ∧
              (s.queue.notifyOne q l.finding).list s.queue.name =
                utf8 e.json :: q.list s.queue.name) ∨
            (¬ l.monitor.Reports ∧ (∀ e, l.finding.event = .ok e → e.missing? ≠ none) ∧
              s.queue.notifyOne q l.finding = q)) ∧
        ∀ looks : List Look, (∀ l ∈ looks, l.monitor ∈ ms) →
          (s.queue.notify (looks.map Look.finding) q).events s.queue.name =
            (looks.filterMap fun l => l.finding.report?).reverse ++ q.events s.queue.name := by
  obtain ⟨ms, hms, hset⟩ := monitors?_of_load h
  refine ⟨ms, hms, hset, ?_⟩
  intro q hq
  constructor
  · intro l _
    obtain ⟨-, hlist, hsame⟩ := s.queue.notifyOne_of_open l.finding hq
    by_cases hreports : l.monitor.Reports
    · obtain ⟨e, he, hcomplete⟩ := l.finding.event_complete_iff.2 hreports
      rw [Finding.report?_eq_some_iff.2 ⟨he, hcomplete⟩] at hlist
      exact .inl ⟨hreports, e, he, hcomplete, hlist⟩
    · have hnever : ∀ e, l.finding.event = .ok e → e.missing? ≠ none := by
        intro e he hcomplete
        exact hreports (l.finding.event_complete_iff.1 ⟨e, he, hcomplete⟩)
      refine .inr ⟨hreports, hnever, hsame ?_⟩
      apply Option.eq_none_iff_forall_ne_some.2
      intro e he
      obtain ⟨hevent, hcomplete⟩ := Finding.report?_eq_some_iff.1 he
      exact hnever e hevent hcomplete
  · intro looks _
    rw [s.queue.events_notify _ hq, List.filterMap_map]
    rfl

end MonitoringSettings

/-! Two databases, of which the second one is written down without a port. -/

def databasesText : String :=
  "[[monitors]]\ntype = \"tcp\"\nname = \"primary\"\nurl = \"db.internal:5432\"\nfreq = \"1m\"\n" ++
  "[[monitors]]\ntype = \"tcp\"\nname = \"replica\"\nurl = \"db.internal\"\nfreq = \"1m\"\n"

def databasesDisk : Disk :=
  ({} : Disk).put ["checker.toml"] (.file (utf8 databasesText))

def databases : MonitoringSettings where
  monitors := [⟨.tcp, "primary", "db.internal:5432", "1m", none, true⟩,
    ⟨.tcp, "replica", "db.internal", "1m", none, true⟩]

def primary : Monitor :=
  ⟨"primary", .tcp, "db.internal:5432", .ofSeconds 60, .ofSeconds 60⟩

def replica : Monitor :=
  ⟨"replica", .tcp, "db.internal", .ofSeconds 60, .ofSeconds 60⟩

theorem load_databases : MonitoringSettings.load "checker.toml" databasesDisk = .ok databases :=
  toOption_eq_some_iff.1 (by decide +kernel)

theorem monitors?_databases : databases.monitors? = .ok [primary, replica] :=
  toOption_eq_some_iff.1 (by decide +kernel)

theorem MonitoringSettings.load_reports_primary :
    ({} : Queue).Open ∧ MonitoringSettings.load "checker.toml" databasesDisk = .ok databases ∧
      ∀ time latencyMs o, ∃ e, (primary.finding time latencyMs o).event = .ok e ∧
        e.missing? = none ∧
        (databases.queue.notifyOne {} (primary.finding time latencyMs o)).list "events" =
          [utf8 e.json] := by
  have hopen : ({} : Queue).Open := Delivery.open_empty
  refine ⟨hopen, load_databases, ?_⟩
  intro time latencyMs o
  obtain ⟨ms, hms, -, hlook⟩ := load_reports load_databases
  obtain rfl : [primary, replica] = ms := by
    rw [monitors?_databases] at hms
    exact Except.ok.inj hms
  have hreports : primary.Reports :=
    ⟨by decide, "db.internal", "5432", by decide, by decide, by decide⟩
  obtain ⟨-, hevent⟩ | ⟨hnot, -⟩ :=
    (hlook {} hopen).1 ⟨primary, time, latencyMs, o⟩ List.mem_cons_self
  · exact hevent
  · exact absurd hreports hnot

/-- **A monitor that never reports**, although its settings are accepted. -/
theorem replica_never_reports :
    MonitoringSettings.load "checker.toml" databasesDisk = .ok databases ∧
      databases.monitors? = .ok [primary, replica] ∧
      ∀ time latencyMs o, ¬ ∃ e, (replica.finding time latencyMs o).event = .ok e := by
  refine ⟨load_databases, monitors?_databases, ?_⟩
  rintro time latencyMs o ⟨e, he⟩
  have hsplit : splitLastColon? "db.internal" = none := by decide +kernel
  simp [Finding.event, Finding.entity, Monitor.finding, replica, hsplit, Except.map] at he

end AlertRelay
