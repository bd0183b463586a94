/-
AlertRelay/Proofs/Program/Timers.lean

Timers.

The watcher looks at its monitors again and again, the submitter may hand its event over again and
again, and the server has its ticks.  The times between are set as texts, or as whole seconds of
which there is at least one.  A text that is read as a span never takes no time, and no other text
gets past the check of the settings or of the command line, so nobody waits for nothing.
-/
import AlertRelay.Program.Submitter
import AlertRelay.Program.Watcher
import AlertRelay.Proofs.CommandLine.Options
import AlertRelay.Proofs.Duration
import AlertRelay.Proofs.Probe.Reports

namespace AlertRelay

/-! ### Monitors -/

namespace MonitorSettings

variable {m : MonitorSettings} {d : Duration}

theorem pos_of_interval (h : m.interval = .ok d) : 0 < d.nanos :=
  Duration.pos_of_read (mapError_eq_ok_iff.1 h)

theorem pos_of_timeoutSpan (h : m.timeoutSpan = .ok d) : 0 < d.nanos := by
  unfold timeoutSpan at h
  split at h
  · cases h
    decide
  · exact Duration.pos_of_read (mapError_eq_ok_iff.1 h)

end MonitorSettings

/-- **Both spans of a monitor** whose settings are accepted take some time, also if it is switched
off. -/
theorem MonitoringSettings.pos_of_load {path : String} {disk : Disk} {s : MonitoringSettings}
    (h : load path disk = .ok s) : ∀ m ∈ s.monitors,
      (∃ d, m.interval = .ok d ∧ 0 < d.nanos) ∧ ∃ d, m.timeoutSpan = .ok d ∧ 0 < d.nanos := by
  intro m hm
  obtain ⟨⟨interval, hinterval⟩, timeout, htimeout⟩ :=
    spans_of_check (check_of_mem (check_of_load h) hm)
  exact ⟨⟨interval, hinterval, MonitorSettings.pos_of_interval hinterval⟩,
    ⟨timeout, htimeout, MonitorSettings.pos_of_timeoutSpan htimeout⟩⟩

/-- **The monitors at work** are set up from those of the settings. -/
theorem WatcherFlags.pos_of_start {f : WatcherFlags} {disk : Disk} {n : Network} {w : Watching}
    (h : f.start disk n = .ok w) :
    ∀ m ∈ w.monitors, 0 < m.interval.nanos ∧ 0 < m.timeout.nanos := by
  obtain ⟨s, hload, h⟩ := bind_eq_ok.1 h
  obtain ⟨queue, -, h⟩ := bind_eq_ok.1 h
  obtain ⟨ms, hms, h⟩ := bind_eq_ok.1 h
  cases h
  obtain ⟨ms', hms', hset⟩ := MonitoringSettings.monitors?_of_load (mapError_eq_ok_iff.1 hload)
  obtain rfl : ms = ms' := Except.ok.inj ((mapError_eq_ok_iff.1 hms).symm.trans hms')
  intro m hm
  have hmem : .ok m ∈ (s.monitors.filter (·.enabled)).map MonitorSettings.monitor := by
    rw [hset]
    exact List.mem_map_of_mem hm
  obtain ⟨written, -, hmonitor⟩ := List.mem_map.1 hmem
  obtain ⟨timeout, htimeout, hmonitor⟩ := bind_eq_ok.1 hmonitor
  obtain ⟨interval, hinterval, hmonitor⟩ := bind_eq_ok.1 hmonitor
  cases hmonitor
  exact ⟨MonitorSettings.pos_of_interval hinterval, MonitorSettings.pos_of_timeoutSpan htimeout⟩

/-! ### The submitter -/

namespace SubmitterFlags

theorem commandLine_keeps_interval :
    commandLine.Keeps fun f => ∀ d ∈ f.interval, 0 < d.nanos where
  flags := by
    simp only [commandLine, List.forall_mem_cons]
    refine ⟨Flag.text_keeps fun _ _ h => h, Flag.number_keeps fun _ _ h => h,
      Flag.text_keeps fun _ _ h => h, Flag.number_keeps fun _ _ h => h, ?_, fun _ h => h, ?_⟩
    · apply Flag.duration_keeps
      rintro text d o hread - d' hd'
      cases hd'
      exact Duration.pos_of_read hread
    · exact fun _ h => absurd h List.not_mem_nil
  arguments := by
    simp only [commandLine, List.forall_mem_cons]
    exact ⟨fun _ _ h => h, fun _ _ h => h, fun _ _ h => h, fun _ _ h => h,
      fun _ h => absurd h List.not_mem_nil⟩

theorem pos_of_parse {words : List String} {f : SubmitterFlags} (h : parse words = .ok f) :
    ∀ d ∈ f.interval, 0 < d.nanos :=
  CommandLine.parse_keeps commandLine_keeps_interval (by nofun) h

end SubmitterFlags

/-! ### The server -/

/-- Ticks are a second apart at least. -/
theorem ReconcilerSettings.pos_interval (r : ReconcilerSettings) : 0 < r.interval.nanos :=
  Nat.mul_pos (Nat.lt_of_lt_of_le Nat.zero_lt_one (Nat.le_max_right _ _)) (by decide)

/-! ### Spans of time -/

/-- **A text** is a span of time if it means one.  Some time passes between two looks of a monitor,
before a look is given up, before an event is handed over again, and between two ticks. -/
theorem spans_of_time (text : String) :
    Duration.Reading text ∧
      (∀ path disk s, MonitoringSettings.load path disk = .ok s → ∀ m ∈ s.monitors,
        (∃ d, m.interval = .ok d ∧ 0 < d.nanos) ∧ ∃ d, m.timeoutSpan = .ok d ∧ 0 < d.nanos) ∧
      (∀ (f : WatcherFlags) disk n w, f.start disk n = .ok w →
        ∀ m ∈ w.monitors, 0 < m.interval.nanos ∧ 0 < m.timeout.nanos) ∧
      (∀ words f, SubmitterFlags.parse words = .ok f → ∀ d ∈ f.interval, 0 < d.nanos) ∧
      ∀ r : ReconcilerSettings, 0 < r.interval.nanos := by
  refine ⟨Duration.reading text, ?_, ?_, ?_, ReconcilerSettings.pos_interval⟩
  · exact fun _ _ _ h => MonitoringSettings.pos_of_load h
  · exact fun _ _ _ _ h => WatcherFlags.pos_of_start h
  · exact fun _ _ h => SubmitterFlags.pos_of_parse h

theorem spans_of_time_databases :
    readDuration "\u3000 0090s\n" = .ok (.ofSeconds 90) ∧
      MonitoringSettings.load "checker.toml" databasesDisk = .ok databases ∧
      ∀ m ∈ databases.monitors, ∃ d, m.interval = .ok d ∧ 0 < d.nanos := by
  obtain ⟨reading, monitors, -⟩ := spans_of_time "\u3000 0090s\n"
  refine ⟨?_, load_databases, ?_⟩
  · have hspells : Duration.Spells (trimmed "\u3000 0090s\n") 90 .seconds :=
      ⟨"0090", "s", by decide, by decide, by decide, by simp [Char.isDigit], by decide⟩
    exact (reading.ok_iff _).2 ⟨90, .seconds, hspells, by decide, by decide, by decide⟩
  · intro m hm
    exact (monitors _ _ _ load_databases m hm).1

/-- **Very many minutes** are no span of time, but they are not refused either: whoever reads them
breaks off. -/
theorem minutes_overflow :
    (∀ d, ¬ Duration.Means "307445734561825861m" d) ∧
      (∀ f, readDuration "307445734561825861m" ≠ .error (.refused f)) ∧
      readDuration "307445734561825861m" = .error .overflow := by
  have hspells : Duration.Spells (trimmed "307445734561825861m") 307445734561825861 .minutes :=
    ⟨"307445734561825861", "m", by decide, by decide, by decide, by simp [Char.isDigit],
      by decide⟩
  have hoverflow : readDuration "307445734561825861m" = .error .overflow :=
    Duration.readDuration_eq_overflow_iff.2 ⟨_, _, hspells, by decide, by decide⟩
  refine ⟨fun d hd => ?_, fun f hf => ?_, hoverflow⟩
  · exact hd.not_overflows (Duration.readDuration_eq_overflow_iff.1 hoverflow)
  · rw [hoverflow] at hf
    cases hf

end AlertRelay
