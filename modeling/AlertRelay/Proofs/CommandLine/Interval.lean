/-
AlertRelay/Proofs/CommandLine/Interval.lean

The time between ticks that is asked for, and the one that comes of it.

A text says it to the nanosecond, settings keep whole seconds, and a tick takes one second at least.
So what is asked for on a command line, of a second or more, is what comes of it exactly if it is a
number of whole seconds, which every text says but some of those in milliseconds.
-/
import AlertRelay.Proofs.CommandLine.Given
import AlertRelay.Proofs.CommandLine.Load
import AlertRelay.Proofs.Duration

namespace AlertRelay

namespace ServerFlags

/-- What the text of an interval sets. -/
def readInterval (text : String) : Except UsageFault (ServerFlags → ServerFlags) :=
  match readDuration text with
  | .ok d => .ok fun f => { f with interval := some d }
  | .error (.refused _) => .error .valueValidation
  | .error .overflow => .error .overflow

/-- The flag that says how far ticks are apart. -/
def intervalFlag : Flag ServerFlags where
  long := "interval"
  short := some 'i'
  effect := Flag.duration fun d f => { f with interval := some d }

theorem finds_interval : commandLine.Finds intervalFlag readInterval where
  effect := by
    rw [intervalFlag, Flag.duration, FlagEffect.value.injEq]
    funext text
    rcases hread : readDuration text with (_ | _) | d <;> simp only [readInterval, hread]
  long := by simp [CommandLine.long?, commandLine, intervalFlag]
  name := ⟨by decide, by decide⟩
  short := by
    intro n hn
    obtain rfl : 'i' = n := Option.some.inj hn
    exact ⟨by decide, by simp [CommandLine.short?, commandLine, intervalFlag]⟩

theorem decides_interval {text : String} {d : Duration} (h : readDuration text = .ok d) :
    commandLine.Decides intervalFlag readInterval text fun f => f.interval = some d where
  arguments := rfl
  sets set hset _ := by
    simp only [readInterval, h] at hset
    cases hset
    rfl
  others := by
    have hkeep : ∀ o : ServerFlags, o.interval = some d → o.interval = some d := fun _ h => h
    simp only [commandLine, List.forall_mem_cons]
    refine ⟨fun _ => Flag.path_keeps fun _ o _ => hkeep o,
      fun _ => Flag.number_keeps fun _ => hkeep,
      fun _ => Flag.text_keeps fun _ => hkeep, fun _ => Flag.text_keeps fun _ => hkeep,
      fun _ => Flag.text_keeps fun _ => hkeep, fun _ => Flag.number_keeps fun _ => hkeep,
      fun hne => absurd rfl hne, fun _ => Flag.text_keeps fun _ => hkeep,
      fun _ => Flag.number_keeps fun _ => hkeep, fun _ => hkeep, fun _ => hkeep, ?_⟩
    exact fun _ h => absurd h List.not_mem_nil

variable {env : Environment} {before words after : List String} {text : String} {d : Duration}
  {f : ServerFlags}

/-- **The span that is given** is the one that the flags say, wherever it stands in the line. -/
theorem interval_of_parse (hwords : intervalFlag.Spells text words)
    (hparse : parse env (before ++ words ++ after) = .ok f) (hread : readDuration text = .ok d) :
    f.interval = some d :=
  CommandLine.parse_given finds_interval (decides_interval hread)
    (Duration.head?_ne_dash_of_read hread) hwords hparse

/-- Settings keep the whole seconds, and of these there is one at least. -/
theorem interval_apply (hinterval : f.interval = some d) (hfits : d.seconds < UInt64.size)
    (s : Settings) : (f.apply s).reconciler.interval = .ofSeconds (max d.seconds 1) := by
  simp only [apply, hinterval, Option.map_some, Option.getD_some, ReconcilerSettings.interval,
    UInt64.toNat_ofNat_of_lt' hfits]

theorem ofSeconds_eq_iff : Duration.ofSeconds d.seconds = d ↔ d.subsecond = 0 := by
  obtain ⟨nanos⟩ := d
  simp only [Duration.ofSeconds, Duration.seconds, Duration.subsecond, Duration.mk.injEq]
  omega

/-- **The time between ticks** is the whole seconds of the span that is given on the command line.
Of a second or more it is that span, unless the text says milliseconds that are no whole seconds. -/
theorem interval_of_load (hwords : intervalFlag.Spells text words)
    (hparse : parse env (before ++ words ++ after) = .ok f) (hread : readDuration text = .ok d)
    {disk disk' : Disk} {s : Settings} (hload : f.load disk = (.ok s, disk')) :
    s.reconciler.interval = .ofSeconds (max d.seconds 1) ∧
      (1 ≤ d.seconds → (s.reconciler.interval = d ↔
        ∀ n, Duration.Spells (trimmed text) n .milliseconds → 1000 ∣ n)) := by
  obtain ⟨b, -, rfl⟩ := base_of_load hload
  have hinterval := interval_of_parse hwords hparse hread
  have hsame := interval_apply hinterval (Duration.seconds_lt_of_read hread) b
  refine ⟨hsame, fun hsecond => ?_⟩
  rw [hsame, Nat.max_eq_left hsecond, ofSeconds_eq_iff, Duration.subsecond_eq_zero_iff hread]

theorem interval_of_load_minutes :
    parse ∅ ["--debug", "-i", "5m", "--port=80"] =
        .ok { interval := some (.ofSeconds 300), debug := true, port := some 80 } ∧
      ∃ s, load { interval := some (.ofSeconds 300), debug := true, port := some 80 } {} =
        (.ok s, {}) ∧ s.reconciler.interval = .ofSeconds 300 := by
  have hparse : parse ∅ (["--debug"] ++ ["-i", "5m"] ++ ["--port=80"]) =
      .ok { interval := some (.ofSeconds 300), debug := true, port := some 80 } := by
    decide +kernel
  have hread : readDuration "5m" = .ok (.ofSeconds 300) := by decide
  have hload : load { interval := some (.ofSeconds 300), debug := true, port := some 80 } {} =
      (.ok (apply { interval := some (.ofSeconds 300), debug := true, port := some 80 } {}), {}) :=
    rfl
  exact ⟨hparse, _, hload, (interval_of_load (.short rfl) hparse hread hload).1⟩

/-- **A second and a half** that becomes one. -/
theorem half_second_lost :
    parse ∅ ["--interval", "1500ms"] = .ok { interval := some ⟨1500000000⟩ } ∧
      readDuration "1500ms" = .ok ⟨1500000000⟩ ∧
      ∃ s, load { interval := some ⟨1500000000⟩ } {} = (.ok s, {}) ∧
        s.reconciler.interval = .ofSeconds 1 := by
  exact ⟨by decide +kernel, by decide, _, rfl, by decide⟩

end ServerFlags

end AlertRelay
