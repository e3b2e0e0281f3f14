import CephAi.Verified.Runs
import CephAi.Verified.Streaks
import CephAi.Ports.ForecastAlerts

/-!
# The hysteresis of the forecast alerts

Scans of one host, one after the other, from the first on.  An alert should open at the end
of a run of risky scans and close at the end of a run of healthy ones; a scan without usable
evidence is passed over by both runs.

## Main results

* `hysteresis_iff` — the alert of a metric opens and closes at the end of such runs exactly
  when no healthy scan meets an alert that was put aside, and no risky one a count that
  outlived its run.
* `normal_after_one_healthy` — one missing forecast, and a warning closes with the first
  healthy scan.
-/

namespace CephAi.Ports.AlertHysteresis

open Verified Verified.Runs Verified.Streaks
open ForecastAlerts

/-! ## The system -/

def opened : AlertLifecycleState → Bool
  | .warning => true
  | .critical => true
  | _ => false

def closed : AlertLifecycleState → Bool
  | .normal => true
  | .recovered => true
  | _ => false

/-- The rows of a host, the scans so far, and which metrics had an open alert that was not
closed since. -/
structure World where
  alerts : Alerts
  history : List Scan
  raised : Metric → Bool

def World.state (w : World) (metric : Metric) : AlertLifecycleState :=
  stateOf (w.alerts metric)

variable (settings : Settings) (fingerprint : Fingerprint)

/-- The rows after a scan, and what is remembered of it. -/
def next (w : World) (scan : Scan) : World :=
  let alerts := syncForecastAlerts settings fingerprint none scan w.alerts
  { alerts := alerts
    history := w.history ++ [scan]
    raised := fun metric =>
      opened (stateOf (alerts metric)) || w.raised metric && !closed (stateOf (alerts metric)) }

/-- The scans of a host, without a maintenance window. -/
def scans : System World Scan := ⟨fun w scan => some (next settings fingerprint w scan)⟩

/-- Before the first scan. -/
def start : World := ⟨fun _ => none, [], fun _ => false⟩

/-! ## What a scan should do -/

/-- What a scan does to the run of risky scans. -/
def breachEffect (metric : Metric) (scan : Scan) : Effect :=
  match kindOf settings (scan.values metric) with
  | .risky => .counts
  | .inBand => .breaks
  | .healthy => .breaks
  | _ => .skips

/-- What a scan does to the run of healthy scans. -/
def healthyEffect (metric : Metric) (scan : Scan) : Effect :=
  match kindOf settings (scan.values metric) with
  | .healthy => .counts
  | .inBand => .breaks
  | .risky => .breaks
  | _ => .skips

/-- The alert opens at the end of a run of risky scans only, and closes at the end of a run of
healthy ones; without usable evidence both counts stay. -/
structure Sound (metric : Metric) (w : World) (scan : Scan) (w' : World) : Prop where
  opens : opened (w'.state metric) = true → w'.state metric ≠ w.state metric →
    EndsRun (breachEffect settings metric) settings.breachScans w'.history
  closes : w.raised metric = true → closed (w'.state metric) = true →
    EndsRun (healthyEffect settings metric) settings.recoveryScans w'.history
  passedOver : breachEffect settings metric scan = .skips →
    breachOf (w'.alerts metric) = breachOf (w.alerts metric) ∧
      healthyOf (w'.alerts metric) = healthyOf (w.alerts metric)

def breachStreak (metric : Metric) (w : World) : Nat :=
  streak (breachEffect settings metric) w.history

def healthyStreak (metric : Metric) (w : World) : Nat :=
  streak (healthyEffect settings metric) w.history

/-- The open state that the scan's forecast calls for. -/
def called (metric : Metric) (scan : Scan) : AlertLifecycleState :=
  ((scan.values metric).map ResourceForecast.severity).getD .warning

/-- An alert that was raised is open or recovering when the evidence against it comes, unless
that evidence suffices; and a count that outlived its run meets no risky scan, unless that
scan ends a run or calls for the state that the alert has. -/
def Proper (metric : Metric) (w : World) (scan : Scan) : Prop :=
  match kindOf settings (scan.values metric) with
  | .inBand => w.raised metric = true → (w.state metric).alarmed = true
  | .healthy => w.raised metric = true → (w.state metric).alarmed = true ∨
      settings.recoveryScans ≤ healthyStreak settings metric w + 1
  | .risky => breachOf (w.alerts metric) ≤ breachStreak settings metric w ∨
      settings.breachScans ≤ breachStreak settings metric w + 1 ∨
      w.state metric = called metric scan
  | _ => True

/-! ## What the rows say of the history -/

/-- The row of a metric against the scans so far. -/
structure Tracks (metric : Metric) (w : World) : Prop where
  breach : breachOf (w.alerts metric) = breachStreak settings metric w ∨
    settings.breachScans ≤ breachOf (w.alerts metric)
  opened : opened (w.state metric) = true →
    settings.breachScans ≤ breachOf (w.alerts metric)
  recovering : w.state metric = .recovering → breachOf (w.alerts metric) = 0
  healthy : w.raised metric = true →
    healthyOf (w.alerts metric) = healthyStreak settings metric w
  alarmed : (w.state metric).alarmed = true → w.raised metric = true
  raised : w.raised metric = true → closed (w.state metric) = false

theorem tracks_start (metric : Metric) : Tracks settings metric start where
  breach := .inl rfl
  opened := fun h => nomatch h
  recovering := fun h => nomatch h
  healthy := fun h => nomatch h
  alarmed := fun h => nomatch h
  raised := fun h => nomatch h

section Step

variable {settings} {fingerprint} {metric : Metric} {w : World} {scan : Scan}

theorem next_history : (next settings fingerprint w scan).history = w.history ++ [scan] := rfl

theorem next_alerts (metric : Metric) : (next settings fingerprint w scan).alerts metric =
    syncMetric settings fingerprint scan.now none metric (scan.sent metric)
      (scan.values metric) (w.alerts metric) := rfl

theorem next_raised :
    (next settings fingerprint w scan).raised metric =
      (opened ((next settings fingerprint w scan).state metric) ||
        w.raised metric && !closed ((next settings fingerprint w scan).state metric)) := rfl

variable {state : AlertLifecycleState}

theorem not_closed_of_opened (h : opened state = true) : closed state = false := by
  cases state <;> first | rfl | cases h

theorem alarmed_iff : state.alarmed = true ↔ opened state = true ∨ state = .recovering := by
  cases state <;> decide

theorem not_closed_of_alarmed (h : state.alarmed = true) : closed state = false := by
  cases state <;> first | rfl | cases h

theorem opened_severity (value : ResourceForecast) : opened value.severity = true := by
  unfold ResourceForecast.severity
  cases isCritical value <;> rfl

section

variable (h : (next settings fingerprint w scan).raised metric = true)
include h

theorem raised_next : closed ((next settings fingerprint w scan).state metric) = false := by
  rw [next_raised, Bool.or_eq_true, Bool.and_eq_true, Bool.not_eq_true'] at h
  rcases h with h | h
  · exact not_closed_of_opened h
  · exact h.2

theorem raised_of_next
    (hopened : opened ((next settings fingerprint w scan).state metric) = false) :
    w.raised metric = true := by
  rw [next_raised, hopened, Bool.false_or, Bool.and_eq_true] at h
  exact h.1

end

theorem raised_of_alarmed (hr : w.raised metric = true)
    (h : ((next settings fingerprint w scan).state metric).alarmed = true) :
    (next settings fingerprint w scan).raised metric = true := by
  rw [next_raised, hr, not_closed_of_alarmed h, Bool.not_false, Bool.and_true, Bool.or_true]

theorem breachStreak_next : breachStreak settings metric (next settings fingerprint w scan) =
    (breachEffect settings metric scan).grow (breachStreak settings metric w) :=
  streak_concat _ _ _

theorem healthyStreak_next :
    healthyStreak settings metric (next settings fingerprint w scan) =
      (healthyEffect settings metric scan).grow (healthyStreak settings metric w) :=
  streak_concat _ _ _

theorem endsBreach_iff (n : Nat) :
    EndsRun (breachEffect settings metric) n (next settings fingerprint w scan).history ↔
      breachEffect settings metric scan = .counts ∧
        n ≤ breachStreak settings metric w + 1 := by
  rw [next_history]
  exact endsRun_concat n w.history scan

theorem endsHealthy_iff (n : Nat) :
    EndsRun (healthyEffect settings metric) n (next settings fingerprint w scan).history ↔
      healthyEffect settings metric scan = .counts ∧
        n ≤ healthyStreak settings metric w + 1 := by
  rw [next_history]
  exact endsRun_concat n w.history scan

theorem sound_of_unopened (hb : breachEffect settings metric scan ≠ .skips)
    (hopened : opened ((next settings fingerprint w scan).state metric) = false)
    (hcloses : w.raised metric = true →
      closed ((next settings fingerprint w scan).state metric) = true →
        EndsRun (healthyEffect settings metric) settings.recoveryScans
          (next settings fingerprint w scan).history) :
    Sound settings metric w scan (next settings fingerprint w scan) where
  opens h := absurd (hopened.symm.trans h) Bool.false_ne_true
  closes := hcloses
  passedOver hskip := absurd hskip hb

theorem tracks_of_breaks (hb : breachEffect settings metric scan = .breaks)
    (hbreach : breachOf ((next settings fingerprint w scan).alerts metric) = 0)
    (hopened : opened ((next settings fingerprint w scan).state metric) = false)
    (hhealthy : (next settings fingerprint w scan).raised metric = true →
      healthyOf ((next settings fingerprint w scan).alerts metric) =
        healthyStreak settings metric (next settings fingerprint w scan))
    (halarmed : ((next settings fingerprint w scan).state metric).alarmed = true →
      (next settings fingerprint w scan).raised metric = true) :
    Tracks settings metric (next settings fingerprint w scan) where
  breach := .inl (by rw [hbreach, breachStreak_next, hb]; rfl)
  opened h := absurd (hopened.symm.trans h) Bool.false_ne_true
  recovering _ := hbreach
  healthy := hhealthy
  alarmed := halarmed
  raised := raised_next

theorem tracks_of_opened
    (hbreach : settings.breachScans ≤ breachOf ((next settings fingerprint w scan).alerts metric))
    (hopened : opened ((next settings fingerprint w scan).state metric) = true)
    (hhealthy : healthyOf ((next settings fingerprint w scan).alerts metric) =
      healthyStreak settings metric (next settings fingerprint w scan)) :
    Tracks settings metric (next settings fingerprint w scan) where
  breach := .inr hbreach
  opened _ := hbreach
  recovering h := by
    rw [h] at hopened
    cases hopened
  healthy _ := hhealthy
  alarmed _ := by rw [next_raised, hopened, Bool.true_or]
  raised := raised_next

theorem tracks_of_candidate
    (hbreach : breachOf ((next settings fingerprint w scan).alerts metric) =
        breachStreak settings metric (next settings fingerprint w scan) ∨
      settings.breachScans ≤ breachOf ((next settings fingerprint w scan).alerts metric))
    (hstate : (next settings fingerprint w scan).state metric = .candidate)
    (hhealthy : healthyOf ((next settings fingerprint w scan).alerts metric) =
      healthyStreak settings metric (next settings fingerprint w scan)) :
    Tracks settings metric (next settings fingerprint w scan) where
  breach := hbreach
  opened h := by
    rw [hstate] at h
    cases h
  recovering h := by
    rw [hstate] at h
    cases h
  healthy _ := hhealthy
  alarmed h := by
    rw [hstate] at h
    cases h
  raised := raised_next

section

variable (ht : Tracks settings metric w)
include ht

/-- **A scan without usable evidence** opens nothing, closes nothing and keeps the counts. -/
theorem step_skips
    (hb : breachEffect settings metric scan = .skips)
    (hh : healthyEffect settings metric scan = .skips)
    (hbreach : breachOf ((next settings fingerprint w scan).alerts metric) =
      breachOf (w.alerts metric))
    (hhealthy : healthyOf ((next settings fingerprint w scan).alerts metric) =
      healthyOf (w.alerts metric))
    (hopened : opened ((next settings fingerprint w scan).state metric) = false)
    (halarmed : ((next settings fingerprint w scan).state metric).alarmed = false)
    (hclosed : closed ((next settings fingerprint w scan).state metric) = true →
      w.raised metric = false) :
    Sound settings metric w scan (next settings fingerprint w scan) ∧
      Tracks settings metric (next settings fingerprint w scan) := by
  have hsb : breachStreak settings metric (next settings fingerprint w scan) =
      breachStreak settings metric w := by rw [breachStreak_next, hb]; rfl
  have hsh : healthyStreak settings metric (next settings fingerprint w scan) =
      healthyStreak settings metric w := by rw [healthyStreak_next, hh]; rfl
  constructor
  · refine ⟨?_, ?_, fun _ => ⟨hbreach, hhealthy⟩⟩
    · intro h
      rw [hopened] at h
      cases h
    · intro hr hc
      rw [hclosed hc] at hr
      cases hr
  · refine ⟨?_, ?_, ?_, ?_, ?_, raised_next⟩
    · rw [hbreach, hsb]
      exact ht.breach
    · intro h
      rw [hopened] at h
      cases h
    · intro h
      rw [h] at halarmed
      cases halarmed
    · intro h
      rw [hhealthy, hsh]
      exact ht.healthy (raised_of_next h hopened)
    · intro h
      rw [halarmed] at h
      cases h

theorem step_poorQuality (hkind : kindOf settings (scan.values metric) = .poorQuality) :
    Sound settings metric w scan (next settings fingerprint w scan) ∧
      Tracks settings metric (next settings fingerprint w scan) := by
  obtain ⟨hbreach, hhealthy, hstate⟩ := @poorQuality_spec settings fingerprint scan.now metric
    (scan.sent metric) _ (w.alerts metric) hkind
  have hb : breachEffect settings metric scan = .skips := by
    unfold breachEffect
    rw [hkind]
  have hh : healthyEffect settings metric scan = .skips := by
    unfold healthyEffect
    rw [hkind]
  rcases hstate with hstate | ⟨hafter, hbefore⟩
  · have hstate : (next settings fingerprint w scan).state metric = .dataQuality := hstate
    apply step_skips ht hb hh hbreach hhealthy
    · rw [hstate]
      rfl
    · rw [hstate]
      rfl
    · rw [hstate]
      exact fun h => nomatch h
  · have hnormal : (next settings fingerprint w scan).state metric = .normal := by
      unfold World.state
      rw [next_alerts, hafter]
      rfl
    apply step_skips ht hb hh hbreach hhealthy
    · rw [hnormal]
      rfl
    · rw [hnormal]
      rfl
    · intro _
      cases hr : w.raised metric with
      | false => rfl
      | true =>
        have := ht.raised hr
        unfold World.state at this
        rw [hbefore] at this
        cases this

theorem step_lowConsensus (hkind : kindOf settings (scan.values metric) = .lowConsensus) :
    Sound settings metric w scan (next settings fingerprint w scan) ∧
      Tracks settings metric (next settings fingerprint w scan) := by
  obtain ⟨hbreach, hhealthy, hstate⟩ := @lowConsensus_spec settings fingerprint scan.now
    metric (scan.sent metric) _ (w.alerts metric) hkind
  have hstate : (next settings fingerprint w scan).state metric = .candidate := hstate
  apply step_skips ht _ _ hbreach hhealthy
  · rw [hstate]
    rfl
  · rw [hstate]
    rfl
  · rw [hstate]
    exact fun h => nomatch h
  · unfold breachEffect
    rw [hkind]
  · unfold healthyEffect
    rw [hkind]

/-- **A risky scan** opens the alert by the count, which is the run's length or has
outlived it. -/
theorem step_risky (hkind : kindOf settings (scan.values metric) = .risky) :
    (Sound settings metric w scan (next settings fingerprint w scan) ↔
      Proper settings metric w scan) ∧
      Tracks settings metric (next settings fingerprint w scan) := by
  obtain ⟨value, hvalue⟩ : ∃ value, scan.values metric = some value := by
    cases hvalue : scan.values metric with
    | none =>
      rw [hvalue] at hkind
      cases hkind
    | some value => exact ⟨value, rfl⟩
  have hb : breachEffect settings metric scan = .counts := by
    unfold breachEffect
    rw [hkind]
  have hh : healthyEffect settings metric scan = .breaks := by
    unfold healthyEffect
    rw [hkind]
  have hcalled : called metric scan = value.severity := by
    unfold called
    rw [hvalue]
    rfl
  obtain ⟨hbreach, hhealthy, hstate⟩ := @risky_spec settings fingerprint scan.now metric
    (scan.sent metric) (w.alerts metric) value (hvalue ▸ hkind)
  rw [← hvalue, ← next_alerts] at hbreach hhealthy hstate
  have hsb : breachStreak settings metric (next settings fingerprint w scan) =
      breachStreak settings metric w + 1 := by rw [breachStreak_next, hb]; rfl
  have hsh : healthyStreak settings metric (next settings fingerprint w scan) = 0 := by
    rw [healthyStreak_next, hh]; rfl
  have hproper : Proper settings metric w scan ↔
      breachOf (w.alerts metric) ≤ breachStreak settings metric w ∨
        settings.breachScans ≤ breachStreak settings metric w + 1 ∨
        w.state metric = value.severity := by
    unfold Proper
    rw [hkind, hcalled]
  by_cases hready : settings.breachScans ≤ breachOf (w.alerts metric) + 1
  · have hstate : (next settings fingerprint w scan).state metric = value.severity := by
      rw [if_pos hready] at hstate
      exact hstate
    have hopened := opened_severity value
    constructor
    · rw [hproper]
      constructor
      · intro hs
        by_cases hsame : w.state metric = value.severity
        · exact .inr (.inr hsame)
        · have hrun := hs.opens (by rw [hstate, hopened])
            (by rw [hstate]; exact Ne.symm hsame)
          exact .inr (.inl ((endsBreach_iff _).mp hrun).2)
      · intro hp
        refine ⟨?_, ?_, ?_⟩
        · intro _ hne
          rw [endsBreach_iff]
          refine ⟨hb, ?_⟩
          rcases hp with hle | hle | hsame
          · omega
          · exact hle
          · rw [hstate, hsame] at hne
            exact absurd rfl hne
        · intro _ hc
          rw [hstate, not_closed_of_opened hopened] at hc
          cases hc
        · intro hskip
          rw [hb] at hskip
          cases hskip
    · exact tracks_of_opened (by rw [hbreach]; exact hready) (by rw [hstate]; exact hopened)
        (hhealthy.trans hsh.symm)
  · have hstate : (next settings fingerprint w scan).state metric = .candidate := by
      rw [if_neg hready] at hstate
      exact hstate
    constructor
    · rw [hproper]
      constructor
      · intro _
        left
        rcases ht.breach with h | h <;> omega
      · intro _
        apply sound_of_unopened (by rw [hb]; exact Effect.noConfusion) (by rw [hstate]; rfl)
        intro _ hc
        rw [hstate] at hc
        cases hc
    · apply tracks_of_candidate _ hstate (hhealthy.trans hsh.symm)
      rw [hbreach, hsb]
      rcases ht.breach with h | h <;> omega

theorem Tracks.not_raised (h : w.alerts metric = none) : w.raised metric = false := by
  cases hr : w.raised metric with
  | false => rfl
  | true =>
    have hopen := ht.raised hr
    unfold World.state at hopen
    rw [h] at hopen
    cases hopen

end

theorem counts_of_none (h : w.alerts metric = none) :
    breachOf (w.alerts metric) = 0 ∧ w.state metric = .normal := by
  unfold World.state
  rw [h]
  exact ⟨rfl, rfl⟩

theorem step_calm (hb : breachEffect settings metric scan = .breaks)
    (hbreach : breachOf ((next settings fingerprint w scan).alerts metric) = 0)
    (hstate : (next settings fingerprint w scan).state metric = .normal) :
    (Sound settings metric w scan (next settings fingerprint w scan) ↔
      (w.raised metric = true → EndsRun (healthyEffect settings metric)
        settings.recoveryScans (next settings fingerprint w scan).history)) ∧
      Tracks settings metric (next settings fingerprint w scan) := by
  have hopened : opened ((next settings fingerprint w scan).state metric) = false := by
    rw [hstate]
    rfl
  constructor
  · constructor
    · intro hs hr
      exact hs.closes hr (by rw [hstate]; rfl)
    · intro hrun
      exact sound_of_unopened (by rw [hb]; exact Effect.noConfusion) hopened
        (fun hr _ => hrun hr)
  · apply tracks_of_breaks hb hbreach hopened
    · intro h
      have hclosed := raised_next h
      rw [hstate] at hclosed
      cases hclosed
    · intro h
      rw [hstate] at h
      cases h

section

variable (ht : Tracks settings metric w)
include ht

/-- **Between the thresholds**: an alarmed alert stays, another is closed at once. -/
theorem step_inBand (hkind : kindOf settings (scan.values metric) = .inBand) :
    (Sound settings metric w scan (next settings fingerprint w scan) ↔
      Proper settings metric w scan) ∧
      Tracks settings metric (next settings fingerprint w scan) := by
  have hb : breachEffect settings metric scan = .breaks := by
    unfold breachEffect
    rw [hkind]
  have hh : healthyEffect settings metric scan = .breaks := by
    unfold healthyEffect
    rw [hkind]
  have hproper : Proper settings metric w scan ↔
      (w.raised metric = true → (w.state metric).alarmed = true) := by
    unfold Proper
    rw [hkind]
  have hnorun : ¬ EndsRun (healthyEffect settings metric) settings.recoveryScans
      (next settings fingerprint w scan).history := by
    rw [endsHealthy_iff, hh]
    exact fun h => nomatch h.1
  have hspec := @inBand_spec settings fingerprint scan.now metric (scan.sent metric) _
    (w.alerts metric) hkind
  dsimp only at hspec
  rw [← next_alerts] at hspec
  rcases hspec with ⟨hafter, hbefore⟩ | ⟨halarmed, hsame, hbreach, hhealthy⟩ |
    ⟨hcalm, hstate, hbreach⟩
  · have hraised := ht.not_raised hbefore
    obtain ⟨hbreach, hstate⟩ := counts_of_none hafter
    obtain ⟨hsound, htracks⟩ := step_calm hb hbreach hstate
    refine ⟨?_, htracks⟩
    rw [hsound, hproper, hraised]
    constructor
    · exact fun _ h => nomatch h
    · exact fun _ h => nomatch h
  · have hsame : (next settings fingerprint w scan).state metric = w.state metric := hsame
    have halarmed : (w.state metric).alarmed = true := halarmed
    have hraised := ht.alarmed halarmed
    constructor
    · rw [hproper]
      refine ⟨fun _ _ => halarmed, fun _ => ⟨?_, ?_, ?_⟩⟩
      · exact fun _ hne => absurd hsame hne
      · intro _ hc
        rw [hsame, not_closed_of_alarmed halarmed] at hc
        cases hc
      · intro hskip
        rw [hb] at hskip
        cases hskip
    · refine ⟨?_, ?_, ?_, ?_, ?_, raised_next⟩
      · rw [hbreach, breachStreak_next, hb]
        rcases alarmed_iff.mp halarmed with hopened | hrecovering
        · exact .inr (ht.opened hopened)
        · exact .inl (ht.recovering hrecovering)
      · intro h
        rw [hsame] at h
        rw [hbreach]
        exact ht.opened h
      · intro h
        rw [hsame] at h
        rw [hbreach]
        exact ht.recovering h
      · intro _
        rw [hhealthy, healthyStreak_next, hh]
        rfl
      · exact fun h => raised_of_alarmed hraised h
  · have hcalm : (w.state metric).alarmed = false := hcalm
    obtain ⟨hsound, htracks⟩ := step_calm hb hbreach hstate
    refine ⟨?_, htracks⟩
    rw [hsound, hproper, hcalm]
    constructor
    · exact fun hrun hr => absurd (hrun hr) hnorun
    · exact fun hno hr => nomatch hno hr

/-- **A healthy scan**: an alarmed alert recovers once there were enough of them, another is
closed at once. -/
theorem step_healthy (hkind : kindOf settings (scan.values metric) = .healthy) :
    (Sound settings metric w scan (next settings fingerprint w scan) ↔
      Proper settings metric w scan) ∧
      Tracks settings metric (next settings fingerprint w scan) := by
  have hb : breachEffect settings metric scan = .breaks := by
    unfold breachEffect
    rw [hkind]
  have hh : healthyEffect settings metric scan = .counts := by
    unfold healthyEffect
    rw [hkind]
  have hproper : Proper settings metric w scan ↔
      (w.raised metric = true → (w.state metric).alarmed = true ∨
        settings.recoveryScans ≤ healthyStreak settings metric w + 1) := by
    unfold Proper
    rw [hkind]
  have hspec := @healthy_spec settings fingerprint scan.now metric (scan.sent metric) _
    (w.alerts metric) hkind
  dsimp only at hspec
  rw [← next_alerts] at hspec
  rcases hspec with ⟨hafter, hbefore⟩ | ⟨hbreach, hhealthy, hstate⟩
  · have hraised := ht.not_raised hbefore
    obtain ⟨hbreach, hstate⟩ := counts_of_none hafter
    obtain ⟨hsound, htracks⟩ := step_calm hb hbreach hstate
    refine ⟨?_, htracks⟩
    rw [hsound, hproper, hraised]
    constructor
    · exact fun _ h => nomatch h
    · exact fun _ h => nomatch h
  cases halarmed : (w.state metric).alarmed with
  | false =>
    rw [show (stateOf (w.alerts metric)).alarmed = false from halarmed] at hstate
    obtain ⟨hsound, htracks⟩ := step_calm hb hbreach hstate
    refine ⟨?_, htracks⟩
    rw [hsound, hproper, halarmed, endsHealthy_iff]
    constructor
    · exact fun hrun hr => .inr (hrun hr).2
    · intro h hr
      rcases h hr with h | h
      · cases h
      · exact ⟨hh, h⟩
  | true =>
    have hraised := ht.alarmed halarmed
    rw [show (stateOf (w.alerts metric)).alarmed = true from halarmed, if_pos rfl,
      ht.healthy hraised] at hstate
    rw [ht.healthy hraised] at hhealthy
    have hsh : healthyStreak settings metric (next settings fingerprint w scan) =
        healthyStreak settings metric w + 1 := by rw [healthyStreak_next, hh]; rfl
    have htrue : Proper settings metric w scan := hproper.mpr fun _ => .inl halarmed
    have hcounted : breachEffect settings metric scan ≠ .skips := by
      rw [hb]
      exact Effect.noConfusion
    by_cases hfew : healthyStreak settings metric w + 1 < settings.recoveryScans
    · have hstate : (next settings fingerprint w scan).state metric = .recovering := by
        rw [if_pos hfew] at hstate
        exact hstate
      have hopened : opened ((next settings fingerprint w scan).state metric) = false := by
        rw [hstate]
        rfl
      constructor
      · refine ⟨fun _ => htrue, fun _ => sound_of_unopened hcounted hopened ?_⟩
        intro _ h
        rw [hstate] at h
        cases h
      · apply tracks_of_breaks hb hbreach hopened
        · intro _
          rw [hhealthy, hsh]
        · exact fun h => raised_of_alarmed hraised h
    · have hstate : (next settings fingerprint w scan).state metric = .recovered := by
        rw [if_neg hfew] at hstate
        exact hstate
      have hopened : opened ((next settings fingerprint w scan).state metric) = false := by
        rw [hstate]
        rfl
      constructor
      · refine ⟨fun _ => htrue, fun _ => sound_of_unopened hcounted hopened ?_⟩
        intro _ _
        rw [endsHealthy_iff]
        exact ⟨hh, by omega⟩
      · apply tracks_of_breaks hb hbreach hopened
        · intro _
          rw [hhealthy, hsh]
        · intro h
          rw [hstate] at h
          cases h

theorem step_spec :
    (Sound settings metric w scan (next settings fingerprint w scan) ↔
      Proper settings metric w scan) ∧
      Tracks settings metric (next settings fingerprint w scan) := by
  cases hkind : kindOf settings (scan.values metric) with
  | poorQuality =>
    obtain ⟨hsound, htracks⟩ := step_poorQuality ht hkind
    refine ⟨iff_of_true hsound ?_, htracks⟩
    unfold Proper
    rw [hkind]
    exact True.intro
  | lowConsensus =>
    obtain ⟨hsound, htracks⟩ := step_lowConsensus ht hkind
    refine ⟨iff_of_true hsound ?_, htracks⟩
    unfold Proper
    rw [hkind]
    exact True.intro
  | inBand => exact step_inBand ht hkind
  | healthy => exact step_healthy ht hkind
  | risky => exact step_risky ht hkind

end

end Step

/-! ## Runs -/

theorem run_isSome : ∀ (l : List Scan) (w : World),
    ∃ w', (scans settings fingerprint).run w l = some w' := by
  intro l
  induction l with
  | nil => exact fun w => ⟨w, rfl⟩
  | cons scan l ih => exact fun w => ih (next settings fingerprint w scan)

/-- **Scan after scan**, the alert of a metric opens at the end of a run of risky scans and
closes at the end of a run of healthy ones exactly when every scan is proper. -/
theorem hysteresis_iff (metric : Metric) (l : List Scan) :
    (scans settings fingerprint).Always (Sound settings metric) start l ↔
      (scans settings fingerprint).Meets (Proper settings metric) start l := by
  obtain ⟨w', hrun⟩ := run_isSome settings fingerprint l start
  apply (scans settings fingerprint).always_iff_meets_of _ _ (Tracks settings metric) _ l start
    w' (tracks_start settings metric) hrun
  intro w scan w₁ ht hstep
  have hw₁ : next settings fingerprint w scan = w₁ := Option.some.inj hstep
  rw [← hw₁]
  obtain ⟨hiff, hnext⟩ := @step_spec settings fingerprint metric w scan ht
  exact ⟨hiff, fun _ => hnext⟩

/-! ## One missing forecast -/

/-- A forecast that crosses the trigger. -/
def highForecast : ResourceForecast where
  currentPercent := 80
  predictedPercent := 91
  hoursTo90 := some (.finite 4)
  confidence := 9 / 10
  samples := 30
  windowHours := 24
  trainingWindowHours := some 24
  consensusCandidateCount := 4
  consensusStatus := .consensus
  predictedLow := some 88
  predictedHigh := some 93

/-- One that is far from it. -/
def lowForecast : ResourceForecast where
  currentPercent := 60
  predictedPercent := 60
  hoursTo90 := none
  confidence := 9 / 10
  samples := 30
  windowHours := 24
  trainingWindowHours := some 24
  consensusCandidateCount := 4
  consensusStatus := .consensus
  predictedLow := some 55
  predictedHigh := some 65

def cpuScan (now : Time) (value : Option ResourceForecast) : Scan where
  now := now
  values := fun metric => if metric = .cpu then value else none
  sent := fun _ => true

/-- Two risky scans open a warning; then one forecast is missing. -/
def gapRun : List Scan :=
  [cpuScan 0 (some highForecast), cpuScan 900 (some highForecast), cpuScan 1800 none]

/-- **A warning that one healthy scan closes.**  Two are asked for. -/
theorem normal_after_one_healthy :
    ¬ ∀ (settings : Settings) (fingerprint : Fingerprint) (metric : Metric) (l : List Scan),
      (scans settings fingerprint).Always (Sound settings metric) start l := by
  intro h
  have hall := h {} (fun _ _ => "") .cpu (gapRun ++ [cpuScan 2700 (some lowForecast)])
  have hrun : (scans {} fun _ _ => "").run start gapRun =
      some (((scans {} fun _ _ => "").run start gapRun).getD start) := by
    rfl
  have hstep := hall.step_after rfl gapRun start hrun
  have hend := hstep.closes (by decide +kernel) (by decide +kernel)
  rw [endsHealthy_iff] at hend
  exact absurd hend.2 (by decide +kernel)

end CephAi.Ports.AlertHysteresis
