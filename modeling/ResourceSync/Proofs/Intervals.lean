import ResourceSync.Proofs.RecordingGroups
import ResourceSync.Proofs.Windows

/-! The intervals of converted recording rules. The whole seconds of an interval are kept and the rest
is dropped, where the window of the same duration would count it as a second: an interval below a
second becomes zero. -/
namespace ResourceSync

namespace Duration
variable {d : Duration}

theorem wholeSeconds_eq_windowSeconds_iff (h : 0 < d.nanoseconds) :
    d.wholeSeconds = d.windowSeconds ↔ d.subsecond = 0 := by
  unfold windowSeconds roundedSeconds wholeSeconds subsecond
  rw [Nat.ceilDiv_eq_add_pred_div]
  unfold second
  omega

theorem one_le_wholeSeconds_iff : 1 ≤ d.wholeSeconds ↔ second ≤ d.nanoseconds := by
  unfold wholeSeconds second
  omega

end Duration

namespace PrometheusGroup
variable {g : PrometheusGroup} {s : RecordingRuleGroup} {b : RecordingRuleGroupBody} {d : Duration}

/-- The interval of a group is written as some duration. -/
def HasInterval (g : PrometheusGroup) (d : Duration) : Prop :=
  ∃ text ∈ g.interval, Duration.Denotes text d

/-- No part of a second is left over in the interval of a group. -/
def IsWhole (g : PrometheusGroup) : Prop := ∀ d, g.HasInterval d → d.subsecond = 0

/-- The interval of a group is no shorter than a second, unless it is zero. -/
def IsSteady (g : PrometheusGroup) : Prop :=
  ∀ d, g.HasInterval d → 0 < d.nanoseconds → Duration.second ≤ d.nanoseconds

/-- A positive interval becomes as many seconds as the window of the same duration has. -/
def RoundsUp (g : PrometheusGroup) (s : RecordingRuleGroup) : Prop :=
  ∀ d, g.HasInterval d → 0 < d.nanoseconds →
    s.intervalSeconds.map UInt32.toNat = some d.windowSeconds

/-- A positive interval stays positive. -/
def StaysPositive (g : PrometheusGroup) (interval : Option UInt32) : Prop :=
  ∀ d, g.HasInterval d → 0 < d.nanoseconds → ∃ seconds, interval = some seconds ∧ 1 ≤ seconds.toNat

theorem lasts_iff {text : String} {seconds : UInt32} (h : Duration.Denotes text d) :
    Duration.Lasts text seconds ↔ seconds.toNat = d.wholeSeconds := by
  constructor
  · rintro ⟨d', hd', hseconds⟩
    rw [hseconds, hd'.unique h]
  · exact fun hseconds => ⟨d, h, hseconds⟩

/-- An interval is cut to its whole seconds. -/
theorem Becomes.interval_eq (h : g.Becomes s) (hd : g.HasInterval d) :
    s.intervalSeconds.map UInt32.toNat = some d.wholeSeconds := by
  obtain ⟨text, htext, hdenotes⟩ := hd
  have hrel := h.interval
  rw [Option.mem_def.1 htext] at hrel
  generalize s.intervalSeconds = interval at hrel
  cases hrel with
  | some hlasts => rw [Option.map_some, (lasts_iff hdenotes).1 hlasts]

theorem AsksFor.interval_eq (h : g.AsksFor b) (hd : g.HasInterval d) :
    b.interval.toNat = d.wholeSeconds := by
  obtain ⟨text, htext, hdenotes⟩ := hd
  exact (lasts_iff hdenotes).1 (h.interval text htext)

theorem Becomes.roundsUp_iff (h : g.Becomes s) : g.RoundsUp s ↔ g.IsWhole := by
  constructor
  · intro hrounds d hd
    by_cases hpos : 0 < d.nanoseconds
    · have hseconds := hrounds d hd hpos
      rw [h.interval_eq hd] at hseconds
      exact (Duration.wholeSeconds_eq_windowSeconds_iff hpos).1 (Option.some.inj hseconds)
    · have hzero : d.nanoseconds = 0 := by omega
      rw [Duration.subsecond, hzero, Nat.zero_mod]
  · intro hwhole d hd hpos
    rw [h.interval_eq hd, (Duration.wholeSeconds_eq_windowSeconds_iff hpos).2 (hwhole d hd)]

/-- An interval of so many whole seconds stays positive unless it is below a second. -/
theorem staysPositive_iff {interval : Option UInt32}
    (h : ∀ d, g.HasInterval d → interval.map UInt32.toNat = some d.wholeSeconds) :
    g.StaysPositive interval ↔ g.IsSteady := by
  constructor
  · intro hstays d hd hpos
    obtain ⟨seconds, rfl, hone⟩ := hstays d hd hpos
    have hseconds := Option.some.inj (h d hd)
    exact Duration.one_le_wholeSeconds_iff.1 (hseconds ▸ hone)
  · intro hsteady d hd hpos
    obtain ⟨seconds, rfl, hseconds⟩ := Option.map_eq_some_iff.1 (h d hd)
    refine ⟨seconds, rfl, ?_⟩
    rw [hseconds]
    exact Duration.one_le_wholeSeconds_iff.2 (hsteady d hd hpos)

theorem becomes_of_recordingGroup (h : g.recordingGroup = .ok s) : g.Becomes s := by
  have hfits : ∀ text ∈ g.interval, Duration.Fits text := by
    intro text htext
    obtain ⟨seconds, hseconds, -⟩ := bind_eq_ok_iff.1 h
    rw [intervalSeconds, Option.mem_def.1 htext] at hseconds
    obtain ⟨d, hparse, -⟩ := bind_eq_ok_iff.1 hseconds
    exact Duration.fits_of_parse (mapError_eq_ok_iff.1 hparse)
  rcases recordingGroup_settles hfits with ⟨-, s', hs', hbecome⟩ | ⟨-, cause, hrefused⟩
  · cases h.symm.trans hs'
    exact hbecome
  · cases h.symm.trans hrefused

end PrometheusGroup

namespace PrometheusRule
variable {r : PrometheusRule} {set : Resource .recordingRuleGroupSet}

theorem become_of_recordingRuleGroupSet (h : r.recordingRuleGroupSet = .ok set) :
    List.Forall₂ PrometheusGroup.Becomes r.recordingGroups
      (set.spec : RecordingRuleGroupSetSpec).groups := by
  unfold recordingRuleGroupSet at h
  simp only [recordingRules_isEmpty] at h
  obtain ⟨groups, hgroups, hset⟩ := bind_eq_ok_iff.1 h
  cases hset
  exact (mapM_eq_ok_iff.1 hgroups).imp fun _ _ => PrometheusGroup.becomes_of_recordingGroup

/-- The intervals of a converted rule are rounded up exactly if none has a part of a second left
over. They stay positive, in the set and in the entity that it asks for, exactly if none is below a
second. -/
theorem positive_intervals_stay_iff (h : r.recordingRuleGroupSet = .ok set) :
    (List.Forall₂ PrometheusGroup.RoundsUp r.recordingGroups
        (set.spec : RecordingRuleGroupSetSpec).groups ↔
      ∀ g ∈ r.recordingGroups, g.IsWhole) ∧
    (List.Forall₂ (fun g s => g.StaysPositive s.intervalSeconds) r.recordingGroups
        (set.spec : RecordingRuleGroupSetSpec).groups ↔
      ∀ g ∈ r.recordingGroups, g.IsSteady) ∧
    ∀ b : RecordingRuleGroupSetBody, set.desiredBody = .ok b →
      (List.Forall₂ (fun g b => g.StaysPositive (some b.interval)) r.recordingGroups b.groups ↔
        ∀ g ∈ r.recordingGroups, g.IsSteady) := by
  have hbecome := become_of_recordingRuleGroupSet h
  refine ⟨?_, ?_, fun b hb => ?_⟩
  · exact forall₂_iff_forall_mem hbecome fun g s hs => hs.roundsUp_iff
  · refine forall₂_iff_forall_mem hbecome fun g s hs => ?_
    exact PrometheusGroup.staysPositive_iff fun d hd => hs.interval_eq hd
  · have hasks : List.Forall₂ PrometheusGroup.AsksFor r.recordingGroups b.groups := by
      rw [(RecordingRuleGroupSetSpec.desiredBody_eq_ok_iff.1 hb).2, List.forall₂_map_right_iff]
      exact hbecome.imp fun _ _ => PrometheusGroup.Becomes.asksFor
    refine forall₂_iff_forall_mem hasks fun g b hgb => ?_
    exact PrometheusGroup.staysPositive_iff fun d hd => congrArg some (hgb.interval_eq hd)

end PrometheusRule

/-- A group of one recording rule that is evaluated at an interval. -/
def Sample.ticking (interval : String) : PrometheusGroup :=
  ⟨"rates", some interval, none,
    [⟨some "errors:rate5m", none, "rate(errors[5m])", none, none, none⟩]⟩

def Sample.every (interval : String) : PrometheusRule where
  metadata := { Metadata.empty with name := some "web", inNamespace := some "default" }
  spec := ⟨[Sample.ticking interval]⟩

section samples
variable {interval : String} {d d' : Duration}

theorem hasInterval_ticking_iff (h : Duration.parse interval = .ok d) :
    (Sample.ticking interval).HasInterval d' ↔ d' = d := by
  have hdenotes := (Duration.parse_eq_ok_iff.1 h).1
  constructor
  · rintro ⟨_, ⟨⟩, hd'⟩
    exact hd'.unique hdenotes
  · rintro rfl
    exact ⟨interval, rfl, hdenotes⟩

theorem exists_set_every (h : Duration.parse interval = .ok d)
    (hlt : d.wholeSeconds < UInt32.size) :
    ∃ set, (Sample.every interval).recordingRuleGroupSet = .ok set ∧
      ∃ s, (set.spec : RecordingRuleGroupSetSpec).groups = [s] ∧
        (Sample.ticking interval).Becomes s := by
  have hfits : ∀ g ∈ (Sample.every interval).recordingGroups, ∀ text ∈ g.interval,
      Duration.Fits text := by
    refine List.forall_mem_singleton.2 ?_
    rintro _ ⟨⟩
    exact Duration.fits_of_parse h
  have htimely : ∀ g ∈ (Sample.every interval).recordingGroups, ¬ g.IsUntimely :=
    List.forall_mem_singleton.2 (PrometheusGroup.not_isUntimely_of_parse rfl h hlt)
  obtain ⟨set, hset, hbecome⟩ :=
    (PrometheusRule.recordingRuleGroupSet_settles hfits).exists_ok htimely
  obtain ⟨s, rest, hs, hrest, hgroups⟩ := List.forall₂_cons_left_iff.1 hbecome
  rw [List.forall₂_nil_left_iff.1 hrest] at hgroups
  exact ⟨set, hset, s, hgroups, hs⟩

theorem ninety_seconds_stay_positive :
    ∃ set, (Sample.every "90s").recordingRuleGroupSet = .ok set ∧
      List.Forall₂ PrometheusGroup.RoundsUp (Sample.every "90s").recordingGroups
        (set.spec : RecordingRuleGroupSetSpec).groups := by
  let ninety : Duration.Amount := ⟨['9', '0'], .second, by decide, by decide⟩
  have hmillis : ninety.millis = 90000 := by decide
  have hparse : Duration.parse "90s" = .ok (.ofMillis 90000) := by
    rw [← hmillis]
    exact Duration.Amount.parse_of_text rfl ⟨by decide, by decide⟩
  obtain ⟨set, hset, -⟩ := exists_set_every hparse (by decide)
  refine ⟨set, hset, (PrometheusRule.positive_intervals_stay_iff hset).1.2 ?_⟩
  refine List.forall_mem_singleton.2 fun d hd => ?_
  rw [(hasInterval_ticking_iff hparse).1 hd]
  decide

/-- Half a second is an interval of zero seconds, in the set and in the entity that it asks for. -/
theorem half_a_second_becomes_zero :
    (Sample.ticking "500ms").HasInterval (.ofMillis 500) ∧
      ∃ set, (Sample.every "500ms").recordingRuleGroupSet = .ok set ∧
        (set.spec : RecordingRuleGroupSetSpec).groups.map (·.intervalSeconds) = [some 0] ∧
        ∃ b : RecordingRuleGroupSetBody, set.desiredBody = .ok b ∧
          b.groups.map (·.interval) = [0] := by
  let half : Duration.Amount := ⟨['5', '0', '0'], .millisecond, by decide, by decide⟩
  have hmillis : half.millis = 500 := by decide
  have hparse : Duration.parse "500ms" = .ok (.ofMillis 500) := by
    rw [← hmillis]
    exact Duration.Amount.parse_of_text rfl ⟨by decide, by decide⟩
  have hhalf := (hasInterval_ticking_iff hparse).2 rfl
  obtain ⟨set, hset, s, hgroups, hs⟩ := exists_set_every hparse (by decide)
  have hzero : s.intervalSeconds = some 0 := by
    obtain ⟨seconds, hseconds, hnat⟩ := Option.map_eq_some_iff.1 (hs.interval_eq hhalf)
    rw [hseconds, UInt32.toNat_inj.1 (hnat.trans (by decide : _ = (0 : UInt32).toNat))]
  have hnodup : ((set.spec : RecordingRuleGroupSetSpec).groups.map (·.name)).Nodup := by
    rw [hgroups]
    exact List.nodup_singleton _
  obtain ⟨b, hb⟩ : ∃ b : RecordingRuleGroupSetBody, set.desiredBody = .ok b :=
    ⟨⟨_⟩, RecordingRuleGroupSetSpec.desiredBody_eq_ok_iff.2 ⟨hnodup, rfl⟩⟩
  refine ⟨hhalf, set, hset, by simp [hgroups, hzero], b, hb, ?_⟩
  rw [(RecordingRuleGroupSetSpec.desiredBody_eq_ok_iff.1 hb).2, hgroups]
  simp [RecordingRuleGroup.body, hzero]

end samples

end ResourceSync
