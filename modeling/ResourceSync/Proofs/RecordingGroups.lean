import ResourceSync.Proofs.Durations
import ResourceSync.Proofs.Traversal
import ResourceSync.Prometheus.Conversion

/-! The conversion of recording rules: the groups that have some become groups of a set, and with it
of an entity, unless the interval of one of them is no duration or too long. -/
namespace ResourceSync

/-- No text is found twice where there are no duplicates, also among those seen before. -/
theorem firstRepeated_eq_none_iff {seen l : List String} :
    firstRepeated seen l = none ↔ l.Nodup ∧ ∀ s ∈ l, s ∉ seen := by
  induction l generalizing seen with
  | nil => exact iff_of_true rfl ⟨List.nodup_nil, nofun⟩
  | cons s l ih =>
    rw [firstRepeated]
    split
    · next h =>
      refine iff_of_false nofun fun hs => ?_
      exact hs.2 s List.mem_cons_self (List.contains_iff_mem.1 h)
    · next h =>
      have hs : s ∉ seen := fun hmem => h (List.contains_iff_mem.2 hmem)
      rw [ih, List.nodup_cons]
      constructor
      · rintro ⟨hnodup, hnew⟩
        refine ⟨⟨fun hmem => hnew s hmem List.mem_cons_self, hnodup⟩, ?_⟩
        exact List.forall_mem_cons.2 ⟨hs, fun t ht hmem => hnew t ht (List.mem_cons_of_mem _ hmem)⟩
      · rintro ⟨⟨hnot, hnodup⟩, hnew⟩
        refine ⟨hnodup, fun t ht hmem => ?_⟩
        rcases List.mem_cons.1 hmem with rfl | hmem
        · exact hnot ht
        · exact hnew t (List.mem_cons_of_mem _ ht) hmem

theorem RecordingRuleGroupSetSpec.desiredBody_eq_ok_iff {s : RecordingRuleGroupSetSpec}
    {b : RecordingRuleGroupSetBody} :
    s.desiredBody = .ok b ↔ (s.groups.map (·.name)).Nodup ∧ b.groups = s.groups.map (·.body) := by
  have hnames : firstRepeated [] (s.groups.map (·.name)) = none ↔ (s.groups.map (·.name)).Nodup := by
    rw [firstRepeated_eq_none_iff]
    exact and_iff_left nofun
  unfold desiredBody
  rw [← hnames]
  obtain ⟨groups⟩ := b
  cases firstRepeated [] (s.groups.map (·.name)) with
  | none => simp [eq_comm]
  | some name => exact iff_of_false nofun (fun h => nomatch h.1)

/-- The recording rule that an entry stands for. -/
structure PrometheusEntry.Records (e : PrometheusEntry) (rule : RecordingRule) : Prop where
  record : e.record = some rule.record
  expr : rule.expr = e.expr
  labels : rule.labels = e.labels.getD ∅

/-- A text denotes a duration of so many whole seconds. -/
def Duration.Lasts (text : String) (seconds : UInt32) : Prop :=
  ∃ d, Denotes text d ∧ seconds.toNat = d.wholeSeconds

namespace PrometheusGroup
variable {g : PrometheusGroup} {s : RecordingRuleGroup}

/-- The entries of a group that have a record. -/
def recordingEntries (g : PrometheusGroup) : List PrometheusEntry :=
  g.rules.filter (·.record.isSome)

/-- The interval of a group is no duration, or one whose seconds do not fit their word. -/
def IsUntimely (g : PrometheusGroup) : Prop :=
  ∃ text ∈ g.interval, ¬ Duration.IsDuration text ∨
    ∃ d, Duration.Denotes text d ∧ UInt32.size ≤ d.wholeSeconds

/-- The group of a set that a group becomes. -/
structure Becomes (g : PrometheusGroup) (s : RecordingRuleGroup) : Prop where
  name : s.name = g.name
  limit : s.limit = g.limit
  interval : Option.Rel Duration.Lasts g.interval s.intervalSeconds
  rules : List.Forall₂ PrometheusEntry.Records g.recordingEntries s.rules

/-- The group of an entity that is asked for, with 60 seconds and no limit unless others are given. -/
structure AsksFor (g : PrometheusGroup) (b : RecordingRuleGroupBody) : Prop where
  name : b.name = g.name
  limit : b.limit = g.limit.getD 0
  interval : ∀ text ∈ g.interval, Duration.Lasts text b.interval
  interval_of_none : g.interval = none → b.interval = 60
  rules : List.Forall₂ (fun e b => e.Records ⟨b.record, b.expr, b.labels⟩) g.recordingEntries b.rules

theorem records_recordingRules (g : PrometheusGroup) :
    List.Forall₂ PrometheusEntry.Records g.recordingEntries g.recordingRules := by
  unfold recordingEntries recordingRules
  induction g.rules with
  | nil => exact .nil
  | cons e l ih =>
    cases hrecord : e.record with
    | none => simpa [PrometheusEntry.recordingRule?, hrecord] using ih
    | some record =>
      rw [List.filter_cons_of_pos (by rw [hrecord]; rfl), List.filterMap_cons,
        PrometheusEntry.recordingRule?, hrecord]
      exact .cons ⟨hrecord, rfl, rfl⟩ ih

theorem not_isUntimely_of_parse {text : String} {d : Duration} (hinterval : g.interval = some text)
    (hparse : Duration.parse text = .ok d) (hlt : d.wholeSeconds < UInt32.size) :
    ¬ g.IsUntimely := by
  rintro ⟨text', htext', hnone | ⟨d', hd', hle⟩⟩ <;> cases hinterval.symm.trans htext'
  · exact hnone ⟨d, (Duration.parse_eq_ok_iff.1 hparse).1⟩
  · have hd := (Duration.parse_eq_ok_iff_of_fits (Duration.fits_of_parse hparse)).2 hd'
    cases hparse.symm.trans hd
    exact absurd hlt (Nat.not_lt_of_le hle)

theorem intervalSeconds_settles (hfits : ∀ text ∈ g.interval, Duration.Fits text) :
    g.intervalSeconds.Settles (¬ g.IsUntimely) (Option.Rel Duration.Lasts g.interval) := by
  unfold intervalSeconds
  cases hinterval : g.interval with
  | none =>
    refine .inl ⟨?_, none, rfl, .none⟩
    rintro ⟨text, htext, -⟩
    cases hinterval.symm.trans htext
  | some text =>
    dsimp only
    rcases Duration.parse_settles (hfits text hinterval) with ⟨-, d, hparse, -⟩ |
      ⟨hnone, cause, hparse⟩ <;> rw [hparse]
    · have hdenotes := (Duration.parse_eq_ok_iff.1 hparse).1
      by_cases hlt : d.wholeSeconds < UInt32.size
      · exact .inl ⟨not_isUntimely_of_parse hinterval hparse hlt, _, if_pos hlt,
          .some ⟨d, hdenotes, UInt32.toNat_ofNat_of_lt' hlt⟩⟩
      · refine .inr ⟨fun htimely => htimely ⟨text, hinterval, .inr ⟨d, hdenotes, ?_⟩⟩, _, if_neg hlt⟩
        exact Nat.le_of_not_lt hlt
    · exact .inr ⟨fun htimely => htimely ⟨text, hinterval, .inl hnone⟩, _, rfl⟩

theorem recordingGroup_settles (hfits : ∀ text ∈ g.interval, Duration.Fits text) :
    g.recordingGroup.Settles (¬ g.IsUntimely) g.Becomes :=
  (intervalSeconds_settles hfits).bind_ok fun _ hinterval =>
    ⟨_, rfl, rfl, rfl, hinterval, g.records_recordingRules⟩

/-- An interval that is given stays as it is. -/
theorem lasts_getD {interval : Option String} {seconds : Option UInt32}
    (h : Option.Rel Duration.Lasts interval seconds) :
    (∀ text ∈ interval, Duration.Lasts text (seconds.getD defaultInterval)) ∧
      (interval = none → seconds.getD defaultInterval = 60) := by
  cases h with
  | none => exact ⟨nofun, fun _ => rfl⟩
  | some hlasts =>
    refine ⟨?_, nofun⟩
    rintro _ ⟨⟩
    exact hlasts

theorem Becomes.asksFor (h : g.Becomes s) : g.AsksFor s.body where
  name := h.name
  limit := congrArg (·.getD 0) h.limit
  interval := (lasts_getD h.interval).1
  interval_of_none := (lasts_getD h.interval).2
  rules := List.forall₂_map_right_iff.2 h.rules

end PrometheusGroup

namespace PrometheusRule
variable {r : PrometheusRule}

/-- The groups that have a recording entry. -/
def recordingGroups (r : PrometheusRule) : List PrometheusGroup :=
  r.spec.groups.filter fun g => g.rules.any (·.record.isSome)

theorem recordingRules_isEmpty (g : PrometheusGroup) :
    (!g.recordingRules.isEmpty) = g.rules.any (·.record.isSome) := by
  unfold PrometheusGroup.recordingRules
  induction g.rules with
  | nil => rfl
  | cons e l ih =>
    cases hrecord : e.record with
    | none => simpa [PrometheusEntry.recordingRule?, hrecord] using ih
    | some record => simp [PrometheusEntry.recordingRule?, hrecord]

theorem recordingRuleGroupSet_settles
    (hfits : ∀ g ∈ r.recordingGroups, ∀ text ∈ g.interval, Duration.Fits text) :
    r.recordingRuleGroupSet.Settles (∀ g ∈ r.recordingGroups, ¬ g.IsUntimely) fun set =>
      List.Forall₂ PrometheusGroup.Becomes r.recordingGroups
        (set.spec : RecordingRuleGroupSetSpec).groups := by
  unfold recordingRuleGroupSet
  simp only [recordingRules_isEmpty]
  refine (Checked.Settles.mapM fun g hg => ?_).bind_ok fun groups hgroups => ⟨_, rfl, hgroups⟩
  exact PrometheusGroup.recordingGroup_settles (hfits g hg)

/-- Unless the interval of one of them is no duration or too long, the groups that have a recording
entry become the groups of a set, and of an entity if their names have no duplicates. -/
theorem recording_entries_become_groups
    (hfits : ∀ g ∈ r.recordingGroups, ∀ text ∈ g.interval, Duration.Fits text) :
    ((∃ cause, r.recordingRuleGroupSet = .error (.refused cause)) ↔
      ∃ g ∈ r.recordingGroups, g.IsUntimely) ∧
    ((∀ g ∈ r.recordingGroups, ¬ g.IsUntimely) → ∃ set, r.recordingRuleGroupSet = .ok set ∧
      List.Forall₂ PrometheusGroup.Becomes r.recordingGroups
        (set.spec : RecordingRuleGroupSetSpec).groups ∧
      ((∃ b, set.desiredBody = .ok b) ↔ (r.recordingGroups.map (·.name)).Nodup) ∧
      ∀ b : RecordingRuleGroupSetBody, set.desiredBody = .ok b →
        List.Forall₂ PrometheusGroup.AsksFor r.recordingGroups b.groups) := by
  have hsettles := recordingRuleGroupSet_settles hfits
  refine ⟨hsettles.refused_iff.trans (by simp), fun htimely => ?_⟩
  obtain ⟨set, hset, hbecome⟩ := hsettles.exists_ok htimely
  have hnames : (set.spec : RecordingRuleGroupSetSpec).groups.map (·.name) =
      r.recordingGroups.map (·.name) := by
    rw [← List.forall₂_eq_eq_eq, List.forall₂_map_left_iff, List.forall₂_map_right_iff]
    exact (hbecome.imp fun _ _ h => h.name).flip
  refine ⟨set, hset, hbecome, ?_, ?_⟩
  · rw [← hnames]
    constructor
    · rintro ⟨b, hb⟩
      exact (RecordingRuleGroupSetSpec.desiredBody_eq_ok_iff.1 hb).1
    · intro hnodup
      exact ⟨⟨_⟩, RecordingRuleGroupSetSpec.desiredBody_eq_ok_iff.2 ⟨hnodup, rfl⟩⟩
  · intro b hb
    rw [(RecordingRuleGroupSetSpec.desiredBody_eq_ok_iff.1 hb).2, List.forall₂_map_right_iff]
    exact hbecome.imp fun _ _ => PrometheusGroup.Becomes.asksFor

end PrometheusRule

/-- A rule with a group of recording rules, one of recording and alerting rules, and one of alerting
rules whose interval is no duration. -/
def Sample.recorded : PrometheusRule where
  metadata := { Metadata.empty with name := some "web", inNamespace := some "default" }
  spec := ⟨[
    ⟨"rates", some "1m", none, [⟨some "errors:rate5m", none, "rate(errors[5m])", none, none, none⟩]⟩,
    ⟨"slo", none, some 5, [
      ⟨none, some "HighErrors", "errors > 1", none, none, none⟩,
      ⟨some "errors:ratio", none, "errors / requests", none, none, none⟩]⟩,
    ⟨"ops", some "soon", none, [⟨none, some "Gone", "up < 1", none, none, none⟩]⟩]⟩

theorem recorded_rule_asks_for_two_groups :
    (∀ g ∈ Sample.recorded.recordingGroups, ∀ text ∈ g.interval, Duration.Fits text) ∧
      ∃ set, Sample.recorded.recordingRuleGroupSet = .ok set ∧
        ∃ b : RecordingRuleGroupSetBody, set.desiredBody = .ok b ∧
          b.groups.map (fun g => (g.name, g.limit)) = [("rates", 0), ("slo", 5)] := by
  have hfits : ∀ g ∈ Sample.recorded.recordingGroups, ∀ text ∈ g.interval, Duration.Fits text := by
    refine List.forall_mem_cons.2 ⟨?_, List.forall_mem_singleton.2 nofun⟩
    rintro _ ⟨⟩
    exact Duration.fits_of_parse Duration.parse_minute
  have htimely : ∀ g ∈ Sample.recorded.recordingGroups, ¬ g.IsUntimely :=
    List.forall_mem_cons.2
      ⟨PrometheusGroup.not_isUntimely_of_parse rfl Duration.parse_minute (by decide),
        List.forall_mem_singleton.2 nofun⟩
  obtain ⟨set, hset, -, hbody, hgroups⟩ :=
    (PrometheusRule.recording_entries_become_groups hfits).2 htimely
  obtain ⟨b, hb⟩ := hbody.2 (by decide)
  refine ⟨hfits, set, hset, b, hb, ?_⟩
  obtain ⟨first, rest, hfirst, hrest, hcons⟩ := List.forall₂_cons_left_iff.1 (hgroups b hb)
  obtain ⟨second, _, hsecond, hnone, rfl⟩ := List.forall₂_cons_left_iff.1 hrest
  rw [hcons, List.forall₂_nil_left_iff.1 hnone]
  simp [hfirst.name, hfirst.limit, hsecond.name, hsecond.limit]

end ResourceSync
