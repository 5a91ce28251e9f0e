import Mathlib.Data.List.Forall2
import ResourceSync.Proofs.Durations
import ResourceSync.Proofs.Generated

/-! The conversion of alerting rules: one alert for each of them, in their order, unless one holds
for a time that is no duration. -/
namespace ResourceSync

/-- The words for severities, with the priorities that they amount to. -/
def severities : List (String × AlertPriority) :=
  [("critical", .p1), ("error", .p2), ("warning", .p3), ("info", .p4)]

namespace PrometheusEntry
variable {e : PrometheusEntry} {alert word : String} {p : AlertPriority}

def label? (e : PrometheusEntry) (key : String) : Option String := (e.labels.getD ∅).get? key

def annotation? (e : PrometheusEntry) (key : String) : Option String :=
  (e.annotations.getD ∅).get? key

/-- The severity of an entry is the word, in letters of either case. -/
def HasSeverity (e : PrometheusEntry) (word : String) : Prop :=
  (e.label? PrometheusRule.severityLabel).map String.toLower = some word

/-- For how long the condition of an entry has to hold. -/
def holds (e : PrometheusEntry) : String := e.forDuration.getD PrometheusRule.defaultFor

/-- That time and the seconds that cover it stay in range. -/
structure Fits (e : PrometheusEntry) : Prop where
  sum : Duration.Fits e.holds
  window : ∀ d, Duration.Denotes e.holds d → d.ceilSeconds < UInt64.size

/-- What the spec of an alert says about the alerting rule that it was made from. -/
structure Specifies (e : PrometheusEntry) (s : AlertSpec) : Prop where
  name : e.alert = some s.name
  query : s.query = e.expr
  labels : ∀ key value, s.entityLabels.get? key = some value ↔
    key ≠ PrometheusRule.severityLabel ∧ e.label? key = some value
  description : s.description = (e.annotation? "description").or (e.annotation? "summary")
  priority : ∀ word p, (word, p) ∈ severities → (s.priority = p ↔ e.HasSeverity word)
  window : ∃ d, Duration.Denotes e.holds d ∧
    (d.timeWindow : Checked ConversionError String) = .ok s.condition.timeWindow
  threshold : s.condition.threshold = .zero

/-- Only a time that is written down can be no duration. -/
theorem isDuration_holds_iff :
    Duration.IsDuration e.holds ↔ ∀ text ∈ e.forDuration, Duration.IsDuration text := by
  unfold holds
  cases e.forDuration with
  | none => exact iff_of_true ⟨_, (Duration.parse_eq_ok_iff.1 Duration.parse_minute).1⟩ nofun
  | some text => simp

theorem priorityOf_eq_iff (h : (word, p) ∈ severities) :
    priorityOf e.labels = p ↔ e.HasSeverity word := by
  have hlabel : e.labels.bind (·.get? PrometheusRule.severityLabel) =
      e.label? PrometheusRule.severityLabel := by
    unfold label?
    cases e.labels <;> rfl
  unfold priorityOf HasSeverity
  rw [hlabel]
  generalize (e.label? PrometheusRule.severityLabel).map String.toLower = severity
  simp only [severities, List.mem_cons, Prod.mk.injEq, List.not_mem_nil, or_false] at h
  split <;> rcases h with ⟨rfl, rfl⟩ | ⟨rfl, rfl⟩ | ⟨rfl, rfl⟩ | ⟨rfl, rfl⟩ <;> simp_all

theorem description?_eq : e.description? =
    (e.annotation? "description").or (e.annotation? "summary") := by
  unfold description? annotation?
  cases e.annotations <;> rfl

theorem Fits.of_parse {d : Duration} (h : Duration.parse e.holds = .ok d)
    (hlt : d.ceilSeconds < UInt64.size) : e.Fits where
  sum := Duration.fits_of_parse h
  window := by
    intro d' hd'
    cases h.symm.trans ((Duration.parse_eq_ok_iff_of_fits (Duration.fits_of_parse h)).2 hd')
    exact hlt

theorem exists_timeWindow {d : Duration} (h : d.ceilSeconds < UInt64.size) :
    ∃ window, (d.timeWindow : Checked ConversionError String) = .ok window := by
  rw [Duration.timeWindow, if_neg (Nat.not_le_of_lt h)]
  exact ⟨_, rfl⟩

/-- An alerting rule that holds for some duration is specified by its alert. -/
theorem alertSpec_settles (h : e.Fits) (halert : e.alert = some alert) :
    (e.alertSpec alert).Settles (Duration.IsDuration e.holds) e.Specifies := by
  refine ((Duration.parse_settles h.sum).during _).bind_ok ?_
  intro d hparse
  have hdenotes := (Duration.parse_eq_ok_iff.1 hparse).1
  obtain ⟨window, hwindow⟩ := exists_timeWindow (h.window d hdenotes)
  refine ⟨_, bind_eq_ok_iff.2 ⟨window, hwindow, rfl⟩, ?_⟩
  exact {
    name := halert
    query := rfl
    labels := fun key value => by
      rw [SortedMap.get?_filter, ← label?]
      simp
    description := description?_eq
    priority := fun _ _ => priorityOf_eq_iff
    window := ⟨d, hdenotes, hwindow⟩
    threshold := rfl }

end PrometheusEntry

namespace PrometheusRule
variable {r : PrometheusRule} {index : Nat}

/-- The entries of all groups that have an alert. -/
def alertingEntries (r : PrometheusRule) : List PrometheusEntry :=
  (r.spec.groups.flatMap (·.rules)).filter (·.alert.isSome)

/-- The labels that generated objects have of their own. -/
def ownLabels (r : PrometheusRule) : List (String × String) :=
  [(managedByLabel, kindName), (partOfLabel, "obsync"), (sourceLabel, r.name)]

/-- An object has the labels of the rule, except those that only ask for conversions, and its own. -/
def HasLabels (r : PrometheusRule) (m : Metadata) : Prop :=
  ∀ key value, m.labelMap.get? key = some value ↔ (key, value) ∈ r.ownLabels ∨
    key ∉ r.ownLabels.map (·.1) ∧ key ≠ trackAlerting ∧ key ≠ trackRecording ∧
      r.metadata.labelMap.get? key = some value

/-- The alert that the alerting rule at a position becomes. -/
structure Becomes (r : PrometheusRule) (index : Nat) (e : PrometheusEntry) (a : Resource .alert) :
    Prop where
  named : a.metadata.name = some (alertName r.name (a.spec : AlertSpec).name index)
  specifies : e.Specifies a.spec
  labels : r.HasLabels a.metadata
  body : ∃ body, a.desiredBody = .ok body

theorem hasLabels_generatedMetadata (name : String) : r.HasLabels (r.generatedMetadata name) := by
  intro key value
  change r.generatedLabels.get? key = _ ↔ _
  unfold generatedLabels
  rw [SortedMap.get?_insert, SortedMap.get?_insert, SortedMap.get?_insert, SortedMap.get?_filter]
  have hapart : managedByLabel ≠ partOfLabel ∧ managedByLabel ≠ sourceLabel ∧
      partOfLabel ≠ sourceLabel := by decide
  grind [ownLabels]

theorem Becomes.anyName_eq {e : PrometheusEntry} {a : Resource .alert} {alert : String}
    (h : r.Becomes index e a) (halert : e.alert = some alert) :
    a.metadata.anyName = alertName r.name alert index := by
  have hname := h.specifies.name
  rw [halert] at hname
  cases hname
  unfold Metadata.anyName
  rw [h.named]
  rfl

theorem becomes_of_specifies {e : PrometheusEntry} {spec : AlertSpec} (h : e.Specifies spec) :
    r.Becomes index e ⟨r.generatedMetadata (alertName r.name spec.name index), spec, none⟩ where
  named := rfl
  specifies := h
  labels := hasLabels_generatedMetadata _
  body := by
    have hfinite : spec.condition.threshold.isFinite = true := by
      rw [h.threshold]
      decide
    exact ⟨_, if_pos hfinite⟩

/-- The alerting rules at the positions from `index` on become alerts, if each of them holds for
some duration. -/
theorem alertsFrom_settles (r : PrometheusRule) (index : Nat) {l : List (String × PrometheusEntry)}
    (hl : ∀ x ∈ l, x.2.alert = some x.1 ∧ x.2.Fits) :
    (r.alertsFrom index l).Settles (∀ e ∈ l.map (·.2), Duration.IsDuration e.holds)
      (List.Forall₂ (fun x a => r.Becomes x.2 x.1 a) ((l.map (·.2)).zipIdx index)) := by
  induction l generalizing index with
  | nil => exact .inl ⟨nofun, [], rfl, .nil⟩
  | cons x l ih =>
    obtain ⟨alert, e⟩ := x
    obtain ⟨⟨halert, hfits⟩, htail⟩ := List.forall_mem_cons.1 hl
    -- The entry is settled first, and the entries behind it only if it becomes an alert.
    refine Checked.Settles.congr ?_ List.forall_mem_cons.symm
    refine (PrometheusEntry.alertSpec_settles hfits halert).bind ?_
    intro spec hspecifies
    obtain rfl : alert = spec.name := Option.some.inj (halert.symm.trans hspecifies.name)
    refine (ih (index + 1) htail).bind_ok ?_
    intro alerts hbecome
    exact ⟨_, rfl, .cons (becomes_of_specifies hspecifies) hbecome⟩

theorem map_alertingRules (r : PrometheusRule) :
    r.alertingRules.map (·.2) = r.alertingEntries := by
  unfold alertingRules alertingEntries
  rw [List.map_flatMap, List.filter_flatMap]
  congr
  funext g
  rw [List.map_filterMap]
  induction g.rules with
  | nil => rfl
  | cons e l ih => cases halert : e.alert <;> simpa [halert] using ih

theorem alert_of_mem_alertingRules {x : String × PrometheusEntry} (hx : x ∈ r.alertingRules) :
    x.2.alert = some x.1 := by
  obtain ⟨g, -, hx⟩ := List.mem_flatMap.1 hx
  obtain ⟨e, -, hx⟩ := List.mem_filterMap.1 hx
  obtain ⟨alert, halert, rfl⟩ := Option.map_eq_some_iff.1 hx
  exact halert

/-- Unless it holds for a time that is no duration, every alerting rule becomes one alert, in the
order of the groups. -/
theorem alerting_rules_become_alerts (hfits : ∀ e ∈ r.alertingEntries, e.Fits) :
    ((∃ cause, r.desiredAlerts = .error (.refused cause)) ↔
      ∃ e ∈ r.alertingEntries, ∃ text, e.forDuration = some text ∧ ¬ Duration.IsDuration text) ∧
    ((∀ e ∈ r.alertingEntries, ∀ text ∈ e.forDuration, Duration.IsDuration text) →
      ∃ alerts, r.desiredAlerts = .ok alerts ∧
        List.Forall₂ (fun x a => r.Becomes x.2 x.1 a) r.alertingEntries.zipIdx alerts ∧
        (alerts.map (·.metadata.anyName)).Nodup) := by
  have hl : ∀ x ∈ r.alertingRules, x.2.alert = some x.1 ∧ x.2.Fits := by
    intro x hx
    refine ⟨alert_of_mem_alertingRules hx, hfits _ ?_⟩
    rw [← map_alertingRules]
    exact List.mem_map_of_mem hx
  have hsettles := r.alertsFrom_settles 0 hl
  rw [map_alertingRules] at hsettles
  simp only [PrometheusEntry.isDuration_holds_iff] at hsettles
  refine ⟨hsettles.refused_iff.trans ?_, fun hdurations => ?_⟩
  · simp only [not_forall, exists_prop, Option.mem_def]
  · obtain ⟨alerts, halerts, hbecome⟩ := hsettles.exists_ok hdurations
    exact ⟨alerts, halerts, hbecome, nodup_alertsFrom halerts⟩

end PrometheusRule

/-- A rule with alerting rules in two groups, one of them beside a recording rule. -/
def Sample.mixed : PrometheusRule where
  metadata := { Metadata.empty with name := some "web", inNamespace := some "default" }
  spec := ⟨[
    ⟨"slo", none, none, [
      ⟨some "errors:rate5m", none, "rate(errors[5m])", none, none, none⟩,
      ⟨none, some "HighErrors", "errors > 1", some "1h30m",
        some (SortedMap.empty.insert "severity" "Critical"), none⟩]⟩,
    ⟨"ops", none, none, [⟨none, some "Gone", "up < 1", none, none, none⟩]⟩]⟩

theorem mixed_rule_has_two_alerts :
    (∀ e ∈ Sample.mixed.alertingEntries, e.Fits) ∧
      ∃ alerts, Sample.mixed.desiredAlerts = .ok alerts ∧
        alerts.map (·.metadata.anyName) = ["web-high-errors-0", "web-gone-1"] := by
  have hlong : Duration.parse "1h30m" = .ok (.ofSeconds 5400) := by
    refine Duration.parse_eq_ok_iff.2 ⟨⟨[⟨['1'], .hour, ?_, ?_, ?_, ?_⟩,
      ⟨['3', '0'], .minute, ?_, ?_, ?_, ?_⟩], ?_, ?_, ?_⟩, ?_⟩ <;> decide
  have hfits : ∀ e ∈ Sample.mixed.alertingEntries, e.Fits :=
    List.forall_mem_cons.2 ⟨.of_parse hlong (by decide),
      List.forall_mem_singleton.2 (.of_parse Duration.parse_minute (by decide))⟩
  have hdurations : ∀ e ∈ Sample.mixed.alertingEntries, ∀ text ∈ e.forDuration,
      Duration.IsDuration text := by
    refine List.forall_mem_cons.2 ⟨?_, List.forall_mem_singleton.2 nofun⟩
    intro text htext
    cases htext
    exact ⟨_, (Duration.parse_eq_ok_iff.1 hlong).1⟩
  obtain ⟨alerts, halerts, hbecome, -⟩ :=
    (PrometheusRule.alerting_rules_become_alerts hfits).2 hdurations
  refine ⟨hfits, alerts, halerts, ?_⟩
  obtain ⟨first, rest, hfirst, hrest, rfl⟩ := List.forall₂_cons_left_iff.1 hbecome
  obtain ⟨second, _, hsecond, hnone, rfl⟩ := List.forall₂_cons_left_iff.1 hrest
  rw [List.forall₂_nil_left_iff.1 hnone, List.map_cons, List.map_cons, hfirst.anyName_eq rfl,
    hsecond.anyName_eq rfl]
  decide

end ResourceSync
