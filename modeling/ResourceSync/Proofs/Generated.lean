import ResourceSync.Prometheus.Sync
import ResourceSync.Proofs.AlertNames

/-! The objects that a Prometheus rule asks for: they have names of their own and belong to the
rule. -/
namespace ResourceSync.PrometheusRule

variable {r : PrometheusRule} {n uid : String} {index : Nat} {l : List (String × PrometheusEntry)}
  {alerts wanted : List (Resource .alert)} {set : Resource .recordingRuleGroupSet}

/-- An object has the label with the name of the rule, and the rule as its controller. -/
structure Owns (r : PrometheusRule) (m : Metadata) : Prop where
  label : m.labelMap.get? sourceLabel = some r.name
  controlled : r.controls m = true

/-- The objects that the rule asks for. -/
inductive Generates (r : PrometheusRule) : (k : Kind) → Resource k → Prop where
  | set {set : Resource .recordingRuleGroupSet} (htracks : r.tracks trackRecording = true)
    (h : r.recordingRuleGroupSet = .ok set) : Generates r .recordingRuleGroupSet set
  | alert {wanted : List (Resource .alert)} {w : Resource .alert} (h : r.wantedAlerts = .ok wanted)
    (hw : w ∈ wanted) : Generates r .alert w

theorem owns_generatedMetadata (hname : r.metadata.name = some n) (huid : r.metadata.uid = some uid)
    (name : String) : r.Owns (r.generatedMetadata name) where
  label := SortedMap.get?_insert_self
  controlled := by
    simp [controls, generatedMetadata, ownerReference?, hname, huid]

theorem metadata_of_alertsFrom (h : r.alertsFrom index l = .ok alerts) : ∀ a ∈ alerts,
    ∃ alert i, index ≤ i ∧ a.metadata = r.generatedMetadata (alertName r.name alert i) := by
  induction l generalizing index alerts with
  | nil =>
    cases h
    simp
  | cons entry l ih =>
    obtain ⟨alert, e⟩ := entry
    obtain ⟨spec, -, h⟩ := bind_eq_ok_iff.1 h
    obtain ⟨rest, hrest, h⟩ := bind_eq_ok_iff.1 h
    cases h
    refine List.forall_mem_cons.2 ⟨⟨alert, index, Nat.le_refl _, rfl⟩, ?_⟩
    intro a ha
    obtain ⟨alert', i, hi, hmetadata⟩ := ih hrest a ha
    exact ⟨alert', i, Nat.le_of_succ_le hi, hmetadata⟩

/-- The positions in their names tell the alerts of a rule apart. -/
theorem nodup_alertsFrom (h : r.alertsFrom index l = .ok alerts) :
    (alerts.map (·.metadata.anyName)).Nodup := by
  induction l generalizing index alerts with
  | nil =>
    cases h
    exact List.nodup_nil
  | cons entry l ih =>
    obtain ⟨alert, e⟩ := entry
    obtain ⟨spec, -, h⟩ := bind_eq_ok_iff.1 h
    obtain ⟨rest, hrest, h⟩ := bind_eq_ok_iff.1 h
    cases h
    refine List.nodup_cons.2 ⟨?_, ih hrest⟩
    intro hmem
    obtain ⟨a, ha, hname⟩ := List.mem_map.1 hmem
    obtain ⟨alert', i, hi, hmetadata⟩ := metadata_of_alertsFrom hrest a ha
    rw [hmetadata] at hname
    obtain ⟨rfl, -⟩ := alertName_eq_iff.1 hname
    exact absurd hi (Nat.not_succ_le_self _)

theorem metadata_of_wantedAlerts (h : r.wantedAlerts = .ok wanted) : ∀ w ∈ wanted,
    ∃ alert i, w.metadata = r.generatedMetadata (alertName r.name alert i) := by
  unfold wantedAlerts at h
  split at h
  · intro w hw
    obtain ⟨alert, i, -, hmetadata⟩ := metadata_of_alertsFrom h w hw
    exact ⟨alert, i, hmetadata⟩
  · cases h
    simp

theorem nodup_wantedAlerts (h : r.wantedAlerts = .ok wanted) :
    (wanted.map (·.metadata.anyName)).Nodup := by
  unfold wantedAlerts at h
  split at h
  · exact nodup_alertsFrom h
  · cases h
    exact List.nodup_nil

theorem metadata_of_recordingRuleGroupSet (h : r.recordingRuleGroupSet = .ok set) :
    set.metadata = r.generatedMetadata r.name := by
  obtain ⟨groups, -, h⟩ := bind_eq_ok_iff.1 h
  cases h
  rfl

end ResourceSync.PrometheusRule
