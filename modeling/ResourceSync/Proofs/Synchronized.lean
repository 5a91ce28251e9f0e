import ResourceSync.Proofs.Durations
import ResourceSync.Proofs.Upkeep

/-! Synchronizations of a Prometheus rule as a whole: what they leave, what they keep from touching,
and that nothing is left for a second one. -/
namespace ResourceSync

open PrometheusRule (trackRecording Owns)

variable {k : Kind} {α : Type} {r : PrometheusRule} {s s' : ShelfServer} {inNamespace n uid : String}
  {wanted : List (Resource .alert)} {shelf : Shelf k}

/-- The state of a server that refuses nothing is what is on its shelves. -/
theorem ShelfServer.eq_of_calm (hcalm : s.refusals = []) (hshelves : s'.shelves = s.shelves)
    (hrefusals : s.refusals = [] → s'.refusals = []) : s' = s :=
  ShelfServer.ext hshelves ((hrefusals hcalm).trans hcalm.symm)

namespace PrometheusRule

open ShelfServer

theorem owned_eq_nil (h : ∀ name a, shelf.get? name = some a → ¬ r.Owns a.metadata) :
    r.owned shelf = [] := by
  refine List.eq_nil_iff_forall_not_mem.2 ?_
  intro a ha
  obtain ⟨⟨name, hfound⟩, howns⟩ := mem_owned.1 ha
  exact h name a hfound howns

theorem AlertsInLine.staleNames_eq_nil {shelf : Shelf .alert} (h : r.AlertsInLine wanted shelf) :
    staleNames ((r.owned shelf).map (·.metadata.anyName)) (wanted.map (·.metadata.anyName)) = [] := by
  refine List.eq_nil_iff_forall_not_mem.2 ?_
  intro name hmem
  obtain ⟨⟨a, hfound, howns⟩, hunwanted⟩ := mem_staleNames_owned.1 hmem
  exact hunwanted (h.others name a hfound howns)

theorem syncRecording_again (hcalm : s.refusals = [])
    (h : r.RecordsInLine (s.shelves .recordingRuleGroupSet inNamespace)) :
    Ends (r.syncRecording api inNamespace) s (fun _ s' => s' = s) fun _ _ => False := by
  unfold syncRecording
  unfold RecordsInLine at h
  split at h
  · next htracks =>
    obtain ⟨set, a, hset, hfound, ha⟩ := h
    rw [if_pos htracks, ends_bind, ends_convert, hset]
    refine ends_apply (fun _ _ hrefusals => absurd hcalm hrefusals) ?_
    intro s' hs' hrefusals
    rw [← anyName_of_recordingRuleGroupSet hset] at hfound
    rw [Shelf.apply_of_isApplied hfound ha, Shelves.put_eq_self] at hs'
    exact eq_of_calm hcalm hs' hrefusals
  · next htracks =>
    rw [if_neg htracks, ends_bind]
    refine ends_generatedFrom (fun _ _ hrefusals => absurd hcalm hrefusals) ?_
    intro s' hs' hrefusals
    change Ends (List.forM (r.owned (s.shelves .recordingRuleGroupSet inNamespace)) _) s' _ _
    rw [owned_eq_nil h]
    exact eq_of_calm hcalm hs' hrefusals

theorem syncAlerts_again (hcalm : s.refusals = []) (hwanted : r.wantedAlerts = .ok wanted)
    (h : r.AlertsInLine wanted (s.shelves .alert inNamespace)) :
    Ends (r.syncAlerts api inNamespace) s (fun _ s' => s' = s) fun _ _ => False := by
  unfold syncAlerts
  rw [ends_bind, ends_convert, hwanted]
  simp only [ends_bind]
  refine (ends_applyAll_again hcalm h.applied).imp ?_ fun _ _ h => h
  rintro - s₁ rfl
  refine ends_generatedFrom (fun _ _ hrefusals => absurd hcalm hrefusals) ?_
  intro s' hs' hrefusals
  change Ends (List.forM (staleNames ((r.owned (s₁.shelves .alert inNamespace)).map
    (·.metadata.anyName)) (wanted.map (·.metadata.anyName))) _) s' _ _
  rw [h.staleNames_eq_nil]
  exact eq_of_calm hcalm hs' hrefusals

/-- The alerts that belong to a rule are exactly those that it asks for, by their names and specs. -/
def AlertsExact (r : PrometheusRule) (shelf : Shelf .alert) : Prop :=
  ∃ wanted, r.wantedAlerts = .ok wanted ∧ ∀ name spec,
    (∃ a, shelf.get? name = some a ∧ r.Owns a.metadata ∧ a.spec = spec) ↔
      ∃ w ∈ wanted, w.metadata.name = some name ∧ w.spec = spec

theorem AlertsInLine.owns {shelf : Shelf .alert} {w : Resource .alert}
    (hname : r.metadata.name = some n) (huid : r.metadata.uid = some uid)
    (hwanted : r.wantedAlerts = .ok wanted) (h : r.AlertsInLine wanted shelf) (hw : w ∈ wanted) :
    ∃ a, shelf.get? w.metadata.anyName = some a ∧ r.Owns a.metadata ∧ a.spec = w.spec := by
  obtain ⟨a, hfound, ha⟩ := h.applied w hw
  obtain ⟨alert, i, hmetadata⟩ := metadata_of_wantedAlerts hwanted w hw
  refine ⟨a, hfound, ?_, ha.spec⟩
  rw [ha.metadata, hmetadata]
  exact owns_generatedMetadata hname huid _

theorem AlertsInLine.exact {shelf : Shelf .alert} (hname : r.metadata.name = some n)
    (huid : r.metadata.uid = some uid) (hwanted : r.wantedAlerts = .ok wanted)
    (h : r.AlertsInLine wanted shelf) : r.AlertsExact shelf := by
  refine ⟨wanted, hwanted, ?_⟩
  intro name spec
  constructor
  · rintro ⟨a, hfound, howns, rfl⟩
    obtain ⟨w, hw, rfl⟩ := List.mem_map.1 (h.others name a hfound howns)
    obtain ⟨a', hfound', ha'⟩ := h.applied w hw
    obtain rfl : a = a' := Option.some.inj (hfound.symm.trans hfound')
    obtain ⟨alert, i, hmetadata⟩ := metadata_of_wantedAlerts hwanted w hw
    refine ⟨w, hw, ?_, ha'.spec.symm⟩
    rw [hmetadata]
    rfl
  · rintro ⟨w, hw, hwname, rfl⟩
    have hany : w.metadata.anyName = name := by
      rw [Metadata.anyName, hwname]
      rfl
    rw [← hany]
    exact h.owns hname huid hwanted hw

theorem ends_synchronize (hns : r.metadata.inNamespace = some inNamespace) :
    Ends (ExceptT.mk (r.synchronize api)) s
      (fun _ s' => s.shelves.Confined r inNamespace s'.shelves ∧
        r.RecordsInLine (s'.shelves .recordingRuleGroupSet inNamespace) ∧
        ∃ wanted, r.wantedAlerts = .ok wanted ∧
          r.AlertsInLine wanted (s'.shelves .alert inNamespace))
      fun _ s' => s.shelves.Confined r inNamespace s'.shelves ∧ (s.refusals = [] → ¬ r.Converts) ∧
        ∀ h, r.wantedAlerts = .error h → s'.shelves .alert = s.shelves .alert := by
  unfold synchronize
  rw [hns]
  refine ends_bind.2 (ends_syncRecording.imp ?_ ?_)
  · rintro - s₁ ⟨hrecording, hrecords⟩
    refine ends_syncAlerts.imp ?_ ?_
    · rintro - s' ⟨halerting, hwanted⟩
      refine ⟨hrecording.confined.trans halerting.confined, ?_, hwanted⟩
      rw [halerting.others _ (by decide)]
      exact hrecords
    · rintro f s' ⟨halerting, hconverts, hinvalid⟩
      refine ⟨hrecording.confined.trans halerting.confined,
        fun hcalm => hconverts (hrecording.calm hcalm), ?_⟩
      intro h hwanted
      rw [hinvalid h hwanted]
      exact hrecording.others _ (by decide)
  · rintro f s' ⟨hrecording, hconverts⟩
    exact ⟨hrecording.confined, hconverts, fun _ _ => hrecording.others _ (by decide)⟩

theorem synchronize_again (hns : r.metadata.inNamespace = some inNamespace)
    (hcalm : s.refusals = []) (hwanted : r.wantedAlerts = .ok wanted)
    (hrecords : r.RecordsInLine (s.shelves .recordingRuleGroupSet inNamespace))
    (halerts : r.AlertsInLine wanted (s.shelves .alert inNamespace)) :
    StateT.run (r.synchronize api) s = (.ok (), s) := by
  have hends : Ends (ExceptT.mk (r.synchronize api)) s (fun _ s' => s' = s) fun _ _ => False := by
    unfold synchronize
    rw [hns]
    refine ends_bind.2 ((syncRecording_again hcalm hrecords).imp ?_ fun _ _ h => h)
    rintro - s₁ rfl
    exact syncAlerts_again hcalm hwanted halerts
  unfold Ends at hends
  split at hends
  · next hrun =>
    rw [hends] at hrun
    exact hrun
  · exact hends.elim

/-- Whatever is on the shelves of a server and whichever of the requests are refused, a
synchronization touches nothing but the objects that the rule asks for or owns. One that succeeds
leaves exactly what the rule asks for, so that a second one has nothing to do; with an invalid
alerting rule none succeeds or touches an alert. Without refusals all succeed of rules that can be
converted. -/
theorem synchronization {result : Checked SyncError Unit}
    (hns : r.metadata.inNamespace = some inNamespace) (hname : r.metadata.name = some n)
    (huid : r.metadata.uid = some uid)
    (hrun : StateT.run (r.synchronize api) s = (result, s')) :
    s.shelves.Confined r inNamespace s'.shelves ∧
    (result = .ok () → r.RecordsInLine (s'.shelves .recordingRuleGroupSet inNamespace) ∧
      r.AlertsExact (s'.shelves .alert inNamespace) ∧
      ∀ s₁, s₁.shelves = s'.shelves → s₁.refusals = [] →
        StateT.run (r.synchronize api) s₁ = (.ok (), s₁)) ∧
    (∀ h, r.wantedAlerts = .error h →
      result ≠ .ok () ∧ s'.shelves .alert = s.shelves .alert) ∧
    (s.refusals = [] → r.Converts → result = .ok ()) := by
  have hends := ends_synchronize (s := s) hns
  cases result with
  | ok =>
    obtain ⟨hconfined, hrecords, wanted, hwanted, halerts⟩ := hends.of_ok hrun
    refine ⟨hconfined, fun _ => ⟨hrecords, halerts.exact hname huid hwanted, ?_⟩, ?_, fun _ _ => rfl⟩
    · intro s₁ hs₁ hcalm
      rw [← hs₁] at hrecords halerts
      exact synchronize_again hns hcalm hwanted hrecords halerts
    · intro h hinvalid
      rw [hwanted] at hinvalid
      cases hinvalid
  | error f =>
    obtain ⟨hconfined, hconverts, hinvalid⟩ := hends.of_error hrun
    exact ⟨hconfined, nofun, fun h hwanted => ⟨nofun, hinvalid h hwanted⟩,
      fun hcalm h => absurd h (hconverts hcalm)⟩

theorem parse_defaultFor : Duration.parse defaultFor = .ok (.ofSeconds 60) := Duration.parse_minute

/-- A rule with one alerting rule, which is tracked. -/
def single (name alert : String) : PrometheusRule where
  metadata :=
    { Metadata.empty with
      name := some name
      inNamespace := some "default"
      uid := some name
      labels := some (SortedMap.empty.insert trackAlerting "true") }
  spec := ⟨[⟨"slo", none, none, [⟨none, some alert, "errors > 1", none, none, none⟩]⟩]⟩

/-- The alert that it asks for. -/
def singleAlert (name alert : String) : Resource .alert where
  metadata := (single name alert).generatedMetadata (alertName name alert 0)
  spec := (⟨alert, none, true, .p5, .empty, "errors > 1", ⟨.moreThan, .zero, "1m"⟩, none⟩ : AlertSpec)
  status := none

theorem wantedAlerts_single (name alert : String) :
    (single name alert).wantedAlerts = .ok [singleAlert name alert] := by
  have hspec : PrometheusEntry.alertSpec ⟨none, some alert, "errors > 1", none, none, none⟩ alert =
      .ok ⟨alert, none, true, .p5, .empty, "errors > 1", ⟨.moreThan, .zero, "1m"⟩, none⟩ := by
    simp only [PrometheusEntry.alertSpec, Option.getD, parse_defaultFor]
    rfl
  have hwanted : (single name alert).wantedAlerts =
      (single name alert).alertsFrom 0 [(alert, ⟨none, some alert, "errors > 1", none, none, none⟩)] :=
    rfl
  rw [hwanted, alertsFrom, hspec]
  rfl

theorem converts_single (name alert : String) : (single name alert).Converts :=
  ⟨nofun, _, wantedAlerts_single name alert⟩

end PrometheusRule

/-- A server with an alert that a rule named `web` no longer asks for, and with one that carries the
name of the rule on its label but does not belong to it. -/
def Sample.crowded : ShelfServer where
  shelves :=
    let gone := PrometheusRule.singleAlert "web" "Gone"
    let kept := PrometheusRule.singleAlert "web" "Kept"
    Shelves.put (fun _ _ => .empty) .alert "default" <| (Shelf.empty.apply gone).apply
      { kept with metadata := { kept.metadata with ownerReferences := none } }
  refusals := []

/-- The first is cleared away, and then all is in line. -/
theorem leftover_alert_is_cleared_away :
    let r := PrometheusRule.single "web" "HighErrorRate"
    let run := StateT.run (r.synchronize ShelfServer.api) Sample.crowded
    (Sample.crowded.shelves .alert "default").objects.keys = ["web-gone-0", "web-kept-0"] ∧
      run.1 = .ok () ∧
      (run.2.shelves .alert "default").objects.keys = ["web-high-error-rate-0", "web-kept-0"] ∧
      r.AlertsExact (run.2.shelves .alert "default") ∧
      StateT.run (r.synchronize ShelfServer.api) ⟨run.2.shelves, []⟩ =
        (.ok (), ⟨run.2.shelves, []⟩) := by
  intro r run
  have hkeys : (run.2.shelves .alert "default").objects.keys =
      ["web-high-error-rate-0", "web-kept-0"] := by
    unfold run PrometheusRule.synchronize PrometheusRule.syncAlerts
    rw [PrometheusRule.wantedAlerts_single]
    decide +kernel
  have hrun : StateT.run (r.synchronize ShelfServer.api) Sample.crowded = (run.1, run.2) := rfl
  obtain ⟨-, hsettled, -, hsucceeds⟩ :=
    PrometheusRule.synchronization rfl rfl rfl hrun
  have hok : run.1 = .ok () := hsucceeds rfl (PrometheusRule.converts_single _ _)
  obtain ⟨-, hexact, hagain⟩ := hsettled hok
  exact ⟨by decide +kernel, hok, hkeys, hexact, hagain ⟨run.2.shelves, []⟩ rfl rfl⟩

end ResourceSync
