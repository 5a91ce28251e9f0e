import ResourceSync.Prometheus.Rule
import ResourceSync.Proofs.Bounded
import ResourceSync.Proofs.Calendar
import ResourceSync.Proofs.Printing
import ResourceSync.Proofs.StatusWrite
import ResourceSync.Proofs.Traversal

/-! Resources that were read from documents are written and read again. -/
namespace ResourceSync

variable {k : Kind} {j : Json} {p : Passage}

open Codec ResourceSync.Field

section rules

theorem PrometheusEntry.faithful : PrometheusEntry.layout.Faithful fun _ => True := by
  refine Layout.faithful
    (.cons (by decide) (faithful_optional faithful_text) <|
      .cons (by decide) (faithful_optional faithful_text) <|
      .cons (by decide) (faithful_required faithful_text) <|
      .cons (by decide) (faithful_optional faithful_text) <|
      .cons (by decide) (faithful_optional faithful_text.map) <|
      .cons (by decide) (faithful_optional faithful_text.map) .nil) (fun _ => rfl) ?_
  simp

theorem PrometheusGroup.faithful : PrometheusGroup.layout.Faithful fun _ => True := by
  refine Layout.faithful
    (.cons (by decide) (faithful_required faithful_text) <|
      .cons (by decide) (faithful_optional faithful_text) <|
      .cons (by decide) (faithful_optional faithful_uint64) <|
      .cons (by decide) (faithful_defaulted PrometheusEntry.faithful.codec.list) .nil)
    (fun _ => rfl) ?_
  simp

theorem PrometheusSpec.faithful : PrometheusSpec.layout.Faithful fun _ => True := by
  refine Layout.faithful
    (.cons (by decide) (faithful_defaulted PrometheusGroup.faithful.codec.list) .nil)
    (fun _ => rfl) ?_
  simp

end rules

section numbers

theorem AlertCondition.isFinite_of_read {c : AlertCondition} (hj : j.IsBounded)
    (h : AlertCondition.layout.codec.read p j = .ok c) : c.threshold.isFinite = true := by
  obtain ⟨⟨side, threshold, timeWindow, _⟩, rfl, -, hthreshold, -⟩ := Layout.take_of_read h
  obtain ⟨i, hi, hread⟩ := hthreshold.required
  exact Codec.isFinite_of_read (hj.sources hi) hread

theorem AlertSpec.isFinite_of_read {s : AlertSpec} (hj : j.IsBounded)
    (h : AlertSpec.layout.codec.read p j = .ok s) : s.condition.threshold.isFinite = true := by
  obtain ⟨⟨_, _, _, _, _, _, condition, _⟩, rfl, -, -, -, -, -, -, hcondition, -⟩ :=
    Layout.take_of_read h
  obtain ⟨i, hi, hread⟩ := hcondition.required
  exact AlertCondition.isFinite_of_read (hj.sources hi) hread

theorem TeamSpec.isFinite_of_read {s : TeamSpec} (hj : j.IsBounded)
    (h : TeamSpec.layout.codec.read p j = .ok s) : ∀ x ∈ s.dailyQuotaUnits, x.isFinite = true := by
  obtain ⟨⟨_, _, _, quota, _⟩, rfl, -, -, -, hquota, -⟩ := Layout.take_of_read h
  intro x hx
  obtain ⟨i, hi, -, hread⟩ := hquota.optional hx
  exact Codec.isFinite_of_read (hj.sources hi) hread

theorem Kind.isRegular_of_read {s : k.Spec} (hj : j.IsBounded)
    (h : k.specLayout.codec.read p j = .ok s) : k.IsRegular s := by
  cases k with
  | alert => exact AlertSpec.isFinite_of_read hj h
  | team => exact TeamSpec.isFinite_of_read hj h
  | ruleGroup | recordingRuleGroupSet | outboundWebhook | apiKey => trivial

end numbers

theorem Timestamp.ofText_of_read {t : Timestamp} (h : Timestamp.codec.read p j = .ok t) :
    ∃ s, Timestamp.ofText s = .ok t := by
  cases j with
  | str s => exact ⟨s, mapError_eq_ok_iff.1 h⟩
  | _ => cases h

/-- A timestamp that reads back is not before the year 0. -/
theorem Timestamp.year_of_reread {t : Timestamp}
    (h : Timestamp.codec.read p (Timestamp.codec.encode t) = .ok t) : 0 ≤ t.year := by
  have htext : Timestamp.ofText t.text = .ok t := mapError_eq_ok_iff.1 h
  exact (Timestamp.ofText_text_iff htext).1 htext

section lists
variable {α : Type} {c : Codec α} {l : List α} {a : α}

/-- What stands in a list that was read was itself read. -/
theorem Codec.exists_of_read_list (h : c.list.read p j = .ok l) (ha : a ∈ l) :
    ∃ i, c.read p i = .ok a := by
  cases j with
  | arr items =>
    obtain ⟨i, -, hread⟩ := exists_of_mem_right (mapM_eq_ok_iff.1 h) ha
    exact ⟨i, hread⟩
  | null | bool | int | float | str | obj | unreadable => cases h

theorem Codec.read_of_reread_list (h : c.list.read p (c.list.encode l) = .ok l) (ha : a ∈ l) :
    c.read p (c.encode a) = .ok a := by
  have hitems := List.forall₂_map_left_iff.1 (mapM_eq_ok_iff.1 h)
  exact List.forall₂_same.1 hitems a ha

end lists

namespace ManagedFields
variable {e : ManagedFields}

/-- An entry that was read holds a time that was read, and no null for its fields. -/
theorem origin_of_read (h : layout.codec.read p j = .ok e) :
    (∀ t, e.time = some t → ∃ s, Timestamp.ofText s = .ok t) ∧ ∀ v ∈ e.fields, v.json ≠ .null := by
  obtain ⟨⟨_, _, fields, _, _, _, time, _⟩, rfl, -, -, hfields, -, -, -, htime, -⟩ :=
    Layout.take_of_read h
  constructor
  · intro t ht
    obtain ⟨i, -, -, hread⟩ := htime.optional ht
    exact Timestamp.ofText_of_read hread
  · intro v hv
    obtain ⟨i, -, hnull, hread⟩ := hfields.optional hv
    exact Codec.ne_null_of_read_value hnull hread

theorem year_of_reread (h : layout.codec.read p (layout.codec.encode e) = .ok e) {t : Timestamp}
    (ht : e.time = some t) : 0 ≤ t.year := by
  have hnames : (Json.names [] ++ layout.fields.names).Nodup := faithful.nodup
  obtain ⟨-, -, -, -, -, -, htime, -⟩ := Layout.reread_of_read_behind hnames (fun _ => rfl) h
  exact Timestamp.year_of_reread (htime.optional ht ht)

end ManagedFields

namespace Metadata
variable {m : Metadata} {t : Timestamp}

/-- The timestamps that are given, those of managed fields among them. -/
def timestamps (m : Metadata) : List Timestamp :=
  m.creationTimestamp.toList ++ m.deletionTimestamp.toList ++
    (m.managedFields.getD []).filterMap (·.time)

theorem mem_timestamps : t ∈ m.timestamps ↔ m.creationTimestamp = some t ∨
    m.deletionTimestamp = some t ∨ ∃ l, m.managedFields = some l ∧ ∃ e ∈ l, e.time = some t := by
  cases hmanaged : m.managedFields <;> simp [timestamps, hmanaged]

/-- The timestamps of metadata that was read were themselves read, and so were the fields of its
entries. -/
theorem origin_of_read (h : Metadata.codec.read p j = .ok m) :
    (∀ t ∈ m.timestamps, ∃ s, Timestamp.ofText s = .ok t) ∧
      ∀ l, m.managedFields = some l → ∀ e ∈ l, ∀ v ∈ e.fields, v.json ≠ .null := by
  obtain ⟨⟨_, created, _, deleted, _, _, _, _, managed, _⟩, rfl, -, hcreated, -, hdeleted, -, -, -,
    -, hmanaged, -⟩ := Layout.take_of_read h
  have hentry {l : List ManagedFields} (hl : managed = some l) {e : ManagedFields} (he : e ∈ l) :
      ∃ i, ManagedFields.layout.codec.read p i = .ok e := by
    obtain ⟨i, -, -, hread⟩ := hmanaged.optional hl
    exact Codec.exists_of_read_list hread he
  constructor
  · intro t ht
    rcases mem_timestamps.1 ht with ht | ht | ⟨l, hl, e, he, ht⟩
    · obtain ⟨i, -, -, hread⟩ := hcreated.optional ht
      exact Timestamp.ofText_of_read hread
    · obtain ⟨i, -, -, hread⟩ := hdeleted.optional ht
      exact Timestamp.ofText_of_read hread
    · obtain ⟨i, hread⟩ := hentry hl he
      exact (ManagedFields.origin_of_read hread).1 t ht
  · intro l hl e he
    obtain ⟨i, hread⟩ := hentry hl he
    exact (ManagedFields.origin_of_read hread).2

theorem isRegular_of_read (h : Metadata.codec.read p j = .ok m)
    (hyears : ∀ t ∈ m.timestamps, 0 ≤ t.year) : m.IsRegular := by
  obtain ⟨htexts, hfields⟩ := origin_of_read h
  have hregular (t : Timestamp) (ht : t ∈ m.timestamps) : t.IsRegular := by
    obtain ⟨s, hs⟩ := htexts t ht
    exact (Timestamp.isPoint_of_ofText hs).isRegular (hyears t ht)
  refine ⟨fun t ht => hregular t (mem_timestamps.2 (.inl ht)),
    fun t ht => hregular t (mem_timestamps.2 (.inr (.inl ht))), ?_⟩
  intro l hl e he
  exact ⟨hfields l hl e he,
    fun t ht => hregular t (mem_timestamps.2 (.inr (.inr ⟨l, hl, e, he, ht⟩)))⟩

/-- Metadata that reads back has no timestamp before the year 0. -/
theorem year_of_reread (h : Metadata.codec.read p (Metadata.codec.encode m) = .ok m) :
    ∀ t ∈ m.timestamps, 0 ≤ t.year := by
  have hnames : (Json.names [] ++ Metadata.layout.fields.names).Nodup := Metadata.faithful.nodup
  obtain ⟨-, hcreated, -, hdeleted, -, -, -, -, hmanaged, -⟩ :=
    Layout.reread_of_read_behind hnames (fun _ => rfl) h
  intro t ht
  rcases mem_timestamps.1 ht with ht | ht | ⟨l, hl, e, he, ht⟩
  · exact Timestamp.year_of_reread (hcreated.optional ht ht)
  · exact Timestamp.year_of_reread (hdeleted.optional ht ht)
  · have hlist := hmanaged.optional hl hl
    exact ManagedFields.year_of_reread (Codec.read_of_reread_list hlist he) ht

end Metadata

namespace Resource
variable {r : Resource k}

theorem faithful (k : Kind) : (layout k).Faithful fun r => r.IsRegular := by
  have hstatus : (statusField k).Faithful fun o => ∀ s ∈ o, True :=
    have hoptional : (optional "status" _).Faithful _ := faithful_optional k.faithful_status.codec
    ⟨hoptional.reads, hoptional.omitted⟩
  refine Layout.faithful
    (.cons (show "metadata" ∉ ["spec", "status"] by decide)
        (faithful_required Metadata.faithful.codec) <|
      .cons (show "spec" ∉ ["status"] by decide) (faithful_required k.faithful_spec.codec) <|
      .cons (show "status" ∉ [] by decide) hstatus .nil) (fun _ => rfl) ?_
  intro r hr
  exact ⟨hr.metadata, hr.spec, by simp, trivial⟩

theorem nodup_names (k : Kind) :
    (Json.names [("apiVersion", .str apiVersion), ("kind", .str k.name)] ++
      (layout k).fields.names).Nodup :=
  show ["apiVersion", "kind", "metadata", "spec", "status"].Nodup by decide

theorem decode_encode_of_isRegular (hr : r.IsRegular) :
    (codec k).decode ((codec k).encode r) = .ok r :=
  (faithful k).read_behind hr (nodup_names k)

theorem isRegular_of_decode (hj : j.IsBounded) (h : (codec k).decode j = .ok r)
    (hyears : ∀ t ∈ r.metadata.timestamps, 0 ≤ t.year) : r.IsRegular := by
  obtain ⟨⟨metadata, spec, status, _⟩, rfl, hmetadata, hspec, -⟩ := Layout.take_of_read h
  obtain ⟨i, hi, hread⟩ := hspec.required
  obtain ⟨i', -, hread'⟩ := hmetadata.required
  exact ⟨Metadata.isRegular_of_read hread' hyears, Kind.isRegular_of_read (hj.sources hi) hread⟩

theorem year_of_decode_encode (h : (codec k).decode ((codec k).encode r) = .ok r) :
    ∀ t ∈ r.metadata.timestamps, 0 ≤ t.year := by
  have hreread := Layout.reread_of_read_behind (l := layout k) (nodup_names k) (fun _ => rfl) h
  exact Metadata.year_of_reread hreread.1.required

/-- A resource that was read from a document is read from its own document exactly if its timestamps
are not before the year 0. -/
theorem decode_encode_iff (hj : j.IsBounded) (h : (codec k).decode j = .ok r) :
    (codec k).decode ((codec k).encode r) = .ok r ↔ ∀ t ∈ r.metadata.timestamps, 0 ≤ t.year :=
  ⟨year_of_decode_encode, fun hyears =>
    decode_encode_of_isRegular (isRegular_of_decode hj h hyears)⟩

end Resource

namespace PrometheusRule
variable {r : PrometheusRule}

theorem faithful : layout.Faithful fun r => r.metadata.IsRegular := by
  refine Layout.faithful
    (.cons (by decide) (faithful_required Metadata.faithful.codec) <|
      .cons (by decide) (faithful_required PrometheusSpec.faithful.codec) .nil) (fun _ => rfl) ?_
  intro r hr
  exact ⟨hr, trivial, trivial⟩

theorem nodup_names :
    (Json.names [("apiVersion", .str apiVersion), ("kind", .str kindName)] ++
      layout.fields.names).Nodup :=
  show ["apiVersion", "kind", "metadata", "spec"].Nodup by decide

theorem decode_encode_of_isRegular (hr : r.metadata.IsRegular) :
    codec.decode (codec.encode r) = .ok r :=
  faithful.read_behind hr nodup_names

theorem isRegular_of_decode (h : codec.decode j = .ok r)
    (hyears : ∀ t ∈ r.metadata.timestamps, 0 ≤ t.year) : r.metadata.IsRegular := by
  obtain ⟨⟨metadata, spec, _⟩, rfl, hmetadata, -⟩ := Layout.take_of_read h
  obtain ⟨i, -, hread⟩ := hmetadata.required
  exact Metadata.isRegular_of_read hread hyears

theorem year_of_decode_encode (h : codec.decode (codec.encode r) = .ok r) :
    ∀ t ∈ r.metadata.timestamps, 0 ≤ t.year := by
  have hreread := Layout.reread_of_read_behind (l := layout) nodup_names (fun _ => rfl) h
  exact Metadata.year_of_reread hreread.1.required

theorem decode_encode_iff (h : codec.decode j = .ok r) :
    codec.decode (codec.encode r) = .ok r ↔ ∀ t ∈ r.metadata.timestamps, 0 ≤ t.year :=
  ⟨year_of_decode_encode, fun hyears => decode_encode_of_isRegular (isRegular_of_decode h hyears)⟩

end PrometheusRule

/-- Of every kind, what is read from a text is read from its own document again exactly if its
timestamps are not before the year 0. -/
theorem reads_back_iff :
    (∀ (k : Kind) (s : String) (j : Json) (r : Resource k), Json.ofText s = .ok j →
      (Resource.codec k).decode j = .ok r →
      ((Resource.codec k).decode ((Resource.codec k).encode r) = .ok r ↔
        ∀ t ∈ r.metadata.timestamps, 0 ≤ t.year)) ∧
    ∀ (s : String) (j : Json) (r : PrometheusRule), Json.ofText s = .ok j →
      PrometheusRule.codec.decode j = .ok r →
      (PrometheusRule.codec.decode (PrometheusRule.codec.encode r) = .ok r ↔
        ∀ t ∈ r.metadata.timestamps, 0 ≤ t.year) :=
  ⟨fun _ _ _ _ hs h => Resource.decode_encode_iff (Json.isBounded_of_ofText hs) h,
    fun _ _ _ _ h => PrometheusRule.decode_encode_iff h⟩

namespace Sample

/-- Metadata with a date of creation and an entry that was made at the same time. -/
def metadataDocument (created : String) : Json :=
  .obj [("name", .str "alpha"), ("creationTimestamp", .str created),
    ("managedFields", .arr [.obj [("manager", .str "kubectl"), ("time", .str created),
      ("fieldsV1", .obj [("f:spec", .obj []), ("f:metadata", .obj [])])]])]

/-- A team with its spec as a list, an empty status and a member that is none of its own. -/
def teamDocument (created : String) : Json :=
  .obj [("metadata", metadataDocument created), ("spec", .arr [.str "alpha", .null]),
    ("status", .null), ("extra", .int 1)]

/-- The entry of the metadata, the names of its fields in order. -/
def managed (t : Timestamp) : ManagedFields where
  apiVersion := none
  fieldsType := none
  fields := some ⟨.obj [("f:metadata", .obj []), ("f:spec", .obj [])],
    Json.isValue_canonical (j := .obj [("f:spec", .obj []), ("f:metadata", .obj [])]) rfl⟩
  manager := some "kubectl"
  operation := none
  subresource := none
  time := some t

def managedTeam (t : Timestamp) : Resource .team :=
  { dated t none with
    metadata := { (dated t none).metadata with managedFields := some [managed t] } }

theorem ofText_teamDocument (created : String) :
    Json.ofText (teamDocument created).render = .ok (teamDocument created) := by
  have hprintable : (teamDocument created).IsPrintable Binary64.Rereads 6 := by
    simp [teamDocument, metadataDocument, Json.IsPrintable.int]
  exact hprintable.ofText_render_eq (by decide)

theorem decode_teamDocument :
    (Resource.codec .team).decode (teamDocument "2025-02-28T23:30:00Z") =
      .ok (managedTeam ⟨2025, 2, 28, 23, 30, 0⟩) :=
  eq_ok_of_toOption (by decide +kernel)

theorem decode_early_teamDocument :
    (Resource.codec .team).decode (teamDocument "0000-01-01T00:00:00+01:00") =
      .ok (managedTeam ⟨-1, 12, 31, 23, 0, 0⟩) :=
  eq_ok_of_toOption (by decide +kernel)

def ruleDocument (created : String) : Json :=
  .obj [("metadata", metadataDocument created), ("spec", .arr [])]

def datedRule (t : Timestamp) : PrometheusRule :=
  ⟨(managedTeam t).metadata, ⟨[]⟩⟩

theorem ofText_ruleDocument (created : String) :
    Json.ofText (ruleDocument created).render = .ok (ruleDocument created) := by
  have hprintable : (ruleDocument created).IsPrintable Binary64.Rereads 6 := by
    simp [ruleDocument, metadataDocument]
  exact hprintable.ofText_render_eq (by decide)

theorem decode_ruleDocument :
    PrometheusRule.codec.decode (ruleDocument "2025-02-28T23:30:00Z") =
      .ok (datedRule ⟨2025, 2, 28, 23, 30, 0⟩) :=
  eq_ok_of_toOption (by decide +kernel)

end Sample

theorem dated_documents_are_read_back :
    let t : Timestamp := ⟨2025, 2, 28, 23, 30, 0⟩
    (Resource.codec .team).decode ((Resource.codec .team).encode (Sample.managedTeam t)) =
        .ok (Sample.managedTeam t) ∧
      PrometheusRule.codec.decode (PrometheusRule.codec.encode (Sample.datedRule t)) =
        .ok (Sample.datedRule t) := by
  intro t
  have hyears : ∀ t' ∈ (Sample.managedTeam t).metadata.timestamps, 0 ≤ t'.year := by decide
  exact ⟨(reads_back_iff.1 .team _ _ _ (Sample.ofText_teamDocument _)
      Sample.decode_teamDocument).2 hyears,
    (reads_back_iff.2 _ _ _ (Sample.ofText_ruleDocument _) Sample.decode_ruleDocument).2 hyears⟩

/-- A clock ahead of UTC reads the year 0 while it is still the year before. -/
theorem early_team_is_not_read_back :
    ¬ ∀ (k : Kind) (s : String) (j : Json) (r : Resource k), Json.ofText s = .ok j →
      (Resource.codec k).decode j = .ok r →
      (Resource.codec k).decode ((Resource.codec k).encode r) = .ok r := by
  intro h
  have hback := h .team _ _ _ (Sample.ofText_teamDocument _) Sample.decode_early_teamDocument
  have hyear := Resource.year_of_decode_encode hback ⟨-1, 12, 31, 23, 0, 0⟩ (by decide)
  exact absurd hyear (by decide)

end ResourceSync
