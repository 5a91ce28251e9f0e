import ResourceSync.Object.Resource
import ResourceSync.Proofs.Codecs
import ResourceSync.Proofs.Timestamps

/-! What is written of the resources of every kind reads back, as far as documents can hold it. -/
namespace ResourceSync

open Codec ResourceSync.Field

theorem Timestamp.faithful : Timestamp.codec.Faithful Timestamp.IsRegular where
  reads p t ht := by
    change (Timestamp.ofText t.text).mapError _ = _
    rw [Timestamp.ofText_text ht]
    rfl
  notNull t _ h := by cases h

theorem OwnerReference.faithful : OwnerReference.layout.Faithful fun _ => True := by
  have hplain : plainText.Faithful fun _ => True := ⟨fun _ _ _ => rfl, fun _ _ h => by cases h⟩
  refine Layout.faithful
    (.cons (by decide) (faithful_defaulted hplain) <|
      .cons (by decide) (faithful_optional faithful_bool) <|
      .cons (by decide) (faithful_optional faithful_bool) <|
      .cons (by decide) (faithful_defaulted hplain) <|
      .cons (by decide) (faithful_defaulted hplain) <|
      .cons (by decide) (faithful_defaulted hplain) .nil) (fun _ => rfl) ?_
  simp

/-- Whether an entry can be written so that it is read again: with no null for its fields, and with
a regular time. -/
structure ManagedFields.IsRegular (e : ManagedFields) : Prop where
  fields : ∀ v ∈ e.fields, v.json ≠ .null
  time : ∀ t ∈ e.time, t.IsRegular

theorem ManagedFields.faithful : ManagedFields.layout.Faithful ManagedFields.IsRegular := by
  refine Layout.faithful
    (.cons (by decide) (faithful_optional faithful_text) <|
      .cons (by decide) (faithful_optional faithful_text) <|
      .cons (by decide) (faithful_optional faithful_value) <|
      .cons (by decide) (faithful_optional faithful_text) <|
      .cons (by decide) (faithful_optional faithful_text) <|
      .cons (by decide) (faithful_optional faithful_text) <|
      .cons (by decide) (faithful_optional Timestamp.faithful) .nil) (fun _ => rfl) ?_
  intro e he
  simpa [layout] using ⟨he.fields, he.time⟩

/-- Whether the timestamps and the managed fields of an object can be written. -/
structure Metadata.IsRegular (m : Metadata) : Prop where
  created : ∀ t ∈ m.creationTimestamp, t.IsRegular
  deleted : ∀ t ∈ m.deletionTimestamp, t.IsRegular
  managed : ∀ l ∈ m.managedFields, ∀ e ∈ l, e.IsRegular

theorem Metadata.faithful : Metadata.layout.Faithful Metadata.IsRegular := by
  refine Layout.faithful
    (.cons (by decide) (faithful_optional faithful_text.map) <|
      .cons (by decide) (faithful_optional Timestamp.faithful) <|
      .cons (by decide) (faithful_optional faithful_int64) <|
      .cons (by decide) (faithful_optional Timestamp.faithful) <|
      .cons (by decide) (faithful_optional faithful_text.list) <|
      .cons (by decide) (faithful_optional faithful_text) <|
      .cons (by decide) (faithful_optional faithful_int64) <|
      .cons (by decide) (faithful_optional faithful_text.map) <|
      .cons (by decide) (faithful_optional ManagedFields.faithful.codec.list) <|
      .cons (by decide) (faithful_optional faithful_text) <|
      .cons (by decide) (faithful_optional faithful_text) <|
      .cons (by decide) (faithful_optional OwnerReference.faithful.codec.list) <|
      .cons (by decide) (faithful_optional faithful_text) <|
      .cons (by decide) (faithful_optional faithful_text) <|
      .cons (by decide) (faithful_optional faithful_text) .nil) (fun _ => rfl) ?_
  intro m hm
  simpa [layout] using ⟨hm.created, hm.deleted, hm.managed⟩

section specs

theorem AlertPriority.faithful : AlertPriority.codec.Faithful fun _ => True :=
  faithful_choice fun a => by cases a <;> rfl

theorem ThresholdSide.faithful : ThresholdSide.codec.Faithful fun _ => True :=
  faithful_choice fun a => by cases a <;> rfl

theorem AlertCondition.faithful :
    AlertCondition.layout.Faithful fun c => c.threshold.isFinite = true := by
  refine Layout.faithful
    (.cons (by decide) (faithful_defaulted ThresholdSide.faithful) <|
      .cons (by decide) (faithful_required faithful_binary64) <|
      .cons (by decide) (faithful_required faithful_text) .nil) (fun _ => rfl) ?_
  simp [layout, Layout.record]

theorem NotificationGroup.faithful (name : String) :
    (NotificationGroup.layout name).Faithful fun _ => True := by
  refine Layout.faithful
    (.cons (by decide) (faithful_defaulted faithful_text.list) <|
      .cons (by decide) (faithful_defaulted faithful_text.list) .nil) (fun _ => rfl) ?_
  simp

theorem AlertSpec.faithful :
    AlertSpec.layout.Faithful fun s => s.condition.threshold.isFinite = true := by
  refine Layout.faithful
    (.cons (by decide) (faithful_required faithful_text) <|
      .cons (by decide) (faithful_optional faithful_text) <|
      .cons (by decide) (faithful_defaulted faithful_bool) <|
      .cons (by decide) (faithful_defaulted AlertPriority.faithful) <|
      .cons (by decide) (faithful_sparseMap faithful_text) <|
      .cons (by decide) (faithful_required faithful_text) <|
      .cons (by decide) (faithful_required AlertCondition.faithful.codec) <|
      .cons (by decide) (faithful_optional (NotificationGroup.faithful _).codec) .nil)
    (fun _ => rfl) ?_
  simp [layout, Layout.record]

theorem TeamSpec.faithful :
    TeamSpec.layout.Faithful fun s => ∀ x ∈ s.dailyQuotaUnits, x.isFinite = true := by
  refine Layout.faithful
    (.cons (by decide) (faithful_required faithful_text) <|
      .cons (by decide) (faithful_optional faithful_text) <|
      .cons (by decide) (faithful_defaulted faithful_text.list) <|
      .cons (by decide) (faithful_optional faithful_binary64) .nil) (fun _ => rfl) ?_
  simp [layout, Layout.record]

/-- An alternative reads what it has written. -/
theorem read_arm {α β : Type} {c : Codec β} {P : β → Prop} {b : β} (h : c.Faithful P) (hb : P b)
    (name : String) (wrap : β → α) (unwrap? : α → Option β) (p : Passage) :
    (Arm.of name c wrap unwrap?).read p (c.encode b) = .ok (wrap b) := by
  change (c.read p (c.encode b)).map wrap = _
  rw [h.reads p b hb]
  rfl

theorem KeyOwner.faithful : KeyOwner.codec.Faithful fun _ => True := by
  refine faithful_union ?_
  intro a _
  cases a with
  | teamId id => exact ⟨_, _, rfl, rfl, read_arm faithful_text trivial _ _ _⟩
  | userId id => exact ⟨_, _, rfl, rfl, read_arm faithful_text trivial _ _ _⟩

theorem ApiKeySpec.faithful : ApiKeySpec.layout.Faithful fun _ => True := by
  refine Layout.faithful
    (.cons (by decide) (faithful_required faithful_text) <|
      .cons (by decide) (faithful_required KeyOwner.faithful) <|
      .cons (by decide) (faithful_defaulted faithful_text.list) <|
      .cons (by decide) (faithful_defaulted faithful_text.list) <|
      .cons (by decide) (faithful_defaulted faithful_bool) .nil) (fun _ => rfl) ?_
  simp

theorem WebhookMethod.faithful : WebhookMethod.codec.Faithful fun _ => True :=
  faithful_choice fun a => by cases a <;> rfl

theorem GenericWebhook.faithful : GenericWebhook.layout.Faithful fun _ => True := by
  refine Layout.faithful
    (.cons (by decide) (faithful_required faithful_text) <|
      .cons (by decide) (faithful_defaulted WebhookMethod.faithful) <|
      .cons (by decide) (faithful_sparseMap faithful_text) <|
      .cons (by decide) (faithful_optional faithful_text) .nil) (fun _ => rfl) ?_
  simp

theorem SlackWebhook.faithful : SlackWebhook.layout.Faithful fun _ => True := by
  refine Layout.faithful
    (.cons (by decide) (faithful_required faithful_text) <|
      .cons (by decide) (faithful_optional faithful_text) .nil) (fun _ => rfl) ?_
  simp

theorem PagerDutyWebhook.faithful : PagerDutyWebhook.layout.Faithful fun _ => True := by
  refine Layout.faithful
    (.cons (by decide) (faithful_required faithful_text) .nil) (fun _ => rfl) ?_
  simp

theorem UrlWebhook.faithful (name : String) : (UrlWebhook.layout name).Faithful fun _ => True := by
  refine Layout.faithful (.cons (by decide) (faithful_required faithful_text) .nil) (fun _ => rfl) ?_
  simp

theorem EmailGroupWebhook.faithful : EmailGroupWebhook.layout.Faithful fun _ => True := by
  refine Layout.faithful
    (.cons (by decide) (faithful_required faithful_text.list) .nil) (fun _ => rfl) ?_
  simp

theorem WebhookType.faithful : WebhookType.codec.Faithful fun _ => True := by
  refine faithful_union ?_
  intro a _
  cases a with
  | generic w => exact ⟨_, _, rfl, rfl, read_arm GenericWebhook.faithful.codec trivial _ _ _⟩
  | slack w => exact ⟨_, _, rfl, rfl, read_arm SlackWebhook.faithful.codec trivial _ _ _⟩
  | pagerDuty w => exact ⟨_, _, rfl, rfl, read_arm PagerDutyWebhook.faithful.codec trivial _ _ _⟩
  | microsoftTeams w | opsgenie w =>
    exact ⟨_, _, rfl, rfl, read_arm (UrlWebhook.faithful _).codec trivial _ _ _⟩
  | emailGroup w => exact ⟨_, _, rfl, rfl, read_arm EmailGroupWebhook.faithful.codec trivial _ _ _⟩

theorem OutboundWebhookSpec.faithful : OutboundWebhookSpec.layout.Faithful fun _ => True := by
  refine Layout.faithful
    (.cons (by decide) (faithful_required faithful_text) <|
      .cons (by decide) (faithful_required WebhookType.faithful) .nil) (fun _ => rfl) ?_
  simp

theorem RecordingRule.faithful : RecordingRule.layout.Faithful fun _ => True := by
  refine Layout.faithful
    (.cons (by decide) (faithful_required faithful_text) <|
      .cons (by decide) (faithful_required faithful_text) <|
      .cons (by decide) (faithful_sparseMap faithful_text) .nil) (fun _ => rfl) ?_
  simp

theorem RecordingRuleGroup.faithful : RecordingRuleGroup.layout.Faithful fun _ => True := by
  refine Layout.faithful
    (.cons (by decide) (faithful_required faithful_text) <|
      .cons (by decide) (faithful_optional faithful_uint32) <|
      .cons (by decide) (faithful_optional faithful_uint64) <|
      .cons (by decide) (faithful_defaulted RecordingRule.faithful.codec.list) .nil) (fun _ => rfl) ?_
  simp

theorem RecordingRuleGroupSetSpec.faithful : RecordingRuleGroupSetSpec.layout.Faithful fun _ => True := by
  refine Layout.faithful
    (.cons (by decide) (faithful_defaulted RecordingRuleGroup.faithful.codec.list) .nil) (fun _ => rfl) ?_
  simp

theorem ParseRule.faithful : ParseRule.layout.Faithful fun _ => True := by
  refine Layout.faithful
    (.cons (by decide) (faithful_required faithful_text) <|
      .cons (by decide) (faithful_required faithful_text) .nil) (fun _ => rfl) ?_
  simp

theorem BlockRule.faithful : BlockRule.layout.Faithful fun _ => True := by
  refine Layout.faithful
    (.cons (by decide) (faithful_required faithful_text) <|
      .cons (by decide) (faithful_defaulted faithful_bool) .nil) (fun _ => rfl) ?_
  simp

theorem ReplaceRule.faithful : ReplaceRule.layout.Faithful fun _ => True := by
  refine Layout.faithful
    (.cons (by decide) (faithful_required faithful_text) <|
      .cons (by decide) (faithful_required faithful_text) <|
      .cons (by decide) (faithful_required faithful_text) .nil) (fun _ => rfl) ?_
  simp

theorem JsonExtractRule.faithful (name : String) :
    (JsonExtractRule.layout name).Faithful fun _ => True := by
  refine Layout.faithful
    (.cons (by decide) (faithful_required faithful_text) <|
      .cons (by decide) (faithful_required faithful_text) .nil) (fun _ => rfl) ?_
  simp

theorem RuleAction.faithful : RuleAction.codec.Faithful fun _ => True := by
  refine faithful_union ?_
  intro a _
  cases a with
  | parse r => exact ⟨_, _, rfl, rfl, read_arm ParseRule.faithful.codec trivial _ _ _⟩
  | block r => exact ⟨_, _, rfl, rfl, read_arm BlockRule.faithful.codec trivial _ _ _⟩
  | replace r => exact ⟨_, _, rfl, rfl, read_arm ReplaceRule.faithful.codec trivial _ _ _⟩
  | jsonExtract r =>
    exact ⟨_, _, rfl, rfl, read_arm (JsonExtractRule.faithful _).codec trivial _ _ _⟩

theorem Rule.faithful : Rule.layout.Faithful fun _ => True := by
  refine Layout.faithful
    (.cons (by decide) (faithful_required faithful_text) <|
      .cons (by decide) (faithful_optional faithful_text) <|
      .cons (by decide) (faithful_defaulted faithful_bool) <|
      .cons (by decide) (faithful_defaulted faithful_text) <|
      .cons (by decide) (faithful_required RuleAction.faithful) .nil) (fun _ => rfl) ?_
  simp

theorem RuleSubgroup.faithful : RuleSubgroup.layout.Faithful fun _ => True := by
  refine Layout.faithful
    (.cons (by decide) (faithful_defaulted faithful_bool) <|
      .cons (by decide) (faithful_optional faithful_uint32) <|
      .cons (by decide) (faithful_required Rule.faithful.codec.list) .nil) (fun _ => rfl) ?_
  simp

theorem RuleGroupSpec.faithful : RuleGroupSpec.layout.Faithful fun _ => True := by
  refine Layout.faithful
    (.cons (by decide) (faithful_required faithful_text) <|
      .cons (by decide) (faithful_optional faithful_text) <|
      .cons (by decide) (faithful_defaulted faithful_bool) <|
      .cons (by decide) (faithful_optional faithful_uint32) <|
      .cons (by decide) (faithful_defaulted RuleSubgroup.faithful.codec.list) .nil) (fun _ => rfl) ?_
  simp

end specs

section statuses

theorem IdStatus.faithful (name : String) : (IdStatus.layout name).Faithful fun _ => True := by
  refine Layout.faithful (.cons (by decide) (faithful_optional faithful_text) .nil) (fun _ => rfl) ?_
  simp

theorem AlertStatus.faithful : AlertStatus.layout.Faithful fun _ => True := by
  refine Layout.faithful
    (.cons (by decide) (faithful_optional faithful_text) <|
      .cons (by decide) (faithful_optional faithful_text) <|
      .cons (by decide) (faithful_optional faithful_text) .nil) (fun _ => rfl) ?_
  simp

theorem OutboundWebhookStatus.faithful : OutboundWebhookStatus.layout.Faithful fun _ => True := by
  refine Layout.faithful
    (.cons (by decide) (faithful_optional faithful_text) <|
      .cons (by decide) (faithful_optional faithful_uint64) <|
      .cons (by decide) (faithful_optional faithful_text) .nil) (fun _ => rfl) ?_
  simp

end statuses

namespace Kind

/-- Whether the numbers of a spec can be written. -/
def IsRegular : (k : Kind) → k.Spec → Prop
  | alert => fun s : AlertSpec => s.condition.threshold.isFinite = true
  | team => fun s : TeamSpec => ∀ x ∈ s.dailyQuotaUnits, x.isFinite = true
  | ruleGroup | recordingRuleGroupSet | outboundWebhook | apiKey => fun _ => True

theorem faithful_spec : (k : Kind) → k.specLayout.Faithful k.IsRegular
  | alert => AlertSpec.faithful
  | ruleGroup => RuleGroupSpec.faithful
  | recordingRuleGroupSet => RecordingRuleGroupSetSpec.faithful
  | outboundWebhook => OutboundWebhookSpec.faithful
  | apiKey => ApiKeySpec.faithful
  | team => TeamSpec.faithful

theorem faithful_status : (k : Kind) → k.statusLayout.Faithful fun _ => True
  | alert => AlertStatus.faithful
  | outboundWebhook => OutboundWebhookStatus.faithful
  | ruleGroup | recordingRuleGroupSet | apiKey | team => IdStatus.faithful _

end Kind

end ResourceSync
