import ResourceSync.Proofs.Bounded
import ResourceSync.Proofs.Documents
import ResourceSync.Proofs.Printing

/-! What is written of the bodies of entities reads back, and has no unreadable part. -/
namespace ResourceSync

variable {α β τ : Type} {j : Json} {p : Passage} {P : Binary64 → Prop} {n : Nat}

open Codec ResourceSync.Field

section printable

open Json (IsPrintable)

/-- Everything that is written can be read throughout, and nests at most `n` deep. -/
class Codec.IsPrintable (c : Codec α) (P : Binary64 → Prop) (n : Nat) : Prop where
  printable : ∀ a, (c.encode a).IsPrintable P n

/-- The same of the members that fields are written to. -/
class Fields.IsPrintable (fs : Fields τ) (P : Binary64 → Prop) (n : Nat) : Prop where
  printable : ∀ t, ∀ m ∈ fs.encode t, m.2.IsPrintable P n

/-- The same of the alternatives of a union. -/
class Arm.ArePrintable (arms : List (Arm α)) (P : Binary64 → Prop) (n : Nat) : Prop where
  printable : ∀ arm ∈ arms, ∀ a, ∀ j ∈ arm.encode? a, j.IsPrintable P n

instance : text.IsPrintable P n := ⟨.str⟩

instance : Codec.bool.IsPrintable P n := ⟨.bool⟩

instance : uint32.IsPrintable P n where
  printable i := .int (by omega) (by have := i.toNat_lt; omega)

instance : uint64.IsPrintable P n where
  printable i := .int (by omega) (by have := i.toNat_lt; omega)

instance {all : List α} {name : α → String} : (choice all name).IsPrintable P n :=
  ⟨fun a => .str (name a)⟩

instance {c : Codec α} [h : c.IsPrintable P n] : c.option.IsPrintable P n where
  printable
    | none => .null
    | some a => h.printable a

instance {c : Codec α} [h : c.IsPrintable P n] : c.list.IsPrintable P (n + 1) where
  printable l := by
    refine .arr ?_
    intro j hj
    obtain ⟨a, -, rfl⟩ := List.mem_map.1 hj
    exact h.printable a

instance {c : Codec α} [h : c.IsPrintable P n] : c.map.IsPrintable P (n + 1) where
  printable m := by
    refine .obj ?_
    intro m hm
    obtain ⟨e, -, rfl⟩ := List.mem_map.1 hm
    exact h.printable e.2

instance {arms : List (Arm α)} [h : Arm.ArePrintable arms P n] :
    (union arms).IsPrintable P (n + 1) where
  printable a := by
    refine .obj ?_
    intro m hm
    obtain ⟨arm, harm, hencode⟩ := List.exists_of_findSome?_eq_some (Option.mem_toList.1 hm)
    obtain ⟨j, hj, rfl⟩ := Option.map_eq_some_iff.1 hencode
    exact h.printable arm harm a j hj

instance : Arm.ArePrintable ([] : List (Arm α)) P n := ⟨fun _ h => by cases h⟩

instance {c : Codec β} {name : String} {wrap : β → α} {unwrap? : α → Option β}
    {arms : List (Arm α)} [h : c.IsPrintable P n] [hs : Arm.ArePrintable arms P n] :
    Arm.ArePrintable (.of name c wrap unwrap? :: arms) P n where
  printable := by
    refine List.forall_mem_cons.2 ⟨?_, hs.printable⟩
    intro a j hj
    obtain ⟨b, -, rfl⟩ := Option.map_eq_some_iff.1 hj
    exact h.printable b

/-- A field is written as one member, or not at all. -/
theorem Fields.printable_cons {f : Field α} {rest : Fields β} {a : α} {t : β}
    (hhead : (f.codec.encode a).IsPrintable P n)
    (htail : ∀ m ∈ rest.encode t, m.2.IsPrintable P n) :
    ∀ m ∈ (Fields.cons f rest).encode (a, t), m.2.IsPrintable P n := by
  rw [Fields.encode_cons]
  split
  · exact htail
  · exact List.forall_mem_cons.2 ⟨hhead, htail⟩

instance : Fields.nil.IsPrintable P n := ⟨fun _ _ h => by cases h⟩

instance {f : Field α} {rest : Fields β} [h : f.codec.IsPrintable P n]
    [hs : rest.IsPrintable P n] : (Fields.cons f rest).IsPrintable P n :=
  ⟨fun (a, t) => Fields.printable_cons (h.printable a) (hs.printable t)⟩

instance {name : String} {c : Codec α} [h : c.IsPrintable P n] :
    (required name c).codec.IsPrintable P n := h

instance {name : String} {c : Codec α} {value : α} [h : c.IsPrintable P n] :
    (defaulted name c value).codec.IsPrintable P n := h

instance {name : String} {c : Codec α} [c.IsPrintable P n] :
    (optional name c).codec.IsPrintable P n := inferInstanceAs (c.option.IsPrintable P n)

instance {name : String} {c : Codec α} [c.IsPrintable P n] :
    (sparseMap name c).codec.IsPrintable P (n + 1) := inferInstanceAs (c.map.IsPrintable P (n + 1))

theorem Layout.isPrintable {l : Layout α} (h : l.fields.IsPrintable P n) :
    l.codec.IsPrintable P (n + 1) := ⟨fun a => .obj (h.printable (l.toTuple a))⟩

theorem Layout.isPrintable_record {name : String} {fs : Fields τ} {toTuple : α → τ}
    {ofTuple : τ → α} [h : fs.IsPrintable P n] :
    (Layout.record name fs toTuple ofTuple).codec.IsPrintable P (n + 1) := Layout.isPrintable h

/-- A double is written as itself, or as null. -/
theorem Codec.printable_binary64 {x : Binary64} (h : P x) :
    (binary64.encode x).IsPrintable P n := by
  simp only [binary64, uniform]
  split
  · next hfinite => exact .float hfinite h
  · exact .null

end printable

section alerts

theorem ConditionBody.faithful :
    ConditionBody.layout.Faithful fun c => c.threshold.isFinite = true := by
  refine Layout.faithful
    (.cons (by decide) (faithful_required faithful_text) <|
      .cons (by decide) (faithful_required faithful_binary64) <|
      .cons (by decide) (faithful_required faithful_text) .nil) (fun _ => rfl) ?_
  simp [layout, Layout.record]

theorem ConditionBody.printable {c : ConditionBody} (h : P c.threshold) :
    (ConditionBody.layout.codec.encode c).IsPrintable P (n + 1) :=
  .obj <| Fields.printable_cons (.str _) <| Fields.printable_cons (printable_binary64 h) <|
    Fields.printable_cons (.str _) nofun

theorem ConditionBody.isFinite_of_read {c : ConditionBody} (hj : j.IsBounded)
    (h : ConditionBody.layout.codec.read p j = .ok c) : c.threshold.isFinite = true := by
  obtain ⟨⟨side, threshold, timeWindow, _⟩, rfl, -, hthreshold, -⟩ := Layout.take_of_read h
  obtain ⟨i, hi, hread⟩ := hthreshold.required
  exact Codec.isFinite_of_read (hj.sources hi) hread

instance {name : String} : (NotificationGroup.layout name).codec.IsPrintable P (n + 2) :=
  Layout.isPrintable_record

theorem AlertBody.faithful :
    AlertBody.layout.Faithful fun b => b.condition.threshold.isFinite = true := by
  refine Layout.faithful
    (.cons (by decide) (faithful_required faithful_text) <|
      .cons (by decide) (faithful_defaulted faithful_text) <|
      .cons (by decide) (faithful_defaulted faithful_bool) <|
      .cons (by decide) (faithful_required faithful_text) <|
      .cons (by decide) (faithful_defaulted faithful_text.map) <|
      .cons (by decide) (faithful_required faithful_text) <|
      .cons (by decide) (faithful_required ConditionBody.faithful.codec) <|
      .cons (by decide) (faithful_optional (NotificationGroup.faithful _).codec) .nil)
    (fun _ => rfl) ?_
  simp [layout, Layout.record]

theorem AlertBody.printable {b : AlertBody} (h : P b.condition.threshold) :
    (AlertBody.layout.codec.encode b).IsPrintable P (n + 3) :=
  .obj <| Fields.printable_cons (.str _) <| Fields.printable_cons (.str _) <|
    Fields.printable_cons (.bool _) <| Fields.printable_cons (.str _) <|
    Fields.printable_cons (Codec.IsPrintable.printable (c := Codec.text.map) _) <|
    Fields.printable_cons (.str _) <| Fields.printable_cons (ConditionBody.printable h) <|
    Fields.printable_cons
      (Codec.IsPrintable.printable (c := (NotificationGroup.layout _).codec.option) _) nofun

theorem AlertBody.isFinite_of_read {b : AlertBody} (hj : j.IsBounded)
    (h : AlertBody.layout.codec.read p j = .ok b) : b.condition.threshold.isFinite = true := by
  obtain ⟨⟨_, _, _, _, _, _, condition, _⟩, rfl, -, -, -, -, -, -, hcondition, -⟩ :=
    Layout.take_of_read h
  obtain ⟨i, hi, hread⟩ := hcondition.required
  exact ConditionBody.isFinite_of_read (hj.sources hi) hread

/-- What has become of the threshold of an alert whose text was read again. -/
theorem ConditionBody.reread_of_read {c c' : ConditionBody} (hfinite : c.threshold.isFinite = true)
    (h : ConditionBody.layout.codec.read p (ConditionBody.layout.codec.encode c).reread = .ok c') :
    Json.reread (.float c.threshold) = .float c'.threshold := by
  have hnames : (Json.names [] ++ layout.fields.names).Nodup := faithful.nodup
  obtain ⟨-, hthreshold, -⟩ := Layout.reread_of_read hnames (fun _ => rfl)
    ((congrArg (layout.codec.read p) Json.reread_obj.symm).trans h)
  exact Json.reread_float hfinite hthreshold.required

theorem AlertBody.reread_of_read {b b' : AlertBody} {ms : List (String × Json)}
    (hfinite : b.condition.threshold.isFinite = true)
    (hnames : (Json.names ms ++ AlertBody.layout.fields.names).Nodup)
    (h : AlertBody.layout.codec.read p
      (.obj (ms ++ (AlertBody.layout.encodeMembers b).map fun m => (m.1, m.2.reread))) = .ok b') :
    Json.reread (.float b.condition.threshold) = .float b'.condition.threshold := by
  obtain ⟨-, -, -, -, -, -, hcondition, -⟩ := Layout.reread_of_read hnames (fun _ => rfl) h
  exact ConditionBody.reread_of_read hfinite hcondition.required

end alerts

section ruleGroups

theorem ExtractParameters.faithful : ExtractParameters.layout.Faithful fun _ => True := by
  refine Layout.faithful
    (.cons (by decide) (faithful_required faithful_text) <|
      .cons (by decide) (faithful_required faithful_text) .nil) (fun _ => rfl) ?_
  simp

instance : ExtractParameters.layout.codec.IsPrintable P (n + 1) :=
  Layout.isPrintable_record

theorem BlockParameters.faithful : BlockParameters.layout.Faithful fun _ => True := by
  refine Layout.faithful
    (.cons (by decide) (faithful_required faithful_text) <|
      .cons (by decide) (faithful_defaulted faithful_bool) .nil) (fun _ => rfl) ?_
  simp

instance : BlockParameters.layout.codec.IsPrintable P (n + 1) :=
  Layout.isPrintable_record

theorem ReplaceParameters.faithful : ReplaceParameters.layout.Faithful fun _ => True := by
  refine Layout.faithful
    (.cons (by decide) (faithful_required faithful_text) <|
      .cons (by decide) (faithful_required faithful_text) <|
      .cons (by decide) (faithful_required faithful_text) .nil) (fun _ => rfl) ?_
  simp

instance : ReplaceParameters.layout.codec.IsPrintable P (n + 1) :=
  Layout.isPrintable_record

instance {name : String} : (JsonExtractRule.layout name).codec.IsPrintable P (n + 1) :=
  Layout.isPrintable_record

theorem RuleParameters.faithful : RuleParameters.codec.Faithful fun _ => True := by
  refine faithful_union ?_
  intro a _
  cases a with
  | parse p => exact ⟨_, _, rfl, rfl, read_arm ExtractParameters.faithful.codec trivial _ _ _⟩
  | block p => exact ⟨_, _, rfl, rfl, read_arm BlockParameters.faithful.codec trivial _ _ _⟩
  | replace p => exact ⟨_, _, rfl, rfl, read_arm ReplaceParameters.faithful.codec trivial _ _ _⟩
  | jsonExtract p =>
    exact ⟨_, _, rfl, rfl, read_arm (JsonExtractRule.faithful _).codec trivial _ _ _⟩

instance : RuleParameters.codec.IsPrintable P (n + 2) := by
  unfold RuleParameters.codec
  infer_instance

theorem RuleBody.faithful : RuleBody.layout.Faithful fun _ => True := by
  refine Layout.faithful
    (.cons (by decide) (faithful_required faithful_text) <|
      .cons (by decide) (faithful_defaulted faithful_text) <|
      .cons (by decide) (faithful_defaulted faithful_bool) <|
      .cons (by decide) (faithful_required faithful_text) <|
      .cons (by decide) (faithful_required RuleParameters.faithful) .nil) (fun _ => rfl) ?_
  simp

instance : RuleBody.layout.codec.IsPrintable P (n + 3) :=
  Layout.isPrintable_record

theorem RuleSubgroupBody.faithful : RuleSubgroupBody.layout.Faithful fun _ => True := by
  refine Layout.faithful
    (.cons (by decide) (faithful_defaulted faithful_bool) <|
      .cons (by decide) (faithful_required faithful_uint32) <|
      .cons (by decide) (faithful_defaulted RuleBody.faithful.codec.list) .nil) (fun _ => rfl) ?_
  simp

instance : RuleSubgroupBody.layout.codec.IsPrintable P (n + 5) :=
  Layout.isPrintable_record

theorem RuleGroupBody.faithful : RuleGroupBody.layout.Faithful fun _ => True := by
  refine Layout.faithful
    (.cons (by decide) (faithful_required faithful_text) <|
      .cons (by decide) (faithful_defaulted faithful_text) <|
      .cons (by decide) (faithful_defaulted faithful_bool) <|
      .cons (by decide) (faithful_optional faithful_uint32) <|
      .cons (by decide) (faithful_defaulted RuleSubgroupBody.faithful.codec.list) .nil)
    (fun _ => rfl) ?_
  simp

instance : RuleGroupBody.layout.codec.IsPrintable P (n + 7) :=
  Layout.isPrintable_record

end ruleGroups

section recordingRules

theorem RecordingRuleBody.faithful : RecordingRuleBody.layout.Faithful fun _ => True := by
  refine Layout.faithful
    (.cons (by decide) (faithful_required faithful_text) <|
      .cons (by decide) (faithful_required faithful_text) <|
      .cons (by decide) (faithful_defaulted faithful_text.map) .nil) (fun _ => rfl) ?_
  simp

instance : RecordingRuleBody.layout.codec.IsPrintable P (n + 2) :=
  Layout.isPrintable_record

theorem RecordingRuleGroupBody.faithful :
    RecordingRuleGroupBody.layout.Faithful fun _ => True := by
  refine Layout.faithful
    (.cons (by decide) (faithful_required faithful_text) <|
      .cons (by decide) (faithful_required faithful_uint32) <|
      .cons (by decide) (faithful_defaulted faithful_uint64) <|
      .cons (by decide) (faithful_defaulted RecordingRuleBody.faithful.codec.list) .nil)
    (fun _ => rfl) ?_
  simp

instance : RecordingRuleGroupBody.layout.codec.IsPrintable P (n + 4) :=
  Layout.isPrintable_record

theorem RecordingRuleGroupSetBody.faithful :
    RecordingRuleGroupSetBody.layout.Faithful fun _ => True := by
  refine Layout.faithful
    (.cons (by decide) (faithful_defaulted RecordingRuleGroupBody.faithful.codec.list) .nil)
    (fun _ => rfl) ?_
  simp

instance : RecordingRuleGroupSetBody.layout.codec.IsPrintable P (n + 6) :=
  Layout.isPrintable_record

end recordingRules

section webhooks

instance : WebhookMethod.codec.IsPrintable P n := by
  unfold WebhookMethod.codec
  infer_instance

instance : GenericWebhook.layout.codec.IsPrintable P (n + 2) :=
  Layout.isPrintable_record

instance : SlackWebhook.layout.codec.IsPrintable P (n + 1) :=
  Layout.isPrintable_record

instance : PagerDutyWebhook.layout.codec.IsPrintable P (n + 1) :=
  Layout.isPrintable_record

instance {name : String} : (UrlWebhook.layout name).codec.IsPrintable P (n + 1) :=
  Layout.isPrintable_record

instance : EmailGroupWebhook.layout.codec.IsPrintable P (n + 2) :=
  Layout.isPrintable_record

instance : WebhookType.codec.IsPrintable P (n + 3) := by
  unfold WebhookType.codec
  infer_instance

theorem OutboundWebhookBody.faithful : OutboundWebhookBody.layout.Faithful fun _ => True := by
  refine Layout.faithful
    (.cons (by decide) (faithful_required faithful_text) <|
      .cons (by decide) (faithful_required faithful_text) <|
      .cons (by decide) (faithful_required WebhookType.faithful) .nil) (fun _ => rfl) ?_
  simp

instance : OutboundWebhookBody.layout.codec.IsPrintable P (n + 4) :=
  Layout.isPrintable_record

end webhooks

section keys

theorem OwnerBody.faithful : OwnerBody.layout.Faithful fun _ => True := by
  refine Layout.faithful
    (.cons (by decide) (faithful_optional faithful_text) <|
      .cons (by decide) (faithful_optional faithful_text) .nil) (fun _ => rfl) ?_
  simp

instance : OwnerBody.layout.codec.IsPrintable P (n + 1) :=
  Layout.isPrintable_record

theorem ApiKeyBody.faithful : ApiKeyBody.layout.Faithful fun _ => True := by
  refine Layout.faithful
    (.cons (by decide) (faithful_required faithful_text) <|
      .cons (by decide) (faithful_required OwnerBody.faithful.codec) <|
      .cons (by decide) (faithful_defaulted faithful_text.list) <|
      .cons (by decide) (faithful_defaulted faithful_text.list) <|
      .cons (by decide) (faithful_defaulted faithful_bool) .nil) (fun _ => rfl) ?_
  simp

instance : ApiKeyBody.layout.codec.IsPrintable P (n + 2) :=
  Layout.isPrintable_record

end keys

section teams

theorem TeamBody.faithful :
    TeamBody.layout.Faithful fun b => ∀ x ∈ b.dailyQuota, x.isFinite = true := by
  refine Layout.faithful
    (.cons (by decide) (faithful_required faithful_text) <|
      .cons (by decide) (faithful_defaulted faithful_text) <|
      .cons (by decide) (faithful_defaulted faithful_text.list) <|
      .cons (by decide) (faithful_optional faithful_binary64) .nil) (fun _ => rfl) ?_
  simp [layout, Layout.record]

theorem TeamBody.printable {b : TeamBody} (h : ∀ x ∈ b.dailyQuota, P x) :
    (TeamBody.layout.codec.encode b).IsPrintable P (n + 2) := by
  have hquota : (Codec.binary64.option.encode b.dailyQuota).IsPrintable P (n + 1) := by
    cases hb : b.dailyQuota with
    | none => exact .null
    | some x => exact printable_binary64 (h x hb)
  exact .obj <| Fields.printable_cons (.str _) <| Fields.printable_cons (.str _) <|
    Fields.printable_cons (Codec.IsPrintable.printable (c := Codec.text.list) _) <|
    Fields.printable_cons hquota nofun

theorem TeamBody.isFinite_of_read {b : TeamBody} (hj : j.IsBounded)
    (h : TeamBody.layout.codec.read p j = .ok b) : ∀ x ∈ b.dailyQuota, x.isFinite = true := by
  obtain ⟨⟨_, _, _, quota, _⟩, rfl, -, -, -, hquota, -⟩ := Layout.take_of_read h
  intro x hx
  obtain ⟨i, hi, -, hread⟩ := hquota.optional hx
  exact Codec.isFinite_of_read (hj.sources hi) hread

/-- What has become of the quota of a team whose text was read again. -/
theorem TeamBody.reread_of_read {b b' : TeamBody} {ms : List (String × Json)} {x y : Binary64}
    (hfinite : x.isFinite = true) (hx : b.dailyQuota = some x) (hy : b'.dailyQuota = some y)
    (hnames : (Json.names ms ++ TeamBody.layout.fields.names).Nodup)
    (h : TeamBody.layout.codec.read p
      (.obj (ms ++ (TeamBody.layout.encodeMembers b).map fun m => (m.1, m.2.reread))) = .ok b') :
    Json.reread (.float x) = .float y := by
  obtain ⟨-, -, -, hquota, -⟩ := Layout.reread_of_read hnames (fun _ => rfl) h
  exact Json.reread_float hfinite (hquota.optional hx hy)

end teams

namespace Kind
variable {k : Kind} {b : k.Body}

/-- Whether every number of a body has a property. -/
def EachNumber (P : Binary64 → Prop) : (k : Kind) → k.Body → Prop
  | alert => fun b : AlertBody => P b.condition.threshold
  | team => fun b : TeamBody => ∀ x ∈ b.dailyQuota, P x
  | ruleGroup | recordingRuleGroupSet | outboundWebhook | apiKey => fun _ => True

/-- Whether the numbers of a body can be written. -/
def IsWritable (k : Kind) : k.Body → Prop := k.EachNumber fun x => x.isFinite = true

theorem faithful_body : (k : Kind) → k.bodyLayout.Faithful k.IsWritable
  | alert => AlertBody.faithful
  | ruleGroup => RuleGroupBody.faithful
  | recordingRuleGroupSet => RecordingRuleGroupSetBody.faithful
  | outboundWebhook => OutboundWebhookBody.faithful
  | apiKey => ApiKeyBody.faithful
  | team => TeamBody.faithful

theorem printable_body (h : k.EachNumber P b) :
    (k.bodyLayout.codec.encode b).IsPrintable P (n + 7) := by
  cases k with
  | alert => exact AlertBody.printable h
  | ruleGroup => exact Codec.IsPrintable.printable (c := RuleGroupBody.layout.codec) _
  | recordingRuleGroupSet =>
    exact Codec.IsPrintable.printable (c := RecordingRuleGroupSetBody.layout.codec) _
  | outboundWebhook => exact Codec.IsPrintable.printable (c := OutboundWebhookBody.layout.codec) _
  | apiKey => exact Codec.IsPrintable.printable (c := ApiKeyBody.layout.codec) _
  | team => exact TeamBody.printable h

theorem isWritable_of_read (hj : j.IsBounded) (h : k.bodyLayout.codec.read p j = .ok b) :
    k.IsWritable b := by
  cases k with
  | alert => exact AlertBody.isFinite_of_read hj h
  | team => exact TeamBody.isFinite_of_read hj h
  | ruleGroup | recordingRuleGroupSet | outboundWebhook | apiKey => trivial

/-- A spec with numbers that cannot be written asks for no body. -/
theorem isWritable_of_desiredBody {spec : k.Spec} (h : k.desiredBody spec = .ok b) :
    k.IsWritable b := by
  cases k with
  | alert =>
    change AlertSpec.desiredBody spec = _ at h
    unfold AlertSpec.desiredBody at h
    split at h
    · next hfinite =>
      obtain rfl := Except.ok.inj h
      exact hfinite
    · cases h
  | team =>
    change TeamSpec.desiredBody spec = _ at h
    unfold TeamSpec.desiredBody at h
    split at h
    · next hquota =>
      obtain rfl := Except.ok.inj h
      intro x hx
      rw [show TeamSpec.dailyQuotaUnits spec = some x from hx, Option.all_some, isQuota,
        Bool.and_eq_true] at hquota
      exact hquota.1
    · cases h
  | ruleGroup | recordingRuleGroupSet | outboundWebhook | apiKey => trivial

end Kind

end ResourceSync
