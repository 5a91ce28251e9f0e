import ResourceSync.Proofs.Bodies
import ResourceSync.Proofs.Convergence
import ResourceSync.Proofs.ShortNumbers
import ResourceSync.Remote.Client

/-! Entities are written as texts and read from them. The members of the body and of the identity
stand in one object. An entity comes back as it was exactly if its numbers do, and short numbers
do. -/
namespace ResourceSync

variable {β : Type} {k : Kind} {p : Passage} {ms : List (String × Json)}

open Codec ResourceSync.Field
open Json (membersFault?)

namespace Entity
variable {l : Layout β} {P : β → Prop} {e e' : Entity β}

theorem Identity.faithful : Identity.layout.Faithful fun _ => True := by
  refine Layout.faithful
    (.cons (by decide) (faithful_required faithful_text) <|
      .cons (by decide) (faithful_optional faithful_uint64) <|
      .cons (by decide) (faithful_optional faithful_text) <|
      .cons (by decide) (faithful_optional faithful_text) .nil) (fun _ => rfl) ?_
  simp

instance {N : Binary64 → Prop} {n : Nat} : Identity.layout.codec.IsPrintable N (n + 1) :=
  Layout.isPrintable (by unfold Identity.layout; infer_instance)

/-- An entity is read from members that tell its identity and its body and have no fault. -/
theorem read_eq_ok_iff : (codec l).read p (.obj ms) = .ok e ↔
    Identity.layout.codec.read p (.obj ms) = .ok e.identity ∧ membersFault? ms = none ∧
      l.codec.read .shared (.obj ms) = .ok e.body := by
  cases hfault : membersFault? ms with
  | some fault =>
    have hread : (codec l).read p (.obj ms) = Identity.layout.codec.read p (.obj ms) >>= fun _ =>
        throw (.malformed fault.message) := by
      simp only [codec, hfault]
      rfl
    rw [hread, bind_eq_ok_iff]
    constructor
    · rintro ⟨i, -, h⟩
      cases h
    · rintro ⟨-, h, -⟩
      cases h
  | none =>
    have hread : (codec l).read p (.obj ms) = Identity.layout.codec.read p (.obj ms) >>= fun i =>
        l.codec.read .shared (.obj ms) >>= fun b => return ofIdentity i b := by
      simp only [codec, hfault]
      rfl
    rw [hread, bind_eq_ok_iff]
    simp only [true_and]
    constructor
    · rintro ⟨i, hidentity, h⟩
      obtain ⟨b, hbody, hentity⟩ := bind_eq_ok_iff.1 h
      cases hentity
      exact ⟨hidentity, hbody⟩
    · rintro ⟨hidentity, hbody⟩
      exact ⟨e.identity, hidentity, bind_eq_ok_iff.2 ⟨e.body, hbody, rfl⟩⟩

/-- An entity is printable if its body is. -/
theorem printable_encode {N : Binary64 → Prop} {n : Nat}
    (h : (l.codec.encode e.body).IsPrintable N (n + 1)) :
    ((codec l).encode e).IsPrintable N (n + 1) := by
  have hidentity : (Identity.layout.codec.encode e.identity).IsPrintable N (n + 1) :=
    IsPrintable.printable e.identity
  exact .obj (List.forall_mem_append.2
    ⟨Json.IsPrintable.obj_iff.1 hidentity, Json.IsPrintable.obj_iff.1 h⟩)

/-- An entity reads back if its body does and no field of a body has the name of one of the
identity. -/
theorem read_encode (hl : l.Faithful P) (hbody : P e.body)
    (hfault : ((codec l).encode e).fault? = none)
    (hnames : (Identity.layout.fields.names ++ l.fields.names).Nodup) :
    (codec l).read p ((codec l).encode e) = .ok e := by
  have hidentityNames := Fields.names_encode_sublist Identity.layout.fields
    (Identity.layout.toTuple e.identity)
  have hbodyNames := Fields.names_encode_sublist l.fields (l.toTuple e.body)
  refine read_eq_ok_iff.2 ⟨?_, hfault, ?_⟩
  · exact Identity.faithful.read_before trivial (hnames.sublist (hbodyNames.append_left _))
  · exact hl.read_behind hbody (hnames.sublist (hidentityNames.append_right _))

/-- The body of an entity is read among what has become of the members of both parts. -/
theorem body_of_reread (hnames : (Identity.layout.fields.names ++ l.fields.names).Nodup)
    (h : (codec l).read p ((codec l).encode e).reread = .ok e') :
    ∃ ms, (Json.names ms ++ l.fields.names).Nodup ∧
      l.codec.read .shared
        (.obj (ms ++ (l.encodeMembers e.body).map fun m => (m.1, m.2.reread))) = .ok e'.body := by
  have hreread : ((codec l).encode e).reread =
      .obj ((Identity.layout.encodeMembers e.identity).map (fun m => (m.1, m.2.reread)) ++
        (l.encodeMembers e.body).map fun m => (m.1, m.2.reread)) := by
    rw [← List.map_append]
    exact Json.reread_obj
  rw [hreread] at h
  refine ⟨_, ?_, (read_eq_ok_iff.1 h).2.2⟩
  have hidentityNames := Fields.names_encode_sublist Identity.layout.fields
    (Identity.layout.toTuple e.identity)
  rw [Json.names, List.map_map]
  exact hnames.sublist (hidentityNames.append_right _)

end Entity

namespace Kind
variable {b b' : k.Body} {e e' : Entity k.Body} {method : HttpMethod} {url : Url}

/-- The text that an entity is sent as. -/
def entityText (k : Kind) (e : Entity k.Body) : String := (k.entityCodec.encode e).render

/-- Whether the text of every number of a body is read as that number. -/
def Rereads (k : Kind) : k.Body → Prop := k.EachNumber Binary64.Rereads

/-- Whether two bodies have the same numbers. -/
def SameNumbers : (k : Kind) → k.Body → k.Body → Prop
  | alert => fun b b' : AlertBody => b.condition.threshold.equals b'.condition.threshold = true
  | team => fun b b' : TeamBody => sameQuota b.dailyQuota b'.dailyQuota = true
  | ruleGroup | recordingRuleGroupSet | outboundWebhook | apiKey => fun _ _ => True

theorem nodup_names (k : Kind) :
    (Entity.Identity.layout.fields.names ++ k.bodyLayout.fields.names).Nodup := by
  cases k <;> decide

theorem printable_entity {N : Binary64 → Prop} (h : k.EachNumber N e.body) :
    (k.entityCodec.encode e).IsPrintable N 7 := Entity.printable_encode (printable_body (n := 0) h)

theorem eachNumber_true (b : k.Body) : k.EachNumber (fun _ => True) b := by
  cases k <;> simp [EachNumber]

theorem entity_reads_back (h : k.IsWritable e.body) :
    k.entityCodec.read p (k.entityCodec.encode e) = .ok e :=
  Entity.read_encode k.faithful_body h (printable_entity (eachNumber_true _)).fault? k.nodup_names

theorem isWritable_of_entity {j : Json} (hj : j.IsBounded) (h : k.entityCodec.read p j = .ok e) :
    k.IsWritable e.body := by
  cases j with
  | obj ms => exact isWritable_of_read hj (Entity.read_eq_ok_iff.1 h).2.2
  | null | bool | int | float | str | arr | unreadable => cases h

section numbers

theorem sameNumbers_of_inSync (h : k.inSync b b' = true) : k.SameNumbers b b' := by
  cases k with
  | alert =>
    change AlertBody.inSync b b' = true at h
    simp only [AlertBody.inSync, Bool.and_eq_true] at h
    exact h.1
  | team =>
    change TeamBody.inSync b b' = true at h
    simp only [TeamBody.inSync, Bool.and_eq_true] at h
    exact h.1.2
  | ruleGroup | recordingRuleGroupSet | outboundWebhook | apiKey => trivial

theorem sameNumbers_self (h : k.IsWritable b) : k.SameNumbers b b := by
  cases k with
  | alert => exact Binary64.equals_self h
  | team =>
    change sameQuota (TeamBody.dailyQuota b) (TeamBody.dailyQuota b) = true
    cases hquota : TeamBody.dailyQuota b with
    | none => rfl
    | some x => exact Binary64.equals_self (h x hquota)
  | ruleGroup | recordingRuleGroupSet | outboundWebhook | apiKey => trivial

theorem rereads_of_short (h : k.EachNumber Binary64.IsShort b) : k.Rereads b := by
  cases k with
  | alert => exact Binary64.rereads_of_isShort h
  | team => exact fun x hx => Binary64.rereads_of_isShort (h x hx)
  | ruleGroup | recordingRuleGroupSet | outboundWebhook | apiKey => trivial

/-- Where the numbers of an entity are the same after its text was read, they are read back. -/
theorem rereads_of_sameNumbers (hwritable : k.IsWritable e.body)
    (h : k.entityCodec.read p (k.entityCodec.encode e).reread = .ok e')
    (hsame : k.SameNumbers e.body e'.body) : k.Rereads e.body := by
  obtain ⟨ms, hnames, hread⟩ := Entity.body_of_reread k.nodup_names h
  cases k with
  | alert =>
    exact Binary64.rereads_of_equals hwritable (AlertBody.reread_of_read hwritable hnames hread)
      hsame
  | team =>
    intro x hx
    have hquota : sameQuota (some x) (TeamBody.dailyQuota e'.body) = true := hx ▸ hsame
    cases hy : TeamBody.dailyQuota e'.body with
    | none =>
      rw [hy] at hquota
      cases hquota
    | some y =>
      rw [hy] at hquota
      have hx' := hwritable x hx
      exact Binary64.rereads_of_equals hx' (TeamBody.reread_of_read hx' hx hy hnames hread) hquota
  | ruleGroup | recordingRuleGroupSet | outboundWebhook | apiKey => trivial

end numbers

section texts

/-- The text of an entity is read as what has become of its document, and the entity codec reads an
entity from that. -/
theorem readAnswer_entityText_iff :
    ManagementClient.readAnswer k.entityCodec method url (k.entityText e) = .ok e' ↔
      k.entityCodec.decode (k.entityCodec.encode e).reread = .ok e' := by
  have hread := (printable_entity (eachNumber_true e.body)).ofText_render (by decide)
  rw [ManagementClient.readAnswer, entityText, hread]
  exact mapError_eq_ok_iff

/-- An entity comes back as it was exactly if its numbers do. -/
theorem readAnswer_entityText_self_iff (method : HttpMethod) (url : Url)
    (hwritable : k.IsWritable e.body) :
    ManagementClient.readAnswer k.entityCodec method url (k.entityText e) = .ok e ↔
      k.Rereads e.body := by
  rw [readAnswer_entityText_iff]
  constructor
  · intro h
    exact rereads_of_sameNumbers hwritable h (sameNumbers_self hwritable)
  · intro h
    rw [(printable_entity h).reread_eq]
    exact entity_reads_back hwritable

/-- An entity that was read from a text can be written. -/
theorem isWritable_of_readAnswer {text : String}
    (h : ManagementClient.readAnswer k.entityCodec method url text = .ok e) :
    k.IsWritable e.body := by
  unfold ManagementClient.readAnswer at h
  dsimp only at h
  split at h
  · cases h
  · next j hj =>
    exact isWritable_of_entity (Json.isBounded_of_ofText hj) (mapError_eq_ok_iff.1 h)

end texts

end Kind

/-- The text of an entity is read as the same entity exactly if the text of each number in its body
is read as the same number. This holds of every body that a spec asks for, and the body that is read
is in step with it exactly then. It also holds of every entity that was itself read from a text.
Short numbers are read as the same numbers. -/
theorem entity_stays_iff (k : Kind) (method : HttpMethod) (url : Url) :
    (∀ (spec : k.Spec) (b : k.Body), k.desiredBody spec = .ok b →
      ∀ (id : String) (externalId : Option UInt64) (createdAt updatedAt : Option String),
        let text := k.entityText ⟨id, externalId, createdAt, updatedAt, b⟩
        (ManagementClient.readAnswer k.entityCodec method url text =
            .ok ⟨id, externalId, createdAt, updatedAt, b⟩ ↔ k.Rereads b) ∧
          ((∃ e, ManagementClient.readAnswer k.entityCodec method url text = .ok e ∧
            k.inSync b e.body = true) ↔ k.Rereads b)) ∧
    (∀ (text : String) (e : Entity k.Body),
      ManagementClient.readAnswer k.entityCodec method url text = .ok e →
      (ManagementClient.readAnswer k.entityCodec method url (k.entityText e) = .ok e ↔
        k.Rereads e.body)) ∧
    ∀ b : k.Body, k.EachNumber Binary64.IsShort b → k.Rereads b := by
  refine ⟨?_, ?_, fun _ => Kind.rereads_of_short⟩
  · intro spec b hb id externalId createdAt updatedAt text
    have hwritable : k.IsWritable b := Kind.isWritable_of_desiredBody hb
    have hself := Kind.readAnswer_entityText_self_iff (k := k)
      (e := ⟨id, externalId, createdAt, updatedAt, b⟩) method url hwritable
    refine ⟨hself, ?_, fun h => ⟨_, hself.2 h, Kind.inSync_self hb⟩⟩
    rintro ⟨e, hread, hsync⟩
    exact Kind.rereads_of_sameNumbers hwritable (Kind.readAnswer_entityText_iff.1 hread)
      (Kind.sameNumbers_of_inSync hsync)
  · intro text e h
    exact Kind.readAnswer_entityText_self_iff method url (Kind.isWritable_of_readAnswer h)

namespace Sample

def teamUrl : Url :=
  ⟨"https", some ⟨"", "", .domain "api.example.com", none⟩, .segments ["v1", "teams", "e-1"], none,
    none⟩

def quotaBody (quota : Binary64) : Kind.Body .team :=
  (⟨"alpha", "", [], some quota⟩ : TeamBody)

def quotaSpec (quota : Binary64) : Kind.Spec .team :=
  (⟨"alpha", none, [], some quota⟩ : TeamSpec)

/-- The quota 2.5. -/
def plainQuota : Binary64 := ⟨0x4004000000000000⟩

/-- The quota 1.3200000000000003. -/
def driftingQuota : Binary64 := ⟨0x3FF51EB851EB8520⟩

theorem desiredBody_plainQuota :
    Kind.team.desiredBody (quotaSpec plainQuota) = .ok (quotaBody plainQuota) :=
  eq_ok_of_toOption (by decide +kernel)

theorem isShort_plainQuota : Kind.team.EachNumber Binary64.IsShort (quotaBody plainQuota) := by
  have hquota : plainQuota.IsShort := ⟨by decide +kernel, by decide +kernel, by decide +kernel⟩
  intro x hx
  obtain rfl : plainQuota = x := Option.some.inj hx
  exact hquota

/-- The text of a team, with a member that is none of its own. -/
def teamText (quota : String) : String :=
  "\x7b\"plan\":null,\"id\":\"e-1\",\"name\":\"alpha\",\"dailyQuota\":" ++ quota ++ "\x7d"

theorem readAnswer_teamText :
    ManagementClient.readAnswer Kind.team.entityCodec .get teamUrl (teamText "2.5") =
      .ok ⟨"e-1", none, none, none, quotaBody plainQuota⟩ :=
  eq_ok_of_toOption (by decide +kernel)

end Sample

theorem plain_team_stays :
    let read := ManagementClient.readAnswer Kind.team.entityCodec .get Sample.teamUrl
    let e : Entity (Kind.Body .team) :=
      ⟨"e-1", some 7, none, some "2025-01-01", Sample.quotaBody Sample.plainQuota⟩
    let given : Entity (Kind.Body .team) :=
      ⟨"e-1", none, none, none, Sample.quotaBody Sample.plainQuota⟩
    read (Kind.team.entityText e) = .ok e ∧
      (∃ e', read (Kind.team.entityText e) = .ok e' ∧ Kind.team.inSync e.body e'.body = true) ∧
      read (Kind.team.entityText given) = .ok given :=
  have hstays := entity_stays_iff .team .get Sample.teamUrl
  have hrereads := hstays.2.2 _ Sample.isShort_plainQuota
  have hasked := hstays.1 _ _ Sample.desiredBody_plainQuota "e-1" (some 7) none (some "2025-01-01")
  ⟨hasked.1.2 hrereads, hasked.2.2 hrereads, (hstays.2.1 _ _ Sample.readAnswer_teamText).2 hrereads⟩

/-- The text of this quota is read as the next double. A spec may ask for the quota, and a text that
writes it with another digit is read as it. In both cases the team comes back as another one, which
is not in step. -/
theorem quota_drifts :
    let read := ManagementClient.readAnswer Kind.team.entityCodec .get Sample.teamUrl
    let e : Entity (Kind.Body .team) :=
      ⟨"e-1", none, none, none, Sample.quotaBody Sample.driftingQuota⟩
    Kind.team.desiredBody (Sample.quotaSpec Sample.driftingQuota) = .ok e.body ∧
      read (Sample.teamText "1.3200000000000002") = .ok e ∧
      ∃ e', read (Kind.team.entityText e) = .ok e' ∧ e' ≠ e ∧
        Kind.team.inSync e.body e'.body = false :=
  ⟨eq_ok_of_toOption (by decide +kernel), eq_ok_of_toOption (by decide +kernel),
    ⟨"e-1", none, none, none, Sample.quotaBody ⟨0x3FF51EB851EB8521⟩⟩,
    Kind.readAnswer_entityText_iff.2 (eq_ok_of_toOption (by decide +kernel)), by decide,
    by decide +kernel⟩

end ResourceSync
