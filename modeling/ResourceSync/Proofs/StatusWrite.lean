import ResourceSync.Cluster.Client
import ResourceSync.Proofs.Calm
import ResourceSync.Proofs.Documents
import ResourceSync.Proofs.History

/-! The patch by which a status is written changes the status and nothing else. -/
namespace ResourceSync

variable {k : Kind}

open Json (find? find?_cons find?_eq_none_iff find?_mergeMembers mergedMember mergeMembers names nodup_mergeMembers
  removals)

section members
variable {α β : Type}

theorem Fields.find?_encode_cons_of_ne {f : Field α} {rest : Fields β} {a : α} {t : β}
    {name : String} (h : f.name ≠ name) :
    find? name ((Fields.cons f rest).encode (a, t)) = find? name (rest.encode t) := by
  rw [encode_cons]
  split
  · rfl
  · rw [find?_cons, if_neg h]

theorem Fields.find?_encode_cons_self {f : Field α} {rest : Fields β} {a : α} {t : β}
    (h : f.name ∉ rest.names) : find? f.name ((Fields.cons f rest).encode (a, t)) =
      if f.isOmitted a then none else some (f.codec.encode a) := by
  have hnone : find? f.name (rest.encode t) = none :=
    find?_eq_none_iff.2 fun hmem => h ((names_encode_sublist rest t).subset hmem)
  rw [encode_cons]
  split
  · exact hnone
  · rw [find?_cons, if_pos rfl]

theorem Fields.isPlain_encode_cons {f : Field α} {rest : Fields β}
    (hf : ∀ a, f.isOmitted a = false → (f.codec.encode a).IsPlain)
    (hrest : ∀ t, ∀ m ∈ rest.encode t, m.2.IsPlain) :
    ∀ t, ∀ m ∈ (Fields.cons f rest).encode t, m.2.IsPlain := by
  rintro ⟨a, t⟩ m hm
  rw [encode_cons] at hm
  split at hm
  · exact hrest t m hm
  · next hwritten =>
    rcases List.mem_cons.1 hm with rfl | hm
    · exact hf a (by simpa using hwritten)
    · exact hrest t m hm

theorem Field.isPlain_optional (name : String) {c : Codec α} (h : ∀ a, (c.encode a).IsPlain) (o) :
    (optional name c).isOmitted o = false → ((optional name c).codec.encode o).IsPlain := by
  intro ho
  cases o with
  | none => cases ho
  | some a => exact h a

end members

/-- The members of a status are texts and numbers. -/
theorem Kind.isPlain_status (k : Kind) (s : k.Status) :
    ∀ m ∈ k.statusLayout.encodeMembers s, m.2.IsPlain := by
  have htext (name : String) := Field.isPlain_optional name (c := Codec.text) fun _ => trivial
  have hnumber (name : String) := Field.isPlain_optional name (c := Codec.uint64) fun _ => trivial
  have hnil : ∀ t, ∀ m ∈ Fields.nil.encode t, m.2.IsPlain := fun _ _ hm => by cases hm
  have hid (name : String) : ∀ t, ∀ m ∈ (IdStatus.layout name).fields.encode t, m.2.IsPlain :=
    Fields.isPlain_encode_cons (htext _) hnil
  cases k with
  | alert =>
    exact Fields.isPlain_encode_cons (htext _) (Fields.isPlain_encode_cons (htext _)
      (Fields.isPlain_encode_cons (htext _) hnil)) _
  | outboundWebhook =>
    exact Fields.isPlain_encode_cons (htext _) (Fields.isPlain_encode_cons (hnumber _)
      (Fields.isPlain_encode_cons (htext _) hnil)) _
  | ruleGroup | recordingRuleGroupSet | apiKey | team => exact hid _ _

/-- Whether an object can be written. -/
structure Resource.IsRegular (r : Resource k) : Prop where
  metadata : r.metadata.IsRegular
  spec : k.IsRegular r.spec

namespace Metadata

/-- The member of the version in a patch. -/
def versionMember (m : Metadata) : Json :=
  match m.resourceVersion with
  | some v => .str v
  | none => .null

theorem find?_resourceVersion (m : Metadata) :
    find? "resourceVersion" (layout.encodeMembers m) = m.resourceVersion.map .str := by
  change find? "resourceVersion" (Fields.encode layout.fields _) = _
  unfold layout
  iterate 12 rw [Fields.find?_encode_cons_of_ne (by decide)]
  refine (Fields.find?_encode_cons_self (f := .optional "resourceVersion" .text) ?_).trans ?_
  · decide
  cases m.resourceVersion <;> rfl

/-- Patching the version that is there changes nothing. -/
theorem find?_patched (m : Metadata) (name : String) :
    find? name (mergeMembers (layout.encodeMembers m) [("resourceVersion", m.versionMember)]) =
      find? name (layout.encodeMembers m) := by
  rw [find?_mergeMembers (by simp [names]), find?_cons]
  split
  · next heq =>
    subst heq
    rw [find?_resourceVersion, versionMember]
    cases m.resourceVersion <;> rfl
  · rfl

end Metadata

namespace Resource
variable {r : Resource k} {status : Option k.Status}

/-- The member of the status in a patch. -/
def statusMember (r : Resource k) (status : Option k.Status) : Json :=
  Json.replacementPatch (r.status.map encodeStatus) ((status.map encodeStatus).getD .null)

/-- The members of an object as it is written. -/
def members (r : Resource k) : List (String × Json) :=
  ("apiVersion", .str apiVersion) :: ("kind", .str k.name) :: (layout k).encodeMembers r

/-- The same once the patch of a status is merged into them. -/
def patched (r : Resource k) (status : Option k.Status) : List (String × Json) :=
  mergeMembers r.members [("metadata", .obj [("resourceVersion", r.metadata.versionMember)]),
    ("status", r.statusMember status)]

theorem mergePatch_statusPatch (r : Resource k) (status : Option k.Status) :
    ((codec k).encode r).mergePatch (r.statusPatch status) = .obj (r.patched status) := rfl

theorem members_eq (r : Resource k) : r.members =
    [("apiVersion", .str apiVersion), ("kind", .str k.name),
      ("metadata", .obj (Metadata.layout.encodeMembers r.metadata)),
      ("spec", k.specLayout.codec.encode r.spec)] ++
      (r.status.map fun s => ("status", encodeStatus s)).toList := by
  obtain ⟨metadata, spec, status⟩ := r
  cases status <;> rfl

theorem nodup_members (r : Resource k) : (names r.members).Nodup := by
  rw [members_eq]
  cases r.status <;> simp [names]

theorem find?_patched (r : Resource k) (status : Option k.Status) (name : String) :
    find? name (r.patched status) = mergedMember (find? name r.members)
      (find? name [("metadata", .obj [("resourceVersion", r.metadata.versionMember)]),
        ("status", r.statusMember status)]) := find?_mergeMembers (by simp [names])

theorem find?_patched_metadata : find? "metadata" (r.patched status) =
    some (.obj (mergeMembers (Metadata.layout.encodeMembers r.metadata)
      [("resourceVersion", r.metadata.versionMember)])) := by
  rw [find?_patched, members_eq]
  rfl

theorem find?_patched_spec : find? "spec" (r.patched status) =
    some (k.specLayout.codec.encode r.spec) := by
  rw [find?_patched, members_eq]
  rfl

theorem find?_patched_status : find? "status" (r.patched status) =
    mergedMember (r.status.map encodeStatus) (some (r.statusMember status)) := by
  rw [find?_patched, members_eq]
  cases r.status <;> rfl

theorem find?_patched_none : find? "status" (r.patched none) = none := by
  rw [find?_patched_status, statusMember]
  cases r.status <;> rfl

/-- A status that is written is found afterwards, whatever the one before. -/
theorem find?_patched_some {s : k.Status} : ∃ ms,
    find? "status" (r.patched (some s)) = some (.obj ms) ∧
      ms.Perm (k.statusLayout.encodeMembers s) := by
  have hnodup (s : k.Status) := k.faithful_status.nodup_encodeMembers s
  rw [find?_patched_status, statusMember]
  cases r.status with
  | none =>
    have hperm : (mergeMembers [] (_ ++ removals [] _)).Perm (k.statusLayout.encodeMembers s) :=
      Json.mergeMembers_removals List.nodup_nil (hnodup s) (k.isPlain_status s)
    refine ⟨_, rfl, ?_⟩
    change (mergeMembers [] _).Perm _
    simpa [removals] using hperm
  | some old =>
    exact ⟨_, rfl, Json.mergeMembers_removals (hnodup old) (hnodup s) (k.isPlain_status s)⟩

/-- The patched object reads as the one before with the new status. -/
theorem decode_patched (hr : r.IsRegular) (status : Option k.Status) :
    (codec k).decode (.obj (r.patched status)) = .ok { r with status := status } := by
  have hnodup : (names (r.patched status)).Nodup := nodup_mergeMembers r.nodup_members
  have hmetadata : Metadata.codec.read .direct (.obj (mergeMembers
      (Metadata.layout.encodeMembers r.metadata)
      [("resourceVersion", r.metadata.versionMember)])) = .ok r.metadata :=
    Metadata.faithful.read hr.metadata
      (nodup_mergeMembers (Metadata.faithful.nodup_encodeMembers _)) r.metadata.find?_patched
  have hstatus : (statusField k).Tells .direct (r.patched status) status := by
    cases status with
    | none => exact Field.tells_of_none find?_patched_none rfl
    | some s =>
      obtain ⟨ms, hfind, hperm⟩ := r.find?_patched_some (s := s)
      have hms : (names ms).Nodup := (hperm.map Prod.fst).nodup_iff.2
        (k.faithful_status.nodup_encodeMembers s)
      have hread := k.faithful_status.read (p := .direct) (a := s) trivial hms
        (Json.find?_eq_of_perm hms hperm)
      refine Field.tells_of_some hfind ?_
      change (k.statusLayout.codec.read .direct (.obj ms)).map some = _
      rw [hread]
      rfl
  have htell : (layout k).fields.Tell .direct (r.patched status)
      (r.metadata, r.spec, status, ()) :=
    ⟨Field.tells_of_some find?_patched_metadata hmetadata,
      Field.tells_of_some find?_patched_spec (k.faithful_spec.codec.reads .direct r.spec hr.spec),
      hstatus, trivial⟩
  have hfields : (layout k).fields.names.Nodup :=
    show ["metadata", "spec", "status"].Nodup by decide
  exact Layout.read_of_tell hfields hnodup htell

/-- What the patch of a status does to the document of an object, the store does to the object, and
a replacement patch turns any object without inner objects and nulls into the other. -/
theorem status_write_is_exact (hr : r.IsRegular) (status : Option k.Status) :
    (codec k).decode (((codec k).encode r).mergePatch (r.statusPatch status)) =
        .ok { r with status := status } ∧
      (∀ s : Store k, s.outage = 0 → s.get? r.key = some r → ∃ s',
        s.writeStatus r status = (.ok (s.stamped { r with status := status }), s') ∧
          s'.get? = Function.update s.get? r.key (some (s.stamped { r with status := status }))) ∧
      ∀ old new : List (String × Json), (names old).Nodup → (names new).Nodup →
        (∀ m ∈ new, m.2.IsPlain) → ∃ ms,
          (Json.obj old).mergePatch (Json.replacementPatch (some (.obj old)) (.obj new)) = .obj ms ∧
            ms.Perm new := by
  refine ⟨?_, ?_, ?_⟩
  · rw [mergePatch_statusPatch]
    exact decode_patched hr status
  · intro s houtage hs
    exact ⟨_, Store.writeStatus_calm houtage hs rfl, Store.get?_put⟩
  · intro old new hold hnew hplain
    exact Json.mergePatch_replacementPatch hold hnew hplain

end Resource

/-- A team with a date of creation. -/
def Sample.dated (t : Timestamp) (status : Option IdStatus) : Resource .team :=
  { Sample.team with
    metadata := { Sample.team.metadata with creationTimestamp := some t }
    status := status }

/-- A team that gives its identifier up is restored without it. -/
theorem Resource.dated_team_is_restored :
    let r := Sample.dated ⟨2025, 2, 28, 23, 30, 0⟩ (some ⟨some "e-1"⟩)
    (codec .team).decode (((codec .team).encode r).mergePatch (r.statusPatch none)) =
      .ok (Sample.dated ⟨2025, 2, 28, 23, 30, 0⟩ none) := by
  intro r
  have hr : r.IsRegular := by
    refine ⟨⟨?_, nofun, nofun⟩, nofun⟩
    rintro t ⟨⟩
    exact ⟨by decide, by decide, by decide, by decide, by decide, by decide, by decide⟩
  exact (status_write_is_exact hr none).1

/-- The text of a year before 0 is not read again, a number without end is not written, and null is
read as no value. -/
theorem Resource.irregular_team_is_not_restored :
    let status : Option (Kind.Status .team) := some (⟨some "e-1"⟩ : IdStatus)
    let early := Sample.dated ⟨-1, 12, 31, 23, 0, 0⟩ none
    let endless : Resource .team :=
      { Sample.team with
        spec := (⟨"alpha", none, [], some (.ofNatBits 0x7FF0000000000000)⟩ : TeamSpec) }
    let hollow : Resource .team :=
      { Sample.team with
        metadata := { Sample.team.metadata with
          managedFields := some [⟨none, none, some ⟨.null, .null⟩, none, none, none, none⟩] } }
    (Timestamp.ofText "0000-01-01T00:00:00+01:00").toOption = early.metadata.creationTimestamp ∧
      ∀ r ∈ [early, endless, hollow],
        (codec .team).decode (((codec .team).encode r).mergePatch (r.statusPatch status)) ≠
          .ok { r with status := status } := by
  intro status early endless hollow
  have hirregular : ∀ r ∈ [early, endless, hollow],
      ((codec .team).decode (((codec .team).encode r).mergePatch (r.statusPatch status))).toOption ≠
        some { r with status := status } := by decide +kernel
  refine ⟨by decide +kernel, ?_⟩
  intro r hr h
  exact hirregular r hr (congrArg Except.toOption h)

end ResourceSync
