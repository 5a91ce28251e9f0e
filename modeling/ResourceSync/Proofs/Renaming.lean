import Mathlib.Data.List.Forall2
import Mathlib.Logic.Equiv.Basic
import ResourceSync.Proofs.Course

/-! Renamed identifiers and versions. What a pass does under a renamed identifier is what it does
under the identifier, renamed. -/
namespace ResourceSync

variable {k : Kind} {π : String → String}

def Kind.renamedStatus (π : String → String) : (k : Kind) → k.Status → k.Status
  | alert => fun s : AlertStatus => { s with id := s.id.map π }
  | outboundWebhook => fun s : OutboundWebhookStatus => { s with id := s.id.map π }
  | ruleGroup | recordingRuleGroupSet | apiKey | team => fun s : IdStatus => ⟨s.id.map π⟩

def Entity.renamed (π : String → String) (e : Entity k.Body) : Entity k.Body :=
  { e with id := π e.id }

namespace Resource

/-- The resource with another identifier for its entity. -/
def renamed (π : String → String) (r : Resource k) : Resource k :=
  { r with status := r.status.map (k.renamedStatus π) }

def reversioned (ρ : String → String) (r : Resource k) : Resource k :=
  r.versioned (r.metadata.resourceVersion.map ρ)

end Resource

namespace Kind

theorem renamedStatus_observedStatus (e : Entity k.Body) :
    k.renamedStatus π (k.observedStatus e) = k.observedStatus (e.renamed π) := by
  cases k <;> rfl

theorem getD_recordedId_observedStatus (e : Entity k.Body) :
    (k.recordedId (k.observedStatus e)).getD "" = e.id := by
  have hid : (recordedId.nonempty (some e.id)).getD "" = e.id := by
    by_cases he : e.id = "" <;> simp [recordedId.nonempty, Option.filter, he]
  cases k <;> exact hid

/-- A status that records no identifier but fixed ones is fixed. -/
theorem renamedStatus_eq_self {status : k.Status} (hempty : π "" = "")
    (h : ∀ id, k.recordedId status = some id → π id = id) :
    k.renamedStatus π status = status := by
  have hid {o : Option String} (ho : ∀ id, recordedId.nonempty o = some id → π id = id) :
      o.map π = o := by
    cases o with
    | none => rfl
    | some id =>
      by_cases he : id = ""
      · rw [he, Option.map_some, hempty]
      · rw [Option.map_some, ho id (by simp [recordedId.nonempty, Option.filter, he])]
  cases k with
  | alert =>
    obtain ⟨id, _, _⟩ := status
    exact congrArg (fun o => (⟨o, _, _⟩ : AlertStatus)) (hid h)
  | outboundWebhook =>
    obtain ⟨id, _, _⟩ := status
    exact congrArg (fun o => (⟨o, _, _⟩ : OutboundWebhookStatus)) (hid h)
  | ruleGroup | recordingRuleGroupSet | apiKey | team =>
    obtain ⟨id⟩ := status
    exact congrArg IdStatus.mk (hid h)

end Kind

namespace Resource
variable {r : Resource k}

theorem renamed_eq_self (hempty : π "" = "") (h : ∀ id, r.remoteId = some id → π id = id) :
    r.renamed π = r := by
  obtain ⟨metadata, spec, status⟩ := r
  cases status with
  | none => rfl
  | some status =>
    have hstatus : k.renamedStatus π status = status := Kind.renamedStatus_eq_self hempty h
    simp only [renamed, Option.map_some, hstatus]

theorem renamed_observing (r : Resource k) (e : Entity k.Body) :
    (r.observing e).renamed π = (r.renamed π).observing (e.renamed π) :=
  congrArg (fun status => ({ r with status := some status } : Resource k))
    (Kind.renamedStatus_observedStatus e)

theorem map_refinalized (r : Resource k) (finalizers : List String) :
    (r.refinalized finalizers).map (renamed π) = (r.renamed π).refinalized finalizers :=
  apply_ite (Option.map (renamed π)) _ _ _

theorem map_guarded (r : Resource k) : r.guarded.map (renamed π) = (r.renamed π).guarded := by
  unfold guarded
  rw [apply_ite (Option.map (renamed π)), map_refinalized]
  rfl

theorem map_freed (r : Resource k) : r.freed.map (renamed π) = (r.renamed π).freed := by
  unfold freed
  rw [apply_ite (Option.map (renamed π)), map_refinalized]
  rfl

end Resource

/-- The same event, or the creation of an entity under the renamed identifier. -/
inductive Event.Renamed (π : String → String) : Event → Event → Prop where
  | created (id : String) : Renamed π ⟨.normal, .created, s!"Created remote entity {id}"⟩
      ⟨.normal, .created, s!"Created remote entity {π id}"⟩
  | other {e : Event} (h : e.reason ≠ .created) : Renamed π e e

theorem FailureCause.reason_ne_created (cause : FailureCause) : cause.reason ≠ .created := by
  intro h
  have hmilestone := cause.isMilestone_reason
  rw [h] at hmilestone
  cases hmilestone

namespace Course
variable {c c' : Course k} {r : Resource k} {e : Entity k.Body} {o : Option (Resource k)}

/-- The same course under renamed identifiers. -/
structure Renamed (π : String → String) (c c' : Course k) : Prop where
  object : c'.object = c.object.map (Resource.renamed π)
  entity : c'.entity = c.entity.map fun touched => (π touched.1, touched.2.map (Entity.renamed π))
  creates : c'.creates = c.creates
  notes : c'.notes = c.notes
  events : List.Forall₂ (Event.Renamed π) c.events c'.events

namespace Renamed

theorem start (ho : o.map (Resource.renamed π) = o) : Renamed π (start o) (start o) :=
  ⟨ho.symm, rfl, rfl, rfl, .nil⟩

theorem becoming {o' : Option (Resource k)} (h : Renamed π c c')
    (ho : o' = o.map (Resource.renamed π)) : Renamed π (c.becoming o) (c'.becoming o') :=
  { h with object := ho }

theorem noted (h : Renamed π c c') (n : Note) : Renamed π (c.noted n) (c'.noted n) :=
  { h with notes := congrArg (· ++ [n]) h.notes }

theorem told (h : Renamed π c c') (severity : Severity) (reason : Reason) (message : String)
    (hreason : reason ≠ .created) :
    Renamed π (c.told severity reason message) (c'.told severity reason message) :=
  { h with events := List.rel_append h.events (.cons (.other hreason) .nil) }

theorem told_created (h : Renamed π c c') (id : String) :
    Renamed π (c.told .normal .created s!"Created remote entity {id}")
      (c'.told .normal .created s!"Created remote entity {π id}") :=
  { h with events := List.rel_append h.events (.cons (.created id) .nil) }

theorem changed {id : String} {o : Option (Entity k.Body)} (h : Renamed π c c')
    (hid : π id = id) (ho : o.map (Entity.renamed π) = o) :
    Renamed π (c.changed id o) (c'.changed id o) :=
  { h with entity := congrArg some (Prod.ext hid.symm ho.symm) }

theorem made (h : Renamed π c c') (e : Entity k.Body) :
    Renamed π (c.made e) (c'.made (e.renamed π)) :=
  { h with entity := rfl, creates := rfl }

theorem observed (h : Renamed π c c') (hr : r.renamed π = r) (e : Entity k.Body) :
    Renamed π (c.observed r e) (c'.observed r (e.renamed π)) :=
  (h.becoming (by rw [Option.map_some, Resource.renamed_observing, hr])).noted _

theorem tornDown {held : Option (Entity k.Body)} (h : Renamed π c c')
    (hid : ∀ id, r.remoteId = some id → π id = id) :
    Renamed π (c.tornDown r held) (c'.tornDown r held) := by
  unfold Course.tornDown
  split
  · exact h
  · next id heq =>
    cases held with
    | none => exact h.noted _
    | some e => exact ((h.changed (hid id heq) rfl).noted _).noted _

/-- Renamed courses make renamed entities of renamed entities. -/
theorem entities {π : Equiv.Perm String} {held held' : String → Option (Entity k.Body)}
    (h : Renamed π c c') (hheld : ∀ id, held' (π id) = (held id).map (Entity.renamed π))
    (id : String) : c'.entities held' (π id) = (c.entities held id).map (Entity.renamed π) := by
  unfold Course.entities
  rw [h.entity]
  cases c.entity with
  | none => exact hheld id
  | some touched =>
    simp only [Option.map_some, Function.update_apply, π.injective.eq_iff]
    split
    · rfl
    · exact hheld id

end Renamed
end Course

namespace Engine
variable {g : Engine k} {r : Resource k} {held : Option (Entity k.Body)} {new new' : String}

/-- The result is the same, and the course is the same under renamed identifiers. -/
def Renames (π : String → String) (x x' : Except Failure NextPass × Course k) : Prop :=
  x'.1 = x.1 ∧ x.2.Renamed π x'.2

theorem creation_renamed (hr : r.renamed π = r)
    (hnew : (creation r new).2.creates = true → new' = π new) :
    Renames π (creation r new) (creation r new') := by
  have h₀ : Course.Renamed π (.start (some r)) (.start (some r)) := .start (congrArg some hr)
  unfold creation at hnew ⊢
  cases hb : r.desiredBody with
  | error e => exact ⟨rfl, h₀⟩
  | ok b =>
    rw [hb] at hnew
    obtain rfl := hnew rfl
    have hid (id : String) : (r.observing (Platform.newborn id b)).remoteId.getD "" = id :=
      Kind.getD_recordedId_observedStatus _
    have hguarded : (r.observing (Platform.newborn (π new) b)).guarded =
        (r.observing (Platform.newborn new b)).guarded.map (Resource.renamed π) := by
      rw [Resource.map_guarded, Resource.renamed_observing, hr]
      rfl
    refine ⟨rfl, ?_⟩
    simp only [hid]
    exact ((((h₀.made _).noted _).observed hr _).becoming hguarded).told_created new

theorem deletion_renamed (hr : r.renamed π = r) (hid : ∀ id, r.remoteId = some id → π id = id) :
    Renames π (deletion r held) (deletion r held) := by
  have h₀ : Course.Renamed π (.start (some r)) (.start (some r)) := .start (congrArg some hr)
  have hfreed : r.freed = r.freed.map (Resource.renamed π) := by rw [Resource.map_freed, hr]
  exact ⟨rfl, ((h₀.tornDown hid).becoming hfreed).told _ _ _ (by decide)⟩

theorem withdrawal_renamed (hr : r.renamed π = r) (hid : ∀ id, r.remoteId = some id → π id = id) :
    Renames π (withdrawal r held) (withdrawal r held) := by
  have h₀ : Course.Renamed π (.start (some r)) (.start (some r)) := .start (congrArg some hr)
  refine ⟨rfl, ?_⟩
  unfold withdrawal
  split
  · exact (h₀.tornDown hid).told _ _ _ (by decide)
  · exact h₀

theorem update_renamed (hr : r.renamed π = r) (hid : ∀ id, r.remoteId = some id → π id = id)
    (hheld : ∀ e ∈ held, e.renamed π = e) (hrecorded : r.remoteId ≠ none) :
    Renames π (g.update r held) (g.update r held) := by
  have h₀ : Course.Renamed π (.start (some r)) (.start (some r)) := .start (congrArg some hr)
  obtain ⟨id, heq⟩ := Option.ne_none_iff_exists'.1 hrecorded
  refine ⟨rfl, ?_⟩
  unfold update
  simp only [heq, Option.getD_some]
  cases held with
  | none => exact ((h₀.told _ _ _ (by decide)).becoming rfl).noted _
  | some e =>
    have he : e.renamed π = e := hheld e rfl
    cases hb : r.desiredBody with
    | error e => exact h₀
    | ok b =>
      have he' : (Platform.renewed e b).renamed π = Platform.renewed e b :=
        congrArg (Platform.renewed · b) he
      dsimp only
      split
      · simpa only [he] using h₀.observed hr e
      · have hchanged := (((h₀.changed (o := some _) (hid id heq) (congrArg some he')).noted
          (.operation .update)).told .normal .updated s!"Updated remote entity {id}"
          (by decide)).observed hr (Platform.renewed e b)
        rw [he'] at hchanged
        exact hchanged

theorem closed_renamed {x x' : Except Failure NextPass × Course k} (elapsed : Duration)
    (h : Renames π x x') : Renames π (closed elapsed x) (closed elapsed x') := by
  obtain ⟨result, c⟩ := x
  obtain ⟨result', c'⟩ := x'
  obtain ⟨rfl, hc⟩ := h
  cases result' with
  | ok next => exact ⟨rfl, hc.noted _⟩
  | error f => exact ⟨rfl, (hc.told _ _ _ f.cause.reason_ne_created).noted _⟩

/-- Under a renaming that fixes what is recorded and held, a pass takes the same course, renamed. It
is only asked what becomes of the next identifier where the pass takes it. -/
theorem course_renamed {o : Option (Resource k)} (elapsed : Duration) (hempty : π "" = "")
    (hid : ∀ id, o.bind Resource.remoteId = some id → π id = id)
    (hheld : ∀ e ∈ held, e.renamed π = e)
    (hnew : (g.course o held new elapsed).2.creates = true → new' = π new) :
    Renames π (g.course o held new elapsed) (g.course o held new' elapsed) := by
  cases o with
  | none => exact ⟨rfl, (Course.Renamed.start rfl).noted _⟩
  | some r =>
    have hr : r.renamed π = r := Resource.renamed_eq_self hempty hid
    refine closed_renamed elapsed ?_
    rw [course, creates_closed] at hnew
    unfold transitionCourse at hnew ⊢
    cases due : g.lifecycle r with
    | pendingCreation =>
      rw [due] at hnew
      exact creation_renamed hr hnew
    | pendingDeletion => exact deletion_renamed hr hid
    | outOfScope => exact withdrawal_renamed hr hid
    | active => exact update_renamed hr hid hheld (lifecycle_eq_active_iff.1 due).1

end Engine

/-- Two ways of giving distinct texts to the same things differ by a renaming of the texts. -/
theorem exists_renaming {κ : Type} (changed : List κ) {f f' : κ → Option String}
    (hf : ∀ x y t, f x = some t → f y = some t → x = y)
    (hf' : ∀ x y t, f' x = some t → f' y = some t → x = y)
    (hdomain : ∀ x, f x = none ↔ f' x = none) (hsame : ∀ x ∉ changed, f x = f' x) :
    ∃ ρ : Equiv.Perm String, ∀ x, (f x).map ρ = f' x := by
  induction changed generalizing f with
  | nil => exact ⟨.refl _, fun x => Option.map_id'.trans (hsame x List.not_mem_nil)⟩
  | cons a changed ih =>
    cases ha : f a with
    | none =>
      refine ih hf hdomain ?_
      intro x hx
      by_cases heq : x = a
      · rw [heq, ha, (hdomain a).1 ha]
      · exact hsame x (by simp [heq, hx])
    | some t =>
      obtain ⟨t', ha'⟩ : ∃ t', f' a = some t' :=
        Option.ne_none_iff_exists'.1 fun h => by simp [(hdomain a).2 h] at ha
      -- the text of `a` is put right, and those that were right are left alone
      have hright : ∀ x ∉ changed, (f x).map (Equiv.swap t t') = f' x := by
        intro x hx
        by_cases heq : x = a
        · rw [heq, ha, ha', Option.map_some, Equiv.swap_apply_left]
        · have hx' := hsame x (by simp [heq, hx])
          cases hu : f x with
          | none => rw [Option.map_none, ← hx', hu]
          | some u =>
            have hne : u ≠ t := fun h => heq (hf x a t (h ▸ hu) ha)
            have hne' : u ≠ t' := fun h => heq (hf' x a t' (h ▸ hx' ▸ hu) ha')
            rw [Option.map_some, Equiv.swap_apply_of_ne_of_ne hne hne', ← hx', hu]
      have hinjective : ∀ x y u, (f x).map (Equiv.swap t t') = some u →
          (f y).map (Equiv.swap t t') = some u → x = y := by
        intro x y u hx hy
        obtain ⟨u₁, hx₁, rfl⟩ := Option.map_eq_some_iff.1 hx
        obtain ⟨u₂, hy₂, heq⟩ := Option.map_eq_some_iff.1 hy
        obtain rfl := (Equiv.swap t t').injective heq
        exact hf x y _ hx₁ hy₂
      obtain ⟨ρ, hρ⟩ := ih hinjective (fun x => by rw [Option.map_eq_none_iff, hdomain]) hright
      refine ⟨(Equiv.swap t t').trans ρ, fun x => ?_⟩
      rw [← hρ x, Option.map_map]
      rfl

end ResourceSync
