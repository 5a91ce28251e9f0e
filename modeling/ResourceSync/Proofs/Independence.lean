import ResourceSync.Proofs.CalmPass
import ResourceSync.Proofs.Recording
import ResourceSync.Proofs.Renaming
import ResourceSync.Proofs.Stranding

/-! Passes on different objects are independent: in either order they do the same, but for the names
of new identifiers and versions. -/
namespace ResourceSync

variable {k : Kind}

namespace Store
variable {s : Store k} {a b : ObjectKey}

/-- The version of the object under a key. -/
def versionAt (s : Store k) (key : ObjectKey) : Option String :=
  (s.get? key).bind fun r => r.metadata.resourceVersion

theorem Versioned.versionAt_injective (h : s.Versioned) {t : String}
    (ha : s.versionAt a = some t) (hb : s.versionAt b = some t) : a = b := by
  obtain ⟨r, hr, hv⟩ := Option.bind_eq_some_iff.1 ha
  obtain ⟨r', hr', hv'⟩ := Option.bind_eq_some_iff.1 hb
  exact h.apart a b r r' hr hr' (hv.trans hv'.symm)

theorem Versioned.versionAt_eq_none_iff (h : s.Versioned) :
    s.versionAt a = none ↔ s.get? a = none := by
  cases hr : s.get? a with
  | none => simp [versionAt, hr]
  | some r =>
    obtain ⟨n, -, hv⟩ := h.past a r hr
    simp [versionAt, hr, hv]

end Store

namespace World
variable {g : Engine k} {w w' : World k} {a b key : ObjectKey} {c c' : Course k}
  {v : Option String} {da db elapsed : Duration} {new new' : String}

/-- The identifier is in use nowhere. -/
structure Unused (w : World k) (id : String) : Prop where
  nonempty : id ≠ ""
  unheld : w.platform.entity? id = none
  unrecorded : ∀ key, w.recordedAt key ≠ some id

/-- Every call is going to go through. Objects and entities stand where they belong and versions are
told apart, as every call leaves them. No two objects record the same identifier, and the next two
identifiers are new. -/
structure Orderly (w : World k) : Prop where
  calm : w.Calm
  placed : w.store.Placed
  versioned : w.store.Versioned
  wellKeyed : w.platform.WellKeyed
  distinct : w.store.Distinct
  next : w.Unused w.platform.nextId
  later : w.Unused w.platform.laterId
  apart : w.platform.nextId ≠ w.platform.laterId

/-- The second world is the first one under renamed identifiers and versions. -/
structure Matches (π ρ : Equiv.Perm String) (w w' : World k) : Prop where
  objects : ∀ key, w'.store.get? key = (w.store.get? key).map fun r => (r.renamed π).reversioned ρ
  entities : ∀ id, w'.platform.entity? (π id) = (w.platform.entity? id).map (Entity.renamed π)
  metrics : w.metrics.Agrees w'.metrics

/-- One of the next two identifiers. -/
def IsNew (w : World k) (id : String) : Prop := id = w.platform.nextId ∨ id = w.platform.laterId

theorem Orderly.unused (hw : w.Orderly) {id : String} (h : w.IsNew id) : w.Unused id := by
  rcases h with rfl | rfl
  · exact hw.next
  · exact hw.later

theorem Orderly.recordedAt_apart (hw : w.Orderly) (hne : a ≠ b) {id : String}
    (ha : w.recordedAt a = some id) : w.recordedAt b ≠ some id := by
  intro hb
  obtain ⟨r, hr, hid⟩ := Option.bind_eq_some_iff.1 ha
  obtain ⟨r', hr', hid'⟩ := Option.bind_eq_some_iff.1 hb
  exact hne (hw.distinct a b r r' id hr hr' hid hid')

/-- How a pass on the object under a key is going to end and what it is going to do, if `new` is the
next identifier. -/
def outcome (g : Engine k) (w : World k) (key : ObjectKey) (elapsed : Duration) (new : String) :
    Except Failure NextPass × Course k :=
  g.course (w.store.get? key) (w.heldFor key) new elapsed

/-- The next identifier after a pass. -/
def idAfter (g : Engine k) (w : World k) (key : ObjectKey) (elapsed : Duration) : String :=
  if (outcome g w key elapsed w.platform.nextId).2.creates then w.platform.laterId
  else w.platform.nextId

theorem isNew_idAfter : w.IsNew (idAfter g w key elapsed) := by
  unfold idAfter
  split
  · exact Or.inr rfl
  · exact Or.inl rfl

/-- A pass touches no entity that another object records. -/
theorem Orderly.touches_ne (hw : w.Orderly) (hne : a ≠ b) (hnew : w.IsNew new) {id : String}
    {e : Option (Entity k.Body)} (h : (outcome g w a da new).2.entity = some (id, e)) :
    w.recordedAt b ≠ some id := by
  rcases (g.course_local _ _ _ _).entity id e h with hid | ⟨-, rfl⟩
  · exact hw.recordedAt_apart hne hid
  · exact (hw.unused hnew).unrecorded b

theorem Orderly.first_run (hw : w.Orderly) (g : Engine k) (key : ObjectKey) (elapsed : Duration) :
    Runs (g.reconcile key elapsed) key w (outcome g w key elapsed w.platform.nextId) :=
  reconcile_runs hw.calm (hw.placed key) elapsed

/-- A pass on another object leaves everything that a pass reads, but for the next identifier. -/
theorem Orderly.second_run (hw : w.Orderly) (g : Engine k) (hne : a ≠ b) (da db : Duration) :
    Runs (g.reconcile b db) b (after (g.reconcile a da) w)
      (outcome g w b db (idAfter g w a da)) := by
  obtain ⟨v, h⟩ := (hw.first_run g a da).follows
  have hobject : (after (g.reconcile a da) w).store.get? b = w.store.get? b := by
    rw [h.objects, Function.update_of_ne hne.symm]
  have hrecorded : (after (g.reconcile a da) w).recordedAt b = w.recordedAt b := by
    rw [recordedAt, recordedAt, hobject]
  have hheld : (after (g.reconcile a da) w).heldFor b = w.heldFor b := by
    rw [heldFor, heldFor, hrecorded, h.entities]
    refine Option.bind_congr ?_
    intro id hid
    refine Course.entities_of_ne _ ?_
    rintro id' e htouched rfl
    exact hw.touches_ne hne (Or.inl rfl) htouched hid
  have hplaced (r : Resource k) (hr : (after (g.reconcile a da) w).store.get? b = some r) :
      r.key = b := hw.placed b r (hobject ▸ hr)
  have hruns := reconcile_runs (g := g) h.calm hplaced db
  rw [hobject, hheld, h.nextId] at hruns
  exact hruns

/-- Under a renaming of new identifiers a pass does the same, renamed. -/
theorem Orderly.outcome_renamed (hw : w.Orderly) {π : Equiv.Perm String}
    (hπ : ∀ id, ¬ w.IsNew id → π id = id)
    (hnew : (outcome g w key elapsed new).2.creates = true → new' = π new) :
    Engine.Renames π (outcome g w key elapsed new) (outcome g w key elapsed new') := by
  have hid (id : String) (h : w.recordedAt key = some id) : π id = id :=
    hπ id fun hnew => (hw.unused hnew).unrecorded key h
  refine Engine.course_renamed elapsed ?_ hid ?_ hnew
  · exact hπ "" fun hempty => (hw.unused hempty).nonempty rfl
  · intro e he
    obtain ⟨id, hrecorded, he⟩ := Option.bind_eq_some_iff.1 he
    have heq : e.id = id := hw.wellKeyed id e he
    rw [Entity.renamed, heq, hid id hrecorded, ← heq]

/-- A new identifier is swapped for the other one where both passes take one. -/
def exchange (g : Engine k) (w : World k) (a b : ObjectKey) (da db : Duration) :
    Equiv.Perm String :=
  if (outcome g w a da w.platform.nextId).2.creates ∧
      (outcome g w b db w.platform.nextId).2.creates then
    Equiv.swap w.platform.nextId w.platform.laterId
  else .refl _

theorem exchange_of_not_isNew {id : String} (h : ¬ w.IsNew id) : exchange g w a b da db id = id := by
  unfold exchange
  split
  · exact Equiv.swap_apply_of_ne_of_ne (fun heq => h (Or.inl heq)) fun heq => h (Or.inr heq)
  · rfl

theorem isNew_exchange {id : String} (h : w.IsNew id) : w.IsNew (exchange g w a b da db id) := by
  unfold exchange
  split
  · rcases h with rfl | rfl
    · exact Or.inr (Equiv.swap_apply_left _ _)
    · exact Or.inl (Equiv.swap_apply_right _ _)
  · exact h

theorem exchange_first (ha : (outcome g w a da w.platform.nextId).2.creates = true) :
    exchange g w a b da db w.platform.nextId = idAfter g w b db := by
  unfold exchange idAfter
  by_cases hb : (outcome g w b db w.platform.nextId).2.creates = true
  · rw [if_pos ⟨ha, hb⟩, if_pos hb, Equiv.swap_apply_left]
  · rw [if_neg fun h => hb h.2, if_neg hb, Equiv.refl_apply]

theorem exchange_second (hb : (outcome g w b db w.platform.nextId).2.creates = true) :
    exchange g w a b da db (idAfter g w a da) = w.platform.nextId := by
  unfold exchange idAfter
  by_cases ha : (outcome g w a da w.platform.nextId).2.creates = true
  · rw [if_pos ⟨ha, hb⟩, if_pos ha, Equiv.swap_apply_right]
  · rw [if_neg fun h => ha h.1, if_neg ha, Equiv.refl_apply]

theorem Orderly.first_renamed (hw : w.Orderly) (g : Engine k) (a b : ObjectKey)
    (da db : Duration) : Engine.Renames (exchange g w a b da db)
      (outcome g w a da w.platform.nextId) (outcome g w a da (idAfter g w b db)) :=
  hw.outcome_renamed (fun _ => exchange_of_not_isNew) fun ha => (exchange_first ha).symm

theorem Orderly.second_renamed (hw : w.Orderly) (g : Engine k) (a b : ObjectKey)
    (da db : Duration) : Engine.Renames (exchange g w a b da db)
      (outcome g w b db (idAfter g w a da)) (outcome g w b db w.platform.nextId) :=
  hw.outcome_renamed (fun _ => exchange_of_not_isNew) fun hb =>
    (exchange_second ((Engine.creates_course _ _).symm.trans hb)).symm

/-- Two passes touch different entities, also where each of them creates one. -/
theorem Orderly.touched_apart (hw : w.Orderly) (hne : a ≠ b) {id id' : String}
    {e e' : Option (Entity k.Body)}
    (ha : (outcome g w a da (idAfter g w b db)).2.entity = some (id, e))
    (hb : (outcome g w b db w.platform.nextId).2.entity = some (id', e')) : id ≠ id' := by
  rintro rfl
  rcases (g.course_local _ _ _ _).entity id e ha with hid | ⟨-, rfl⟩
  · exact hw.touches_ne hne.symm (Or.inl rfl) hb hid
  · rcases (g.course_local _ _ _ _).entity _ e' hb with hid | ⟨hcreates, heq⟩
    · exact (hw.unused isNew_idAfter).unrecorded b hid
    · exact hw.apart (heq.symm.trans (if_pos hcreates))

/-- The world that two passes leave, one after the other. -/
def inTurn (g : Engine k) (w : World k) (a b : ObjectKey) (da db : Duration) : World k :=
  after (g.reconcile b db) (after (g.reconcile a da) w)

/-- What two passes on different objects leave. -/
structure FollowsBoth (w : World k) (a b : ObjectKey) (c c' : Course k) (v v' : Option String)
    (w' : World k) : Prop where
  calm : w'.Calm
  objects : w'.store.get? = Function.update (Function.update w.store.get? a
    (c.object.map (Resource.versioned v))) b (c'.object.map (Resource.versioned v'))
  entities : w'.platform.entity? = c'.entities (c.entities w.platform.entity?)
  metrics : w'.metrics = (w.metrics.noted k.name c.notes).noted k.name c'.notes
  events : w'.events = w.events ++ c.events ++ c'.events

theorem Orderly.both_follow (hw : w.Orderly) (g : Engine k) (hne : a ≠ b) (da db : Duration) :
    ∃ v v', FollowsBoth w a b (outcome g w a da w.platform.nextId).2
      (outcome g w b db (idAfter g w a da)).2 v v' (inTurn g w a b da db) := by
  obtain ⟨v, h⟩ := (hw.first_run g a da).follows
  obtain ⟨v', h'⟩ := (hw.second_run g hne da db).follows
  refine ⟨v, v', h'.calm, ?_, ?_, ?_, ?_⟩
  · exact h.objects ▸ h'.objects
  · exact h.entities ▸ h'.entities
  · exact h.metrics ▸ h'.metrics
  · exact h.events ▸ h'.events

theorem Orderly.versioned_inTurn (hw : w.Orderly) (g : Engine k) (a b : ObjectKey)
    (da db : Duration) : (inTurn g w a b da db).store.Versioned := by
  have halone := hw.calm.undisturbed.alone
  obtain ⟨hrest, hv⟩ := after_reconcile Store.versioned_stable g a da halone hw.versioned
  exact (after_reconcile Store.versioned_stable g b db (halone.continues hrest) hv).2

/-- Objects are the same but for names. -/
theorem Orderly.objects_alike (hw : w.Orderly) (g : Engine k) (hne : a ≠ b) (da db : Duration)
    (key : ObjectKey) : ∃ v, (inTurn g w b a db da).store.get? key =
      ((inTurn g w a b da db).store.get? key).map fun r =>
        (r.renamed (exchange g w a b da db)).versioned v := by
  obtain ⟨v, v', h⟩ := hw.both_follow g hne da db
  obtain ⟨u, u', h'⟩ := hw.both_follow g hne.symm db da
  rw [h.objects, h'.objects]
  by_cases ha : key = a
  · subst ha
    refine ⟨u', ?_⟩
    rw [Function.update_self, Function.update_of_ne hne, Function.update_self,
      (hw.first_renamed g key b da db).2.object, Option.map_map, Option.map_map]
    rfl
  · by_cases hb : key = b
    · subst hb
      refine ⟨u, ?_⟩
      rw [Function.update_self, Function.update_of_ne hne.symm, Function.update_self,
        (hw.second_renamed g a key da db).2.object, Option.map_map, Option.map_map]
      rfl
    · rw [Function.update_of_ne ha, Function.update_of_ne hb, Function.update_of_ne hb,
        Function.update_of_ne ha]
      cases hr : w.store.get? key with
      | none => exact ⟨none, rfl⟩
      | some r =>
        have hid (id : String) (hid : r.remoteId = some id) : exchange g w a b da db id = id := by
          apply exchange_of_not_isNew
          intro hnew
          exact (hw.unused hnew).unrecorded key (by rw [recordedAt, hr, Option.bind_some, hid])
        have hempty : exchange g w a b da db "" = "" :=
          exchange_of_not_isNew fun hnew => (hw.unused hnew).nonempty rfl
        refine ⟨r.metadata.resourceVersion, ?_⟩
        rw [Option.map_some, Resource.renamed_eq_self hempty hid]
        rfl

theorem Orderly.versionAt_elsewhere (hw : w.Orderly) (g : Engine k) (hne : a ≠ b)
    (da db : Duration) (ha : key ≠ a) (hb : key ≠ b) :
    (inTurn g w a b da db).store.versionAt key = w.store.versionAt key := by
  obtain ⟨v, v', h⟩ := hw.both_follow g hne da db
  rw [Store.versionAt, Store.versionAt, h.objects, Function.update_of_ne hb,
    Function.update_of_ne ha]

/-- The versions differ by a renaming. -/
theorem Orderly.exists_reversioning (hw : w.Orderly) (g : Engine k) (hne : a ≠ b)
    (da db : Duration) : ∃ ρ : Equiv.Perm String, ∀ key,
      ((inTurn g w a b da db).store.versionAt key).map ρ =
        (inTurn g w b a db da).store.versionAt key := by
  have hv := hw.versioned_inTurn g a b da db
  have hv' := hw.versioned_inTurn g b a db da
  refine exists_renaming [a, b] (fun _ _ _ => hv.versionAt_injective)
    (fun _ _ _ => hv'.versionAt_injective) ?_ ?_
  · intro key
    obtain ⟨v, heq⟩ := hw.objects_alike g hne da db key
    rw [hv.versionAt_eq_none_iff, hv'.versionAt_eq_none_iff, heq, Option.map_eq_none_iff]
  · intro key hkey
    obtain ⟨ha, hb⟩ : key ≠ a ∧ key ≠ b := by simpa using hkey
    rw [hw.versionAt_elsewhere g hne da db ha hb, hw.versionAt_elsewhere g hne.symm db da hb ha]

theorem Orderly.objects_match (hw : w.Orderly) (g : Engine k) (hne : a ≠ b) (da db : Duration)
    {ρ : Equiv.Perm String} (hρ : ∀ key, ((inTurn g w a b da db).store.versionAt key).map ρ =
      (inTurn g w b a db da).store.versionAt key) (key : ObjectKey) :
    (inTurn g w b a db da).store.get? key = ((inTurn g w a b da db).store.get? key).map fun r =>
      (r.renamed (exchange g w a b da db)).reversioned ρ := by
  obtain ⟨v, heq⟩ := hw.objects_alike g hne da db key
  have hversion := hρ key
  rw [Store.versionAt, Store.versionAt, heq] at hversion
  rw [heq]
  cases hr : (inTurn g w a b da db).store.get? key with
  | none => rfl
  | some r =>
    rw [hr] at hversion
    exact congrArg (fun v => some ((r.renamed (exchange g w a b da db)).versioned v)) hversion.symm

theorem Orderly.entities_match (hw : w.Orderly) (g : Engine k) (hne : a ≠ b) (da db : Duration)
    (id : String) :
    (inTurn g w b a db da).platform.entity? (exchange g w a b da db id) =
      ((inTurn g w a b da db).platform.entity? id).map
        (Entity.renamed (exchange g w a b da db)) := by
  obtain ⟨v, v', h⟩ := hw.both_follow g hne da db
  obtain ⟨u, u', h'⟩ := hw.both_follow g hne.symm db da
  rw [h.entities, h'.entities, Course.entities_comm _ fun _ _ _ _ => hw.touched_apart hne]
  refine (hw.second_renamed g a b da db).2.entities ?_ id
  refine (hw.first_renamed g a b da db).2.entities ?_
  -- before the passes no entity has a new identifier
  intro id
  by_cases hnew : w.IsNew id
  · rw [(hw.unused hnew).unheld, (hw.unused (isNew_exchange hnew)).unheld, Option.map_none]
  · rw [exchange_of_not_isNew hnew]
    cases he : w.platform.entity? id with
    | none => rfl
    | some e =>
      have hfixed : e.renamed (exchange g w a b da db) = e := by
        rw [Entity.renamed, hw.wellKeyed id e he, exchange_of_not_isNew hnew,
          ← hw.wellKeyed id e he]
      rw [Option.map_some, hfixed]

/-- A note of a pass is about no other object. -/
theorem Orderly.notes_apart (hw : w.Orderly) (hne : a ≠ b) {n n' : Note}
    (hn : n ∈ (outcome g w a da new).2.notes) (hn' : n' ∈ (outcome g w b db new').2.notes) :
    n.Apart n' := by
  have hkey {key key' : ObjectKey} (h : (w.store.get? key).map Resource.key = some key') :
      key' = key := by
    obtain ⟨r, hr, rfl⟩ := Option.map_eq_some_iff.1 h
    exact hw.placed key r hr
  intro key h h'
  have ha := hkey ((g.course_local _ _ _ _).notes n hn key h)
  have hb := hkey ((g.course_local _ _ _ _).notes n' hn' key h')
  exact hne (ha.symm.trans hb)

theorem Orderly.metrics_agree (hw : w.Orderly) (g : Engine k) (hne : a ≠ b) (da db : Duration) :
    (inTurn g w a b da db).metrics.Agrees (inTurn g w b a db da).metrics := by
  obtain ⟨v, v', h⟩ := hw.both_follow g hne da db
  obtain ⟨u, u', h'⟩ := hw.both_follow g hne.symm db da
  rw [h.metrics, h'.metrics, (hw.first_renamed g a b da db).2.notes,
    (hw.second_renamed g a b da db).2.notes]
  exact Metrics.noted_comm _ _ _ _ fun n hn n' hn' => hw.notes_apart hne hn hn'

/-- While nothing fails, the passes on two different objects can be made in either order. Each ends
the same way. Objects, entities, counters and gauges are the same but for a renaming of the next two
identifiers and a renaming of versions, and so are the events of each pass. -/
theorem passes_commute (hw : w.Orderly) (g : Engine k) (hne : a ≠ b) (da db : Duration) :
    result (g.reconcile a da) (after (g.reconcile b db) w) = result (g.reconcile a da) w ∧
    result (g.reconcile b db) (after (g.reconcile a da) w) = result (g.reconcile b db) w ∧
    ∃ π ρ : Equiv.Perm String, (∀ id, ¬ w.IsNew id → π id = id) ∧
      Matches π ρ (inTurn g w a b da db) (inTurn g w b a db da) ∧
      ∃ first first' second second' : List Event,
        (inTurn g w a b da db).events = w.events ++ first ++ second ∧
        (inTurn g w b a db da).events = w.events ++ second' ++ first' ∧
        List.Forall₂ (Event.Renamed π) first first' ∧
        List.Forall₂ (Event.Renamed π) second second' := by
  have hfirst := hw.first_renamed g a b da db
  have hsecond := hw.second_renamed g a b da db
  refine ⟨?_, ?_, ?_⟩
  · rw [(hw.second_run g hne.symm db da).result_eq, (hw.first_run g a da).result_eq]
    exact hfirst.1
  · rw [(hw.second_run g hne da db).result_eq, (hw.first_run g b db).result_eq]
    exact hsecond.1.symm
  · obtain ⟨ρ, hρ⟩ := hw.exists_reversioning g hne da db
    obtain ⟨_, _, h⟩ := hw.both_follow g hne da db
    obtain ⟨_, _, h'⟩ := hw.both_follow g hne.symm db da
    refine ⟨exchange g w a b da db, ρ, fun _ => exchange_of_not_isNew, ?_, ?_⟩
    · exact ⟨hw.objects_match g hne da db hρ, hw.entities_match g hne da db,
        hw.metrics_agree g hne da db⟩
    · exact ⟨_, _, _, _, h.events, h'.events, hfirst.2.events, hsecond.2.events⟩

end World

namespace Chronicle
variable {g : Engine k} {c : Chronicle k} {d : Deed k} {ds : List (Deed k)}

theorem Permits.isOwn (h : c.Permits d) : d.IsOwn := by
  cases d with
  | pass => exact h
  | insert | edit | delete | removeEntity | editEntity => trivial

/-- What a run leaves is orderly where recorded identifiers are told apart and the next two are
new. -/
theorem Begins.calmed_orderly (hc : c.Begins) (hrun : Along (Chronicle.after g) Permits c ds)
    (hdistinct : (calmed g c ds).store.Distinct)
    (hnext : (calmed g c ds).Unused (calmed g c ds).platform.nextId)
    (hlater : (calmed g c ds).Unused (calmed g c ds).platform.laterId)
    (hapart : (calmed g c ds).platform.nextId ≠ (calmed g c ds).platform.laterId) :
    (calmed g c ds).Orderly := by
  obtain ⟨hv, hp⟩ := hrun.invariant
    (I := fun c => c.world.store.Versioned ∧ c.world.platform.WellKeyed)
    (fun _ _ hd h => versioned_after hd.isOwn h.1 h.2)
    ⟨⟨by simp [hc.objects], by simp [hc.objects]⟩, hc.wellKeyed⟩
  exact ⟨calmed_calm g c ds, hc.calmed_placed hrun, ⟨hv.past, hv.apart⟩, hp, hdistinct, hnext,
    hlater, hapart⟩

end Chronicle

namespace Sample

def second : Resource .team :=
  ⟨{ Metadata.empty with name := some "beta" }, (⟨"beta", none, [], none⟩ : TeamSpec), none⟩

def secondKey : ObjectKey := ⟨"default", "beta"⟩

/-- Two teams that have no entity yet. -/
def pair : World .team :=
  { World.empty ["e-1", "e-2"] with store := (Store.empty.insert team).insert second }

theorem status_of_pair {key : ObjectKey} {r : Resource .team}
    (h : pair.store.get? key = some r) : r.status = none := by
  rw [show pair.store = (Store.empty.insert team).insert second from rfl] at h
  simp only [Store.get?_insert, Function.update_apply] at h
  split_ifs at h
  · exact Option.some.inj h ▸ rfl
  · exact Option.some.inj h ▸ rfl
  · cases h

theorem recordedAt_pair (key : ObjectKey) : pair.recordedAt key = none := by
  unfold World.recordedAt
  cases hr : pair.store.get? key with
  | none => rfl
  | some r => rw [Option.bind_some, Resource.remoteId, status_of_pair hr, Option.bind_none]

theorem pair_orderly : pair.Orderly where
  calm := ⟨fun _ _ h => (List.not_mem_nil h).elim, rfl, rfl⟩
  placed := (Store.placed_empty.insert team).insert second
  versioned := by
    have hempty : (Store.empty : Store .team).Versioned :=
      ⟨fun _ _ h => (nomatch h), fun _ _ _ _ h => (nomatch h)⟩
    exact (hempty.insert team).insert second
  wellKeyed _ _ h := nomatch h
  distinct key _ r _ _ hr _ hid _ := by
    rw [Resource.remoteId, status_of_pair hr] at hid
    cases hid
  next := ⟨by decide, rfl, fun key => by rw [recordedAt_pair]; simp⟩
  later := ⟨by decide, rfl, fun key => by rw [recordedAt_pair]; simp⟩
  apart := by decide

end Sample

open Sample in
/-- Of two new teams the one whose pass comes first gets the first identifier, and that is the whole
difference. -/
theorem World.two_new_teams_commute :
    pair.Orderly ∧ key ≠ secondKey ∧
    (inTurn engine pair key secondKey .zero .zero).recordedAt key = some "e-1" ∧
    (inTurn engine pair secondKey key .zero .zero).recordedAt key = some "e-2" ∧
    ∃ π ρ : Equiv.Perm String, (∀ id, ¬ pair.IsNew id → π id = id) ∧
      Matches π ρ (inTurn engine pair key secondKey .zero .zero)
        (inTurn engine pair secondKey key .zero .zero) := by
  have hne : key ≠ secondKey := by decide
  obtain ⟨-, -, π, ρ, hπ, hmatches, -⟩ := passes_commute pair_orderly engine hne .zero .zero
  exact ⟨pair_orderly, hne, rfl, rfl, π, ρ, hπ, hmatches⟩

end ResourceSync
