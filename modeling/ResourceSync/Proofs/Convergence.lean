import ResourceSync.Proofs.CalmPass
import ResourceSync.Proofs.History

/-! While nothing fails, two passes bring an object and its entity in step from any state, and then
every pass leaves them alone. -/
namespace ResourceSync

variable {k : Kind}

theorem Binary64.equals_self {x : Binary64} (h : x.isFinite = true) : x.equals x = true := by
  have hnan : x.isNaN = false := by
    simp only [isFinite, isNaN, decide_eq_true_eq, decide_eq_false_iff_not] at h ⊢
    omega
  simp [equals, hnan]

theorem sameQuota_self {q : Option Binary64} (h : q.all isQuota = true) : sameQuota q q = true := by
  cases q with
  | none => rfl
  | some x =>
    simp only [Option.all_some, isQuota, Bool.and_eq_true] at h
    exact Binary64.equals_self h.1

theorem AlertBody.inSync_self {spec : AlertSpec} {b : AlertBody} (h : spec.desiredBody = .ok b) :
    b.inSync b = true := by
  unfold AlertSpec.desiredBody at h
  split at h
  · next hfinite =>
    obtain rfl := Except.ok.inj h
    simp [inSync, Binary64.equals_self hfinite]
  · cases h

theorem RuleGroupBody.inSync_self (b : RuleGroupBody) : b.inSync b = true := by
  unfold inSync
  split
  · next hnone =>
    obtain ⟨name, description, enabled, order, subgroups⟩ := b
    obtain rfl : order = none := Option.isNone_iff_eq_none.1 hnone
    simp
  · simp

theorem ApiKeyBody.inSync_self (b : ApiKeyBody) : b.inSync b = true := by
  simp [inSync, sameMembers_iff]

theorem TeamBody.inSync_self {spec : TeamSpec} {b : TeamBody} (h : spec.desiredBody = .ok b) :
    b.inSync b = true := by
  unfold TeamSpec.desiredBody at h
  split at h
  · next hquota =>
    obtain rfl := Except.ok.inj h
    simp [inSync, sameMembers_iff, sameQuota_self hquota]
  · cases h

/-- A body that a spec asks for is as good as itself, so it never looks drifted. -/
theorem Kind.inSync_self {spec : k.Spec} {b : k.Body} (h : k.desiredBody spec = .ok b) :
    k.inSync b b = true := by
  cases k with
  | alert => exact AlertBody.inSync_self h
  | ruleGroup => exact RuleGroupBody.inSync_self b
  | recordingRuleGroupSet => exact decide_eq_true (p := (b : RecordingRuleGroupSetBody) = b) rfl
  | outboundWebhook => exact decide_eq_true (p := (b : OutboundWebhookBody) = b) rfl
  | apiKey => exact ApiKeyBody.inSync_self b
  | team => exact TeamBody.inSync_self h

namespace Engine

/-- The resource is to be kept in step, and `b` is the body it asks for. -/
structure Wants (g : Engine k) (r : Resource k) (b : k.Body) : Prop where
  alive : r.metadata.isDeleting = false
  inScope : g.inScope r = true
  body : r.desiredBody = .ok b

theorem Wants.version {g : Engine k} {r r' : Resource k} {b : k.Body} (h : g.Wants r b)
    (hv : r'.IsVersionOf r) : g.Wants r' b where
  alive := hv.isDeleting.trans h.alive
  inScope := by
    rw [Engine.inScope, hv.labelMap]
    exact h.inScope
  body := hv.desiredBody.trans h.body

end Engine

namespace World
variable {g : Engine k} {w : World k} {r : Resource k} {b : k.Body} {e : Entity k.Body}
  {key : ObjectKey} {id : String}

/-- The object records an entity in step with its spec, and its status tells of that entity. -/
def Settled (g : Engine k) (key : ObjectKey) (b : k.Body) (w : World k) : Prop :=
  ∃ r e, w.store.get? key = some r ∧ r.key = key ∧ g.Wants r b ∧ r.remoteId = some e.id ∧
    w.platform.entity? e.id = some e ∧ k.inSync b e.body = true ∧
    r.status = some (k.observedStatus e)

theorem settled_of_update {w' : World k} {r' : Resource k} (hkey : r.key = key)
    (hwants : g.Wants r b) (hversion : r'.IsVersionOf r)
    (hstatus : r'.status = some (k.observedStatus e)) (hid : e.id ≠ "")
    (hsync : k.inSync b e.body = true)
    (ho : w'.store.get? = Function.update w.store.get? key (some r'))
    (he : w'.platform.entity? = Function.update w.platform.entity? e.id (some e)) :
    Settled g key b w' :=
  ⟨r', e, by rw [ho, Function.update_self], hversion.key.trans hkey, hwants.version hversion,
    Resource.remoteId_of_observedStatus hid hstatus, by rw [he, Function.update_self], hsync,
    hstatus⟩

/-- A pass that is to create an entity does so, records it and puts the finalizer on. Whether the
object is marked for deletion makes no difference. -/
theorem pass_creates (hw : w.Calm) (hr : w.store.get? key = some r) (hkey : r.key = key)
    (due : g.lifecycle r = .pendingCreation) (hb : r.desiredBody = .ok b) (elapsed : Duration) :
    Ends (g.reconcile key elapsed) w
      (fun _ w' => w'.Calm ∧
        w'.platform.entity? = Function.update w.platform.entity? w.platform.nextId
          (some (Platform.newborn w.platform.nextId b)) ∧
        ∃ r' : Resource k, r'.IsVersionOf r ∧
          r'.status = some (k.observedStatus (Platform.newborn w.platform.nextId b)) ∧
          r'.metadata.finalizerList = (if r.hasFinalizer k.finalizer then
            r.metadata.finalizerList else r.metadata.finalizerList ++ [k.finalizer]) ∧
          w'.store.get? = Function.update w.store.get? key (some r'))
      fun _ _ => False := by
  have hruns := reconcile_runs_of_get? (g := g) hw hr hkey elapsed
  simp only [Engine.transitionCourse, due, Engine.creation, hb, Engine.closed] at hruns
  refine (hruns.ends_ok rfl).imp ?_ fun _ _ h => h
  rintro - w' ⟨v, h⟩
  obtain ⟨r', hguarded, hversion, hstatus, hfin⟩ :=
    (r.observing (Platform.newborn w.platform.nextId b)).guarded_eq_some
  refine ⟨h.calm, h.entities, r'.versioned v, ?_, hstatus, hfin, ?_⟩
  · exact (Resource.IsVersionOf.versioned r' v).trans
      (hversion.trans (.observing r (Platform.newborn w.platform.nextId b)))
  · rw [h.objects]
    exact congrArg (fun o => Function.update w.store.get? key (o.map (Resource.versioned v)))
      hguarded

theorem pass_settles_new (hw : w.Calm) (hid : w.platform.nextId ≠ "")
    (hr : w.store.get? key = some r) (hkey : r.key = key) (hwants : g.Wants r b)
    (hnone : r.remoteId = none) (elapsed : Duration) :
    Ends (g.reconcile key elapsed) w (fun _ w' => w'.Calm ∧ Settled g key b w')
      fun _ _ => False := by
  have due := Engine.lifecycle_eq_pendingCreation_iff.2 ⟨hnone, hwants.inScope⟩
  refine (pass_creates hw hr hkey due hwants.body elapsed).imp ?_ fun _ _ h => h
  rintro - w' ⟨hcalm, he, r', hversion, hstatus, -, ho⟩
  exact ⟨hcalm, settled_of_update hkey hwants hversion hstatus hid (Kind.inSync_self hwants.body)
    ho he⟩

theorem pass_settles_held (hw : w.Calm) (hp : w.platform.WellKeyed)
    (hr : w.store.get? key = some r) (hkey : r.key = key) (hwants : g.Wants r b)
    (hid : r.remoteId = some id) (he : w.platform.entity? id = some e) (elapsed : Duration) :
    Ends (g.reconcile key elapsed) w (fun _ w' => w'.Calm ∧ Settled g key b w')
      fun _ _ => False := by
  have due := Engine.lifecycle_eq_active_iff.2
    ⟨by simp [hid], hwants.alive, hwants.inScope⟩
  obtain rfl : e.id = id := hp id e he
  have hne : e.id ≠ "" := Resource.remoteId_ne_empty hid
  have hruns := reconcile_runs_of_get? (g := g) hw hr hkey elapsed
  simp only [Engine.transitionCourse, due, Engine.update, hid, Option.bind_some, he, hwants.body]
    at hruns
  have hversion (e' : Entity k.Body) (v : Option String) :
      ((r.observing e').versioned v).IsVersionOf r :=
    (Resource.IsVersionOf.versioned _ v).trans (.observing r e')
  by_cases hsync : k.inSync b e.body = true
  · rw [if_pos hsync] at hruns
    refine (hruns.ends_ok rfl).imp ?_ fun _ _ h => h
    rintro - w' ⟨v, h⟩
    have hsame : w'.platform.entity? = Function.update w.platform.entity? e.id (some e) :=
      h.entities.trans (Function.update_eq_self_iff.2 he.symm).symm
    exact ⟨h.calm, settled_of_update hkey hwants (hversion e v) rfl hne hsync h.objects hsame⟩
  · rw [if_neg hsync] at hruns
    refine (hruns.ends_ok rfl).imp ?_ fun _ _ h => h
    rintro - w' ⟨v, h⟩
    have hrenewed : k.inSync b (Platform.renewed e b).body = true := Kind.inSync_self hwants.body
    exact ⟨h.calm, settled_of_update (e := Platform.renewed e b) hkey hwants
      (hversion (Platform.renewed e b) v) rfl hne hrenewed h.objects h.entities⟩

/-- A pass that finds the entity gone fails, but the next one can create another. -/
theorem pass_gives_up (hw : w.Calm) (hr : w.store.get? key = some r) (hkey : r.key = key)
    (hwants : g.Wants r b) (hid : r.remoteId = some id) (he : w.platform.entity? id = none)
    (elapsed : Duration) : Ends (g.reconcile key elapsed) w (fun _ _ => False)
      (fun _ w' => w'.Calm ∧ w'.platform.nextId = w.platform.nextId ∧ ∃ r' : Resource k,
        r'.IsVersionOf r ∧ r'.remoteId = none ∧ w'.store.get? key = some r') := by
  have due := Engine.lifecycle_eq_active_iff.2
    ⟨by simp [hid], hwants.alive, hwants.inScope⟩
  have hruns := reconcile_runs_of_get? (g := g) hw hr hkey elapsed
  simp only [Engine.transitionCourse, due, Engine.update, hid, Option.bind_some, he] at hruns
  refine (hruns.ends_error rfl).imp (fun _ _ h => h) ?_
  rintro - w' ⟨v, h⟩
  exact ⟨h.calm, h.nextId, Resource.versioned v { r with status := none }, ⟨rfl, rfl⟩, rfl,
    h.get?_eq rfl⟩

/-- A pass on a settled object looks the entity up, and that is all. -/
theorem Settled.steady (h : Settled g key b w) (hw : w.Calm) (elapsed : Duration) :
    Ends (g.reconcile key elapsed) w
      (fun _ w' => w'.Calm ∧ w'.store = w.store ∧ w'.platform = w.platform.looked ∧
        w'.events = w.events)
      fun _ _ => False := by
  obtain ⟨r, e, hr, hkey, hwants, hid, he, hsync, hstatus⟩ := h
  refine calm_reconcile hw hr (fun w' m h => ⟨h.1.carried _ _, h.2⟩) ?_
  intro w₁ hcalm hstep hs
  rw [Engine.transition, Engine.lifecycle_eq_active_iff.2
    ⟨by simp [hid], hwants.alive, hwants.inScope⟩]
  simp only [Engine.active, Resource.updateEntity, hid, Option.getD_some, ends_bind, ends_during,
    ends_attempt, Resource.body, hwants.body, ends_pure]
  refine (calm_getEntity hcalm (by rw [hstep.platform, he])).imp ?_ fun _ _ h => h.elim
  rintro e' w₂ ⟨hcalm₂, hstep₂, rfl, hp₂⟩
  rw [if_pos hsync]
  simp only [ends_bind, ends_pure]
  rw [if_neg (not_not.2 hstatus)]
  have hsame : w₂.Calm ∧ w₂.store = w.store ∧ w₂.platform = w.platform.looked ∧
      w₂.events = w.events :=
    ⟨hcalm₂, hstep₂.store.trans hs, hstep.platform ▸ hp₂, hstep₂.events.trans hstep.events⟩
  simp only [Resource.track, ends_measure]
  cases g.successRequeue <;> exact ⟨hsame.1.carried _ _, hsame.2⟩

theorem Settled.carried {w' : World k} (h : Settled g key b w) (hs : w'.store = w.store)
    (hp : w'.platform = w.platform.looked) : Settled g key b w' := by
  obtain ⟨r, e, hr, hkey, hwants, hid, he, hsync, hstatus⟩ := h
  refine ⟨r, e, by rw [hs, hr], hkey, hwants, hid, ?_, hsync, hstatus⟩
  rw [hp]
  exact he

/-- Passes on one object, one after the other. -/
def passes (g : Engine k) (key : ObjectKey) (w : World k) (spans : List Duration) : World k :=
  spans.foldl (fun w elapsed => after (g.reconcile key elapsed) w) w

/-- One more pass succeeds, and the look-up of one entity is all that it does. -/
def IsSteady (g : Engine k) (key : ObjectKey) (w : World k) : Prop :=
  ∀ elapsed, ∃ next w', g.reconcile key elapsed w = .ok next w' ∧ w'.store = w.store ∧
    w'.platform = w.platform.looked ∧ w'.events = w.events

theorem Settled.isSteady (h : Settled g key b w) (hw : w.Calm) : IsSteady g key w := by
  intro elapsed
  obtain ⟨next, w', hx, -, hsame⟩ := ok_of_ends (h.steady hw elapsed)
  exact ⟨next, w', hx, hsame⟩

/-- Settled objects stay settled, however many passes follow. -/
theorem Settled.passes (h : Settled g key b w) (hw : w.Calm) (spans : List Duration) :
    (World.passes g key w spans).Calm ∧ Settled g key b (World.passes g key w spans) := by
  induction spans generalizing w with
  | nil => exact ⟨hw, h⟩
  | cons elapsed spans ih =>
    obtain ⟨next, w', hx, hcalm, hs, hp, -⟩ := ok_of_ends (h.steady hw elapsed)
    simp only [World.passes, List.foldl_cons, after_of_ok hx]
    exact ih (h.carried hs hp) hcalm

/-- From any state of an object that is to be kept in step, and of its entity, two passes without a
fault bring both in step, and every later pass leaves them alone. -/
theorem two_passes_settle {d₁ d₂ : Duration} (hw : w.Calm) (hp : w.platform.WellKeyed)
    (hnew : w.platform.nextId ≠ "") (hr : w.store.get? key = some r) (hkey : r.key = key)
    (hwants : g.Wants r b) :
    ∃ next w₂, g.reconcile key d₂ (after (g.reconcile key d₁) w) = .ok next w₂ ∧
      Settled g key b w₂ ∧ ∀ spans, IsSteady g key (passes g key w₂ spans) := by
  -- a pass on a settled object succeeds and leaves it settled
  have hsecond {w₁ : World k} (hcalm : w₁.Calm) (hsettled : Settled g key b w₁) :
      ∃ next w₂, g.reconcile key d₂ w₁ = .ok next w₂ ∧ w₂.Calm ∧ Settled g key b w₂ := by
    obtain ⟨next, w₂, hx, hcalm₂, hs, hp, -⟩ := ok_of_ends (hsettled.steady hcalm d₂)
    exact ⟨next, w₂, hx, hcalm₂, hsettled.carried hs hp⟩
  have htwo : ∃ next w₂, g.reconcile key d₂ (after (g.reconcile key d₁) w) = .ok next w₂ ∧
      w₂.Calm ∧ Settled g key b w₂ := by
    cases hid : r.remoteId with
    | none =>
      obtain ⟨_, w₁, hx, hcalm, hsettled⟩ :=
        ok_of_ends (pass_settles_new hw hnew hr hkey hwants hid d₁)
      rw [after_of_ok hx]
      exact hsecond hcalm hsettled
    | some id =>
      cases he : w.platform.entity? id with
      | some e =>
        obtain ⟨_, w₁, hx, hcalm, hsettled⟩ :=
          ok_of_ends (pass_settles_held hw hp hr hkey hwants hid he d₁)
        rw [after_of_ok hx]
        exact hsecond hcalm hsettled
      | none =>
        have hends := pass_gives_up hw hr hkey hwants hid he d₁
        cases hx : g.reconcile key d₁ w with
        | ok _ _ => exact (hends.of_ok hx).elim
        | error f w₁ =>
          obtain ⟨hcalm, hp₁, r', hversion, hnone, hr'⟩ := hends.of_error hx
          have hnew₁ : w₁.platform.nextId ≠ "" := hp₁ ▸ hnew
          rw [after_of_error hx]
          exact ok_of_ends (pass_settles_new hcalm hnew₁ hr' (hversion.key.trans hkey)
            (hwants.version hversion) hnone d₂)
  obtain ⟨next, w₂, hx, hcalm, hsettled⟩ := htwo
  refine ⟨next, w₂, hx, hsettled, ?_⟩
  intro spans
  obtain ⟨hcalm', hsettled'⟩ := hsettled.passes hcalm spans
  exact hsettled'.isSteady hcalm'

/-- An object that records an entity which is gone is settled again after two passes. -/
theorem lost_entity_is_replaced :
    let lost : Resource .team := { Sample.team with status := some (⟨some "e-0"⟩ : IdStatus) }
    let w : World .team := { World.empty ["e-1"] with store := Store.empty.insert lost }
    ∃ next w₂, Sample.engine.reconcile Sample.key .zero
        (after (Sample.engine.reconcile Sample.key .zero) w) = .ok next w₂ ∧
      Settled Sample.engine Sample.key (⟨"alpha", "", [], none⟩ : TeamBody) w₂ ∧
      ∀ spans, IsSteady Sample.engine Sample.key (passes Sample.engine Sample.key w₂ spans) := by
  intro lost w
  have hcalm : w.Calm := ⟨fun _ _ h => (List.not_mem_nil h).elim, rfl, rfl⟩
  exact two_passes_settle (r := Store.empty.stamped lost.placed) hcalm (fun _ _ h => by cases h)
    (by decide) (by decide) rfl ⟨rfl, rfl, rfl⟩

end World

end ResourceSync
