import ResourceSync.Proofs.Telling

/-! Which call a failed pass is blamed on. A pass fails as its calls do one after another, whatever is
named, counted, published and cleaned up around them. -/
namespace ResourceSync

variable {k : Kind} {α β : Type}

open World

namespace Resource

/-- The calls of a creation, up to the first that fails. -/
def createCalls (r : Resource k) : Run k Unit := do
  let body ← r.body
  let id ← World.createEntity body
  let stored ← writeStatus r (some (k.statusWithId id))
  let e ← getEntity id
  if stored.status ≠ some (k.observedStatus e) then
    discard (writeStatus stored (some (k.observedStatus e)))

/-- The calls of an update. Where the platform has lost the entity the status is given up first. -/
def updateCalls (r : Resource k) : Run k Unit := do
  let id := r.remoteId.getD ""
  match ← attempt (getEntity id) with
  | .ok e =>
    let desired ← r.body
    let e ← if k.inSync desired e.body then pure e else World.updateEntity id desired
    if r.status ≠ some (k.observedStatus e) then discard (writeStatus r (some (k.observedStatus e)))
  | .error f =>
    if f.cause.isNotFound then discard (writeStatus r none)
    throw f

/-- The call of a deletion, if an entity was ever recorded. -/
def deleteCalls (r : Resource k) : Run k Unit :=
  match r.remoteId with
  | none => return ()
  | some id => do
    match ← attempt (World.deleteEntity id) with
    | .ok () => return ()
    | .error f => if f.cause.isNotFound then return () else throw f

end Resource

/-- The calls by which what is due is done, up to the first that fails. -/
def Engine.calls (g : Engine k) (r : Resource k) : Run k NextPass :=
  match g.lifecycle r with
  | .pendingCreation => do
    r.createCalls
    match ← load r.key with
    | none => throw (Failure.ofMessage s!"{k.name} {r.key.text} disappeared after creation")
    | some created =>
      ensureFinalizer created k.finalizer
      return .onChange
  | .pendingDeletion => do
    r.deleteCalls
    removeFinalizer r k.finalizer
    return .onChange
  | .outOfScope => do
    r.deleteCalls
    return .onChange
  | .active => do
    r.updateCalls
    return match g.successRequeue with
      | none => .onChange
      | some d => .after d

theorem Failure.eq_ofCause {e : Failure} (h : e.contexts = []) : e = .ofCause e.cause := by
  obtain ⟨contexts, cause⟩ := e
  cases h
  rfl

namespace World
variable {w w' v : World k} {x y : Run k α} {f : α → Run k β} {a : α}

/-- The worlds differ in what was counted and published at most. -/
structure Agrees (w w' : World k) : Prop where
  store : w'.store = w.store
  platform : w'.platform = w.platform
  plan : w'.plan = w.plan

theorem Agrees.refl (w : World k) : Agrees w w := ⟨rfl, rfl, rfl⟩

theorem bind_of_ok (h : x w = .ok a v) : (x >>= f) w = f a v := by
  simp only [bind, EStateM.bind, h]

theorem bind_of_error {e : Failure} (h : x w = .error e v) : (x >>= f) w = .error e v := by
  simp only [bind, EStateM.bind, h]

theorem get_run (w : World k) : (get : Run k (World k)) w = .ok w w := rfl

/-- A call takes no part in what is counted and published, and when it fails nothing more is said of
that. -/
def IsCall (x : Run k α) : Prop := ∀ w w', Agrees w w' →
  Ends x w (fun a v => ∃ v', x w' = .ok a v' ∧ Agrees v v')
    (fun e v => e.contexts = [] ∧ ∃ v', x w' = .error e v' ∧ Agrees v v')

theorem isCall_pure (a : α) : IsCall (pure a : Run k α) := fun _ w' h => ⟨w', rfl, h⟩

theorem isCall_throw (cause : FailureCause) : IsCall (throw (.ofCause cause) : Run k α) :=
  fun _ w' h => ⟨rfl, w', rfl, h⟩

theorem IsCall.bind (hx : IsCall x) (hf : ∀ a, IsCall (f a)) : IsCall (x >>= f) := by
  intro w w' h
  rw [ends_bind]
  refine (hx w w' h).imp ?_ ?_
  · rintro a v ⟨v', hx', hv⟩
    rw [bind_of_ok hx']
    exact hf a v v' hv
  · rintro e v ⟨he, v', hx', hv⟩
    exact ⟨he, v', bind_of_error hx', hv⟩

theorem isCall_nextTurn (site : Site) : IsCall (nextTurn site : Run k (Turn k)) := by
  rintro w ⟨store, platform, metrics, events, plan⟩ ⟨rfl, rfl, rfl⟩
  exact ⟨_, rfl, rfl, rfl, rfl⟩

section steps
variable {store : Store k → Except StoreError α × Store k}
  {platform : Platform k → Except RemoteError α × Platform k} {s : Store k} {p : Platform k}

theorem onStore_of_ok (h : store w.store = (.ok a, s)) :
    onStore store w = .ok a { w with store := s } := by
  unfold onStore
  rw [bind_of_ok (get_run w)]
  simp only [h]
  rfl

theorem onStore_of_error {e : StoreError} (h : store w.store = (.error e, s)) :
    onStore store w = .error (.ofMessage e.message) { w with store := s } := by
  unfold onStore
  rw [bind_of_ok (get_run w)]
  simp only [h]
  rfl

theorem onPlatform_of_ok (h : platform w.platform = (.ok a, p)) :
    onPlatform platform w = .ok a { w with platform := p } := by
  unfold onPlatform
  rw [bind_of_ok (get_run w)]
  simp only [h]
  rfl

theorem onPlatform_of_error {e : RemoteError} (h : platform w.platform = (.error e, p)) :
    onPlatform platform w = .error (.ofRemote e) { w with platform := p } := by
  unfold onPlatform
  rw [bind_of_ok (get_run w)]
  simp only [h]
  rfl

theorem isCall_onStore (store : Store k → Except StoreError α × Store k) : IsCall (onStore store) := by
  rintro w w' ⟨hs, hp, hplan⟩
  rw [ends_onStore, ← hs]
  rcases hstep : store w'.store with ⟨e | a, s⟩
  · exact ⟨rfl, _, onStore_of_error hstep, rfl, hp, hplan⟩
  · exact ⟨_, onStore_of_ok hstep, rfl, hp, hplan⟩

theorem isCall_onPlatform (platform : Platform k → Except RemoteError α × Platform k) :
    IsCall (onPlatform platform) := by
  rintro w w' ⟨hs, hp, hplan⟩
  rw [ends_onPlatform, ← hp]
  rcases hstep : platform w'.platform with ⟨e | a, p⟩
  · exact ⟨rfl, _, onPlatform_of_error hstep, hs, rfl, hplan⟩
  · exact ⟨_, onPlatform_of_ok hstep, hs, rfl, hplan⟩

end steps

theorem isCall_meddle (change : Store k → Store k) :
    IsCall (modify fun w => { w with store := change w.store } : Run k Unit) := by
  rintro w ⟨store, platform, metrics, events, plan⟩ ⟨rfl, rfl, rfl⟩
  exact ⟨_, rfl, rfl, rfl, rfl⟩

theorem IsCall.around {site : Site} (hx : IsCall x) : IsCall (World.around site x) := by
  refine (isCall_nextTurn site).bind fun turn => ?_
  cases turn with
  | fail cause => exact isCall_throw cause
  | meddle change => exact (isCall_meddle change).bind fun _ => hx
  | pass | distort => exact hx

theorem isCall_load (key : ObjectKey) : IsCall (load key : Run k (Option (Resource k))) := by
  refine IsCall.around ?_
  rintro w ⟨store, platform, metrics, events, plan⟩ ⟨rfl, rfl, rfl⟩
  exact ⟨_, rfl, rfl, rfl, rfl⟩

theorem isCall_patchFinalizers (r : Resource k) (finalizers : List String) :
    IsCall (patchFinalizers r finalizers) := (isCall_onStore _).around

theorem isCall_writeStatus (r : Resource k) (status : Option k.Status) :
    IsCall (writeStatus r status) := (isCall_onStore _).around

theorem isCall_createEntity (b : k.Body) : IsCall (World.createEntity b) :=
  (isCall_onPlatform _).around

theorem isCall_getEntity (id : String) : IsCall (getEntity id : Run k (Entity k.Body)) := by
  refine (isCall_nextTurn _).bind fun turn => ?_
  cases turn with
  | fail cause => exact isCall_throw cause
  | meddle change => exact (isCall_meddle change).bind fun _ => isCall_onPlatform _
  | distort change => exact (isCall_onPlatform _).bind fun e => isCall_pure (change e)
  | pass => exact isCall_onPlatform _

theorem isCall_updateEntity (id : String) (b : k.Body) : IsCall (World.updateEntity id b) :=
  (isCall_onPlatform _).around

theorem isCall_deleteEntity (id : String) : IsCall (World.deleteEntity id : Run k Unit) :=
  (isCall_onPlatform _).around

theorem isCall_body (r : Resource k) : IsCall r.body := by
  unfold Resource.body
  cases r.desiredBody with
  | ok b => exact isCall_pure b
  | error e => exact isCall_throw _

theorem discard_run (x : Run k α) (w : World k) :
    discard x w =
      match x w with
      | .ok _ v => .ok () v
      | .error e v => .error e v := by
  change EStateM.map (fun _ => ()) x w = _
  unfold EStateM.map
  cases x w <;> rfl

theorem IsCall.discard (hx : IsCall x) : IsCall (discard x) := by
  intro w w' h
  rw [ends_discard]
  refine (hx w w' h).imp ?_ ?_
  · rintro a v ⟨v', hx', hv⟩
    exact ⟨v', by rw [discard_run, hx'], hv⟩
  · rintro e v ⟨he, v', hx', hv⟩
    exact ⟨he, v', by rw [discard_run, hx'], hv⟩

/-- `x` ends as the calls in `y` do: by the same value, or by a failure of the same cause. -/
def Mirrors (x y : Run k α) : Prop := ∀ w w', Agrees w w' →
  Ends x w (fun a v => ∃ v', y w' = .ok a v' ∧ Agrees v v')
    (fun e _ => ∃ v', y w' = .error (.ofCause e.cause) v')

theorem IsCall.mirrors (hx : IsCall x) : Mirrors x x := by
  intro w w' h
  refine (hx w w' h).imp (fun _ _ h => h) ?_
  rintro e v ⟨he, v', hx', -⟩
  exact ⟨v', Failure.eq_ofCause he ▸ hx'⟩

namespace Mirrors
variable {y' : α → Run k β}

theorem bind (hx : Mirrors x y) (hf : ∀ a, Mirrors (f a) (y' a)) : Mirrors (x >>= f) (y >>= y') := by
  intro w w' h
  rw [ends_bind]
  refine (hx w w' h).imp ?_ ?_
  · rintro a v ⟨v', hy, hv⟩
    rw [bind_of_ok hy]
    exact hf a v v' hv
  · rintro e v ⟨v', hy⟩
    exact ⟨v', bind_of_error hy⟩

/-- What is named around a failure does not change its cause. -/
theorem during {context : String} (hx : Mirrors x y) : Mirrors (during context x) y :=
  fun w w' h => ends_during.2 (hx w w' h)

theorem measure {m : Metrics → Metrics} {x : Unit → Run k α} (hx : Mirrors (x ()) y) :
    Mirrors (measure m >>= x) y := fun _ w' h => hx _ w' ⟨h.store, h.platform, h.plan⟩

theorem publish {severity : Severity} {reason : Reason} {message : String} {x : Unit → Run k α}
    (hx : Mirrors (x ()) y) : Mirrors (publish severity reason message >>= x) y :=
  fun _ w' h => hx _ w' ⟨h.store, h.platform, h.plan⟩

theorem then_measure {m : Metrics → Metrics} {x y : Run k Unit} (hx : Mirrors x y) :
    Mirrors (do x; World.measure m) y := by
  intro w w' h
  rw [ends_bind]
  refine (hx w w' h).imp ?_ fun _ _ h => h
  rintro a v ⟨v', hy, hv⟩
  exact ⟨v', hy, hv.store, hv.platform, hv.plan⟩

/-- The failure of a call may be looked at. -/
theorem attempt {f y' : Except Failure α → Run k β} (hx : IsCall x)
    (hok : ∀ a, Mirrors (f (.ok a)) (y' (.ok a)))
    (herror : ∀ cause, Mirrors (f (.error (.ofCause cause))) (y' (.error (.ofCause cause)))) :
    Mirrors (attempt x >>= f) (attempt x >>= y') := by
  intro w w' h
  rw [ends_bind, ends_attempt]
  refine (hx w w' h).imp ?_ ?_
  · rintro a v ⟨v', hx', hv⟩
    rw [bind_of_ok (a := .ok a) (v := v') (by simp only [World.attempt, hx'])]
    exact hok a v v' hv
  · rintro e v ⟨he, v', hx', hv⟩
    rw [bind_of_ok (a := .error e) (v := v') (by simp only [World.attempt, hx'])]
    rw [Failure.eq_ofCause he]
    exact herror e.cause v v' hv

/-- What is cleaned up after a failed call does not change its cause either. -/
theorem rescue {f : Except Failure α → Run k β} {y' : α → Run k β} (hx : IsCall x)
    (hok : ∀ a, Mirrors (f (.ok a)) (y' a))
    (herror : ∀ e v, Ends (f (.error e)) v (fun _ _ => False) (fun e' _ => e'.cause = e.cause)) :
    Mirrors (World.attempt x >>= f) (x >>= y') := by
  intro w w' h
  rw [ends_bind, ends_attempt]
  refine (hx w w' h).imp ?_ ?_
  · rintro a v ⟨v', hx', hv⟩
    rw [bind_of_ok hx']
    exact hok a v v' hv
  · rintro e v ⟨he, v', hx', -⟩
    refine (herror e v).imp (fun _ _ h => h.elim) ?_
    intro e' u hcause
    exact ⟨v', by rw [bind_of_error hx', hcause, ← Failure.eq_ofCause he]⟩

end Mirrors

end World

section procedures
variable {r : Resource k} {g : Engine k}

theorem mirrors_observe {stored : Resource k} {e : Entity k.Body} :
    Mirrors (if stored.status ≠ some (k.observedStatus e) then do
        discard (writeStatus stored (some (k.observedStatus e)))
        r.track
      else r.track)
      (if stored.status ≠ some (k.observedStatus e) then
        discard (writeStatus stored (some (k.observedStatus e)))
      else pure ()) := by
  split
  · exact (isCall_writeStatus _ _).discard.mirrors.then_measure
  · exact fun w w' h => ⟨w', rfl, h.store, h.platform, h.plan⟩

/-- What would follow a failure does not matter. -/
theorem mirrors_throw {cause : FailureCause} {contexts : List String} {x : α → Run k β} :
    Mirrors ((throw ⟨contexts, cause⟩ : Run k α) >>= x) (throw (.ofCause cause)) :=
  fun _ w' _ => ⟨w', rfl⟩

theorem mirrors_create : Mirrors r.createEntity r.createCalls := by
  unfold Resource.createEntity Resource.createCalls
  refine (isCall_body r).mirrors.bind fun b => ?_
  refine (isCall_createEntity b).mirrors.during.bind fun id => ?_
  refine Mirrors.measure ?_
  refine Mirrors.rescue (isCall_writeStatus _ _) ?_ ?_
  · intro stored
    refine Mirrors.bind (isCall_getEntity id).mirrors.during fun e => ?_
    exact mirrors_observe
  · -- whatever becomes of the deletion, the failed write is what the creation fails with
    intro e v
    simp only [ends_bind, ends_discard, ends_attempt, ends_throw]
    unfold Ends
    split <;> rfl

theorem mirrors_update : Mirrors r.updateEntity r.updateCalls := by
  unfold Resource.updateEntity Resource.updateCalls
  refine Mirrors.attempt (isCall_getEntity _) ?_ ?_
  · intro e
    refine (isCall_body r).mirrors.bind fun desired => ?_
    dsimp only
    split
    · exact (isCall_pure e).mirrors.bind fun e => mirrors_observe
    · refine (isCall_updateEntity _ desired).mirrors.during.bind fun updated => ?_
      exact Mirrors.measure (Mirrors.publish mirrors_observe)
  · intro cause
    rcases cause with e | message | message
    · rcases e with path | _ | _ | _ | _
      · refine Mirrors.publish ?_
        exact (isCall_writeStatus r none).discard.mirrors.bind fun _ =>
          Mirrors.measure mirrors_throw
      all_goals exact mirrors_throw
    all_goals exact mirrors_throw

theorem mirrors_delete : Mirrors r.deleteEntity r.deleteCalls := by
  unfold Resource.deleteEntity Resource.deleteCalls
  cases r.remoteId with
  | none => exact (isCall_pure ()).mirrors
  | some id =>
    have huntrack : Mirrors r.untrack (pure ()) :=
      fun _ w' h => ⟨w', rfl, h.store, h.platform, h.plan⟩
    refine Mirrors.attempt (isCall_deleteEntity id) ?_ ?_
    · rintro ⟨⟩
      exact Mirrors.measure huntrack
    · intro cause
      rcases cause with e | message | message
      · rcases e with path | _ | _ | _ | _
        · exact huntrack
        all_goals exact mirrors_throw
      all_goals exact mirrors_throw

theorem isCall_ensureFinalizer {finalizer : String} : IsCall (ensureFinalizer r finalizer) := by
  unfold ensureFinalizer
  split
  · exact isCall_pure ()
  · exact isCall_patchFinalizers _ _

theorem isCall_removeFinalizer {finalizer : String} : IsCall (removeFinalizer r finalizer) := by
  unfold removeFinalizer
  split
  · exact isCall_patchFinalizers _ _
  · exact isCall_pure ()

/-- What is due succeeds if its calls do, and fails by the cause of the first that fails. -/
theorem mirrors_transition (g : Engine k) (r : Resource k) :
    Mirrors (g.transition r) (g.calls r) := by
  unfold Engine.transition Engine.calls
  cases due : g.lifecycle r with
  | pendingCreation =>
    refine mirrors_create.during.bind fun _ => ?_
    refine (isCall_load r.key).mirrors.bind fun loaded => ?_
    cases loaded with
    | none => exact (isCall_throw _).mirrors
    | some created =>
      refine isCall_ensureFinalizer.mirrors.during.bind fun _ => ?_
      exact Mirrors.publish (isCall_pure _).mirrors
  | pendingDeletion =>
    refine mirrors_delete.during.bind fun _ => ?_
    refine isCall_removeFinalizer.mirrors.during.bind fun _ => ?_
    exact Mirrors.publish (isCall_pure _).mirrors
  | outOfScope =>
    simp only [Engine.outOfScope]
    split
    · refine mirrors_delete.during.bind fun _ => ?_
      exact Mirrors.publish (isCall_pure _).mirrors
    · next hnone =>
      have hnothing : r.deleteCalls = pure () := by
        unfold Resource.deleteCalls
        rw [Option.not_isSome_iff_eq_none.1 hnone]
      rw [hnothing, pure_bind]
      exact (isCall_pure _).mirrors
  | active =>
    refine mirrors_update.during.bind fun _ => ?_
    cases g.successRequeue <;> exact (isCall_pure _).mirrors

end procedures

/-- What has been published by a pass that failed after it had loaded the resource `r`, which left
the world `w₀`. -/
structure Engine.Reports (g : Engine k) (r : Resource k) (w₀ : World k) (f : Failure)
    (told : List Event) : Prop where
  /-- The message is made of the circumstances, from the outside in, and then of the causes. -/
  last : told.getLast? =
    some ⟨.warning, f.reason, ": ".intercalate (f.contexts ++ f.cause.chain)⟩
  /-- The cause is that of the first call that failed, or that the spec asks for no body. -/
  blamed : ∃ v, g.calls r w₀ = .error (.ofCause f.cause) v
  warned : told.dropLast.countP (fun e => e.severity = .warning) ≤ 1
  denied : ∀ e ∈ told.dropLast, e.severity = .warning → ∃ id, r.remoteId = some id ∧ w₀.Denies id
  unachieved : ∀ e ∈ told, e.reason ≠ .created ∧ e.reason ≠ .deleted ∧ e.reason ≠ .outOfScope

theorem Engine.Announces.reports {g : Engine k} {r : Resource k} {w₀ : World k} {f : Failure}
    {told : List Event} (h : g.Announces r w₀ false told)
    (hblamed : ∃ v, g.calls r w₀ = .error (.ofCause f.cause) v) :
    g.Reports r w₀ f (told ++ [⟨.warning, f.reason, f.text⟩]) where
  last := List.getLast?_concat
  blamed := hblamed
  warned := by
    rw [List.dropLast_concat]
    exact List.countP_le_length.trans h.length_le
  denied e he hwarning := by
    rw [List.dropLast_concat] at he
    exact (h.of_warning he hwarning).2
  unachieved e he := by
    rcases List.mem_append.1 he with he | he
    · rcases h.of_failure he with hreason | hreason <;> simp [hreason]
    · have hmilestone : e.reason.isMilestone = false := by
        rw [List.mem_singleton.1 he]
        exact f.cause.isMilestone_reason
      refine ⟨?_, ?_, ?_⟩ <;> intro hreason <;> rw [hreason] at hmilestone <;> cases hmilestone

/-- A pass on an object that it has loaded fails as the first of its calls that fails, and reports
that in the end; before that it warns at most once, and only if the platform has denied that it has
the entity. A pass that succeeds does not warn. -/
theorem failure_is_reported (g : Engine k) (key : ObjectKey) (elapsed : Duration) {w w₀ : World k}
    {r : Resource k} (hload : load key w = .ok (some r) w₀) :
    Ends (g.reconcile key elapsed) w
      (fun next w' => ∃ told, w'.events = w.events ++ told ∧
        (∃ v, g.calls r w₀ = .ok next v) ∧ ∀ e ∈ told, e.severity ≠ .warning)
      (fun f w' => ∃ told, w'.events = w.events ++ told ∧ g.Reports r w₀ f told) := by
  rw [Engine.ends_reconcile_of_load hload, ← Engine.events_of_load hload]
  refine ((g.tells_transition r w₀).and (mirrors_transition g r w₀ w₀ (.refl w₀))).imp ?_ ?_
  · rintro next w' ⟨⟨told, htold⟩, v, hcalls, -⟩
    refine ⟨told, htold.events, ⟨v, hcalls⟩, fun e he hwarning => ?_⟩
    cases (htold.announces.of_warning he hwarning).1
  · rintro f w' ⟨⟨told, htold⟩, hcalls⟩
    refine ⟨told ++ [⟨.warning, f.reason, f.text⟩], ?_, htold.announces.reports hcalls⟩
    change w'.events ++ _ = _
    rw [htold.events, List.append_assoc]

/-- A new team in a world where no identifier can be recorded and nothing can be deleted. -/
def Sample.unrecordable : World .team :=
  let w : World .team := { World.empty ["e-1"] with store := Store.empty.insert Sample.team }
  w.under
    { plan := fun
        | .writeStatus => [.fail (.other "conflict")]
        | .remoteDelete => [.fail (.remote (.api "DELETE" "/fake/e-1" 503 "down"))]
        | _ => []
      storeOutage := 0
      platformOutage := 0 }

/-- The entity of that team leaks, and what is reported is that it could not be recorded. -/
theorem leak_is_reported_as_conflict :
    ∃ f w' r w₀, Sample.engine.reconcile Sample.key .zero Sample.unrecordable = .error f w' ∧
      load Sample.key Sample.unrecordable = .ok (some r) w₀ ∧
      w'.platform.live = 1 ∧ f.cause = .other "conflict" ∧
      ∃ told, w'.events = Sample.unrecordable.events ++ told ∧
        Sample.engine.Reports r w₀ f told := by
  have hreports := failure_is_reported Sample.engine Sample.key .zero
    (w := Sample.unrecordable) rfl
  exact ⟨_, _, _, _, rfl, rfl, by decide, rfl, hreports.of_error rfl⟩

end ResourceSync
