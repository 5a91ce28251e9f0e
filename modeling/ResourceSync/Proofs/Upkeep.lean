import ResourceSync.Proofs.Generated
import ResourceSync.Proofs.Shelves

/-! The upkeep of the objects that a Prometheus rule asks for. A synchronization that succeeds leaves
exactly those to the rule, and no synchronization touches what is not the rule's. -/
namespace ResourceSync

open PrometheusRule (Generates Owns request convert trackRecording sourceLabel)

variable {α β : Type} {k k' : Kind} {r : PrometheusRule} {c c₁ c₂ : Shelves}
  {inNamespace ns name : String}

/-- What becomes of the object under a name: nothing, or one that the rule asks for is applied, or it
was the rule's, is not asked for and is gone. -/
inductive PrometheusRule.Handles (r : PrometheusRule) (name : String) (before : Option (Resource k)) :
    Option (Resource k) → Prop where
  | keeps : r.Handles name before before
  | applies {w a : Resource k} (hw : r.Generates k w) (hname : w.metadata.anyName = name)
    (ha : a.IsApplied w) : r.Handles name before (some a)
  | erases {a : Resource k} (hunasked : ∀ w, r.Generates k w → w.metadata.anyName ≠ name)
    (hbefore : before = some a) (howns : r.Owns a.metadata) : r.Handles name before none

theorem PrometheusRule.Handles.trans {o o₁ o₂ : Option (Resource k)} (h : r.Handles name o o₁)
    (h₁ : r.Handles name o₁ o₂) : r.Handles name o o₂ := by
  cases h₁ with
  | keeps => exact h
  | applies hw hname ha => exact .applies hw hname ha
  | erases hunasked hbefore howns =>
    cases h with
    | keeps => exact .erases hunasked hbefore howns
    | applies hw hname => exact absurd hname (hunasked _ hw)
    | erases => cases hbefore

/-- What a synchronization may have done. -/
structure Shelves.Confined (r : PrometheusRule) (inNamespace : String) (before after : Shelves) :
    Prop where
  handled : ∀ k name,
    r.Handles name ((before k inNamespace).get? name) ((after k inNamespace).get? name)
  elsewhere : ∀ k ns, ns ≠ inNamespace → after k ns = before k ns

namespace Shelves.Confined

theorem refl : c.Confined r inNamespace c := ⟨fun _ _ => .keeps, fun _ _ _ => rfl⟩

theorem trans (h : c.Confined r inNamespace c₁) (h₁ : c₁.Confined r inNamespace c₂) :
    c.Confined r inNamespace c₂ where
  handled k name := (h.handled k name).trans (h₁.handled k name)
  elsewhere k ns hns := (h₁.elsewhere k ns hns).trans (h.elsewhere k ns hns)

/-- What one shelf is replaced by has to be accounted for on that shelf alone. -/
theorem put {shelf : Shelf k}
    (h : ∀ name, r.Handles name ((c k inNamespace).get? name) (shelf.get? name)) :
    c.Confined r inNamespace (c.put k inNamespace shelf) where
  handled k' name := by
    by_cases hk : k' = k
    · subst hk
      rw [Shelves.put_self]
      exact h name
    · rw [Shelves.put_of_kind_ne hk]
      exact .keeps
  elsewhere k' ns hns := by
    by_cases hk : k' = k
    · subst hk
      exact Shelves.put_of_namespace_ne hns
    · rw [Shelves.put_of_kind_ne hk]

theorem apply {w : Resource k} (hw : r.Generates k w) :
    c.Confined r inNamespace (c.put k inNamespace ((c k inNamespace).apply w)) := by
  refine put ?_
  intro name
  rw [Shelf.get?_apply]
  by_cases hname : name = w.metadata.anyName
  · subst hname
    rw [Function.update_self]
    exact .applies hw rfl Shelf.isApplied_applied
  · rw [Function.update_of_ne hname]
    exact .keeps

theorem erase (hunasked : ∀ w, r.Generates k w → w.metadata.anyName ≠ name)
    (howns : ∀ a, (c k inNamespace).get? name = some a → r.Owns a.metadata) :
    c.Confined r inNamespace (c.put k inNamespace ((c k inNamespace).erase name)) := by
  refine put ?_
  intro name'
  rw [Shelf.get?_erase]
  by_cases hname : name' = name
  · subst hname
    rw [Function.update_self]
    cases ha : (c k inNamespace).get? name' with
    | none => exact .keeps
    | some a => exact .erases hunasked rfl (howns a ha)
  · rw [Function.update_of_ne hname]
    exact .keeps

end Shelves.Confined

/-- What was done was done to objects of one kind, and no refusals were made up. -/
structure ShelfServer.Tended (r : PrometheusRule) (k : Kind) (inNamespace : String)
    (before after : ShelfServer) : Prop where
  confined : before.shelves.Confined r inNamespace after.shelves
  others : ∀ k', k' ≠ k → after.shelves k' = before.shelves k'
  calm : before.refusals = [] → after.refusals = []

namespace ShelfServer.Tended
variable {s s₁ s₂ : ShelfServer}

/-- Nothing was done. -/
theorem idle (hshelves : s₁.shelves = s.shelves) (hcalm : s.refusals = [] → s₁.refusals = []) :
    s.Tended r k inNamespace s₁ :=
  ⟨hshelves ▸ .refl, fun _ _ => by rw [hshelves], hcalm⟩

theorem refused (hrefusals : s.refusals ≠ []) (hshelves : s₁.shelves = s.shelves) :
    s.Tended r k inNamespace s₁ :=
  idle hshelves fun hcalm => absurd hcalm hrefusals

theorem trans (h : s.Tended r k inNamespace s₁) (h₁ : s₁.Tended r k inNamespace s₂) :
    s.Tended r k inNamespace s₂ where
  confined := h.confined.trans h₁.confined
  others k' hk := (h₁.others k' hk).trans (h.others k' hk)
  calm hcalm := h₁.calm (h.calm hcalm)

theorem apply {w : Resource k} (hw : r.Generates k w)
    (hshelves : s₁.shelves = s.shelves.put k inNamespace ((s.shelves k inNamespace).apply w))
    (hcalm : s.refusals = [] → s₁.refusals = []) : s.Tended r k inNamespace s₁ where
  confined := hshelves ▸ .apply hw
  others _ hk := by rw [hshelves, Shelves.put_of_kind_ne hk]
  calm := hcalm

theorem erase (hunasked : ∀ w, r.Generates k w → w.metadata.anyName ≠ name)
    (howns : ∀ a, (s.shelves k inNamespace).get? name = some a → r.Owns a.metadata)
    (hshelves : s₁.shelves = s.shelves.put k inNamespace ((s.shelves k inNamespace).erase name))
    (hcalm : s.refusals = [] → s₁.refusals = []) : s.Tended r k inNamespace s₁ where
  confined := hshelves ▸ .erase hunasked howns
  others _ hk := by rw [hshelves, Shelves.put_of_kind_ne hk]
  calm := hcalm

end ShelfServer.Tended

namespace ShelfServer
variable {s s' : ShelfServer} {Q Q' : α → ShelfServer → Prop}
  {E E' : Halt SyncError → ShelfServer → Prop} {contexts : List String}

/-- However a step ends: `Q` holds of its value and the server it leaves, `E` of its failure. -/
def Ends (x : PrometheusRule.SyncStep (StateM ShelfServer) α) (s : ShelfServer)
    (Q : α → ShelfServer → Prop) (E : Halt SyncError → ShelfServer → Prop) : Prop :=
  match StateT.run x.run s with
  | (.ok a, s') => Q a s'
  | (.error h, s') => E h s'

variable {x : PrometheusRule.SyncStep (StateM ShelfServer) α}

theorem Ends.imp (h : Ends x s Q E) (hQ : ∀ a s', Q a s' → Q' a s') (hE : ∀ f s', E f s' → E' f s') :
    Ends x s Q' E' := by
  unfold Ends at h ⊢
  split at h
  · exact hQ _ _ h
  · exact hE _ _ h

theorem Ends.of_ok {a : α} (h : Ends x s Q E) (hrun : StateT.run x.run s = (.ok a, s')) : Q a s' := by
  unfold Ends at h
  rw [hrun] at h
  exact h

theorem Ends.of_error {f : Halt SyncError} (h : Ends x s Q E)
    (hrun : StateT.run x.run s = (.error f, s')) : E f s' := by
  unfold Ends at h
  rw [hrun] at h
  exact h

theorem ends_bind {y : α → PrometheusRule.SyncStep (StateM ShelfServer) β}
    {Q : β → ShelfServer → Prop} :
    Ends (x >>= y) s Q E ↔ Ends x s (fun a s' => Ends (y a) s' Q E) E := by
  have hrun : StateT.run (x >>= y).run s = match StateT.run x.run s with
      | (.ok a, s') => StateT.run (y a).run s'
      | (.error h, s') => (.error h, s') := by
    rw [ExceptT.run_bind, StateT.run_bind]
    rcases StateT.run x.run s with ⟨_ | _, s'⟩ <;> rfl
  unfold Ends
  rw [hrun]
  rcases StateT.run x.run s with ⟨_ | _, s'⟩ <;> rfl

theorem ends_convert {y : Checked ConversionError α} : Ends (convert y) s Q E ↔
    match y with
    | .ok a => Q a s
    | .error h => E (h.mapCause .conversion) s := by
  cases y <;> rfl

/-- A request is refused, which changes nothing, or it is answered. -/
theorem ends_request (answer : Shelves → Except ApiError α × Shelves)
    (hrefused : ∀ e s', s.refusals ≠ [] → s'.shelves = s.shelves →
      E (.refused (.cluster ⟨contexts, e⟩)) s')
    (hanswered : ∀ s', s'.shelves = (answer s.shelves).2 → (s.refusals = [] → s'.refusals = []) →
      match (answer s.shelves).1 with
      | .ok a => Q a s'
      | .error e => E (.refused (.cluster ⟨contexts, e⟩)) s') :
    Ends (request contexts (serve answer)) s Q E := by
  have hrun : StateT.run (request contexts (serve answer)).run s =
      ((serve answer s).1.mapError fun e => .refused (.cluster ⟨contexts, e⟩), (serve answer s).2) :=
    rfl
  have hserved (rest : List (Option ApiError)) (hrest : s.refusals = [] → rest = []) :
      match (((answer s.shelves).1.mapError fun e => Halt.refused (SyncError.cluster ⟨contexts, e⟩)),
        (⟨(answer s.shelves).2, rest⟩ : ShelfServer)) with
      | (.ok a, s') => Q a s'
      | (.error h, s') => E h s' := by
    have h := hanswered ⟨(answer s.shelves).2, rest⟩ rfl hrest
    cases hanswer : (answer s.shelves).1 with
    | ok a =>
      simp only [hanswer] at h
      exact h
    | error e =>
      simp only [hanswer] at h
      exact h
  unfold Ends
  rw [hrun]
  obtain ⟨shelves, refusals⟩ := s
  match refusals, hrefused, hserved with
  | [], _, hserved => exact hserved [] fun h => h
  | none :: rest, _, hserved => exact hserved rest fun h => by cases h
  | some e :: rest, hrefused, _ => exact hrefused e ⟨shelves, rest⟩ (by simp) rfl

/-- The rule for a request to apply. -/
theorem ends_apply {w : Resource k} {Q : Unit → ShelfServer → Prop}
    (hrefused : ∀ e s', s.refusals ≠ [] → s'.shelves = s.shelves →
      E (.refused (.cluster ⟨contexts, e⟩)) s')
    (hanswered : ∀ s', s'.shelves = s.shelves.put k inNamespace
      ((s.shelves k inNamespace).apply w) → (s.refusals = [] → s'.refusals = []) → Q () s') :
    Ends (request contexts (api.apply k inNamespace w)) s Q E :=
  ends_request (fun c => (.ok (), c.put k inNamespace ((c k inNamespace).apply w))) hrefused
    hanswered

theorem ends_generatedFrom {Q : List (Resource k) → ShelfServer → Prop}
    (hrefused : ∀ e s', s.refusals ≠ [] → s'.shelves = s.shelves →
      E (.refused (.cluster ⟨contexts, e⟩)) s')
    (hanswered : ∀ s', s'.shelves = s.shelves → (s.refusals = [] → s'.refusals = []) →
      Q ((s.shelves k inNamespace).labelled sourceLabel name) s') :
    Ends (request contexts (api.generatedFrom k inNamespace name)) s Q E :=
  ends_request (fun c => (.ok ((c k inNamespace).labelled sourceLabel name), c)) hrefused hanswered

/-- The rule for a request to delete what is there. -/
theorem ends_delete {Q : Unit → ShelfServer → Prop}
    (hfound : ((s.shelves k inNamespace).get? name).isSome = true)
    (hrefused : ∀ e s', s.refusals ≠ [] → s'.shelves = s.shelves →
      E (.refused (.cluster ⟨contexts, e⟩)) s')
    (hanswered : ∀ s', s'.shelves = s.shelves.put k inNamespace
      ((s.shelves k inNamespace).erase name) → (s.refusals = [] → s'.refusals = []) → Q () s') :
    Ends (request contexts (api.delete k inNamespace name)) s Q E := by
  refine ends_request (fun c =>
    if ((c k inNamespace).get? name).isSome then
      (.ok (), c.put k inNamespace ((c k inNamespace).erase name))
    else (.error (.status 404 "NotFound"), c)) hrefused ?_
  intro s' hs' hcalm
  simp only [hfound, if_true] at hs' ⊢
  exact hanswered s' hs' hcalm

end ShelfServer

/-- Some objects are applied, and under other names all is as before. -/
structure Shelf.AppliedAll (ws : List (Resource k)) (before after : Shelf k) : Prop where
  applied : ∀ w ∈ ws, ∃ a, after.get? w.metadata.anyName = some a ∧ a.IsApplied w
  rest : ∀ name, name ∉ ws.map (·.metadata.anyName) → after.get? name = before.get? name

/-- Some names are free, and under others all is as before. -/
structure Shelf.ErasedAll (names : List String) (before after : Shelf k) : Prop where
  erased : ∀ name ∈ names, after.get? name = none
  rest : ∀ name, name ∉ names → after.get? name = before.get? name

theorem Shelf.ErasedAll.of_get? {before after : Shelf k} {names : List String} {a : Resource k}
    (h : before.ErasedAll names after) (ha : after.get? name = some a) :
    name ∉ names ∧ before.get? name = some a := by
  by_cases hmem : name ∈ names
  · rw [h.erased name hmem] at ha
    cases ha
  · rw [h.rest name hmem] at ha
    exact ⟨hmem, ha⟩

namespace ShelfServer
variable {s s' : ShelfServer}

/-- Objects with different names that the rule asks for are applied one after the other. -/
theorem ends_applyAll {contexts : Resource k → List String} {ws : List (Resource k)}
    (hgenerates : ∀ w ∈ ws, r.Generates k w)
    (hnames : (ws.map (·.metadata.anyName)).Nodup) :
    Ends (ws.forM fun w => request (contexts w) (api.apply k inNamespace w)) s
      (fun _ s' => s.Tended r k inNamespace s' ∧
        (s.shelves k inNamespace).AppliedAll ws (s'.shelves k inNamespace))
      fun _ s' => s.Tended r k inNamespace s' ∧ s.refusals ≠ [] := by
  induction ws generalizing s with
  | nil => exact ⟨.idle rfl id, by simp, fun _ _ => rfl⟩
  | cons w ws ih =>
    obtain ⟨hw, hws⟩ := List.forall_mem_cons.1 hgenerates
    obtain ⟨hname, hnames⟩ := List.nodup_cons.1 hnames
    rw [List.forM, ends_bind]
    refine ends_apply ?_ ?_
    · intro e s' hrefusals hs'
      exact ⟨.refused hrefusals hs', hrefusals⟩
    · intro s₁ hs₁ hcalm
      have hstep : s.Tended r k inNamespace s₁ := .apply hw hs₁ hcalm
      have hshelf : (s₁.shelves k inNamespace).get? =
          Function.update (s.shelves k inNamespace).get? w.metadata.anyName
            (some ((s.shelves k inNamespace).applied w)) := by
        rw [hs₁, Shelves.put_self, Shelf.get?_apply]
      refine (ih hws hnames).imp ?_ fun f s' h => ⟨hstep.trans h.1, mt hcalm h.2⟩
      rintro - s' ⟨htended, happlied⟩
      refine ⟨hstep.trans htended, ?_, ?_⟩
      · refine List.forall_mem_cons.2 ⟨?_, happlied.applied⟩
        refine ⟨(s.shelves k inNamespace).applied w, ?_, Shelf.isApplied_applied⟩
        rw [happlied.rest _ hname, hshelf, Function.update_self]
      · intro name hmem
        rw [List.map_cons, List.mem_cons, not_or] at hmem
        rw [happlied.rest name hmem.2, hshelf, Function.update_of_ne hmem.1]

/-- Objects of the rule that it does not ask for are deleted one after the other. -/
theorem ends_deleteAll {contexts : List String} {l : List α} {f : α → String}
    (hunasked : ∀ x ∈ l, ∀ w, r.Generates k w → w.metadata.anyName ≠ f x)
    (howned : ∀ x ∈ l, ∃ a, (s.shelves k inNamespace).get? (f x) = some a ∧ r.Owns a.metadata)
    (hnames : (l.map f).Nodup) :
    Ends (l.forM fun x => request contexts (api.delete k inNamespace (f x))) s
      (fun _ s' => s.Tended r k inNamespace s' ∧
        (s.shelves k inNamespace).ErasedAll (l.map f) (s'.shelves k inNamespace))
      fun _ s' => s.Tended r k inNamespace s' ∧ s.refusals ≠ [] := by
  induction l generalizing s with
  | nil => exact ⟨.idle rfl id, by simp, fun _ _ => rfl⟩
  | cons x l ih =>
    obtain ⟨⟨a, hfound, howns⟩, howned⟩ := List.forall_mem_cons.1 howned
    obtain ⟨hunaskedx, hunasked⟩ := List.forall_mem_cons.1 hunasked
    obtain ⟨hname, hnames⟩ := List.nodup_cons.1 hnames
    rw [List.forM, ends_bind]
    refine ends_delete (by rw [hfound]; rfl) ?_ ?_
    · intro e s' hrefusals hs'
      exact ⟨.refused hrefusals hs', hrefusals⟩
    · intro s₁ hs₁ hcalm
      have hstep : s.Tended r k inNamespace s₁ := by
        refine .erase hunaskedx ?_ hs₁ hcalm
        intro a' hfound'
        obtain rfl : a = a' := Option.some.inj (hfound.symm.trans hfound')
        exact howns
      have hshelf : (s₁.shelves k inNamespace).get? =
          Function.update (s.shelves k inNamespace).get? (f x) none := by
        rw [hs₁, Shelves.put_self, Shelf.get?_erase]
      have howned₁ : ∀ y ∈ l, ∃ a, (s₁.shelves k inNamespace).get? (f y) = some a ∧
          r.Owns a.metadata := by
        intro y hy
        have hne : f y ≠ f x := fun h => hname (h ▸ List.mem_map_of_mem hy)
        rw [hshelf, Function.update_of_ne hne]
        exact howned y hy
      refine (ih hunasked howned₁ hnames).imp ?_ fun h s' h' => ⟨hstep.trans h'.1, mt hcalm h'.2⟩
      rintro - s' ⟨htended, herased⟩
      refine ⟨hstep.trans htended, ?_, ?_⟩
      · refine List.forall_mem_cons.2 ⟨?_, herased.erased⟩
        rw [herased.rest _ hname, hshelf, Function.update_self]
      · intro name hmem
        rw [List.map_cons, List.mem_cons, not_or] at hmem
        rw [herased.rest name hmem.2, hshelf, Function.update_of_ne hmem.1]

/-- Applying once more what is applied changes nothing. -/
theorem ends_applyAll_again {contexts : Resource k → List String} {ws : List (Resource k)}
    (hcalm : s.refusals = []) (happlied : ∀ w ∈ ws, ∃ a,
      (s.shelves k inNamespace).get? w.metadata.anyName = some a ∧ a.IsApplied w) :
    Ends (ws.forM fun w => request (contexts w) (api.apply k inNamespace w)) s
      (fun _ s' => s' = s) fun _ _ => False := by
  induction ws with
  | nil => rfl
  | cons w ws ih =>
    obtain ⟨⟨a, hfound, ha⟩, hws⟩ := List.forall_mem_cons.1 happlied
    rw [List.forM, ends_bind]
    refine ends_apply (fun _ _ hrefusals => absurd hcalm hrefusals) ?_
    intro s₁ hs₁ hrefusals
    rw [Shelf.apply_of_isApplied hfound ha, Shelves.put_eq_self] at hs₁
    obtain rfl : s₁ = s := ShelfServer.ext hs₁ ((hrefusals hcalm).trans hcalm.symm)
    exact ih hws

end ShelfServer

namespace PrometheusRule
variable {s s' : ShelfServer} {wanted : List (Resource .alert)} {n uid : String} {shelf : Shelf k}

open ShelfServer

/-- The objects on a shelf that belong to a rule. -/
def owned (r : PrometheusRule) (shelf : Shelf k) : List (Resource k) :=
  (shelf.labelled sourceLabel r.name).filter fun a => r.controls a.metadata

theorem mem_owned {a : Resource k} :
    a ∈ r.owned shelf ↔ (∃ name, shelf.get? name = some a) ∧ r.Owns a.metadata := by
  rw [owned, List.mem_filter, Shelf.mem_labelled, and_assoc]
  exact and_congr_right fun _ => ⟨fun h => ⟨h.1, h.2⟩, fun h => ⟨h.1, h.2⟩⟩

theorem mem_owned_names : name ∈ (r.owned shelf).map (·.metadata.anyName) ↔
    ∃ a, shelf.get? name = some a ∧ r.Owns a.metadata := by
  rw [List.mem_map]
  constructor
  · rintro ⟨a, ha, rfl⟩
    obtain ⟨⟨name, hfound⟩, howns⟩ := mem_owned.1 ha
    rw [Shelf.anyName_of_get? hfound]
    exact ⟨a, hfound, howns⟩
  · rintro ⟨a, hfound, howns⟩
    exact ⟨a, mem_owned.2 ⟨⟨name, hfound⟩, howns⟩, Shelf.anyName_of_get? hfound⟩

theorem nodup_owned_names : ((r.owned shelf).map (·.metadata.anyName)).Nodup :=
  Shelf.nodup_labelled_names.sublist (List.filter_sublist.map _)

theorem mem_staleNames_owned {desired : List String} :
    name ∈ staleNames ((r.owned shelf).map (·.metadata.anyName)) desired ↔
      (∃ a, shelf.get? name = some a ∧ r.Owns a.metadata) ∧ name ∉ desired := by
  rw [staleNames, List.mem_filter, mem_owned_names]
  simp

/-- The sets of a rule are as it wants them. -/
def RecordsInLine (r : PrometheusRule) (shelf : Shelf .recordingRuleGroupSet) : Prop :=
  if r.tracks trackRecording then
    ∃ set a, r.recordingRuleGroupSet = .ok set ∧ shelf.get? r.name = some a ∧ a.IsApplied set
  else ∀ name a, shelf.get? name = some a → ¬ r.Owns a.metadata

/-- The alerts of a rule are those that are wanted. -/
structure AlertsInLine (r : PrometheusRule) (wanted : List (Resource .alert))
    (shelf : Shelf .alert) : Prop where
  applied : ∀ w ∈ wanted, ∃ a, shelf.get? w.metadata.anyName = some a ∧ a.IsApplied w
  others : ∀ name a, shelf.get? name = some a → r.Owns a.metadata →
    name ∈ wanted.map (·.metadata.anyName)

theorem anyName_of_recordingRuleGroupSet {set : Resource .recordingRuleGroupSet}
    (h : r.recordingRuleGroupSet = .ok set) : set.metadata.anyName = r.name := by
  rw [metadata_of_recordingRuleGroupSet h]
  rfl

/-- Each part of the rule that is tracked can be converted. -/
structure Converts (r : PrometheusRule) : Prop where
  recording : r.tracks trackRecording = true → ∃ set, r.recordingRuleGroupSet = .ok set
  alerting : ∃ wanted, r.wantedAlerts = .ok wanted

theorem ends_syncRecording : Ends (r.syncRecording api inNamespace) s
    (fun _ s' => s.Tended r .recordingRuleGroupSet inNamespace s' ∧
      r.RecordsInLine (s'.shelves .recordingRuleGroupSet inNamespace))
    fun _ s' => s.Tended r .recordingRuleGroupSet inNamespace s' ∧
      (s.refusals = [] → ¬ r.Converts) := by
  unfold syncRecording RecordsInLine
  split
  · next htracks =>
    rw [ends_bind, ends_convert]
    cases hset : r.recordingRuleGroupSet with
    | error h =>
      refine ⟨.idle rfl id, ?_⟩
      rintro - ⟨hconverts, -⟩
      obtain ⟨set, hset'⟩ := hconverts htracks
      rw [hset] at hset'
      cases hset'
    | ok set =>
      refine ends_apply ?_ ?_
      · intro e s' hrefusals hs'
        exact ⟨.refused hrefusals hs', fun hcalm => absurd hcalm hrefusals⟩
      · intro s' hs' hcalm
        refine ⟨.apply (.set htracks hset) hs' hcalm, set,
          (s.shelves .recordingRuleGroupSet inNamespace).applied set, rfl, ?_,
          Shelf.isApplied_applied⟩
        rw [hs', Shelves.put_self, Shelf.get?_apply, anyName_of_recordingRuleGroupSet hset,
          Function.update_self]
  · next htracks =>
    have hunasked : ∀ w, ¬ r.Generates .recordingRuleGroupSet w := by
      rintro w ⟨h, -⟩
      exact htracks h
    rw [ends_bind]
    refine ends_generatedFrom ?_ ?_
    · intro e s' hrefusals hs'
      exact ⟨.refused hrefusals hs', fun hcalm => absurd hcalm hrefusals⟩
    · intro s₁ hs₁ hcalm
      have hstep : s.Tended r .recordingRuleGroupSet inNamespace s₁ := .idle hs₁ hcalm
      rw [← hs₁]
      change Ends (List.forM (r.owned (s₁.shelves .recordingRuleGroupSet inNamespace)) _) s₁ _ _
      refine (ends_deleteAll (fun _ _ w hw => absurd hw (hunasked w))
        (fun x hx => mem_owned_names.1 (List.mem_map_of_mem hx)) nodup_owned_names).imp ?_ ?_
      · rintro - s' ⟨htended, herased⟩
        refine ⟨hstep.trans htended, ?_⟩
        intro name a ha howns
        obtain ⟨hkept, ha⟩ := herased.of_get? ha
        exact hkept (mem_owned_names.2 ⟨a, ha, howns⟩)
      · rintro f s' ⟨htended, hrefusals⟩
        exact ⟨hstep.trans htended, fun h => absurd (hcalm h) hrefusals⟩

/-- With an invalid alerting rule nothing is done. -/
theorem ends_syncAlerts : Ends (r.syncAlerts api inNamespace) s
    (fun _ s' => s.Tended r .alert inNamespace s' ∧
      ∃ wanted, r.wantedAlerts = .ok wanted ∧ r.AlertsInLine wanted (s'.shelves .alert inNamespace))
    fun _ s' => s.Tended r .alert inNamespace s' ∧ (s.refusals = [] → ¬ r.Converts) ∧
      ∀ h, r.wantedAlerts = .error h → s'.shelves = s.shelves := by
  unfold syncAlerts
  rw [ends_bind, ends_convert]
  cases hwanted : r.wantedAlerts with
  | error h =>
    refine ⟨.idle rfl id, ?_, fun _ _ => rfl⟩
    rintro - ⟨-, wanted, hwanted'⟩
    rw [hwanted] at hwanted'
    cases hwanted'
  | ok wanted =>
    simp only [ends_bind]
    refine (ends_applyAll (fun w hw => .alert hwanted hw) (nodup_wantedAlerts hwanted)).imp ?_
      fun h s' h' => ⟨h'.1, fun hcalm => absurd hcalm h'.2, nofun⟩
    rintro - s₁ ⟨htended₁, happlied⟩
    refine ends_generatedFrom ?_ ?_
    · intro e s' hrefusals hs'
      exact ⟨htended₁.trans (.refused hrefusals hs'),
        fun hcalm => absurd (htended₁.calm hcalm) hrefusals, nofun⟩
    · intro s₂ hs₂ hcalm
      replace htended₁ := htended₁.trans (.idle hs₂ hcalm)
      rw [← hs₂] at happlied ⊢
      change Ends (List.forM (staleNames ((r.owned (s₂.shelves .alert inNamespace)).map
        (·.metadata.anyName)) (wanted.map (·.metadata.anyName))) _) s₂ _ _
      refine (ends_deleteAll (f := id) ?_ (fun name hstale => (mem_staleNames_owned.1 hstale).1)
        ?_).imp ?_ fun h s' h' => ⟨htended₁.trans h'.1,
          fun hcalm => absurd (htended₁.calm hcalm) h'.2, nofun⟩
      · intro name hstale w hw hname
        cases hw with
        | alert hwanted' hw =>
          obtain rfl : wanted = _ := Except.ok.inj (hwanted.symm.trans hwanted')
          exact (mem_staleNames_owned.1 hstale).2 (List.mem_map.2 ⟨w, hw, hname⟩)
      · rw [List.map_id]
        exact nodup_owned_names.filter _
      · rintro - s' ⟨htended, herased⟩
        rw [List.map_id] at herased
        refine ⟨htended₁.trans htended, wanted, rfl, ?_, ?_⟩
        · intro w hw
          obtain ⟨a, ha, hw'⟩ := happlied.applied w hw
          refine ⟨a, ?_, hw'⟩
          rw [herased.rest _ fun hstale =>
            (mem_staleNames_owned.1 hstale).2 (List.mem_map_of_mem hw), ha]
        · intro name a ha howns
          obtain ⟨hkept, ha⟩ := herased.of_get? ha
          by_contra hunwanted
          exact hkept (mem_staleNames_owned.2 ⟨⟨a, ha, howns⟩, hunwanted⟩)

end PrometheusRule

end ResourceSync
