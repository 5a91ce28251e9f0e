import ResourceSync.Proofs.Synchronized

/-! Prometheus rules side by side in a namespace. Their alerts keep out of each other's way unless
the name of one rule goes on behind that of another. -/
namespace ResourceSync.PrometheusRule

open ShelfServer

variable {r r' : PrometheusRule} {s : ShelfServer} {inNamespace n n' : String} {m : Metadata}
  {w w' : Resource .alert}

/-- A rule as the cluster keeps it, under a name in a namespace. -/
structure StandsAt (r : PrometheusRule) (inNamespace n : String) : Prop where
  inNamespace : r.metadata.inNamespace = some inNamespace
  name : r.metadata.name = some n
  uid : ∃ uid, r.metadata.uid = some uid

/-- No alert of a rule with one name has the name of an alert of a rule with the other name. -/
def Apart (n n' : String) : Prop :=
  ∀ inNamespace r r' w w', StandsAt r inNamespace n → StandsAt r' inNamespace n' →
    r.Generates .alert w → r'.Generates .alert w' → w.metadata.anyName ≠ w'.metadata.anyName

/-- The server after a synchronization, successful or not. -/
def synchronized (r : PrometheusRule) (s : ShelfServer) : ShelfServer :=
  (StateT.run (r.synchronize api) s).2

/-- Synchronizing rules with one name leaves the alerts of rules with the other name as they are. -/
def Spares (n' n : String) : Prop :=
  ∀ inNamespace r r' s w a, StandsAt r inNamespace n → StandsAt r' inNamespace n' →
    r.Generates .alert w → (s.shelves .alert inNamespace).get? w.metadata.anyName = some a →
    r.Owns a.metadata →
    ((r'.synchronized s).shelves .alert inNamespace).get? w.metadata.anyName = some a

theorem StandsAt.name_eq (h : r.StandsAt inNamespace n) : r.name = n := by
  rw [PrometheusRule.name, Metadata.anyName, h.name]
  rfl

theorem name_eq_of_owns (h : r.Owns m) (h' : r'.Owns m) : r.name = r'.name :=
  Option.some.inj (h.label.symm.trans h'.label)

theorem anyName_of_generates (h : r.StandsAt inNamespace n) (hw : r.Generates .alert w) :
    ∃ alert i, w.metadata.anyName = alertName n alert i := by
  cases hw with
  | alert hwanted hw =>
    obtain ⟨alert, i, hmetadata⟩ := metadata_of_wantedAlerts hwanted w hw
    refine ⟨alert, i, ?_⟩
    rw [hmetadata, h.name_eq]
    rfl

theorem standsAt_single (n alert : String) : (single n alert).StandsAt "default" n :=
  ⟨rfl, rfl, n, rfl⟩

theorem generates_single (n alert : String) :
    (single n alert).Generates .alert (singleAlert n alert) :=
  .alert (wantedAlerts_single n alert) (List.mem_singleton_self _)

theorem confined_synchronized (h : r.StandsAt inNamespace n) :
    s.shelves.Confined r inNamespace (r.synchronized s).shelves := by
  have hends := ends_synchronize (s := s) h.inNamespace
  unfold synchronized
  rcases hrun : StateT.run (r.synchronize api) s with ⟨_ | _, s'⟩
  · exact (hends.of_error hrun).1
  · exact (hends.of_ok hrun).1

/-- Where nothing is refused, what a rule asks for is its own afterwards. -/
theorem owns_of_synchronized (h : r.StandsAt inNamespace n) (hcalm : s.refusals = [])
    (hconverts : r.Converts) (hw : r.Generates .alert w) :
    ∃ a, ((r.synchronized s).shelves .alert inNamespace).get? w.metadata.anyName = some a ∧
      r.Owns a.metadata := by
  have hends := ends_synchronize (s := s) h.inNamespace
  unfold synchronized
  rcases hrun : StateT.run (r.synchronize api) s with ⟨_ | _, s'⟩
  · exact absurd hconverts ((hends.of_error hrun).2.1 hcalm)
  · obtain ⟨-, -, wanted, hwanted, halerts⟩ := hends.of_ok hrun
    cases hw with
    | alert hwanted' hw =>
      obtain rfl := Except.ok.inj (hwanted.symm.trans hwanted')
      obtain ⟨uid, huid⟩ := h.uid
      obtain ⟨a, hfound, howns, -⟩ := halerts.owns h.name huid hwanted hw
      exact ⟨a, hfound, howns⟩

section names
variable (hne : n ≠ n')
include hne

theorem apart_of_not_extends (h : ¬ (Extends n n' ∨ Extends n' n)) : Apart n n' := by
  intro inNamespace r r' w w' hr hr' hw hw' heq
  obtain ⟨alert, i, hname⟩ := anyName_of_generates hr hw
  obtain ⟨alert', i', hname'⟩ := anyName_of_generates hr' hw'
  rw [hname, hname'] at heq
  exact h (extends_of_alertName_eq hne heq)

theorem spares_of_apart (h : Apart n n') : Spares n' n := by
  intro inNamespace r r' s w a hr hr' hw hfound howns
  have hhandled := (confined_synchronized (s := s) hr').handled .alert w.metadata.anyName
  generalize ((r'.synchronized s).shelves .alert inNamespace).get? w.metadata.anyName = after
    at hhandled
  cases hhandled with
  | keeps => exact hfound
  | applies hw' hname => exact absurd hname.symm (h inNamespace r r' _ _ hr hr' hw hw')
  | erases _ hbefore howns' =>
    obtain rfl := Option.some.inj (hfound.symm.trans hbefore)
    have hname := name_eq_of_owns howns howns'
    rw [hr.name_eq, hr'.name_eq] at hname
    exact absurd hname hne

/-- Two rules with an alert each show it. -/
theorem not_spares_of_extends (h : Extends n n' ∨ Extends n' n) : ¬ Spares n' n := by
  intro hspares
  obtain ⟨alert, alert', hname⟩ := exists_alertName_eq h 0
  have hsame : (singleAlert n alert).metadata.anyName = (singleAlert n' alert').metadata.anyName :=
    hname
  have hr := standsAt_single n alert
  have hr' := standsAt_single n' alert'
  have hw := generates_single n alert
  let first : ShelfServer := ⟨((single n alert).synchronized ⟨fun _ _ => .empty, []⟩).shelves, []⟩
  obtain ⟨a, hfound, howns⟩ : ∃ a, (first.shelves .alert "default").get?
      (singleAlert n alert).metadata.anyName = some a ∧ (single n alert).Owns a.metadata :=
    owns_of_synchronized hr rfl (converts_single n alert) hw
  obtain ⟨a', hfound', howns'⟩ := owns_of_synchronized (s := first) hr' rfl
    (converts_single n' alert') (generates_single n' alert')
  have hstays := hspares "default" _ _ first _ a hr hr' hw hfound howns
  rw [hsame, hfound'] at hstays
  obtain rfl := Option.some.inj hstays
  exact hne (name_eq_of_owns howns howns')

/-- The alerts of rules with two names keep apart, and stay as they are when a rule with the other
name is synchronized, exactly if neither name goes on behind the other with a hyphen and words. -/
theorem apart_and_spares_iff :
    (Apart n n' ↔ ¬ (Extends n n' ∨ Extends n' n)) ∧
      (Spares n' n ↔ ¬ (Extends n n' ∨ Extends n' n)) := by
  have hspares : Apart n n' → Spares n' n := spares_of_apart hne
  have hextends : Spares n' n → ¬ (Extends n n' ∨ Extends n' n) :=
    fun h hextends => not_spares_of_extends hne hextends h
  have hapart : ¬ (Extends n n' ∨ Extends n' n) → Apart n n' := apart_of_not_extends hne
  exact ⟨⟨fun h => hextends (hspares h), hapart⟩, ⟨hextends, fun h => hspares (hapart h)⟩⟩

end names

/-- Rules named `api` and `web` never meet. -/
theorem api_and_web_are_apart : "api" ≠ "web" ∧ Apart "api" "web" ∧ Spares "web" "api" := by
  have hne : "api" ≠ "web" := by decide
  have hextends : ¬ (Extends "api" "web" ∨ Extends "web" "api") := by
    rintro (⟨t, -, h⟩ | ⟨t, -, h⟩) <;> simp at h
  obtain ⟨hapart, hspares⟩ := apart_and_spares_iff hne
  exact ⟨hne, hapart.2 hextends, hspares.2 hextends⟩

/-- The alert `b-c` of a rule named `a` is taken over for the alert `c` of one named `a-b`. -/
theorem alert_is_taken_over :
    let first := (single "a" "b-c").synchronized ⟨fun _ _ => .empty, []⟩
    let second := (single "a-b" "c").synchronized ⟨first.shelves, []⟩
    alertName "a" "b-c" 0 = alertName "a-b" "c" 0 ∧
    (∃ a, (first.shelves .alert "default").get? "a-b-c-0" = some a ∧
      (single "a" "b-c").Owns a.metadata) ∧
    ∃ a, (second.shelves .alert "default").get? "a-b-c-0" = some a ∧
      (single "a-b" "c").Owns a.metadata ∧ ¬ (single "a" "b-c").Owns a.metadata := by
  intro first second
  refine ⟨by decide, ?_, ?_⟩
  · exact owns_of_synchronized (standsAt_single "a" "b-c") rfl (converts_single _ _)
      (generates_single _ _)
  · obtain ⟨a, hfound, howns⟩ := owns_of_synchronized (s := ⟨first.shelves, []⟩)
      (standsAt_single "a-b" "c") rfl (converts_single _ _) (generates_single _ _)
    refine ⟨a, hfound, howns, fun howns' => ?_⟩
    have hname : ("a-b" : String) = "a" := name_eq_of_owns howns howns'
    exact absurd hname (by decide)

end ResourceSync.PrometheusRule
