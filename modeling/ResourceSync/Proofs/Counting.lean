import Mathlib.Tactic.SplitIfs
import ResourceSync.Proofs.Calls

/-! What passes note in the metrics. Where two passes are on different resources, it makes no
difference to counters and gauges which of them notes first. -/
namespace ResourceSync

namespace SortedMap
variable {κ α : Type} [KeyOrder κ] {m m' : SortedMap κ α} {key : κ} {a : α}

theorem get?_of_mem (h : (key, a) ∈ m.toList) : m.get? key = some a := by
  obtain ⟨l, hl⟩ := m
  simp only [get?, toList] at h ⊢
  induction l with
  | nil => cases h
  | cons e l ih =>
    obtain ⟨hfirst, hrest⟩ := List.pairwise_cons.1 hl
    rcases List.mem_cons.1 h with rfl | h
    · simp [find, KeyOrder.lt_irrefl]
    · have hlt : e.1 < key := hfirst _ h
      have hle : ¬ key < e.1 := fun h' => KeyOrder.lt_irrefl _ (KeyOrder.lt_trans hlt h')
      rw [find, if_neg hle, if_pos hlt]
      exact ih hrest h

theorem nodup_toList (m : SortedMap κ α) : m.toList.Nodup := by
  apply m.sorted.imp
  rintro e e' hlt rfl
  exact KeyOrder.lt_irrefl _ hlt

theorem nodup_keys (m : SortedMap κ α) : m.keys.Nodup := by
  refine List.pairwise_map.2 (m.sorted.imp ?_)
  intro e e' hlt heq
  rw [heq] at hlt
  exact KeyOrder.lt_irrefl _ hlt

/-- A map is what is found in it. -/
theorem eq_of_get?_eq (h : m.get? = m'.get?) : m = m' := by
  have hmem (e : κ × α) : e ∈ m.toList ↔ e ∈ m'.toList :=
    ⟨fun he => mem_toList_of_get? (h ▸ get?_of_mem he),
      fun he => mem_toList_of_get? (h ▸ get?_of_mem he)⟩
  have hperm := (List.perm_ext_iff_of_nodup m.nodup_toList m'.nodup_toList).2 hmem
  -- in ascending order there is only one list of the same entries
  have heq : m.toList = m'.toList := hperm.eq_of_pairwise
    (fun _ _ _ _ h₁ h₂ => (KeyOrder.lt_irrefl _ (KeyOrder.lt_trans h₁ h₂)).elim) m.sorted m'.sorted
  cases m
  cases m'
  cases heq
  rfl

end SortedMap

namespace Histogram
variable {h h' : Histogram}

/-- What is counted of the spans, their sum aside. -/
def counts (h : Histogram) : List Nat × Nat := (h.within, h.count)

theorem counts_observe (heq : h.counts = h'.counts) (d : Duration) :
    (h.observe d).counts = (h'.observe d).counts := by
  obtain ⟨hwithin, hcount⟩ := Prod.mk.inj heq
  simp only [counts, observe, hwithin, hcount]

theorem zipWith_comm {f g : Nat → Nat → Nat}
    (h : ∀ n bound, f (g n bound) bound = g (f n bound) bound) (l bounds : List Nat) :
    List.zipWith f (List.zipWith g l bounds) bounds =
      List.zipWith g (List.zipWith f l bounds) bounds := by
  induction l generalizing bounds with
  | nil => rfl
  | cons n l ih =>
    cases bounds with
    | nil => rfl
    | cons bound bounds => simp only [List.zipWith_cons_cons, h, ih]

theorem counts_observe_comm (h : Histogram) (d d' : Duration) :
    ((h.observe d).observe d').counts = ((h.observe d').observe d).counts := by
  simp only [counts, observe]
  rw [zipWith_comm]
  intro n bound
  split_ifs <;> rfl

end Histogram

/-- What a pass notes in the metrics of its kind. -/
inductive Note where
  | operation (operation : Operation)
  /-- A resource is in step under a type, or no longer in step. -/
  | stands (key : ObjectKey) (type : Option String)
  | ended (outcome : Outcome) (elapsed : Duration)

/-- The resource that is noted to be in step or not. -/
def Note.key? : Note → Option ObjectKey
  | stands key _ => some key
  | operation _ | ended _ _ => none

/-- The notes are not about one and the same resource. -/
def Note.Apart (n n' : Note) : Prop := ∀ key, n.key? = some key → n'.key? ≠ some key

namespace Metrics
variable {m m' m'' : Metrics} {kind : String} {n n' : Note} {key : ObjectKey}

def note (kind : String) (m : Metrics) : Note → Metrics
  | .operation o => m.recordOperation kind o.name
  | .stands key (some type) => m.setResource kind key.inNamespace key.name type
  | .stands key none => m.removeResource kind key.inNamespace key.name
  | .ended o elapsed => m.recordReconcile kind o.name elapsed

/-- The metrics after some notes. -/
def noted (kind : String) (m : Metrics) (notes : List Note) : Metrics := notes.foldl (note kind) m

/-- Counters and gauges are the same. Of durations only the counts are compared, since their sum
is rounded in the order in which they come. -/
structure Agrees (m m' : Metrics) : Prop where
  reconciliations : m.reconciliations = m'.reconciliations
  durations : ∀ key, (m.durations.get? key).map Histogram.counts =
    (m'.durations.get? key).map Histogram.counts
  operations : m.operations = m'.operations
  resources : m.resources = m'.resources
  types : m.types = m'.types
  leader : m.leader = m'.leader

theorem Agrees.refl (m : Metrics) : m.Agrees m := ⟨rfl, fun _ => rfl, rfl, rfl, rfl, rfl⟩

theorem Agrees.trans (h : m.Agrees m') (h' : m'.Agrees m'') : m.Agrees m'' where
  reconciliations := h.reconciliations.trans h'.reconciliations
  durations key := (h.durations key).trans (h'.durations key)
  operations := h.operations.trans h'.operations
  resources := h.resources.trans h'.resources
  types := h.types.trans h'.types
  leader := h.leader.trans h'.leader

theorem Agrees.of_eq (h : m = m') : m.Agrees m' := h ▸ .refl m

theorem increment_comm (series : SortedMap LabelValues Nat) (key key' : LabelValues) :
    increment (increment series key) key' = increment (increment series key') key := by
  apply SortedMap.eq_of_get?_eq
  funext s
  simp only [increment, SortedMap.get?_insert]
  grind

/-- The series that tell under which type a resource stands, after a change of that type. -/
def restated (series : LabelValues → Option Nat) (labels : LabelValues)
    (last type : Option String) : LabelValues → Option Nat := fun s =>
  if type.map (labels ++ [·]) = some s then some 1
  else if last.map (labels ++ [·]) = some s then none
  else series s

theorem restated_comm {series : LabelValues → Option Nat} {labels labels' : LabelValues}
    {last last' type type' : Option String} (h : labels ≠ labels') :
    restated (restated series labels last type) labels' last' type' =
      restated (restated series labels' last' type') labels last type := by
  have hne (t t' : Option String) {s : LabelValues} (ht : t.map (labels ++ [·]) = some s)
      (ht' : t'.map (labels' ++ [·]) = some s) : False := by
    obtain ⟨x, -, hx⟩ := Option.map_eq_some_iff.1 ht
    obtain ⟨x', -, hx'⟩ := Option.map_eq_some_iff.1 ht'
    exact h (List.append_inj_left' (hx.trans hx'.symm) rfl)
  funext s
  simp only [restated]
  grind

/-- The labels of a resource, but for its type. -/
def labels (kind : String) (key : ObjectKey) : LabelValues := [kind, key.name, key.inNamespace]

theorem labels_injective (kind : String) : Function.Injective (labels kind) := by
  rintro ⟨home, name⟩ ⟨home', name'⟩ h
  simp only [labels, List.cons.injEq, true_and, and_true] at h
  obtain ⟨rfl, rfl⟩ := h
  rfl

theorem labels_inj {kind' : String} {key' : ObjectKey} :
    labels kind key = labels kind' key' ↔ kind = kind' ∧ key = key' := by
  constructor
  · intro h
    obtain rfl : kind = kind' := List.head_eq_of_cons_eq h
    exact ⟨rfl, labels_injective kind h⟩
  · rintro ⟨rfl, rfl⟩
    rfl

theorem labels_append_inj {kind' type type' : String} {key' : ObjectKey} :
    labels kind key ++ [type] = labels kind' key' ++ [type'] ↔
      (kind = kind' ∧ key = key') ∧ type = type' := by
  rw [← labels_inj]
  constructor
  · intro h
    obtain ⟨hlabels, htype⟩ := List.append_inj' h rfl
    exact ⟨hlabels, List.singleton_inj.1 htype⟩
  · rintro ⟨hlabels, rfl⟩
    rw [hlabels]

/-- One series of a resource under a type that may be missing, and another one. -/
theorem map_labels_eq_iff {kind' type : String} {key' : ObjectKey} {o : Option String} :
    o.map (labels kind' key' ++ [·]) = some (labels kind key ++ [type]) ↔
      (kind = kind' ∧ key = key') ∧ o = some type := by
  cases o with
  | none => simp
  | some type' =>
    rw [Option.map_some, Option.some_inj, Option.some_inj, eq_comm, labels_append_inj]
    exact and_congr_right fun _ => eq_comm

theorem types_note_stands (m : Metrics) (kind : String) (key : ObjectKey) (type : Option String) :
    (m.note kind (.stands key type)).types.get? =
      Function.update m.types.get? (labels kind key) type := by
  cases type with
  | some type => exact SortedMap.get?_insert_eq _ _ _
  | none =>
    simp only [note, removeResource]
    split
    · next hnone => exact (Function.update_eq_self_iff.2 hnone.symm).symm
    · exact SortedMap.get?_erase_eq _ _

theorem resources_note_stands (m : Metrics) (kind : String) (key : ObjectKey)
    (type : Option String) : (m.note kind (.stands key type)).resources.get? =
      restated m.resources.get? (labels kind key) (m.types.get? (labels kind key)) type := by
  funext s
  cases type with
  | some type =>
    simp only [note, setResource, restated, labels, SortedMap.get?_insert]
    split
    · grind
    · split
      · grind
      · next last hlast =>
        by_cases heq : last = type
        · grind
        · simp only [if_neg heq, hlast, SortedMap.get?_erase_eq, Function.update_apply]
          grind
  | none =>
    simp only [note, removeResource, restated, labels]
    split
    · next hlast => simp [hlast]
    · next last hlast =>
      simp only [hlast, SortedMap.get?_erase_eq, Function.update_apply]
      grind

/-- A note on where a resource stands leaves the rest of the metrics alone. -/
theorem note_stands (m : Metrics) (kind : String) (key : ObjectKey) (type : Option String) :
    ∃ types resources, m.note kind (.stands key type) =
      { m with types := types, resources := resources } := by
  cases type with
  | some type => exact ⟨_, _, rfl⟩
  | none =>
    simp only [note, removeResource]
    split <;> exact ⟨_, _, rfl⟩

theorem note_agrees (h : m.Agrees m') (n : Note) : (m.note kind n).Agrees (m'.note kind n) := by
  cases n with
  | operation o => exact { h with operations := by simp only [note, recordOperation, h.operations] }
  | ended o elapsed =>
    refine { h with reconciliations := ?_, durations := ?_ }
    · simp only [note, recordReconcile, h.reconciliations]
    · intro key
      simp only [note, recordReconcile, SortedMap.get?_insert]
      split
      · have hcounts := h.durations [kind]
        cases hd : m.durations.get? [kind] <;> cases hd' : m'.durations.get? [kind] <;>
          simp [hd, hd'] at hcounts ⊢
        exact Histogram.counts_observe hcounts _
      · exact h.durations key
  | stands key type =>
    obtain ⟨types, resources, heq⟩ := note_stands m kind key type
    obtain ⟨types', resources', heq'⟩ := note_stands m' kind key type
    have htypes := types_note_stands m kind key type
    have htypes' := types_note_stands m' kind key type
    have hresources := resources_note_stands m kind key type
    have hresources' := resources_note_stands m' kind key type
    rw [h.types, ← htypes'] at htypes
    rw [h.types, h.resources, ← hresources'] at hresources
    have ht := SortedMap.eq_of_get?_eq htypes
    have hr := SortedMap.eq_of_get?_eq hresources
    rw [heq, heq'] at ht hr ⊢
    exact { h with types := ht, resources := hr }

/-- Where a resource stands is noted apart from how passes end and what the platform is asked. -/
theorem note_comm_stands (m : Metrics) (kind : String) (key : ObjectKey) (type : Option String)
    (h : n.key? = none) : (m.note kind n).note kind (.stands key type) =
      (m.note kind (.stands key type)).note kind n := by
  cases n with
  | stands => cases h
  | operation o =>
    cases type with
    | some type => rfl
    | none =>
      simp only [note, removeResource, recordOperation]
      split <;> simp [*]
  | ended o elapsed =>
    cases type with
    | some type => rfl
    | none =>
      simp only [note, removeResource, recordReconcile]
      split <;> simp [*]

theorem stands_comm (m : Metrics) (kind : String) {key key' : ObjectKey} (h : key ≠ key')
    (type type' : Option String) :
    (m.note kind (.stands key type)).note kind (.stands key' type') =
      (m.note kind (.stands key' type')).note kind (.stands key type) := by
  have hlabels : labels kind key ≠ labels kind key' := (labels_injective kind).ne h
  have htypes : ((m.note kind (.stands key type)).note kind (.stands key' type')).types =
      ((m.note kind (.stands key' type')).note kind (.stands key type)).types := by
    apply SortedMap.eq_of_get?_eq
    simp only [types_note_stands]
    exact Function.update_comm hlabels _ _ _
  have hresources : ((m.note kind (.stands key type)).note kind (.stands key' type')).resources =
      ((m.note kind (.stands key' type')).note kind (.stands key type)).resources := by
    apply SortedMap.eq_of_get?_eq
    simp only [resources_note_stands, types_note_stands, Function.update_of_ne hlabels,
      Function.update_of_ne hlabels.symm]
    exact restated_comm hlabels
  obtain ⟨_, _, heq⟩ := note_stands m kind key type
  obtain ⟨_, _, heq'⟩ := note_stands m kind key' type'
  obtain ⟨_, _, h₁⟩ := note_stands (m.note kind (.stands key type)) kind key' type'
  obtain ⟨_, _, h₂⟩ := note_stands (m.note kind (.stands key' type')) kind key type
  rw [h₁, h₂] at htypes hresources ⊢
  dsimp only at htypes hresources
  rw [htypes, hresources, heq, heq']

/-- Two notes can be made in either order, unless they are about the same resource. -/
theorem note_comm (m : Metrics) (kind : String) (h : n.Apart n') :
    ((m.note kind n).note kind n').Agrees ((m.note kind n').note kind n) := by
  cases n with
  | stands key type =>
    cases n' with
    | stands key' type' =>
      have hne : key ≠ key' := fun heq => h key rfl (congrArg some heq.symm)
      exact .of_eq (stands_comm m kind hne type type')
    | operation | ended => exact .of_eq (note_comm_stands m kind key type rfl).symm
  | operation o =>
    cases n' with
    | stands key type => exact .of_eq (note_comm_stands m kind key type rfl)
    | operation o' => exact { Agrees.refl _ with operations := increment_comm _ _ _ }
    | ended => exact .refl _
  | ended o elapsed =>
    cases n' with
    | stands key type => exact .of_eq (note_comm_stands m kind key type rfl)
    | operation => exact .refl _
    | ended o' elapsed' =>
      refine { Agrees.refl _ with reconciliations := increment_comm _ _ _, durations := ?_ }
      intro key
      simp only [note, recordReconcile, SortedMap.get?_insert, if_true]
      split
      · simp only [Option.getD_some, Option.map_some]
        exact congrArg some (Histogram.counts_observe_comm _ _ _)
      · rfl

theorem noted_agrees (h : m.Agrees m') (notes : List Note) :
    (m.noted kind notes).Agrees (m'.noted kind notes) := by
  induction notes generalizing m m' with
  | nil => exact h
  | cons n notes ih => exact ih (note_agrees h n)

theorem note_noted_comm (m : Metrics) (kind : String) (notes : List Note)
    (h : ∀ n' ∈ notes, n.Apart n') :
    ((m.note kind n).noted kind notes).Agrees ((m.noted kind notes).note kind n) := by
  induction notes generalizing m with
  | nil => exact .refl _
  | cons n' notes ih =>
    have hfirst := note_comm m kind (h n' List.mem_cons_self)
    exact (noted_agrees hfirst notes).trans
      (ih (m.note kind n') fun n'' hn => h n'' (List.mem_cons_of_mem _ hn))

/-- The notes of two passes can be made in either order, unless they are about the same
resource. -/
theorem noted_comm (m : Metrics) (kind : String) (notes notes' : List Note)
    (h : ∀ n ∈ notes, ∀ n' ∈ notes', n.Apart n') :
    ((m.noted kind notes).noted kind notes').Agrees ((m.noted kind notes').noted kind notes) := by
  induction notes generalizing m with
  | nil => exact .refl _
  | cons n notes ih =>
    have hrest := ih (m.note kind n) fun n' hn => h n' (List.mem_cons_of_mem _ hn)
    have hfirst := note_noted_comm m kind notes' (h n List.mem_cons_self)
    exact hrest.trans (noted_agrees hfirst notes)

end Metrics

end ResourceSync
