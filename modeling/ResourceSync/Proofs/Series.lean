import Mathlib.Data.List.Induction
import Mathlib.Data.List.Nodup
import ResourceSync.Proofs.Counting

/-! The series of the resources after any calls that set, remove and read them. The types and the
series are two maps that each call keeps in step. The latest set or remove of a resource decides
which of its series has value one; beside it there are only series that were read while the resource
did not stand under their type, with value zero. -/
namespace ResourceSync

/-- A list without repeats that has just the members of an optional value. -/
theorem eq_toList_of_mem_iff {α : Type} {l : List α} {o : Option α} (hl : l.Nodup)
    (h : ∀ a, a ∈ l ↔ o = some a) : l = o.toList := by
  cases o with
  | none => exact List.eq_nil_iff_forall_not_mem.2 fun a ha => by cases (h a).1 ha
  | some a =>
    have hmem (b : α) : b ∈ l ↔ b ∈ [a] := by
      rw [h, List.mem_singleton, Option.some_inj, eq_comm]
    exact List.perm_singleton.1 ((List.perm_ext_iff_of_nodup hl (List.nodup_singleton a)).2 hmem)

/-- A call about the series of a resource. -/
inductive SeriesCall where
  | set (kind : String) (key : ObjectKey) (type : String)
  | remove (kind : String) (key : ObjectKey)
  | read (kind : String) (key : ObjectKey) (type : String)
deriving DecidableEq

namespace SeriesCall
variable {calls : List SeriesCall} {c : SeriesCall} {kind type : String} {key : ObjectKey}

/-- Sets or removes this resource. -/
def settles (kind : String) (key : ObjectKey) : SeriesCall → Bool
  | set kind' key' _ | remove kind' key' => kind = kind' ∧ key = key'
  | read .. => false

/-- The type that is set. -/
def type? : SeriesCall → Option String
  | set _ _ type => some type
  | remove .. | read .. => none

/-- The type under which some calls leave a resource: that of its latest set or remove, if that was
a set. -/
def typeAfter (calls : List SeriesCall) (kind : String) (key : ObjectKey) : Option String :=
  (calls.filter (settles kind key)).getLast?.bind type?

/-- A series was read while the resource did not stand under its type, and that type was not set
since. -/
def Lingers (calls : List SeriesCall) (kind : String) (key : ObjectKey) (type : String) : Prop :=
  ∃ before after, calls = before ++ .read kind key type :: after ∧
    typeAfter before kind key ≠ some type ∧ .set kind key type ∉ after

theorem type?_eq_some_iff (h : c.settles kind key = true) :
    c.type? = some type ↔ c = .set kind key type := by
  cases c with
  | set kind' key' type' =>
    obtain ⟨rfl, rfl⟩ : kind = kind' ∧ key = key' := by simpa [settles] using h
    simp [type?]
  | remove => simp [type?]
  | read => cases h

theorem ne_read_of_settles {kind' : String} {key' : ObjectKey} (h : c.settles kind' key' = true) :
    c ≠ .read kind key type := by
  rintro rfl
  cases h

/-- A call sets a series, settles its resource in another way, reads the series, or has nothing to
do with it. -/
theorem bearing (c : SeriesCall) (kind : String) (key : ObjectKey) (type : String) :
    c = .set kind key type ∨
      (c.settles kind key = true ∧ c ≠ .set kind key type ∧ c.type? ≠ some type) ∨
      c = .read kind key type ∨
      (c.settles kind key = false ∧ c ≠ .set kind key type ∧ c ≠ .read kind key type) := by
  by_cases hset : c = .set kind key type
  · exact Or.inl hset
  by_cases hsettles : c.settles kind key = true
  · exact Or.inr (Or.inl ⟨hsettles, hset, fun h => hset ((type?_eq_some_iff hsettles).1 h)⟩)
  by_cases hread : c = .read kind key type
  · exact Or.inr (Or.inr (Or.inl hread))
  · exact Or.inr (Or.inr (Or.inr ⟨eq_false_of_ne_true hsettles, hset, hread⟩))

theorem settles_eq_true_iff {kind' : String} {key' : ObjectKey} (h : c.settles kind' key' = true) :
    c.settles kind key = true ↔ kind = kind' ∧ key = key' := by
  cases c with
  | set kind₁ key₁ type | remove kind₁ key₁ =>
    obtain ⟨rfl, rfl⟩ : kind' = kind₁ ∧ key' = key₁ := by simpa [settles] using h
    simp [settles]
  | read => cases h

theorem typeAfter_concat (calls : List SeriesCall) (c : SeriesCall) (kind : String)
    (key : ObjectKey) : typeAfter (calls ++ [c]) kind key =
      if c.settles kind key then c.type? else typeAfter calls kind key := by
  unfold typeAfter
  rw [List.filter_append]
  by_cases h : c.settles kind key = true
  · simp [h]
  · simp [h]

theorem lingers_concat : Lingers (calls ++ [c]) kind key type ↔
    Lingers calls kind key type ∧ c ≠ .set kind key type ∨
      c = .read kind key type ∧ typeAfter calls kind key ≠ some type := by
  constructor
  · rintro ⟨before, after, heq, hread, hset⟩
    -- the series was read in the last call or in an earlier one
    rcases List.eq_nil_or_concat after with rfl | ⟨after, c', rfl⟩
    · obtain ⟨rfl, hc⟩ := List.append_inj' heq rfl
      exact Or.inr ⟨List.head_eq_of_cons_eq hc, hread⟩
    · have heq' : calls ++ [c] = (before ++ .read kind key type :: after) ++ [c'] := by
        simpa using heq
      obtain ⟨rfl, hc⟩ := List.append_inj' heq' rfl
      obtain rfl := List.singleton_inj.1 hc
      rw [List.concat_eq_append, List.mem_append, not_or, List.mem_singleton] at hset
      exact Or.inl ⟨⟨before, after, rfl, hread, hset.1⟩, fun h => hset.2 h.symm⟩
  · rintro (⟨⟨before, after, rfl, hread, hset⟩, hc⟩ | ⟨rfl, hread⟩)
    · refine ⟨before, after ++ [c], by simp, hread, ?_⟩
      rw [List.mem_append, not_or, List.mem_singleton]
      exact ⟨hset, fun h => hc h.symm⟩
    · exact ⟨calls, [], rfl, hread, List.not_mem_nil⟩

/-- What a call makes of the value of one series. -/
def showNext (kind : String) (key : ObjectKey) (type : String) (v : Option Nat) (c : SeriesCall) :
    Option Nat :=
  if c = .set kind key type then some 1
  else if c.settles kind key = true ∧ v = some 1 then none
  else if c = .read kind key type then some (v.getD 0)
  else v

/-- The value of one series after some calls, from none. -/
def shown (calls : List SeriesCall) (kind : String) (key : ObjectKey) (type : String) :
    Option Nat :=
  calls.foldl (showNext kind key type) none

/-- A value that is zero or one, and not one, counts as zero. -/
theorem getD_eq_zero {o : Option Nat} (h : ∀ v, o = some v → v = 1 ∨ v = 0) (hne : o ≠ some 1) :
    o.getD 0 = 0 := by
  cases o with
  | none => rfl
  | some v =>
    rcases h v rfl with rfl | rfl
    · exact absurd rfl hne
    · rfl

theorem shown_concat (calls : List SeriesCall) (c : SeriesCall) (kind : String) (key : ObjectKey)
    (type : String) : shown (calls ++ [c]) kind key type =
      showNext kind key type (shown calls kind key type) c := by
  simp [shown]

/-- A series has value one while the resource stands under its type, and value zero while it
lingers. -/
theorem shown_eq_some_iff {v : Nat} : shown calls kind key type = some v ↔
    v = 1 ∧ typeAfter calls kind key = some type ∨ v = 0 ∧ Lingers calls kind key type := by
  induction calls using List.reverseRecOn generalizing v with
  | nil => simp [shown, typeAfter, Lingers]
  | append_singleton calls c ih =>
    have hone : shown calls kind key type = some 1 ↔ typeAfter calls kind key = some type := by
      simp [ih]
    have hzero : shown calls kind key type = some 0 ↔ Lingers calls kind key type := by
      simp [ih]
    rw [shown_concat, showNext, typeAfter_concat, lingers_concat]
    have hnot (h : shown calls kind key type = some 1) : ¬ Lingers calls kind key type := by
      simp [← hzero, h]
    rcases c.bearing kind key type with
      rfl | ⟨hsettles, hset, hother⟩ | rfl | ⟨hsettles, hset, hread⟩
    · simp [settles, type?, eq_comm]
    · have hread : c ≠ .read kind key type := ne_read_of_settles hsettles
      by_cases hstood : shown calls kind key type = some 1
      · simp [hset, hsettles, hother, hread, hstood, hnot hstood]
      · have hstands : typeAfter calls kind key ≠ some type := fun h => hstood (hone.2 h)
        simp [hset, hsettles, hother, hread, hstood, hstands, ih]
    · by_cases hstood : shown calls kind key type = some 1
      · simp [settles, hstood, hone.1 hstood, hnot hstood, eq_comm]
      · have hstands : typeAfter calls kind key ≠ some type := fun h => hstood (hone.2 h)
        have hless : (shown calls kind key type).getD 0 = 0 :=
          getD_eq_zero (fun _ hv => (ih.1 hv).imp And.left And.left) hstood
        simp [settles, hstands, hless, eq_comm]
    · simp [hset, hsettles, hread, ih]

end SeriesCall

open SeriesCall

namespace Metrics
variable {m : Metrics} {calls : List SeriesCall} {c : SeriesCall} {kind type : String}
  {key : ObjectKey}

/-- The metrics after a call. -/
def called (m : Metrics) : SeriesCall → Metrics
  | .set kind key type => m.setResource kind key.inNamespace key.name type
  | .remove kind key => m.removeResource kind key.inNamespace key.name
  | .read kind key type => (m.resourceValue kind key.inNamespace key.name type).2

theorem get?_touch (series : SortedMap LabelValues Nat) (s s' : LabelValues) :
    (touch series s).get? s' =
      if s' = s then some ((series.get? s').getD 0) else series.get? s' := by
  unfold touch SortedMap.contains
  cases h : series.get? s with
  | none =>
    simp only [Option.isSome_none, Bool.false_eq_true, if_false, SortedMap.get?_insert]
    split
    · simp [*]
    · rfl
  | some v =>
    by_cases hs : s' = s <;> simp [hs, h]

/-- A call notes where a resource stands, or it reads a series. -/
theorem called_cases (m : Metrics) (c : SeriesCall) :
    (∃ kind key, c.settles kind key = true ∧ m.called c = m.note kind (.stands key c.type?)) ∨
      ∃ kind key type, c = .read kind key type := by
  cases c with
  | set kind key type => exact Or.inl ⟨kind, key, by simp [settles], rfl⟩
  | remove kind key => exact Or.inl ⟨kind, key, by simp [settles], rfl⟩
  | read kind key type => exact Or.inr ⟨kind, key, type, rfl⟩

theorem resources_read (m : Metrics) (kind : String) (key : ObjectKey) (type : String)
    (s : LabelValues) : (m.called (.read kind key type)).resources.get? s =
      if s = labels kind key ++ [type] then some ((m.resources.get? s).getD 0)
      else m.resources.get? s := get?_touch _ _ _

/-- What a call makes of the type under which a resource stands. -/
theorem types_called (m : Metrics) (c : SeriesCall) (kind : String) (key : ObjectKey) :
    (m.called c).types.get? (labels kind key) =
      if c.settles kind key then c.type? else m.types.get? (labels kind key) := by
  rcases m.called_cases c with ⟨kind', key', hsettles, hcalled⟩ | ⟨_, _, _, rfl⟩
  · rw [hcalled, types_note_stands, Function.update_apply]
    simp only [labels_inj, settles_eq_true_iff hsettles]
  · rfl

/-- Where a series has value one just while the resource stands under its type, a call makes of the
series what it makes of one series alone. -/
theorem series_called {v : Option Nat} (hv : m.resources.get? (labels kind key ++ [type]) = v)
    (hstands : m.types.get? (labels kind key) = some type ↔ v = some 1) :
    (m.called c).resources.get? (labels kind key ++ [type]) = showNext kind key type v c := by
  unfold showNext
  rcases m.called_cases c with ⟨kind', key', hsettles, hcalled⟩ | ⟨kind', key', type', rfl⟩
  · have hset : c = .set kind key type ↔ (kind = kind' ∧ key = key') ∧ c.type? = some type := by
      rw [← settles_eq_true_iff hsettles]
      constructor
      · rintro rfl
        simp [settles, type?]
      · rintro ⟨h, htype⟩
        exact (type?_eq_some_iff h).1 htype
    have hread : c ≠ .read kind key type := ne_read_of_settles hsettles
    rw [hcalled, resources_note_stands, restated]
    simp only [map_labels_eq_iff, ← hset, settles_eq_true_iff hsettles, hread, if_false, hv]
    grind
  · rw [resources_read, hv]
    simp only [labels_append_inj]
    grind [settles]

/-- A call makes no series but one of a resource under a type. -/
theorem shape_called {s : LabelValues} {v : Nat} (h : (m.called c).resources.get? s = some v) :
    m.resources.get? s = some v ∨ ∃ kind key type, s = labels kind key ++ [type] := by
  rcases m.called_cases c with ⟨kind, key, -, hcalled⟩ | ⟨kind, key, type, rfl⟩
  · rw [hcalled, resources_note_stands, restated] at h
    split at h
    · next hs =>
      obtain ⟨type, -, htype⟩ := Option.map_eq_some_iff.1 hs
      exact Or.inr ⟨kind, key, type, htype.symm⟩
    · split at h
      · cases h
      · exact Or.inl h
  · rw [resources_read] at h
    split at h
    · next hs => exact Or.inr ⟨kind, key, type, hs⟩
    · exact Or.inl h

/-- Types and series are what some calls have made of none. -/
structure Follows (m : Metrics) (calls : List SeriesCall) : Prop where
  types : ∀ kind key, m.types.get? (labels kind key) = typeAfter calls kind key
  shape : ∀ s v, m.resources.get? s = some v → ∃ kind key type, s = labels kind key ++ [type]
  series : ∀ kind key type,
    m.resources.get? (labels kind key ++ [type]) = shown calls kind key type

theorem follows_empty : empty.Follows [] where
  types _ _ := rfl
  shape _ _ h := by cases h
  series _ _ _ := rfl

theorem Follows.called (h : m.Follows calls) (c : SeriesCall) :
    (m.called c).Follows (calls ++ [c]) where
  types kind key := by rw [types_called, typeAfter_concat, h.types]
  shape s v hv := by
    rcases shape_called hv with hold | hnew
    · exact h.shape s v hold
    · exact hnew
  series kind key type := by
    rw [shown_concat]
    refine series_called (h.series kind key type) ?_
    rw [h.types]
    simp [shown_eq_some_iff]

/-- The types and the series are kept in step by every run of calls. -/
theorem follows_foldl (calls : List SeriesCall) :
    (calls.foldl Metrics.called empty).Follows calls := by
  induction calls using List.reverseRecOn with
  | nil => exact follows_empty
  | append_singleton calls c ih =>
    rw [List.foldl_append]
    exact ih.called c

/-- The series of a resource. -/
def seriesOf (m : Metrics) (kind : String) (key : ObjectKey) : List (LabelValues × Nat) :=
  m.resources.toList.filter fun e => e.1.dropLast = labels kind key

/-- The series with value one that some calls leave a resource, if they leave it standing. -/
def standingSeries (calls : List SeriesCall) (kind : String) (key : ObjectKey) :
    Option (LabelValues × Nat) :=
  (typeAfter calls kind key).map fun type => (labels kind key ++ [type], 1)

theorem Follows.mem_toList (h : m.Follows calls) {s : LabelValues} {v : Nat} :
    (s, v) ∈ m.resources.toList ↔ ∃ kind key type, s = labels kind key ++ [type] ∧
      (v = 1 ∧ typeAfter calls kind key = some type ∨ v = 0 ∧ Lingers calls kind key type) := by
  constructor
  · intro hmem
    have hv : m.resources.get? s = some v := SortedMap.get?_of_mem hmem
    obtain ⟨kind, key, type, rfl⟩ := h.shape s v hv
    rw [h.series] at hv
    exact ⟨kind, key, type, rfl, shown_eq_some_iff.1 hv⟩
  · rintro ⟨kind, key, type, rfl, hv⟩
    apply SortedMap.mem_toList_of_get?
    rw [h.series]
    exact shown_eq_some_iff.2 hv

theorem Follows.mem_seriesOf (h : m.Follows calls) {s : LabelValues} {v : Nat} :
    (s, v) ∈ m.seriesOf kind key ↔ ∃ type, s = labels kind key ++ [type] ∧
      (v = 1 ∧ typeAfter calls kind key = some type ∨ v = 0 ∧ Lingers calls kind key type) := by
  rw [seriesOf, List.mem_filter, h.mem_toList, decide_eq_true_iff]
  constructor
  · rintro ⟨⟨kind', key', type, rfl, hv⟩, hlabels⟩
    rw [List.dropLast_concat, labels_inj] at hlabels
    obtain ⟨rfl, rfl⟩ := hlabels
    exact ⟨type, rfl, hv⟩
  · rintro ⟨type, rfl, hv⟩
    exact ⟨⟨kind, key, type, rfl, hv⟩, List.dropLast_concat⟩

theorem Follows.filter_seriesOf (h : m.Follows calls) (kind : String) (key : ObjectKey) :
    (m.seriesOf kind key).filter (·.2 = 1) = (standingSeries calls kind key).toList := by
  have hnodup : ((m.seriesOf kind key).filter (·.2 = 1)).Nodup :=
    (m.resources.nodup_toList.filter _).filter _
  refine eq_toList_of_mem_iff hnodup ?_
  rintro ⟨s, v⟩
  rw [List.mem_filter, h.mem_seriesOf, decide_eq_true_iff, standingSeries, Option.map_eq_some_iff]
  constructor
  · rintro ⟨⟨type, rfl, ⟨-, hstands⟩ | ⟨hzero, -⟩⟩, hone⟩
    · exact ⟨type, hstands, by rw [← hone]⟩
    · omega
  · rintro ⟨type, hstands, heq⟩
    obtain ⟨rfl, rfl⟩ := Prod.mk.inj heq
    exact ⟨⟨type, rfl, Or.inl ⟨rfl, hstands⟩⟩, rfl⟩

theorem Follows.resourceValue_eq (h : m.Follows calls) (kind : String) (key : ObjectKey)
    (type : String) : (m.resourceValue kind key.inNamespace key.name type).1 =
      if typeAfter calls kind key = some type then some 1 else none := by
  have hanswer : (m.resourceValue kind key.inNamespace key.name type).1 =
      ((touch m.resources (labels kind key ++ [type])).get? (labels kind key ++ [type])).filter
        (0 < ·) := rfl
  rw [hanswer, get?_touch, if_pos rfl, h.series]
  have hone : shown calls kind key type = some 1 ↔ typeAfter calls kind key = some type := by
    simp [shown_eq_some_iff]
  by_cases hstands : typeAfter calls kind key = some type
  · simp [hone.2 hstands, hstands]
  · have hless : (shown calls kind key type).getD 0 = 0 :=
      getD_eq_zero (fun _ hv => (shown_eq_some_iff.1 hv).imp And.left And.left)
        fun hv => hstands (hone.1 hv)
    simp [hless, hstands]

/-- What the series of the resources tell of some calls. -/
structure Recounts (m : Metrics) (calls : List SeriesCall) : Prop where
  /-- Every series is one of a resource under a type. It has value one if the latest set or remove
  of the resource was a set of this type, and it has value zero if it lingers since it was read. -/
  series : ∀ s v, (s, v) ∈ m.resources.toList ↔ ∃ kind key type, s = labels kind key ++ [type] ∧
    (v = 1 ∧ typeAfter calls kind key = some type ∨ v = 0 ∧ Lingers calls kind key type)
  /-- A resource whose latest set or remove was a set has one series with value one, under the type
  of that set; any other resource has none. -/
  standing : ∀ kind key,
    (m.seriesOf kind key).filter (·.2 = 1) = (standingSeries calls kind key).toList
  /-- Without reads a resource has no other series: none at all, once it was removed. -/
  unread : (∀ kind key type, .read kind key type ∉ calls) →
    ∀ kind key, m.seriesOf kind key = (standingSeries calls kind key).toList
  /-- A series that is read next gives its value only if the resource stands under its type. -/
  answers : ∀ kind key type, (m.resourceValue kind key.inNamespace key.name type).1 =
    if typeAfter calls kind key = some type then some 1 else none

/-- After any calls that set, remove and read the series of resources, these recount the calls. -/
theorem series_recount_calls (calls : List SeriesCall) :
    (calls.foldl Metrics.called empty).Recounts calls := by
  have h : (calls.foldl Metrics.called empty).Follows calls := follows_foldl calls
  refine ⟨fun s v => h.mem_toList, h.filter_seriesOf, ?_, h.resourceValue_eq⟩
  intro hunread kind key
  rw [← h.filter_seriesOf, eq_comm, List.filter_eq_self]
  rintro ⟨s, v⟩ hmem
  obtain ⟨type, -, ⟨rfl, -⟩ | ⟨-, before, after, rfl, -⟩⟩ := h.mem_seriesOf.1 hmem
  · rfl
  · exact absurd (by simp) (hunread kind key type)

/-- A webhook that is set again under another type, without any read. -/
theorem retyped_webhook_has_one_series :
    let onCall : ObjectKey := ⟨"ops", "on-call"⟩
    let calls : List SeriesCall := [.set "OutboundWebhook" onCall "slack",
      .remove "OutboundWebhook" ⟨"ops", "spare"⟩, .set "OutboundWebhook" onCall "generic"]
    (∀ kind key type, .read kind key type ∉ calls) ∧
      (calls.foldl called empty).seriesOf "OutboundWebhook" onCall =
        [(["OutboundWebhook", "on-call", "ops", "generic"], 1)] := by
  intro onCall calls
  have hunread : ∀ kind key type, .read kind key type ∉ calls := by simp [calls]
  exact ⟨hunread, (series_recount_calls calls).unread hunread "OutboundWebhook" onCall⟩

/-- A series that is read while its resource stands under another type outlives the resource. -/
example :
    let onCall : ObjectKey := ⟨"ops", "on-call"⟩
    let calls : List SeriesCall := [.set "OutboundWebhook" onCall "slack",
      .set "OutboundWebhook" onCall "generic", .read "OutboundWebhook" onCall "slack",
      .remove "OutboundWebhook" onCall]
    (calls.foldl called empty).seriesOf "OutboundWebhook" onCall =
      [(["OutboundWebhook", "on-call", "ops", "slack"], 0)] := by
  decide +kernel

end Metrics

end ResourceSync
