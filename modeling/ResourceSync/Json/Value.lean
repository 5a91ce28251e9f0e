import ResourceSync.Json.Codec

/-! Values that are kept whatever they are: documents without faults, in which the members of every
object stand in ascending order of names and each name stands once. -/
namespace ResourceSync

namespace Json
variable {j : Json} {items : List Json} {ms done : List (String × Json)} {name : String}

theorem itemsFault?_eq_none_iff : itemsFault? items = none ↔ ∀ j ∈ items, j.fault? = none := by
  induction items with
  | nil => simp [itemsFault?]
  | cons j items ih => rw [itemsFault?, Option.or_eq_none_iff, ih, List.forall_mem_cons]

theorem membersFault?_eq_none_iff :
    membersFault? ms = none ↔ ∀ m ∈ ms, m.2.fault? = none := by
  induction ms with
  | nil => simp [membersFault?]
  | cons m ms ih => rw [membersFault?, Option.or_eq_none_iff, ih, List.forall_mem_cons]

theorem place_eq_put : place name j ms = SortedMap.put name j ms := by
  induction ms with
  | nil => rfl
  | cons m ms ih => rw [place, SortedMap.put, ih]

theorem canonicalItems_eq_map : canonicalItems items = items.map canonical := by
  induction items with
  | nil => rfl
  | cons j items ih => rw [canonicalItems, ih, List.map_cons]

/-- The members of an object are in ascending order of their names, none of which stands twice. -/
def Ascends (ms : List (String × Json)) : Prop := ms.Pairwise fun m m' => m.1 < m'.1

/-- A document that is its own canonical form and can be read throughout. -/
inductive IsValue : Json → Prop where
  | null : IsValue .null
  | bool (b : Bool) : IsValue (.bool b)
  | int (n : Int) : IsValue (.int n)
  | float (x : Binary64) : IsValue (.float x)
  | str (s : String) : IsValue (.str s)
  | arr {items : List Json} (h : ∀ j ∈ items, IsValue j) : IsValue (.arr items)
  | obj {ms : List (String × Json)} (ascends : Ascends ms) (h : ∀ m ∈ ms, IsValue m.2) :
    IsValue (.obj ms)

/-- Members are put one by one among those that are in order already. -/
theorem isValue_canonicalMembers (h : ∀ m ∈ ms, m.2.canonical.IsValue) (hascends : Ascends done)
    (hdone : ∀ m ∈ done, m.2.IsValue) : (obj (canonicalMembers done ms)).IsValue := by
  induction ms generalizing done with
  | nil => exact .obj hascends hdone
  | cons m ms ih =>
    obtain ⟨hm, hms⟩ := List.forall_mem_cons.1 h
    rw [canonicalMembers, place_eq_put]
    refine ih hms (SortedMap.sorted_put hascends) ?_
    intro m' hm'
    rcases SortedMap.mem_put hm' with rfl | hm'
    · exact hm
    · exact hdone m' hm'

theorem isValue_canonical (h : j.fault? = none) : j.canonical.IsValue := by
  induction j using Json.induct with
  | null => exact .null
  | bool b => exact .bool b
  | int n => exact .int n
  | float x => exact .float x
  | str s => exact .str s
  | arr items ih =>
    have hitems := itemsFault?_eq_none_iff.1 h
    rw [canonical, canonicalItems_eq_map]
    refine .arr ?_
    intro i hi
    obtain ⟨j, hj, rfl⟩ := List.mem_map.1 hi
    exact ih j hj (hitems j hj)
  | obj ms ih =>
    have hms := membersFault?_eq_none_iff.1 h
    exact isValue_canonicalMembers (fun m hm => ih m hm (hms m hm)) .nil (by simp)
  | unreadable e => cases h

namespace IsValue

theorem fault? (h : j.IsValue) : j.fault? = none := by
  induction h with
  | arr _ ih => exact itemsFault?_eq_none_iff.2 ih
  | obj _ _ ih => exact membersFault?_eq_none_iff.2 ih
  | null | bool | int | float | str => rfl

/-- Members that are in order stay as they are. -/
theorem canonicalMembers_eq (h : ∀ m ∈ ms, m.2.canonical = m.2) (hascends : Ascends (done ++ ms)) :
    canonicalMembers done ms = done ++ ms := by
  induction ms generalizing done with
  | nil => rw [canonicalMembers, List.append_nil]
  | cons m ms ih =>
    obtain ⟨hm, hms⟩ := List.forall_mem_cons.1 h
    have hput : place m.1 m.2 done = done ++ [m] := by
      rw [place_eq_put]
      refine SortedMap.put_of_lt ?_
      intro m' hm'
      exact (List.pairwise_append.1 hascends).2.2 m' hm' _ List.mem_cons_self
    rw [canonicalMembers, hm, hput, ih hms (by simpa using hascends), List.append_assoc]
    rfl

theorem canonical (h : j.IsValue) : j.canonical = j := by
  induction h with
  | arr _ ih => rw [Json.canonical, canonicalItems_eq_map, List.map_congr_left ih, List.map_id']
  | obj hascends _ ih =>
    rw [Json.canonical, canonicalMembers_eq ih (by simpa using hascends), List.nil_append]
  | null | bool | int | float | str => rfl

end IsValue

/-- A value of any shape. -/
structure Value where
  json : Json
  isValue : json.IsValue
deriving DecidableEq

end Json

/-- Values of any shape, in canonical form. -/
def Codec.value : Codec Json.Value := uniform (fun j =>
    match h : j.fault? with
    | some e => .error (.malformed e.message)
    | none => .ok ⟨j.canonical, Json.isValue_canonical h⟩)
  Json.Value.json

/-- Only null is read as the value null. -/
theorem Codec.ne_null_of_read_value {p : Passage} {j : Json} {v : Json.Value} (hj : j ≠ .null)
    (h : value.read p j = .ok v) : v.json ≠ .null := by
  simp only [value, uniform] at h
  split at h
  · cases h
  · cases h
    cases j with
    | null => exact absurd rfl hj
    | _ => nofun

end ResourceSync
