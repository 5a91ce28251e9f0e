import ResourceSync.Halt
import ResourceSync.Proofs.Reading

/-! Where the values of a record that was read come from: each from a member with the name of its
field, from the item at its place, or from what stands for neither. A record that reads back from
its own members therefore does so field by field. -/
namespace ResourceSync

variable {α β τ : Type} {p : Passage} {ms ms' : List (String × Json)}

/-- A field has its value from a document under its name, or from there being none. -/
def Field.Takes (f : Field α) (p : Passage) (ms : List (String × Json)) (a : α) : Prop :=
  (∃ j, (f.name, j) ∈ ms ∧ f.codec.read p j = .ok a) ∨ f.absent = some a ∨ f.absentItem = some a

theorem Codec.read_of_option {c : Codec α} {j : Json} {a : α}
    (h : c.option.read p j = .ok (some a)) : j ≠ .null ∧ c.read p j = .ok a := by
  cases j with
  | null => cases h
  | _ =>
    obtain ⟨a', hread, ha⟩ := map_eq_ok_iff.1 h
    cases ha
    exact ⟨by simp, hread⟩

namespace Field
variable {c : Codec α} {name : String} {a a' : α} {o o' : Option α}

theorem Takes.required (h : (required name c).Takes p ms a) :
    ∃ j, (name, j) ∈ ms ∧ c.read p j = .ok a := by
  rcases h with h | h | h
  · exact h
  · cases h
  · cases h

theorem Takes.optional (h : (optional name c).Takes p ms o) (ha : o = some a) :
    ∃ j, (name, j) ∈ ms ∧ j ≠ .null ∧ c.read p j = .ok a := by
  subst ha
  rcases h with ⟨j, hj, hread⟩ | h | h
  · exact ⟨j, hj, Codec.read_of_option hread⟩
  · cases h
  · cases h

/-- A field has its value from what has become of what was written of another, unless that was left
out. -/
def Rereads (f : Field α) (g : Json → Json) (p : Passage) (a a' : α) : Prop :=
  f.isOmitted a = false →
    f.codec.read p (g (f.codec.encode a)) = .ok a' ∨ f.absent = some a' ∨ f.absentItem = some a'

theorem Rereads.required {g : Json → Json} (h : (required name c).Rereads g p a a') :
    c.read p (g (c.encode a)) = .ok a' := (h rfl).resolve_right (by simp [Field.required])

theorem Rereads.optional {g : Json → Json} (h : (optional name c).Rereads g p o o')
    (ha : o = some a) (ha' : o' = some a') : c.read p (g (c.encode a)) = .ok a' := by
  subst ha ha'
  exact (Codec.read_of_option ((h rfl).resolve_right (by simp [Field.optional]))).2

end Field

namespace Fields

/-- Every field has its value from one of the documents, or from there being none. -/
def Take (p : Passage) (ms : List (String × Json)) : {τ : Type} → Fields τ → τ → Prop
  | _, .nil, _ => True
  | _, .cons f rest, (a, t) => f.Takes p ms a ∧ rest.Take p ms t

/-- The values that are there so far were read from members. -/
def Gathered (p : Passage) (ms : List (String × Json)) : {τ : Type} → (fs : Fields τ) →
    fs.Slots → Prop
  | _, .nil, _ => True
  | _, @cons α _ f rest, slots =>
    let slots : Option α × rest.Slots := slots
    (∀ a, slots.1 = some a → ∃ j, (f.name, j) ∈ ms ∧ f.codec.read p j = .ok a) ∧
      rest.Gathered p ms slots.2

theorem gathered_vacant (fs : Fields τ) : fs.Gathered p ms fs.vacant := by
  induction fs with
  | nil => trivial
  | cons f rest ih =>
    refine ⟨?_, ih⟩
    intro a ha
    cases ha

theorem Gathered.fill {fs : Fields τ} {slots slots' : fs.Slots} {m : String × Json}
    {repeats : Bool} (h : fs.Gathered p ms slots) (hm : m ∈ ms)
    (hfill : fs.fill repeats p slots m = .ok slots') : fs.Gathered p ms slots' := by
  induction fs with
  | nil => trivial
  | cons f rest ih =>
    obtain ⟨name, j⟩ := m
    obtain ⟨value, slots⟩ := slots
    obtain ⟨hvalue, hslots⟩ := h
    rw [fill_cons] at hfill
    split at hfill
    · next hname =>
      obtain rfl : name = f.name := hname
      split at hfill
      · cases hfill
      · obtain ⟨a, hread, rfl⟩ := map_eq_ok_iff.1 hfill
        refine ⟨?_, hslots⟩
        rintro a' ⟨⟩
        exact ⟨j, hm, hread⟩
    · obtain ⟨tail, hrest, rfl⟩ := map_eq_ok_iff.1 hfill
      exact ⟨hvalue, ih hslots hrest⟩

theorem Gathered.foldlM {fs : Fields τ} {slots slots' : fs.Slots} {repeats : Bool}
    (h : fs.Gathered p ms slots) (hms : ms' ⊆ ms)
    (hfold : ms'.foldlM (fs.fill repeats p) slots = .ok slots') : fs.Gathered p ms slots' := by
  induction ms' generalizing slots with
  | nil =>
    cases hfold
    exact h
  | cons m ms' ih =>
    obtain ⟨hm, hms⟩ := List.cons_subset.1 hms
    obtain ⟨slots₁, hfill, hrest⟩ := bind_eq_ok_iff.1 hfold
    exact ih (h.fill hm hfill) hms hrest

theorem Gathered.finish {fs : Fields τ} {slots : fs.Slots} {t : τ} (h : fs.Gathered p ms slots)
    (hfinish : fs.finish slots = .ok t) : fs.Take p ms t := by
  induction fs with
  | nil => trivial
  | cons f rest ih =>
    obtain ⟨value, slots⟩ := slots
    obtain ⟨hvalue, hslots⟩ := h
    simp only [Fields.finish] at hfinish
    split at hfinish
    · cases hfinish
    · next a hor =>
      obtain ⟨t', hrest, rfl⟩ := map_eq_ok_iff.1 hfinish
      refine ⟨?_, ih hslots hrest⟩
      rcases Option.or_eq_some_iff.1 hor with hsome | ⟨-, habsent⟩
      · exact Or.inl (hvalue a hsome)
      · exact Or.inr (Or.inl habsent)

/-- What is read of the members of an object. -/
theorem take_of_readMembers {fs : Fields τ} {t : τ} {repeats : Bool}
    (h : fs.readMembers repeats p ms = .ok t) : fs.Take p ms t := by
  obtain ⟨slots, hfold, hfinish⟩ := bind_eq_ok_iff.1 h
  exact ((gathered_vacant fs).foldlM (List.Subset.refl ms) hfold).finish hfinish

/-- What is read of a list of values, each item belonging to the field at its place. -/
theorem take_of_readItems {fs : Fields τ} {t : τ} {wanted : String} {index : Nat}
    {items : List Json} (hms : fs.names.zip items ⊆ ms)
    (h : fs.readItems wanted p index items = .ok t) : fs.Take p ms t := by
  induction fs generalizing items index with
  | nil => trivial
  | cons f rest ih =>
    cases items with
    | nil =>
      simp only [Fields.readItems] at h
      split at h
      · cases h
      · next a habsent =>
        obtain ⟨t', hrest, rfl⟩ := map_eq_ok_iff.1 h
        exact ⟨Or.inr (Or.inr habsent), ih (by simp) hrest⟩
    | cons j items =>
      obtain ⟨hj, hrestms⟩ := List.cons_subset.1 hms
      simp only [Fields.readItems] at h
      obtain ⟨a, hread, h⟩ := bind_eq_ok_iff.1 h
      obtain ⟨t', hrest, h⟩ := bind_eq_ok_iff.1 h
      cases h
      exact ⟨Or.inl ⟨j, hj, hread⟩, ih hrestms hrest⟩

/-- The fields have their values from what has become of what was written of others. -/
def Reread (g : Json → Json) (p : Passage) : {τ : Type} → Fields τ → τ → τ → Prop
  | _, .nil, _, _ => True
  | _, .cons f rest, (a, t), (a', t') => f.Rereads g p a a' ∧ rest.Reread g p t t'

/-- Fields that have their values from what was written of others have them one by one. -/
theorem Take.reread {g : Json → Json} {fs : Fields τ} {t t' : τ} (hnames : fs.names.Nodup)
    (h : fs.Take p ms t')
    (hms : ∀ name ∈ fs.names, ∀ i, (name, i) ∈ ms → ∃ j, (name, j) ∈ fs.encode t ∧ g j = i) :
    fs.Reread g p t t' := by
  induction fs with
  | nil => trivial
  | cons f rest ih =>
    obtain ⟨hname, hnames⟩ := List.nodup_cons.1 hnames
    obtain ⟨a, t⟩ := t
    obtain ⟨a', t'⟩ := t'
    obtain ⟨hhead, htail⟩ := h
    have hlater {j : Json} (hj : (f.name, j) ∈ rest.encode t) : False :=
      hname ((names_encode_sublist rest t).subset (List.mem_map_of_mem hj))
    refine ⟨?_, ih hnames htail ?_⟩
    · intro hwritten
      rcases hhead with ⟨i, hi, hread⟩ | habsent
      · obtain ⟨j, hj, rfl⟩ := hms f.name List.mem_cons_self i hi
        rw [encode_cons, if_neg (by simp [hwritten])] at hj
        rcases List.mem_cons.1 hj with heq | hj
        · cases heq
          exact Or.inl hread
        · exact (hlater hj).elim
      · exact Or.inr habsent
    · intro name hmem i hi
      obtain ⟨j, hj, rfl⟩ := hms name (List.mem_cons_of_mem _ hmem) i hi
      refine ⟨j, ?_, rfl⟩
      rw [encode_cons] at hj
      split at hj
      · exact hj
      · rcases List.mem_cons.1 hj with heq | hj
        · cases heq
          exact absurd hmem hname
        · exact hj

end Fields

namespace Layout
variable {l : Layout α} {j : Json} {a a' : α}

/-- The documents that stand for the fields of a record, under the names of the fields. -/
def sources (l : Layout α) : Json → List (String × Json)
  | .obj ms => ms
  | .arr items => l.fields.names.zip items
  | _ => []

theorem take_of_read (h : l.codec.read p j = .ok a) :
    ∃ t, l.ofTuple t = a ∧ l.fields.Take p (l.sources j) t := by
  cases j with
  | obj ms =>
    obtain ⟨t, hread, rfl⟩ := map_eq_ok_iff.1 h
    exact ⟨t, rfl, Fields.take_of_readMembers hread⟩
  | arr items =>
    simp only [codec] at h
    split at h
    · obtain ⟨t, hread, rfl⟩ := map_eq_ok_iff.1 h
      exact ⟨t, rfl, Fields.take_of_readItems (List.Subset.refl _) hread⟩
    · cases h
  | null | bool | int | float | str | unreadable => cases h

/-- A record that is read from what has become of the members of another has its fields one by one
from those of the other. -/
theorem reread_of_read {g : Json → Json} (hnames : (Json.names ms ++ l.fields.names).Nodup)
    (hto : ∀ t, l.toTuple (l.ofTuple t) = t)
    (h : l.codec.read p (.obj (ms ++ (l.encodeMembers a).map fun m => (m.1, g m.2))) = .ok a') :
    l.fields.Reread g p (l.toTuple a) (l.toTuple a') := by
  obtain ⟨t, rfl, htake⟩ := take_of_read h
  rw [hto]
  refine htake.reread (List.nodup_append.1 hnames).2.1 ?_
  intro name hname i hi
  rcases List.mem_append.1 hi with hi | hi
  · have hmem : name ∈ Json.names ms := List.mem_map_of_mem hi
    exact absurd rfl ((List.nodup_append.1 hnames).2.2 _ hmem _ hname)
  · obtain ⟨m, hm, heq⟩ := List.mem_map.1 hi
    cases heq
    exact ⟨m.2, hm, rfl⟩

/-- A record that reads back among other members does so field by field. -/
theorem reread_of_read_behind
    (hnames : (Json.names ms ++ l.fields.names).Nodup) (hto : ∀ t, l.toTuple (l.ofTuple t) = t)
    (h : l.codec.read p (.obj (ms ++ l.encodeMembers a)) = .ok a) :
    l.fields.Reread id p (l.toTuple a) (l.toTuple a) :=
  reread_of_read hnames hto (by simpa using h)

end Layout

end ResourceSync
