import ResourceSync.Json.Record
import ResourceSync.Proofs.Merging

/-! Records are read by name: the order of the members does not matter, and what is written of a
record reads back. -/
namespace ResourceSync

variable {α β τ : Type} {p : Passage} {ms ms' : List (String × Json)}

open Json (find? find?_cons find?_eq_none_iff)

/-- What is written of the values with a property reads back, and none of it is null. -/
structure Codec.Faithful (c : Codec α) (P : α → Prop) : Prop where
  reads : ∀ p a, P a → c.read p (c.encode a) = .ok a
  notNull : ∀ a, P a → c.encode a ≠ .null

/-- The same of a field, whose values may be left out. -/
structure Field.Faithful (f : Field α) (P : α → Prop) : Prop where
  reads : ∀ p a, P a → f.isOmitted a = false → f.codec.read p (f.codec.encode a) = .ok a
  omitted : ∀ a, f.isOmitted a = true → f.absent = some a

/-- The members tell the value of a field. -/
def Field.Tells (f : Field α) (p : Passage) (ms : List (String × Json)) (a : α) : Prop :=
  match find? f.name ms with
  | some j => f.codec.read p j = .ok a
  | none => f.absent = some a

theorem Field.tells_of_some {f : Field α} {a : α} {j : Json} (h : find? f.name ms = some j)
    (hread : f.codec.read p j = .ok a) : f.Tells p ms a := by
  rw [Tells, h]
  exact hread

theorem Field.tells_of_none {f : Field α} {a : α} (h : find? f.name ms = none)
    (habsent : f.absent = some a) : f.Tells p ms a := by
  rw [Tells, h]
  exact habsent

namespace Fields

/-- The members tell the values of all fields. -/
def Tell (p : Passage) (ms : List (String × Json)) : {τ : Type} → Fields τ → τ → Prop
  | _, .nil, _ => True
  | _, .cons f rest, (a, t) => f.Tells p ms a ∧ rest.Tell p ms t

/-- Some values are there already, and the members that are left tell the others. -/
def Awaits (p : Passage) (ms : List (String × Json)) :
    {τ : Type} → (fs : Fields τ) → fs.Slots → τ → Prop
  | _, .nil, _, _ => True
  | _, @cons α _ f rest, slots, (a, t) =>
    let slots : Option α × rest.Slots := slots
    (slots.1 = some a ∧ find? f.name ms = none ∨ slots.1 = none ∧ f.Tells p ms a) ∧
      rest.Awaits p ms slots.2 t

theorem Tell.congr {fs : Fields τ} {t : τ} (h : fs.Tell p ms t)
    (heq : ∀ name ∈ fs.names, find? name ms' = find? name ms) : fs.Tell p ms' t := by
  induction fs with
  | nil => trivial
  | cons f rest ih =>
    refine ⟨?_, ih h.2 fun name hname => heq name (List.mem_cons_of_mem _ hname)⟩
    rw [Field.Tells, heq f.name List.mem_cons_self]
    exact h.1

theorem Awaits.congr {fs : Fields τ} {slots : fs.Slots} {t : τ} (h : fs.Awaits p ms slots t)
    (heq : ∀ name ∈ fs.names, find? name ms' = find? name ms) : fs.Awaits p ms' slots t := by
  induction fs with
  | nil => trivial
  | cons f rest ih =>
    refine ⟨?_, ih h.2 fun name hname => heq name (List.mem_cons_of_mem _ hname)⟩
    rw [Field.Tells, heq f.name List.mem_cons_self]
    exact h.1

theorem awaits_vacant {fs : Fields τ} {t : τ} (h : fs.Tell p ms t) :
    fs.Awaits p ms fs.vacant t := by
  induction fs with
  | nil => trivial
  | cons f rest ih => exact ⟨Or.inr ⟨rfl, h.1⟩, ih h.2⟩

theorem fill_cons {repeats : Bool} {f : Field α} {rest : Fields β} {value : Option α}
    {slots : rest.Slots} {m : String × Json} :
    (Fields.cons f rest).fill repeats p (value, slots) m =
      if m.1 = f.name then
        if value.isSome && !repeats then .error (.duplicateField f.name)
        else (f.codec.read p m.2).map fun a => (some a, slots)
      else (rest.fill repeats p slots m).map fun slots => (value, slots) := rfl

/-- Reading a member turns what it tells into a value that is there. -/
theorem Awaits.fill {fs : Fields τ} {slots : fs.Slots} {t : τ} {name : String} {j : Json}
    (repeats : Bool) (hfs : fs.names.Nodup) (hname : name ∉ Json.names ms)
    (h : fs.Awaits p ((name, j) :: ms) slots t) :
    ∃ slots', fs.fill repeats p slots (name, j) = .ok slots' ∧ fs.Awaits p ms slots' t := by
  induction fs with
  | nil => exact ⟨(), rfl, trivial⟩
  | cons f rest ih =>
    obtain ⟨hf, hrest⟩ := List.nodup_cons.1 hfs
    obtain ⟨value, slots⟩ := slots
    obtain ⟨a, t⟩ := t
    obtain ⟨hhead, htail⟩ := h
    by_cases heq : name = f.name
    · subst heq
      simp only [find?_cons, if_true, Field.Tells, reduceCtorEq, and_false, false_or] at hhead
      obtain ⟨rfl, hread⟩ := hhead
      refine ⟨(some a, slots), ?_, Or.inl ⟨rfl, find?_eq_none_iff.2 hname⟩, ?_⟩
      · rw [fill_cons, if_pos rfl, if_neg (by simp), hread]
        rfl
      · refine htail.congr ?_
        intro name hmem
        rw [find?_cons, if_neg]
        rintro rfl
        exact hf hmem
    · obtain ⟨slots', hfill, hawaits⟩ := ih hrest htail
      refine ⟨(value, slots'), ?_, ?_, hawaits⟩
      · rw [fill_cons, if_neg heq, hfill]
        rfl
      · simpa only [Field.Tells, find?_cons, heq, if_false] using hhead

theorem Awaits.finish {fs : Fields τ} {slots : fs.Slots} {t : τ} (h : fs.Awaits p [] slots t) :
    fs.finish slots = .ok t := by
  induction fs with
  | nil => rfl
  | cons f rest ih =>
    obtain ⟨value, slots⟩ := slots
    obtain ⟨a, t⟩ := t
    obtain ⟨hhead, htail⟩ := h
    have hvalue : value.or f.absent = some a := by
      rcases hhead with ⟨rfl, -⟩ | ⟨rfl, habsent⟩
      · rfl
      · exact habsent
    simp only [Fields.finish, hvalue, ih htail, Except.map]

theorem Awaits.foldlM {fs : Fields τ} {slots : fs.Slots} {t : τ} (repeats : Bool)
    (hfs : fs.names.Nodup) (hms : (Json.names ms).Nodup) (h : fs.Awaits p ms slots t) :
    ∃ slots', ms.foldlM (fs.fill repeats p) slots = .ok slots' ∧ fs.Awaits p [] slots' t := by
  induction ms generalizing slots with
  | nil => exact ⟨slots, rfl, h⟩
  | cons m ms ih =>
    obtain ⟨name, j⟩ := m
    obtain ⟨hname, hms⟩ := List.nodup_cons.1 hms
    obtain ⟨slots₁, hfill, h₁⟩ := h.fill repeats hfs hname
    obtain ⟨slots₂, hrest, h₂⟩ := ih hms h₁
    refine ⟨slots₂, ?_, h₂⟩
    rw [List.foldlM_cons, hfill]
    exact hrest

/-- Members with distinct names read as what they tell, whatever their order. -/
theorem Tell.readMembers {fs : Fields τ} {t : τ} (h : fs.Tell p ms t) (repeats : Bool)
    (hfs : fs.names.Nodup) (hms : (Json.names ms).Nodup) :
    fs.readMembers repeats p ms = .ok t := by
  obtain ⟨slots, hfold, hslots⟩ := (awaits_vacant h).foldlM repeats hfs hms
  rw [Fields.readMembers, hfold]
  exact hslots.finish

/-- What is written of all fields reads back, if their values have a property. -/
inductive Faithful : {τ : Type} → Fields τ → (τ → Prop) → Prop where
  | nil : Faithful .nil fun _ => True
  | cons {α β : Type} {f : Field α} {rest : Fields β} {P : α → Prop} {Q : β → Prop}
      (name : f.name ∉ rest.names) (head : f.Faithful P) (tail : rest.Faithful Q) :
      Faithful (.cons f rest) fun t => P t.1 ∧ Q t.2

theorem Faithful.nodup_names {fs : Fields τ} {Q : τ → Prop} (h : fs.Faithful Q) :
    fs.names.Nodup := by
  induction h with
  | nil => exact List.nodup_nil
  | cons hname _ _ ih => exact List.nodup_cons.2 ⟨hname, ih⟩

theorem encode_cons {f : Field α} {rest : Fields β} {a : α} {t : β} :
    (Fields.cons f rest).encode (a, t) = if f.isOmitted a then rest.encode t
      else (f.name, f.codec.encode a) :: rest.encode t := rfl

theorem names_encode_sublist (fs : Fields τ) (t : τ) :
    (Json.names (fs.encode t)).Sublist fs.names := by
  induction fs with
  | nil => exact List.Sublist.refl _
  | cons f rest ih =>
    obtain ⟨a, t⟩ := t
    rw [encode_cons]
    split
    · exact (ih t).cons _
    · exact (ih t).cons_cons _

theorem Faithful.tell {fs : Fields τ} {Q : τ → Prop} {t : τ} (h : fs.Faithful Q) (ht : Q t) :
    fs.Tell p (fs.encode t) t := by
  induction h with
  | nil => trivial
  | @cons _ _ f rest _ _ hname hf hrest ih =>
    obtain ⟨a, t⟩ := t
    obtain ⟨ha, ht⟩ := ht
    have hnone : find? f.name (rest.encode t) = none :=
      find?_eq_none_iff.2 fun hmem => hname ((names_encode_sublist rest t).subset hmem)
    rw [encode_cons]
    split
    · next homitted =>
      exact ⟨Field.tells_of_none hnone (hf.omitted a homitted), ih ht⟩
    · next hwritten =>
      have hsome : find? f.name ((f.name, f.codec.encode a) :: rest.encode t) =
          some (f.codec.encode a) := by rw [find?_cons, if_pos rfl]
      refine ⟨Field.tells_of_some hsome (hf.reads p a ha (by simpa using hwritten)),
        (ih ht).congr ?_⟩
      · intro name hmem
        rw [find?_cons, if_neg]
        rintro rfl
        exact hname hmem

end Fields

namespace Field
variable {c : Codec α} {P : α → Prop} {name : String}

theorem faithful_required (h : c.Faithful P) : (required name c).Faithful P :=
  ⟨fun p a ha _ => h.reads p a ha, fun _ h => by cases h⟩

theorem faithful_defaulted {value : α} (h : c.Faithful P) : (defaulted name c value).Faithful P :=
  ⟨fun p a ha _ => h.reads p a ha, fun _ h => by cases h⟩

theorem read_option {a : α} (h : c.Faithful P) (ha : P a) :
    c.option.read p (c.option.encode (some a)) = .ok (some a) := by
  have hread := h.reads p a ha
  have hnull := h.notNull a ha
  change c.option.read p (c.encode a) = _
  cases hj : c.encode a with
  | null => exact absurd hj hnull
  | _ => rw [hj] at hread; simp only [Codec.option, hread]; rfl

theorem faithful_optional (h : c.Faithful P) :
    (optional name c).Faithful fun o => ∀ a ∈ o, P a where
  reads p o ho hwritten := by
    cases o with
    | none => cases hwritten
    | some a => exact read_option h (ho a rfl)
  omitted o h := by
    cases o with
    | none => rfl
    | some a => cases h

end Field

/-- What is written of a record tells its fields, if it has a property. -/
structure Layout.Faithful (l : Layout α) (P : α → Prop) : Prop where
  nodup : l.fields.names.Nodup
  tell : ∀ p a, P a → l.fields.Tell p (l.encodeMembers a) (l.toTuple a)
  back : ∀ a, l.ofTuple (l.toTuple a) = a

namespace Layout
variable {l : Layout α} {P : α → Prop} {Q : l.Tuple → Prop} {a : α}

theorem faithful (hl : l.fields.Faithful Q) (hback : ∀ a, l.ofTuple (l.toTuple a) = a)
    (hP : ∀ a, P a → Q (l.toTuple a)) : l.Faithful P :=
  ⟨hl.nodup_names, fun _ a ha => hl.tell (hP a ha), hback⟩

/-- A record is read from any members that tell its fields. -/
theorem read_of_tell {t : l.Tuple} (hfs : l.fields.names.Nodup) (hms : (Json.names ms).Nodup)
    (h : l.fields.Tell p ms t) : l.codec.read p (.obj ms) = .ok (l.ofTuple t) := by
  change (l.fields.readMembers l.repeats p ms).map l.ofTuple = _
  rw [h.readMembers l.repeats hfs hms]
  rfl

namespace Faithful

theorem nodup_encodeMembers (h : l.Faithful P) (a : α) : (Json.names (l.encodeMembers a)).Nodup :=
  h.nodup.sublist (Fields.names_encode_sublist _ _)

/-- A record is read from any members among which the same is found under the names of its fields
as among its own. -/
theorem read_within (h : l.Faithful P) (ha : P a) (hms : (Json.names ms).Nodup)
    (heq : ∀ name ∈ l.fields.names, find? name ms = find? name (l.encodeMembers a)) :
    l.codec.read p (.obj ms) = .ok a := by
  rw [read_of_tell h.nodup hms ((h.tell p a ha).congr heq), h.back]

theorem read (h : l.Faithful P) (ha : P a) (hms : (Json.names ms).Nodup)
    (heq : ∀ name, find? name ms = find? name (l.encodeMembers a)) :
    l.codec.read p (.obj ms) = .ok a := h.read_within ha hms fun name _ => heq name

theorem codec (h : l.Faithful P) : l.codec.Faithful P where
  reads _ a ha := h.read ha (h.nodup_encodeMembers a) fun _ => rfl
  notNull a _ h := by cases h

/-- A record reads back behind other members. -/
theorem read_behind (h : l.Faithful P) (ha : P a)
    (hnames : (Json.names ms ++ l.fields.names).Nodup) :
    l.codec.read p (.obj (ms ++ l.encodeMembers a)) = .ok a := by
  refine h.read_within ha ?_ ?_
  · have hsub := (Fields.names_encode_sublist l.fields (l.toTuple a)).append_left (Json.names ms)
    rw [Json.names, List.map_append]
    exact hnames.sublist hsub
  · intro name hname
    have hnone : find? name ms = none :=
      find?_eq_none_iff.2 fun hmem => (List.nodup_append.1 hnames).2.2 _ hmem _ hname rfl
    rw [Json.find?_append, hnone, Option.none_or]

/-- A record reads back before other members. -/
theorem read_before (h : l.Faithful P) (ha : P a)
    (hnames : (l.fields.names ++ Json.names ms).Nodup) :
    l.codec.read p (.obj (l.encodeMembers a ++ ms)) = .ok a := by
  refine h.read_within ha ?_ ?_
  · have hsub := (Fields.names_encode_sublist l.fields (l.toTuple a)).append_right (Json.names ms)
    rw [Json.names, List.map_append]
    exact hnames.sublist hsub
  · intro name hname
    have hnone : find? name ms = none :=
      find?_eq_none_iff.2 fun hmem => (List.nodup_append.1 hnames).2.2 _ hname _ hmem rfl
    rw [Json.find?_append, hnone, Option.or_none]

end Faithful

end Layout

end ResourceSync
