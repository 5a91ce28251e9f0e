import ResourceSync.Json.Value
import ResourceSync.Proofs.Reading

/-! Which values read back from what is written of them, codec by codec. -/
namespace ResourceSync

variable {α β : Type} {c : Codec α} {P : α → Prop}

namespace Codec

theorem Lawful.faithful (h : c.Lawful) (hnull : ∀ a, c.encode a ≠ .null) :
    c.Faithful fun _ => True := ⟨fun p a _ => h p a, fun a _ => hnull a⟩

theorem faithful_text : text.Faithful fun _ => True := lawful_text.faithful fun _ h => by cases h

theorem faithful_bool : bool.Faithful fun _ => True := lawful_bool.faithful fun _ h => by cases h

theorem faithful_uint32 : uint32.Faithful fun _ => True :=
  lawful_uint32.faithful fun _ h => by cases h

theorem faithful_uint64 : uint64.Faithful fun _ => True :=
  lawful_uint64.faithful fun _ h => by cases h

theorem lawful_int64 : int64.Lawful := by
  intro _ n
  have hlow := n.le_toInt
  have hhigh := n.toInt_lt
  unfold int64 uniform
  dsimp only
  rw [map_wholeNumber (by simpa using hlow) (by simpa using hhigh), Int64.ofInt_toInt]

theorem faithful_int64 : int64.Faithful fun _ => True :=
  lawful_int64.faithful fun _ h => by cases h

/-- A value is read as it stands, but null as no value. -/
theorem faithful_value : value.Faithful fun v => v.json ≠ .null where
  reads p v _ := by
    obtain ⟨j, hj⟩ := v
    simp only [value, uniform]
    split
    · next e hfault => rw [hj.fault?] at hfault; cases hfault
    · simp only [hj.canonical]
  notNull v hv := hv

theorem faithful_binary64 : binary64.Faithful fun x => x.isFinite = true where
  reads p x hx := by
    simp only [binary64, uniform, hx, if_true]
  notNull x hx := by
    simp [binary64, uniform, hx]

theorem Faithful.list (h : c.Faithful P) : c.list.Faithful fun l => ∀ a ∈ l, P a where
  reads p l hl := by
    change (l.map c.encode).mapM (c.read p) = .ok l
    induction l with
    | nil => rfl
    | cons a l ih =>
      rw [List.map_cons, List.mapM_cons, h.reads p a (hl a List.mem_cons_self),
        ih fun a ha => hl a (List.mem_cons_of_mem _ ha)]
      rfl
  notNull l _ h := by cases h

/-- Entries in ascending order go one behind the other. -/
theorem Faithful.foldlM_insert (h : c.Faithful P) {p : Passage} {l : List (String × α)}
    {m : SortedMap String α} (hl : ∀ e ∈ l, P e.2)
    (hsorted : (m.entries ++ l).Pairwise fun x y => x.1 < y.1) :
    (l.map fun e => (e.1, c.encode e.2)).foldlM
      (fun m e => do return m.insert e.1 (← c.read p e.2)) m = .ok ⟨m.entries ++ l, hsorted⟩ := by
  induction l generalizing m with
  | nil =>
    simp only [List.append_nil]
    rfl
  | cons e l ih =>
    obtain ⟨name, a⟩ := e
    have hput : (m.insert name a).entries = m.entries ++ [(name, a)] := by
      refine SortedMap.put_of_lt ?_
      intro e he
      exact (List.pairwise_append.1 hsorted).2.2 e he _ List.mem_cons_self
    have hsorted' : ((m.insert name a).entries ++ l).Pairwise fun x y => x.1 < y.1 := by
      rw [hput, List.append_assoc]
      exact hsorted
    have hrest := ih (fun e he => hl e (List.mem_cons_of_mem _ he)) hsorted'
    rw [List.map_cons, List.foldlM_cons]
    simp only [h.reads p a (hl _ List.mem_cons_self)]
    refine hrest.trans ?_
    simp only [hput, List.append_assoc, List.cons_append, List.nil_append]

theorem Faithful.map (h : c.Faithful P) : c.map.Faithful fun m => ∀ e ∈ m.entries, P e.2 where
  reads p m hm := h.foldlM_insert (m := ∅) hm m.sorted
  notNull m _ h := by cases h

/-- Names that tell the values of an enumeration apart are read back. -/
theorem faithful_choice {all : List α} {name : α → String}
    (h : ∀ a, (all.find? fun b => name b == name a) = some a) :
    (choice all name).Faithful fun _ => True where
  reads p a _ := by
    simp only [choice, variant, bind, Except.bind, h a]
  notNull a _ h := by cases h

/-- An alternative of a union is read back, if its name stands for it. -/
theorem faithful_union {arms : List (Arm α)} {P : α → Prop}
    (h : ∀ a, P a → ∃ arm j, (arms.findSome? fun arm => (arm.encode? a).map fun j => (arm.name, j)) =
        some (arm.name, j) ∧ (arms.find? fun b => b.name == arm.name) = some arm ∧
      ∀ p, arm.read p j = .ok a) : (union arms).Faithful P where
  reads p a ha := by
    obtain ⟨arm, j, hwrites, hfind, hread⟩ := h a ha
    have hencode : (union arms).encode a = .obj [(arm.name, j)] := by
      simp only [union, hwrites, Option.toList_some]
    rw [hencode]
    simp only [union, variant, bind, Except.bind, hfind, hread p]
  notNull a _ h := by cases h

end Codec

theorem Field.faithful_sparseMap {name : String} (h : c.Faithful P) :
    (Field.sparseMap name c).Faithful fun m => ∀ e ∈ m.entries, P e.2 where
  reads p m hm _ := h.map.reads p m hm
  omitted m h := by
    obtain ⟨entries, hsorted⟩ := m
    obtain rfl : entries = [] := List.isEmpty_iff.1 h
    rfl

end ResourceSync
