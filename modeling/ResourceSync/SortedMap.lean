/-! Finite maps in one canonical form: the entries stand in strictly ascending key order. -/
namespace ResourceSync

/-- A strict linear order on keys. -/
class KeyOrder (κ : Type) extends LT κ where
  decidableLT : ∀ a b : κ, Decidable (a < b)
  lt_irrefl : ∀ a : κ, ¬ a < a
  lt_trans : ∀ {a b c : κ}, a < b → b < c → a < c
  lt_trichotomous : ∀ {a b : κ}, ¬ a < b → ¬ b < a → a = b

instance KeyOrder.decidable {κ : Type} [KeyOrder κ] (a b : κ) : Decidable (a < b) :=
  KeyOrder.decidableLT a b

instance : KeyOrder String where
  decidableLT _ _ := inferInstance
  lt_irrefl := String.lt_irrefl
  lt_trans := String.lt_trans
  lt_trichotomous h₁ h₂ := String.le_antisymm (String.not_lt.1 h₂) (String.not_lt.1 h₁)

/-- Lists of texts in lexicographic order. -/
instance : KeyOrder (List String) where
  decidableLT _ _ := inferInstance
  lt_irrefl := List.lt_irrefl
  lt_trans := List.lt_trans
  lt_trichotomous h₁ h₂ := List.le_antisymm (List.not_lt.1 h₂) (List.not_lt.1 h₁)

/-- A finite map from `κ` to `α`. -/
structure SortedMap (κ α : Type) [KeyOrder κ] where
  entries : List (κ × α)
  sorted : entries.Pairwise (fun x y => x.1 < y.1)

namespace SortedMap
variable {κ α β : Type} [KeyOrder κ] {k k' : κ} {a : α} {m m₁ m₂ : SortedMap κ α}
  {l : List (κ × α)}

instance [DecidableEq κ] [DecidableEq α] : DecidableEq (SortedMap κ α) := fun m₁ m₂ =>
  decidable_of_iff (m₁.entries = m₂.entries) (by cases m₁; cases m₂; simp)

/-- The value under `k` in a list of entries. -/
def find (k : κ) : List (κ × α) → Option α
  | [] => none
  | (k', a) :: r => if k < k' then find k r else if k' < k then find k r else some a

/-- Puts `a` under `k` in a list of entries, in place of any earlier value. -/
def put (k : κ) (a : α) : List (κ × α) → List (κ × α)
  | [] => [(k, a)]
  | (k', a') :: r =>
    if k < k' then (k, a) :: (k', a') :: r
    else if k' < k then (k', a') :: put k a r
    else (k, a) :: r

theorem mem_put {e : κ × α} (h : e ∈ put k a l) : e = (k, a) ∨ e ∈ l := by
  induction l with
  | nil => simpa [put] using h
  | cons hd tl ih =>
    obtain ⟨k', a'⟩ := hd
    rw [put] at h
    split at h
    · simpa using h
    · split at h
      · rcases List.mem_cons.1 h with rfl | h
        · simp
        · rcases ih h with rfl | h <;> simp [*]
      · rcases List.mem_cons.1 h with rfl | h <;> simp [*]

theorem sorted_put (h : l.Pairwise (fun x y => x.1 < y.1)) :
    (put k a l).Pairwise (fun x y => x.1 < y.1) := by
  induction l with
  | nil => simp [put]
  | cons hd tl ih =>
    obtain ⟨k', a'⟩ := hd
    obtain ⟨h₁, h₂⟩ := List.pairwise_cons.1 h
    rw [put]
    split
    · next hk =>
      refine List.pairwise_cons.2 ⟨?_, h⟩
      intro e he
      rcases List.mem_cons.1 he with rfl | he
      · exact hk
      · exact KeyOrder.lt_trans hk (h₁ e he)
    · next hk =>
      split
      · next hk' =>
        refine List.pairwise_cons.2 ⟨?_, ih h₂⟩
        intro e he
        rcases mem_put he with rfl | he
        · exact hk'
        · exact h₁ e he
      · next hk' =>
        obtain rfl := KeyOrder.lt_trichotomous hk hk'
        exact List.pairwise_cons.2 ⟨h₁, h₂⟩

theorem put_of_lt (h : ∀ e ∈ l, e.1 < k) : put k a l = l ++ [(k, a)] := by
  induction l with
  | nil => rfl
  | cons e l ih =>
    obtain ⟨he, hl⟩ := List.forall_mem_cons.1 h
    have hnot : ¬ k < e.1 := fun hlt => KeyOrder.lt_irrefl _ (KeyOrder.lt_trans hlt he)
    rw [put, if_neg hnot, if_pos he, ih hl, List.cons_append]

theorem find_put_self : find k (put k a l) = some a := by
  induction l with
  | nil => simp [put, find, KeyOrder.lt_irrefl]
  | cons hd tl ih =>
    rw [put]
    split
    · simp [find, KeyOrder.lt_irrefl]
    · next h =>
      split
      · next h' => simp [find, h, h', ih]
      · simp [find, KeyOrder.lt_irrefl]

theorem find_put_of_ne (h : k' ≠ k) : find k' (put k a l) = find k' l := by
  have hn : ¬ (¬ k' < k ∧ ¬ k < k') := fun hh => h (KeyOrder.lt_trichotomous hh.1 hh.2)
  induction l with
  | nil =>
    simp only [put, find]
    split
    · rfl
    · split
      · rfl
      · simp_all
  | cons hd tl ih =>
    obtain ⟨k₁, a₁⟩ := hd
    rw [put]
    split
    · rw [find]
      split
      · rfl
      · split
        · rfl
        · simp_all
    · next h₁ =>
      split
      · simp only [find, ih]
      · next h₂ =>
        obtain rfl := KeyOrder.lt_trichotomous h₁ h₂
        simp only [find]
        split
        · rfl
        · split
          · rfl
          · simp_all

theorem find_cons_self : find k ((k, a) :: l) = some a := by
  simp [find, KeyOrder.lt_irrefl]

theorem find_cons_of_ne (h : k ≠ k') : find k ((k', a) :: l) = find k l := by
  rw [find]
  split
  · rfl
  · next h₁ =>
    split
    · rfl
    · next h₂ => exact absurd (KeyOrder.lt_trichotomous h₁ h₂) h

theorem find_filter (p : κ → Bool) (l : List (κ × α)) :
    find k (l.filter fun e => p e.1) = if p k then find k l else none := by
  induction l with
  | nil => simp [find]
  | cons hd tl ih =>
    obtain ⟨k', a⟩ := hd
    by_cases hk : k = k'
    · subst hk
      by_cases hp : p k = true
      · rw [List.filter_cons_of_pos (by exact hp), find_cons_self, find_cons_self, if_pos hp]
      · rw [List.filter_cons_of_neg (by exact hp), ih, if_neg hp, if_neg hp]
    · rw [find_cons_of_ne hk, ← ih]
      by_cases hp : p k' = true
      · rw [List.filter_cons_of_pos (by exact hp), find_cons_of_ne hk]
      · rw [List.filter_cons_of_neg (by exact hp)]

def empty : SortedMap κ α := ⟨[], .nil⟩

instance : EmptyCollection (SortedMap κ α) := ⟨empty⟩

instance : Inhabited (SortedMap κ α) := ⟨empty⟩

def get? (m : SortedMap κ α) (k : κ) : Option α := find k m.entries

def contains (m : SortedMap κ α) (k : κ) : Bool := (m.get? k).isSome

def isEmpty (m : SortedMap κ α) : Bool := m.entries.isEmpty

def toList (m : SortedMap κ α) : List (κ × α) := m.entries

def keys (m : SortedMap κ α) : List κ := m.entries.map (·.1)

def insert (m : SortedMap κ α) (k : κ) (a : α) : SortedMap κ α :=
  ⟨put k a m.entries, sorted_put m.sorted⟩

/-- Keeps the entries whose key and value satisfy `p`. -/
def filter (m : SortedMap κ α) (p : κ → α → Bool) : SortedMap κ α :=
  ⟨m.entries.filter fun e => p e.1 e.2, m.sorted.filter _⟩

def erase (m : SortedMap κ α) (k : κ) : SortedMap κ α :=
  m.filter fun k' _ => decide (k' < k ∨ k < k')

/-- Changes every value and no key. -/
def mapValues (m : SortedMap κ α) (f : α → β) : SortedMap κ β :=
  ⟨m.entries.map fun e => (e.1, f e.2), m.sorted.map _ fun _ _ h => h⟩

/-- Replaces the value under `k`, where there is one. -/
def modify (m : SortedMap κ α) (k : κ) (f : α → α) : SortedMap κ α :=
  match m.get? k with
  | none => m
  | some a => m.insert k (f a)

/-- The entries of a list put in one after another: of two values for a key the later one stays. -/
def ofList (l : List (κ × α)) : SortedMap κ α :=
  l.foldl (fun m e => m.insert e.1 e.2) empty

@[simp, grind =] theorem get?_empty : (∅ : SortedMap κ α).get? k = none := rfl

@[simp] theorem get?_insert_self : (m.insert k a).get? k = some a := find_put_self

theorem get?_insert_of_ne (h : k' ≠ k) : (m.insert k a).get? k' = m.get? k' := find_put_of_ne h

theorem get?_insert [DecidableEq κ] :
    (m.insert k a).get? k' = if k' = k then some a else m.get? k' := by
  split
  · next h => subst h; exact get?_insert_self
  · next h => exact get?_insert_of_ne h

theorem get?_filter {p : κ → Bool} :
    (m.filter fun k _ => p k).get? k = if p k then m.get? k else none := find_filter p m.entries

@[simp] theorem get?_erase_self : (m.erase k).get? k = none :=
  get?_filter.trans (if_neg (by simp [KeyOrder.lt_irrefl]))

theorem get?_erase_of_ne (h : k' ≠ k) : (m.erase k).get? k' = m.get? k' := by
  have hn : k' < k ∨ k < k' := by
    by_cases h₁ : k' < k
    · exact .inl h₁
    · by_cases h₂ : k < k'
      · exact .inr h₂
      · exact absurd (KeyOrder.lt_trichotomous h₁ h₂) h
  exact get?_filter.trans (if_pos (decide_eq_true hn))

end SortedMap

end ResourceSync
