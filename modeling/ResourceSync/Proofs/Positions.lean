import Mathlib.Data.List.Basic
import Mathlib.Data.List.Perm.Basic
import ResourceSync.Kind.RuleGroup

/-! Where the subgroups of a rule group stand. One that gives no order takes that of its place in the
list, which another may have given. -/
namespace ResourceSync

@[simp] theorem RuleSubgroup.body_order (position : Nat) (s : RuleSubgroup) :
    (s.body position).order = s.order.getD (orderAt position) := rfl

/-- The orders of the subgroups. -/
def RuleGroupBody.orders (b : RuleGroupBody) : List UInt32 := b.ruleSubgroups.map (·.order)

namespace RuleGroupSpec

/-- The orders that subgroups give. -/
def givenOrders (s : RuleGroupSpec) : List UInt32 := s.subgroups.filterMap (·.order)

/-- The places, counted from one, of the subgroups that give no order. -/
def openPlaces (s : RuleGroupSpec) : List Nat :=
  ((s.subgroups.zipIdx 1).filter fun p => p.1.order.isNone).map (·.2)

/-- The orders that a body has for the subgroups that give none, as they follow in the list. -/
def chosenOrders (s : RuleGroupSpec) (b : RuleGroupBody) : List UInt32 :=
  ((s.subgroups.zip b.ruleSubgroups).filter fun p => p.1.order.isNone).map (·.2.order)

theorem subgroupBodies_eq {group : String} {position : Nat} {l : List RuleSubgroup}
    {bodies : List RuleSubgroupBody} (h : subgroupBodies group position l = .ok bodies) :
    bodies = (l.zipIdx position).map fun p => p.1.body p.2 := by
  induction l generalizing position bodies with
  | nil =>
    cases h
    rfl
  | cons s l ih =>
    rw [subgroupBodies] at h
    split at h
    · cases h
    · cases hrest : subgroupBodies group (position + 1) l with
      | error e =>
        rw [hrest] at h
        cases h
      | ok rest =>
        rw [hrest] at h
        cases h
        rw [ih hrest]
        rfl

section body
variable {s : RuleGroupSpec} {b : RuleGroupBody}

theorem ruleSubgroups_eq (hb : s.desiredBody = .ok b) :
    b.ruleSubgroups = (s.subgroups.zipIdx 1).map fun p => p.1.body p.2 := by
  unfold desiredBody at hb
  cases h : subgroupBodies s.name 1 s.subgroups with
  | error e =>
    rw [h] at hb
    cases hb
  | ok bodies =>
    rw [h] at hb
    cases hb
    exact subgroupBodies_eq h

theorem chosenOrders_eq (hb : s.desiredBody = .ok b) :
    s.chosenOrders b = s.openPlaces.map orderAt := by
  rw [chosenOrders, openPlaces, ruleSubgroups_eq hb]
  generalize s.subgroups = l
  generalize 1 = position
  induction l generalizing position with
  | nil => rfl
  | cons g l ih =>
    cases hg : g.order with
    | none => simp [hg, ih]
    | some n => simp [hg, ih]

/-- The orders are those that are given and those that are taken from the places. -/
theorem orders_perm (hb : s.desiredBody = .ok b) :
    b.orders.Perm (s.givenOrders ++ s.chosenOrders b) := by
  rw [RuleGroupBody.orders, chosenOrders_eq hb, givenOrders, openPlaces, ruleSubgroups_eq hb]
  generalize s.subgroups = l
  generalize 1 = position
  induction l generalizing position with
  | nil => exact .nil
  | cons g l ih =>
    cases hg : g.order with
    | none =>
      simpa [hg] using (ih (position + 1)).cons (orderAt position) |>.trans
        List.perm_middle.symm
    | some n => simpa [hg] using (ih (position + 1)).cons n

end body

theorem openPlaces_increase (s : RuleGroupSpec) : s.openPlaces.Pairwise (· < ·) := by
  have hplaces : s.openPlaces.Sublist (List.range' 1 s.subgroups.length) := by
    rw [← List.zipIdx_map_snd 1 s.subgroups]
    exact List.filter_sublist.map _
  exact List.Pairwise.sublist hplaces List.pairwise_lt_range'

theorem le_length_of_mem_openPlaces {s : RuleGroupSpec} {i : Nat} (hi : i ∈ s.openPlaces) :
    i ≤ s.subgroups.length := by
  obtain ⟨⟨g, j⟩, hg, rfl⟩ := List.mem_map.1 hi
  have := List.snd_lt_of_mem_zipIdx (List.mem_filter.1 hg).1
  omega

end RuleGroupSpec

theorem toNat_orderAt {position : Nat} (h : position < UInt32.size) :
    (orderAt position).toNat = position := by
  rw [orderAt, Nat.min_eq_left (Nat.le_of_lt_succ h)]
  exact UInt32.toNat_ofNat_of_lt h

namespace RuleGroupSpec

/-- The orders of the subgroups differ exactly if the given ones differ and none of them is the place
of a subgroup that gives none. Those that give none keep the order of the list in any case. -/
theorem orders_differ_iff {s : RuleGroupSpec} {b : RuleGroupBody} (hb : s.desiredBody = .ok b)
    (hlength : s.subgroups.length < UInt32.size) :
    (b.orders.Nodup ↔ s.givenOrders.Nodup ∧ ∀ n ∈ s.givenOrders, n.toNat ∉ s.openPlaces) ∧
      (s.chosenOrders b).Pairwise (· < ·) := by
  have hplace : ∀ i ∈ s.openPlaces, (orderAt i).toNat = i := fun i hi =>
    toNat_orderAt (Nat.lt_of_le_of_lt (le_length_of_mem_openPlaces hi) hlength)
  have hchosen : (s.chosenOrders b).Pairwise (· < ·) := by
    rw [chosenOrders_eq hb, List.pairwise_map]
    refine s.openPlaces_increase.imp_of_mem fun {i j} hi hj hij => ?_
    rwa [UInt32.lt_iff_toNat_lt, hplace i hi, hplace j hj]
  have hmem : ∀ n, n ∈ s.chosenOrders b ↔ n.toNat ∈ s.openPlaces := by
    intro n
    rw [chosenOrders_eq hb, List.mem_map]
    constructor
    · rintro ⟨i, hi, rfl⟩
      rwa [hplace i hi]
    · intro hn
      exact ⟨n.toNat, hn, UInt32.toNat_inj.1 (hplace _ hn)⟩
  refine ⟨?_, hchosen⟩
  rw [(orders_perm hb).nodup_iff, List.nodup_append]
  have hnodup : (s.chosenOrders b).Nodup := hchosen.imp fun h => UInt32.ne_of_lt h
  constructor
  · rintro ⟨hgiven, -, hapart⟩
    exact ⟨hgiven, fun n hn hplace => hapart n hn n ((hmem n).2 hplace) rfl⟩
  · rintro ⟨hgiven, hfree⟩
    refine ⟨hgiven, hnodup, ?_⟩
    rintro n hn _ hn' rfl
    exact hfree n hn ((hmem n).1 hn')

/-- A group whose subgroups, each of which drops what matches a pattern, have some orders. -/
def Sample.logs (orders : List (Option UInt32)) : RuleGroupSpec where
  name := "logs"
  description := none
  active := true
  order := none
  subgroups := orders.map fun order =>
    ⟨true, order, [⟨"debug", none, true, "text", .block ⟨"DEBUG", false⟩⟩]⟩

theorem distant_order_is_apart : ∃ b, (Sample.logs [none, some 5, none]).desiredBody = .ok b ∧
    b.orders = [1, 5, 3] ∧ b.orders.Nodup ∧
    ((Sample.logs [none, some 5, none]).chosenOrders b).Pairwise (· < ·) := by
  have hgiven : (Sample.logs [none, some 5, none]).givenOrders = [5] := rfl
  have hopen : (Sample.logs [none, some 5, none]).openPlaces = [1, 3] := rfl
  have h := orders_differ_iff (s := Sample.logs [none, some 5, none]) rfl (by decide)
  exact ⟨_, rfl, rfl, h.1.2 (by simp [hgiven, hopen]), h.2⟩

/-- The order that the second subgroup gives is the place of the first. -/
theorem order_is_given_twice : ∃ b, (Sample.logs [none, some 1]).desiredBody = .ok b ∧
    (Sample.logs [none, some 1]).givenOrders.Nodup ∧ b.orders = [1, 1] ∧ ¬ b.orders.Nodup :=
  ⟨_, rfl, by decide, by decide, by decide⟩

end RuleGroupSpec

end ResourceSync
