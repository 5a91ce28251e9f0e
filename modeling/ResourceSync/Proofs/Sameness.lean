import Mathlib.Order.Monotone.Basic
import ResourceSync.Kind.ApiKey
import ResourceSync.Kind.Team

/-! When entities count as the same: what is a set in them is compared as a set, and all else
exactly, so that neither order nor repetition looks like a change. -/
namespace ResourceSync

namespace Binary64
variable {x y : Binary64} {m f : Nat}

/-- The size of the number with the given word, which has no sign. -/
def sizeAt (m : Nat) : Nat :=
  (if m < Nat.pow 2 52 then m % Nat.pow 2 52 else Nat.pow 2 52 + m % Nat.pow 2 52) *
    Nat.pow 2 (m / Nat.pow 2 52 - 1)

theorem size_eq (x : Binary64) : x.size = sizeAt x.magnitude := rfl

theorem sizeAt_small (h : m < Nat.pow 2 52) : sizeAt m = m := by
  rw [sizeAt, if_pos h, Nat.mod_eq_of_lt h, Nat.div_eq_of_lt h]
  exact Nat.mul_one m

theorem sizeAt_block (q : Nat) (hf : f < Nat.pow 2 52) :
    sizeAt ((q + 1) * Nat.pow 2 52 + f) = (Nat.pow 2 52 + f) * Nat.pow 2 q := by
  have hmod : ((q + 1) * Nat.pow 2 52 + f) % Nat.pow 2 52 = f := by
    rw [Nat.mul_add_mod', Nat.mod_eq_of_lt hf]
  have hdiv : ((q + 1) * Nat.pow 2 52 + f) / Nat.pow 2 52 = q + 1 := by
    rw [Nat.mul_comm, Nat.mul_add_div (by decide), Nat.div_eq_of_lt hf, Nat.add_zero]
  have hle : Nat.pow 2 52 ≤ (q + 1) * Nat.pow 2 52 := Nat.le_mul_of_pos_left _ q.succ_pos
  rw [sizeAt, if_neg (by omega), hmod, hdiv, Nat.add_sub_cancel]

/-- The next word is that of a greater number, also where the exponent changes. -/
theorem sizeAt_lt_succ (m : Nat) : sizeAt m < sizeAt (m + 1) := by
  by_cases h : m < Nat.pow 2 52
  · rw [sizeAt_small h]
    by_cases hnext : m + 1 < Nat.pow 2 52
    · rw [sizeAt_small hnext]
      omega
    · have hm : m + 1 = (0 + 1) * Nat.pow 2 52 + 0 := by omega
      rw [hm, sizeAt_block 0 (by decide)]
      exact h
  · obtain ⟨q, f, hf, rfl⟩ : ∃ q f, f < Nat.pow 2 52 ∧ m = (q + 1) * Nat.pow 2 52 + f := by
      have hq : 0 < m / Nat.pow 2 52 := Nat.div_pos (Nat.not_lt.1 h) (by decide)
      refine ⟨m / Nat.pow 2 52 - 1, m % Nat.pow 2 52, Nat.mod_lt m (by decide), ?_⟩
      rw [Nat.sub_add_cancel hq, Nat.div_add_mod']
    rw [sizeAt_block q hf]
    by_cases hnext : f + 1 < Nat.pow 2 52
    · rw [Nat.add_assoc, sizeAt_block q hnext]
      exact Nat.mul_lt_mul_of_pos_right (by omega) (Nat.two_pow_pos q)
    · have hm : (q + 1) * Nat.pow 2 52 + f + 1 = (q + 1 + 1) * Nat.pow 2 52 + 0 := by
        rw [Nat.succ_mul (q + 1)]
        omega
      have hdouble : Nat.pow 2 52 * 2 * Nat.pow 2 q = (Nat.pow 2 52 + 0) * Nat.pow 2 (q + 1) :=
        (Nat.mul_assoc ..).trans (congrArg _ Nat.pow_succ'.symm)
      rw [hm, sizeAt_block (q + 1) (by decide), ← hdouble]
      exact Nat.mul_lt_mul_of_pos_right (by omega) (Nat.two_pow_pos q)

theorem magnitude_eq_of_size_eq (h : x.size = y.size) : x.magnitude = y.magnitude :=
  (strictMono_nat_of_lt_succ sizeAt_lt_succ).injective h

theorem isZero_iff_size : x.isZero = true ↔ x.size = 0 := by
  have hzero : sizeAt 0 = 0 := sizeAt_small (by decide)
  rw [isZero, decide_eq_true_eq, size_eq]
  constructor
  · intro h
    rw [h, hzero]
  · intro h
    exact (strictMono_nat_of_lt_succ sizeAt_lt_succ).injective (h.trans hzero.symm)

theorem eq_of_magnitude_eq (hm : x.magnitude = y.magnitude) (hn : x.negative = y.negative) :
    x = y := by
  obtain ⟨a⟩ := x
  obtain ⟨b⟩ := y
  have ha := a.toNat_lt
  have hb := b.toNat_lt
  simp only [magnitude, negative, Nat.pow_eq, decide_eq_decide] at hm hn
  have hbits : a.toNat = b.toNat := by omega
  rw [UInt64.toNat_inj.1 hbits]

theorem units_eq_iff : x.units = y.units ↔ x = y ∨ x.isZero = true ∧ y.isZero = true := by
  constructor
  · intro h
    rw [isZero_iff_size, isZero_iff_size]
    have hsame (hn : x.negative = y.negative) (hsize : x.size = y.size) : x = y :=
      eq_of_magnitude_eq (magnitude_eq_of_size_eq hsize) hn
    cases hx : x.negative with
    | false =>
      cases hy : y.negative with
      | false =>
        simp only [units, hx, hy, Bool.false_eq_true, if_false] at h
        exact .inl (hsame (hx.trans hy.symm) (by omega))
      | true =>
        simp only [units, hx, hy, Bool.false_eq_true, if_false, if_true] at h
        exact .inr ⟨by omega, by omega⟩
    | true =>
      cases hy : y.negative with
      | false =>
        simp only [units, hx, hy, Bool.false_eq_true, if_false, if_true] at h
        exact .inr ⟨by omega, by omega⟩
      | true =>
        simp only [units, hx, hy, if_true] at h
        exact .inl (hsame (hx.trans hy.symm) (by omega))
  · rintro (rfl | ⟨hx, hy⟩)
    · rfl
    · simp [units, isZero_iff_size.1 hx, isZero_iff_size.1 hy]

/-- Numbers are equal if they have the same value. The two zeros have. -/
theorem equals_iff_units (hx : x.isNaN = false) (hy : y.isNaN = false) :
    x.equals y = true ↔ x.units = y.units := by
  rw [units_eq_iff]
  simp [equals, hx, hy]

end Binary64

/-- The same members, in whatever order and however often. -/
def SameSet (a b : List String) : Prop := ∀ s, s ∈ a ↔ s ∈ b

theorem sameSet_equivalence : Equivalence SameSet where
  refl _ _ := Iff.rfl
  symm h s := (h s).symm
  trans h h' s := (h s).trans (h' s)

theorem sameMembers_congr {a a' b b' : List String} (ha : SameSet a a') (hb : SameSet b b') :
    sameMembers a' b' = sameMembers a b := by
  rw [Bool.eq_iff_iff, sameMembers_iff, sameMembers_iff]
  constructor
  · intro h
    exact sameSet_equivalence.trans ha (sameSet_equivalence.trans h (sameSet_equivalence.symm hb))
  · intro h
    exact sameSet_equivalence.trans (sameSet_equivalence.symm ha) (sameSet_equivalence.trans h hb)

namespace TeamBody
variable {b b' d d' o o' : TeamBody}

/-- The quota is a number, if there is one. -/
def IsNumeric (b : TeamBody) : Prop := ∀ q ∈ b.dailyQuota, q.isNaN = false

/-- The same team, its administrators being a set. -/
structure Agrees (b b' : TeamBody) : Prop where
  name : b.name = b'.name
  description : b.description = b'.description
  quota : b.dailyQuota.map Binary64.units = b'.dailyQuota.map Binary64.units
  admins : SameSet b.adminsEmails b'.adminsEmails

/-- The same team with its administrators in another order or with other repetitions. -/
def Relisted (b b' : TeamBody) : Prop :=
  ∃ admins, SameSet b.adminsEmails admins ∧ b' = { b with adminsEmails := admins }

theorem sameQuota_iff (h : b.IsNumeric) (h' : b'.IsNumeric) :
    sameQuota b.dailyQuota b'.dailyQuota = true ↔
      b.dailyQuota.map Binary64.units = b'.dailyQuota.map Binary64.units := by
  cases hq : b.dailyQuota with
  | none => cases b'.dailyQuota <;> simp [sameQuota]
  | some q =>
    cases hq' : b'.dailyQuota with
    | none => simp [sameQuota]
    | some q' => simp [sameQuota, Binary64.equals_iff_units (h q hq) (h' q' hq')]

theorem inSync_iff_agrees (h : b.IsNumeric) (h' : b'.IsNumeric) :
    b.inSync b' = true ↔ b.Agrees b' := by
  simp only [inSync, Bool.and_eq_true, decide_eq_true_eq, sameMembers_iff, sameQuota_iff h h']
  constructor
  · rintro ⟨⟨⟨hname, hdescription⟩, hquota⟩, hadmins⟩
    exact ⟨hname, hdescription, hquota, hadmins⟩
  · rintro ⟨hname, hdescription, hquota, hadmins⟩
    exact ⟨⟨⟨hname, hdescription⟩, hquota⟩, hadmins⟩

theorem agrees_equivalence : Equivalence Agrees where
  refl _ := ⟨rfl, rfl, rfl, sameSet_equivalence.refl _⟩
  symm h := ⟨h.name.symm, h.description.symm, h.quota.symm, sameSet_equivalence.symm h.admins⟩
  trans h h' := ⟨h.name.trans h'.name, h.description.trans h'.description,
    h.quota.trans h'.quota, sameSet_equivalence.trans h.admins h'.admins⟩

/-- Lists that are sets count as the same in every order and with every repetition, so that what
is compared through them is as well. -/
theorem inSync_relisted (h : d.Relisted d') (h' : o.Relisted o') : d'.inSync o' = d.inSync o := by
  obtain ⟨l, hl, rfl⟩ := h
  obtain ⟨l', hl', rfl⟩ := h'
  rw [inSync, inSync, sameMembers_congr hl hl']

end TeamBody

namespace ApiKeyBody
variable {b b' d d' o o' : ApiKeyBody}

/-- The same key, its presets and permissions being sets. -/
structure Agrees (b b' : ApiKeyBody) : Prop where
  name : b.name = b'.name
  owner : b.owner = b'.owner
  active : b.active = b'.active
  presets : SameSet b.presets b'.presets
  permissions : SameSet b.permissions b'.permissions

/-- The same key with its presets and permissions in another order or with other repetitions. -/
def Relisted (b b' : ApiKeyBody) : Prop :=
  ∃ presets permissions, SameSet b.presets presets ∧ SameSet b.permissions permissions ∧
    b' = { b with presets := presets, permissions := permissions }

theorem inSync_iff_agrees : b.inSync b' = true ↔ b.Agrees b' := by
  simp only [inSync, Bool.and_eq_true, decide_eq_true_eq, sameMembers_iff]
  constructor
  · rintro ⟨⟨⟨⟨hname, howner⟩, hactive⟩, hpresets⟩, hpermissions⟩
    exact ⟨hname, howner, hactive, hpresets, hpermissions⟩
  · rintro ⟨hname, howner, hactive, hpresets, hpermissions⟩
    exact ⟨⟨⟨⟨hname, howner⟩, hactive⟩, hpresets⟩, hpermissions⟩

theorem agrees_equivalence : Equivalence Agrees where
  refl _ := ⟨rfl, rfl, rfl, sameSet_equivalence.refl _, sameSet_equivalence.refl _⟩
  symm h := ⟨h.name.symm, h.owner.symm, h.active.symm, sameSet_equivalence.symm h.presets,
    sameSet_equivalence.symm h.permissions⟩
  trans h h' := ⟨h.name.trans h'.name, h.owner.trans h'.owner, h.active.trans h'.active,
    sameSet_equivalence.trans h.presets h'.presets,
    sameSet_equivalence.trans h.permissions h'.permissions⟩

theorem inSync_relisted (h : d.Relisted d') (h' : o.Relisted o') : d'.inSync o' = d.inSync o := by
  obtain ⟨l, m, hl, hm, rfl⟩ := h
  obtain ⟨l', m', hl', hm', rfl⟩ := h'
  rw [inSync, inSync, sameMembers_congr hl hl', sameMembers_congr hm hm']

end ApiKeyBody

/-- Lists are compared by their members alone. So a team whose quota is a number, or a key, is in
step with another exactly if they agree in every field, those lists being sets; that is an
equivalence, and no other order or repetition in the lists of either changes it. -/
theorem order_and_repetition_never_drift :
    (∀ a b : List String, sameMembers a b = true ↔ ∀ s, s ∈ a ↔ s ∈ b) ∧
    (∀ d o : TeamBody, d.IsNumeric → o.IsNumeric → (d.inSync o = true ↔ d.Agrees o)) ∧
    (∀ d o : ApiKeyBody, d.inSync o = true ↔ d.Agrees o) ∧
    (Equivalence fun d o : { b : TeamBody // b.IsNumeric } => d.1.inSync o.1 = true) ∧
    (Equivalence fun d o : ApiKeyBody => d.inSync o = true) ∧
    (∀ d d' o o' : TeamBody, d.Relisted d' → o.Relisted o' → d'.inSync o' = d.inSync o) ∧
    ∀ d d' o o' : ApiKeyBody, d.Relisted d' → o.Relisted o' → d'.inSync o' = d.inSync o := by
  refine ⟨fun a b => sameMembers_iff, fun d o => TeamBody.inSync_iff_agrees,
    fun d o => ApiKeyBody.inSync_iff_agrees, ?_, ?_, fun d d' o o' => TeamBody.inSync_relisted,
    fun d d' o o' => ApiKeyBody.inSync_relisted⟩
  · have hteams : (fun d o : { b : TeamBody // b.IsNumeric } => d.1.inSync o.1 = true) =
        fun d o => d.1.Agrees o.1 := by
      funext d o
      exact propext (TeamBody.inSync_iff_agrees d.2 o.2)
    rw [hteams]
    exact TeamBody.agrees_equivalence.comap Subtype.val
  · have hkeys : (fun d o : ApiKeyBody => d.inSync o = true) = ApiKeyBody.Agrees := by
      funext d o
      exact propext ApiKeyBody.inSync_iff_agrees
    rw [hkeys]
    exact ApiKeyBody.agrees_equivalence

/-- A team with some administrators and a quota. -/
def quotaTeam (admins : List String) (quota : Binary64) : TeamBody :=
  ⟨"payments", "", admins, some quota⟩

/-- Administrators in another order, one of them twice, and the other zero as the quota. -/
theorem reordered_team_is_in_sync :
    let desired := quotaTeam ["ann", "bob"] ⟨0⟩
    let observed := quotaTeam ["bob", "ann", "bob"] ⟨0x8000000000000000⟩
    desired.IsNumeric ∧ observed.IsNumeric ∧ desired.inSync observed = true := by
  intro desired observed
  have hdesired : desired.IsNumeric := by
    intro q hq
    obtain rfl := Option.some.inj hq
    decide
  have hobserved : observed.IsNumeric := by
    intro q hq
    obtain rfl := Option.some.inj hq
    decide
  have hadmins : SameSet desired.adminsEmails observed.adminsEmails := by
    intro s
    simp only [desired, observed, quotaTeam, List.mem_cons, List.not_mem_nil, or_false]
    constructor
    · rintro (h | h)
      · exact .inr (.inl h)
      · exact .inl h
    · rintro (h | h | h)
      · exact .inr h
      · exact .inl h
      · exact .inr h
  exact ⟨hdesired, hobserved, (order_and_repetition_never_drift.2.1 _ _ hdesired hobserved).2
    ⟨rfl, rfl, by decide, hadmins⟩⟩

end ResourceSync
