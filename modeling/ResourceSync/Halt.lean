/-! Computations that may end without a value, in two ways that callers tell apart. -/
namespace ResourceSync

/-- Why a computation has no value: its input is refused for a cause, or its arithmetic left the
range of its words and it broke off. -/
inductive Halt (ε : Type) where
  | refused (cause : ε)
  | brokeOff (message : String)
deriving DecidableEq, Repr

namespace Halt

/-- The same end, with the cause seen from further out. -/
def mapCause {ε δ : Type} (f : ε → δ) : Halt ε → Halt δ
  | .refused cause => .refused (f cause)
  | .brokeOff message => .brokeOff message

end Halt

/-- The outcome of a computation over machine words. -/
abbrev Checked (ε α : Type) := Except (Halt ε) α

/-- Names the circumstances of a refusal. -/
def Checked.during {ε δ α : Type} (f : ε → δ) (x : Checked ε α) : Checked δ α :=
  x.mapError (Halt.mapCause f)

section values
variable {ε δ α β : Type} {x : Except ε α} {a : α} {b : β}

theorem bind_eq_ok_iff {f : α → Except ε β} :
    (x >>= f) = .ok b ↔ ∃ a, x = .ok a ∧ f a = .ok b := by
  cases x <;> simp [bind, Except.bind]

theorem bind_eq_error_iff {f : α → Except ε β} {e : ε} :
    (x >>= f) = .error e ↔ x = .error e ∨ ∃ a, x = .ok a ∧ f a = .error e := by
  cases x <;> simp [bind, Except.bind]

theorem map_eq_ok_iff {f : α → β} : x.map f = .ok b ↔ ∃ a, x = .ok a ∧ f a = b := by
  cases x <;> simp [Except.map]

theorem map_eq_error_iff {f : α → β} {e : ε} : x.map f = .error e ↔ x = .error e := by
  cases x <;> simp [Except.map]

theorem mapError_eq_ok_iff {f : ε → δ} : x.mapError f = .ok a ↔ x = .ok a := by
  cases x with
  | ok =>
    constructor
    · intro h
      cases h
      rfl
    · intro h
      cases h
      rfl
  | error => exact ⟨nofun, nofun⟩

theorem eq_ok_of_toOption (h : x.toOption = some a) : x = .ok a := by
  cases x with
  | error e => cases h
  | ok a' =>
    cases h
    rfl

end values

/-- A computation has a value with a property where a condition holds, and is refused elsewhere. -/
def Checked.Settles {ε α : Type} (x : Checked ε α) (P : Prop) (R : α → Prop) : Prop :=
  (P ∧ ∃ a, x = .ok a ∧ R a) ∨ (¬ P ∧ ∃ cause, x = .error (.refused cause))

namespace Checked.Settles
variable {ε δ α β : Type} {x : Checked ε α} {P Q : Prop} {R : α → Prop} {S : β → Prop}
  {f : α → Checked ε β}

theorem refused_iff (h : x.Settles P R) : (∃ cause, x = .error (.refused cause)) ↔ ¬ P := by
  rcases h with ⟨hP, a, rfl, -⟩ | ⟨hP, hcause⟩
  · refine ⟨?_, fun hn => absurd hP hn⟩
    rintro ⟨cause, h⟩
    cases h
  · exact iff_of_true hcause hP

theorem exists_ok (h : x.Settles P R) (hP : P) : ∃ a, x = .ok a ∧ R a :=
  h.elim And.right fun hn => absurd hP hn.1

theorem congr (h : x.Settles P R) (hPQ : P ↔ Q) : x.Settles Q R :=
  propext hPQ ▸ h

theorem during (h : x.Settles P R) (f : ε → δ) : (x.during f).Settles P R := by
  rcases h with ⟨hP, a, rfl, ha⟩ | ⟨hP, cause, rfl⟩
  · exact .inl ⟨hP, a, rfl, ha⟩
  · exact .inr ⟨hP, f cause, rfl⟩

theorem bind (h : x.Settles P R) (hf : ∀ a, R a → (f a).Settles Q S) :
    (x >>= f).Settles (P ∧ Q) S := by
  rcases h with ⟨hP, a, rfl, ha⟩ | ⟨hP, cause, rfl⟩
  · rcases hf a ha with ⟨hQ, hb⟩ | ⟨hQ, hcause⟩
    · exact .inl ⟨⟨hP, hQ⟩, hb⟩
    · exact .inr ⟨fun h => hQ h.2, hcause⟩
  · exact .inr ⟨fun h => hP h.1, cause, rfl⟩

theorem bind_ok (h : x.Settles P R) (hf : ∀ a, R a → ∃ b, f a = .ok b ∧ S b) :
    (x >>= f).Settles P S := by
  rcases h with ⟨hP, a, rfl, ha⟩ | ⟨hP, cause, rfl⟩
  · exact .inl ⟨hP, hf a ha⟩
  · exact .inr ⟨hP, cause, rfl⟩

end Checked.Settles

end ResourceSync
