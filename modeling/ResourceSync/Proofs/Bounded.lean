import Mathlib.Tactic.SplitIfs
import ResourceSync.Json.Reader
import ResourceSync.Proofs.Magnitude
import ResourceSync.Proofs.Origin

/-! The numbers that documents hold. -/
namespace ResourceSync

/-- Every number within a document is a whole number of 64 bits or a finite double, as in all
documents that are read from a text. -/
inductive Json.IsBounded : Json → Prop where
  | null : IsBounded .null
  | bool (b : Bool) : IsBounded (.bool b)
  | int {n : Int} (low : -9223372036854775808 ≤ n) (high : n < 18446744073709551616) :
    IsBounded (.int n)
  | float {x : Binary64} (h : x.isFinite = true) : IsBounded (.float x)
  | str (s : String) : IsBounded (.str s)
  | arr {items : List Json} (h : ∀ j ∈ items, IsBounded j) : IsBounded (.arr items)
  | obj {ms : List (String × Json)} (h : ∀ m ∈ ms, IsBounded m.2) : IsBounded (.obj ms)
  | unreadable (fault : Json.TextError) : IsBounded (.unreadable fault)

variable {α : Type} {j i : Json} {p : Passage}

theorem Json.IsBounded.sources (h : j.IsBounded) {l : Layout α} {name : String}
    (hi : (name, i) ∈ l.sources j) : i.IsBounded := by
  cases h with
  | arr h => exact h i (List.of_mem_zip hi).2
  | obj h => exact h _ hi
  | null | bool | int | float | str | unreadable => cases hi

/-- A double that is read of a document is finite. -/
theorem Codec.isFinite_of_read {x : Binary64} (h : j.IsBounded)
    (hread : binary64.read p j = .ok x) : x.isFinite = true := by
  cases h with
  | int low high =>
    cases hread
    exact Binary64.isFinite_ofInt low high
  | float h =>
    cases hread
    exact h
  | null | bool | str | arr | obj | unreadable => cases hread

namespace Json
variable {n : Numeral}

section numerals

theorem leadingDigits_lt {value : Nat} (h : value < UInt64.size) (s : List Char) :
    (leadingDigits value s).1 < UInt64.size := by
  induction s generalizing value with
  | nil => exact h
  | cons c s ih =>
    simp only [leadingDigits]
    split
    · next hnext => exact ih hnext
    · exact h

theorem isFinite_descend {f : Binary64} {places : Nat} (hf : f.isFinite = true)
    (hplaces : 0 < places) (steps : Nat) : (scaled.descend f steps places).isFinite = true := by
  induction steps generalizing f places with
  | zero => exact hf
  | succ steps ih =>
    unfold scaled.descend
    split
    · exact Binary64.isFinite_div hf (Binary64.le_size_powers places (by omega) hplaces)
    · split
      · exact hf
      · exact ih (Binary64.isFinite_div hf (Binary64.le_size_powers 308 (by decide) (by decide)))
          (by omega)

theorem isFinite_of_scaled {significand : Nat} {exponent : Int} {x : Binary64}
    (hsignificand : significand < UInt64.size) (h : scaled significand exponent = some x) :
    x.isFinite = true := by
  have hf := Binary64.isFinite_ofNat hsignificand
  unfold scaled at h
  dsimp only at h
  split at h
  · split at h
    · split at h
      · cases h
        exact hf
      · cases h
    · split at h
      · next hproduct =>
        cases h
        exact hproduct
      · cases h
  · next hnegative =>
    cases h
    exact isFinite_descend hf (by omega) _

theorem significand_lt (n : Numeral) : n.significand.1 < UInt64.size := by
  have hlead := leadingDigits_lt (show 0 < UInt64.size by decide) n.whole
  unfold Numeral.significand
  dsimp only
  split
  · exact leadingDigits_lt hlead _
  · exact hlead

theorem isFinite_of_rounded {x : Binary64} (h : n.rounded = some x) : x.isFinite = true := by
  unfold Numeral.rounded at h
  dsimp only at h
  split at h
  · cases h
    decide
  · exact isFinite_of_scaled (significand_lt n) h

theorem isBounded_of_value (h : n.value = .ok j) : j.IsBounded := by
  have hlead := leadingDigits_lt (show 0 < UInt64.size by decide) n.whole
  have hsize : UInt64.size = 18446744073709551616 := rfl
  have hpow : Nat.pow 2 63 = 9223372036854775808 := rfl
  unfold Numeral.value at h
  dsimp only at h
  split at h
  · cases h
    exact .int (by omega) (by omega)
  · split at h
    · next hsmall =>
      simp only [Bool.and_eq_true, decide_eq_true_eq, hpow] at hsmall
      cases h
      exact .int (by omega) (by omega)
    · split at h
      · next hrounded =>
        have hfinite := isFinite_of_rounded hrounded
        cases h
        split
        · exact .float (Binary64.isFinite_neg hfinite)
        · exact .float hfinite
      · cases h

theorem isBounded_document (n : Numeral) : n.document.IsBounded := by
  unfold Numeral.document
  split
  · next hvalue => exact isBounded_of_value hvalue
  · exact .unreadable _

end numerals

/-- Whether everything that an open list or object holds is bounded. -/
def Frame.IsBounded : Frame → Prop
  | .list done => ∀ j ∈ done, j.IsBounded
  | .object done _ _ => ∀ m ∈ done, m.2.IsBounded

/-- Whether the value that a reader has or is about to have is bounded. -/
def Mode.IsBounded : Mode → Prop
  | .word _ v | .after v => v.IsBounded
  | .value | .firstItem | .nextItem | .firstName | .nextName | .colon | .text _ _ _ _
  | .numeral _ _ => True

namespace Reader
variable {r r' : Reader} {stack : List Frame} {fault : Option TextError} {c : Char}

/-- Whether all that has been read so far is bounded. -/
structure IsBounded (r : Reader) : Prop where
  mode : r.mode.IsBounded
  stack : ∀ f ∈ r.stack, f.IsBounded

theorem isBounded_faulty (h : j.IsBounded) :
    ((fault.map Json.unreadable).getD j).IsBounded := by
  cases fault with
  | none => exact h
  | some e => exact .unreadable e

theorem isBounded_closeNested (h : j.IsBounded) (hstack : ∀ f ∈ stack, f.IsBounded) :
    (closeNested stack fault j).IsBounded := ⟨isBounded_faulty h, hstack⟩

/-- What the first character of a value can lead to. -/
theorem start_cases (h : start stack c = .ok r) : r.mode.IsBounded ∧
    (r.stack = stack ∨ r.stack = .list [] :: stack ∨ r.stack = .object [] "" none :: stack) := by
  unfold start at h
  split_ifs at h <;> cases h <;> simp [Mode.IsBounded, IsBounded.bool, IsBounded.null]

theorem isBounded_of_start (hstack : ∀ f ∈ stack, f.IsBounded) (h : start stack c = .ok r) :
    r.IsBounded := by
  obtain ⟨hmode, hsame | hlist | hobject⟩ := start_cases h
  · exact ⟨hmode, hsame ▸ hstack⟩
  · refine ⟨hmode, ?_⟩
    rw [hlist]
    exact List.forall_mem_cons.2 ⟨by simp [Frame.IsBounded], hstack⟩
  · refine ⟨hmode, ?_⟩
    rw [hobject]
    exact List.forall_mem_cons.2 ⟨by simp [Frame.IsBounded], hstack⟩

theorem isBounded_of_resume (hj : j.IsBounded) (hstack : ∀ f ∈ stack, f.IsBounded)
    (h : resume j stack c = .ok r) : r.IsBounded := by
  cases stack with
  | nil => cases h
  | cons f stack =>
    obtain ⟨hf, hrest⟩ := List.forall_mem_cons.1 hstack
    cases f with
    | list done =>
      have hdone : ∀ i ∈ j :: done, i.IsBounded := List.forall_mem_cons.2 ⟨hj, hf⟩
      simp only [resume] at h
      split_ifs at h <;> cases h
      · exact ⟨trivial, List.forall_mem_cons.2 ⟨hdone, hrest⟩⟩
      · exact isBounded_closeNested (.arr fun i hi => hdone i (List.mem_reverse.1 hi)) hrest
    | object done name fault =>
      have hdone : ∀ m ∈ (name, j) :: done, m.2.IsBounded := List.forall_mem_cons.2 ⟨hj, hf⟩
      simp only [resume] at h
      split_ifs at h <;> cases h
      · exact ⟨trivial, List.forall_mem_cons.2 ⟨hdone, hrest⟩⟩
      · exact isBounded_closeNested (.obj fun m hm => hdone m (List.mem_reverse.1 hm)) hrest

theorem isBounded_of_between (hj : j.IsBounded) (hstack : ∀ f ∈ stack, f.IsBounded)
    (h : between j stack c = .ok r) : r.IsBounded := by
  unfold between at h
  split at h
  · cases h
    exact ⟨hj, hstack⟩
  · exact isBounded_of_resume hj hstack h

theorem isBounded_closeText (hstack : ∀ f ∈ stack, f.IsBounded) (isName : Bool)
    (done : List Char) : (closeText isName done fault stack).IsBounded := by
  unfold closeText
  dsimp only
  split
  · obtain ⟨hf, hstack⟩ := List.forall_mem_cons.1 hstack
    exact ⟨trivial, List.forall_mem_cons.2 ⟨hf, hstack⟩⟩
  · exact ⟨isBounded_faulty (.str _), hstack⟩

theorem isBounded_text (hstack : ∀ f ∈ stack, f.IsBounded) (isName : Bool) (place : Escape)
    (done : List Char) : Reader.IsBounded ⟨.text isName place done fault, stack⟩ :=
  ⟨trivial, hstack⟩

section strings
variable {isName : Bool} {done : List Char}

theorem isBounded_of_inPlain (hstack : ∀ f ∈ stack, f.IsBounded)
    (h : inPlain isName done fault stack c = .ok r) : r.IsBounded := by
  unfold inPlain at h
  split_ifs at h <;> cases h
  · exact isBounded_closeText hstack _ _
  · exact isBounded_text hstack _ _ _
  · exact isBounded_text hstack _ _ _

theorem isBounded_of_inEscape (hstack : ∀ f ∈ stack, f.IsBounded)
    (h : inEscape isName done fault stack c = .ok r) : r.IsBounded := by
  unfold inEscape at h
  split at h
  · cases h
    exact isBounded_text hstack _ _ _
  · split at h <;> cases h
    exact isBounded_text hstack _ _ _

theorem isBounded_of_inText {place : Escape} (hstack : ∀ f ∈ stack, f.IsBounded)
    (h : inText isName place done fault stack c = .ok r) : r.IsBounded := by
  cases place with
  | plain => exact isBounded_of_inPlain hstack h
  | backslash => exact isBounded_of_inEscape hstack h
  | hex missing value | leadHex high missing value =>
    simp only [inText] at h
    split at h
    · cases h
    · split_ifs at h <;> cases h <;> exact isBounded_text hstack _ _ _
  | lead high =>
    simp only [inText] at h
    split at h
    · cases h
      exact isBounded_text hstack _ _ _
    · exact isBounded_of_inPlain hstack h
  | leadBackslash high =>
    simp only [inText] at h
    split at h
    · cases h
      exact isBounded_text hstack _ _ _
    · exact isBounded_of_inEscape hstack h

end strings

theorem isBounded_of_inNumeral {place : NumeralPlace} {done : List Char}
    (hstack : ∀ f ∈ stack, f.IsBounded) (h : inNumeral place done stack c = .ok r) :
    r.IsBounded := by
  unfold inNumeral at h
  split at h
  · cases h
    exact ⟨trivial, hstack⟩
  · have hfinished : inNumeral.finished done stack c = .ok r → r.IsBounded :=
      isBounded_of_between (isBounded_document _) hstack
    split at h
    · split at h
      · cases h
      · exact hfinished h
    · split at h
      · exact hfinished h
      · cases h

theorem isBounded_of_step (hr : r.IsBounded) (h : r.step c = .ok r') : r'.IsBounded := by
  obtain ⟨mode, stack⟩ := r
  obtain ⟨hmode, hstack⟩ := hr
  have hrest : ∀ f ∈ stack.drop 1, f.IsBounded := fun f hf => hstack f (List.mem_of_mem_drop hf)
  cases mode with
  | text isName place done fault => exact isBounded_of_inText hstack h
  | numeral place done => exact isBounded_of_inNumeral hstack h
  | after v => exact isBounded_of_between hmode hstack h
  | value =>
    simp only [step] at h
    split at h
    · cases h
      exact ⟨trivial, hstack⟩
    · exact isBounded_of_start hstack h
  | firstItem =>
    simp only [step] at h
    split_ifs at h
    · cases h
      exact ⟨trivial, hstack⟩
    · cases h
      exact isBounded_closeNested (.arr (by simp)) hrest
    · exact isBounded_of_start hstack h
  | nextItem =>
    simp only [step] at h
    split_ifs at h
    · cases h
      exact ⟨trivial, hstack⟩
    · exact isBounded_of_start hstack h
  | firstName =>
    simp only [step] at h
    split_ifs at h <;> cases h
    · exact ⟨trivial, hstack⟩
    · exact isBounded_closeNested (.obj (by simp)) hrest
    · exact isBounded_text hstack _ _ _
  | nextName =>
    simp only [step] at h
    split_ifs at h <;> cases h
    · exact ⟨trivial, hstack⟩
    · exact isBounded_text hstack _ _ _
  | colon =>
    simp only [step] at h
    split_ifs at h <;> cases h <;> exact ⟨trivial, hstack⟩
  | word rest v =>
    simp only [step] at h
    split at h
    · exact isBounded_of_between hmode hstack h
    · split at h <;> cases h
      exact ⟨hmode, hstack⟩
    · split at h <;> cases h
      exact ⟨hmode, hstack⟩

/-- A text is read one character after the other. -/
theorem isBounded_of_foldlM {cs : List Char} (hr : r.IsBounded)
    (h : cs.foldlM step r = .ok r') : r'.IsBounded := by
  induction cs generalizing r with
  | nil =>
    cases h
    exact hr
  | cons c cs ih =>
    obtain ⟨r₁, hstep, hrest⟩ := bind_eq_ok_iff.1 h
    exact ih (isBounded_of_step hr hstep) hrest

theorem isBounded_of_closed (hj : j.IsBounded) (h : closed j stack = .ok i) : i.IsBounded := by
  unfold closed at h
  split at h <;> cases h
  exact hj

theorem isBounded_of_finish (hr : r.IsBounded) (h : r.finish = .ok j) : j.IsBounded := by
  obtain ⟨mode, stack⟩ := r
  cases mode with
  | after v => exact isBounded_of_closed hr.mode h
  | numeral place done =>
    simp only [finish] at h
    split at h
    · exact isBounded_of_closed (isBounded_document _) h
    · cases h
  | _ => cases h

end Reader

/-- The numbers of a document that was read from a text are bounded. -/
theorem isBounded_of_ofText {s : String} (h : ofText s = .ok j) : j.IsBounded := by
  obtain ⟨r, hsteps, hfinish⟩ := bind_eq_ok_iff.1 h
  have hstart : Reader.IsBounded ⟨.value, []⟩ := ⟨trivial, by simp⟩
  exact Reader.isBounded_of_finish (Reader.isBounded_of_foldlM hstart hsteps) hfinish

end Json

end ResourceSync
