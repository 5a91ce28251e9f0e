import ResourceSync.Json.Value
import ResourceSync.Proofs.Decimals

/-! The text of a document is read as the same document, in which each double is replaced by what its
own text is read as. -/
namespace ResourceSync

/-- The text of a double is read as that double. -/
def Binary64.Rereads (x : Binary64) : Prop := Json.ofText x.compact = .ok (.float x)

instance (x : Binary64) : Decidable x.Rereads :=
  inferInstanceAs (Decidable (Json.ofText x.compact = .ok (.float x)))

namespace Json

mutual

/-- What the text of a document is read as. -/
def reread : Json → Json
  | .null | .unreadable _ => .null
  | .bool b => .bool b
  | .int i => .int i
  | .float x => if x.isFinite then (Numeral.ofText x.compact.toList).document else .null
  | .str s => .str s
  | .arr items => .arr (rereadItems items)
  | .obj ms => .obj (rereadMembers ms)

def rereadItems : List Json → List Json
  | [] => []
  | j :: r => reread j :: rereadItems r

def rereadMembers : List (String × Json) → List (String × Json)
  | [] => []
  | (n, v) :: r => (n, reread v) :: rereadMembers r

end

/-- A document without unreadable parts. Its whole numbers have 64 bits, its doubles are finite and
have a property, and its lists and objects nest at most `n` deep. -/
inductive IsPrintable (P : Binary64 → Prop) : Nat → Json → Prop where
  | null {n : Nat} : IsPrintable P n .null
  | bool {n : Nat} (b : Bool) : IsPrintable P n (.bool b)
  | int {n : Nat} {i : Int} (low : -9223372036854775808 ≤ i) (high : i < 18446744073709551616) :
    IsPrintable P n (.int i)
  | float {n : Nat} {x : Binary64} (finite : x.isFinite = true) (h : P x) :
    IsPrintable P n (.float x)
  | str {n : Nat} (s : String) : IsPrintable P n (.str s)
  | arr {n : Nat} {items : List Json} (h : ∀ j ∈ items, IsPrintable P n j) :
    IsPrintable P (n + 1) (.arr items)
  | obj {n : Nat} {ms : List (String × Json)} (h : ∀ m ∈ ms, IsPrintable P n m.2) :
    IsPrintable P (n + 1) (.obj ms)

variable {P : Binary64 → Prop} {n : Nat} {i : Int} {c : Char} {j : Json} {s name : String}
  {items : List Json} {ms : List (String × Json)} {cs w : List Char}

theorem rereadItems_eq_map : rereadItems items = items.map reread := by
  induction items with
  | nil => rfl
  | cons j items ih => rw [rereadItems, ih, List.map_cons]

theorem rereadMembers_eq_map : rereadMembers ms = ms.map fun m => (m.1, m.2.reread) := by
  induction ms with
  | nil => rfl
  | cons m ms ih => rw [rereadMembers, ih, List.map_cons]

theorem toList_renderItems {i : Json} : (renderItems (j :: i :: items)).toList =
    j.render.toList ++ ',' :: (renderItems (i :: items)).toList := by
  rw [renderItems, String.toList_append, String.toList_append, List.append_assoc]
  · rfl
  · nofun

theorem toList_renderMembers {m m' : String × Json} : (renderMembers (m :: m' :: ms)).toList =
    (quoted m.1 ++ ":").toList ++
      (m.2.render.toList ++ ',' :: (renderMembers (m' :: ms)).toList) := by
  rw [renderMembers, String.toList_append, String.toList_append, String.toList_append,
    List.append_assoc, List.append_assoc]
  · rfl
  · nofun

theorem reread_obj : reread (.obj ms) = .obj (ms.map fun m => (m.1, m.2.reread)) := by
  rw [reread, rereadMembers_eq_map]

namespace Reader
variable {r : Reader} {stack : List Frame} {place place' : NumeralPlace} {done : List Char}
  {fault : Option TextError} {isName : Bool}

/-- A reader has a whole value if none of its characters follows: what comes next is the end of the
text or belongs to the list or object around the value. -/
structure Holds (r : Reader) (j : Json) (stack : List Frame) : Prop where
  step : ∀ c ∈ [',', ']', '\x7d'], r.step c = resume j stack c
  finish : r.finish = closed j stack

theorem holds_after : Holds ⟨.after j, stack⟩ j stack := by
  refine ⟨?_, rfl⟩
  intro c hc
  have hspace : isSpace c = false := by
    simp only [List.mem_cons, List.not_mem_nil, or_false] at hc
    rcases hc with rfl | rfl | rfl <;> rfl
  simp [Reader.step, between, hspace]

theorem holds_numeral (h : place.isEnd = true) :
    Holds ⟨.numeral place done, stack⟩ (Numeral.ofText done.reverse).document stack := by
  constructor
  · intro c hc
    have hother : isSpace c = false ∧ isDigit c = false ∧ place.next? c = none := by
      simp only [List.mem_cons, List.not_mem_nil, or_false] at hc
      cases place with
      | sign | point | mark | markSign => cases h
      | _ => rcases hc with rfl | rfl | rfl <;> exact ⟨rfl, rfl, rfl⟩
    obtain ⟨hspace, hdigit, hnext⟩ := hother
    cases place with
    | sign | point | mark | markSign => cases h
    | _ => simp [Reader.step, inNumeral, inNumeral.finished, between, hnext, hspace, hdigit, h]
  · simp [Reader.finish, h]

theorem foldlM_step_cons {r' : Reader} (h : r.step c = .ok r') :
    (c :: cs).foldlM step r = cs.foldlM step r' := by
  rw [List.foldlM_cons, h]
  rfl

theorem foldlM_step_append {r' : Reader} (h : cs.foldlM step r = .ok r') :
    (cs ++ w).foldlM step r = w.foldlM step r' := by
  rw [List.foldlM_append, h]
  rfl

/-- The next character that is no space starts a value. -/
def Awaits (r : Reader) (stack : List Frame) : Prop :=
  ∀ c r', start stack c = .ok r' → r.step c = .ok r'

theorem not_space_of_start (h : start stack c = .ok r) : isSpace c = false ∧ c ≠ ']' := by
  constructor
  · by_contra hspace
    simp only [isSpace, Bool.not_eq_false, Bool.or_eq_true, decide_eq_true_eq] at hspace
    rcases hspace with ((rfl | rfl) | rfl) | rfl <;> cases h
  · rintro rfl
    cases h

theorem awaits_value : Awaits ⟨.value, stack⟩ stack := by
  intro c r h
  simp [Reader.step, (not_space_of_start h).1, h]

theorem awaits_firstItem : Awaits ⟨.firstItem, stack⟩ stack := by
  intro c r h
  obtain ⟨hspace, hend⟩ := not_space_of_start h
  simp [Reader.step, hspace, hend, h]

theorem awaits_nextItem : Awaits ⟨.nextItem, stack⟩ stack := by
  intro c r h
  obtain ⟨hspace, hend⟩ := not_space_of_start h
  simp [Reader.step, hspace, hend, h]

/-- Characters that are read as one value, wherever one is awaited. -/
def Spells (cs : List Char) (j : Json) (stack : List Frame) : Prop :=
  ∀ r, Awaits r stack → ∃ r', cs.foldlM step r = .ok r' ∧ r'.Holds j stack

theorem foldlM_word (hw : w ≠ []) :
    w.foldlM step ⟨.word w j, stack⟩ = .ok ⟨.after j, stack⟩ := by
  induction w with
  | nil => exact absurd rfl hw
  | cons c w ih =>
    cases w with
    | nil => simp [step]
    | cons d w =>
      have hstep : step ⟨.word (c :: d :: w) j, stack⟩ c = .ok ⟨.word (d :: w) j, stack⟩ := by
        simp [step]
      rw [foldlM_step_cons hstep, ih (List.cons_ne_nil d w)]

theorem spells_word (hstart : start stack c = .ok ⟨.word w j, stack⟩) (hw : w ≠ []) :
    Spells (c :: w) j stack := by
  intro r hr
  refine ⟨⟨.after j, stack⟩, ?_, holds_after⟩
  rw [foldlM_step_cons (hr c _ hstart), foldlM_word hw]

section numerals

theorem foldlM_numeral (h : place.follow? cs = some place') :
    cs.foldlM Reader.step ⟨.numeral place done, stack⟩ =
      .ok ⟨.numeral place' (cs.reverse ++ done), stack⟩ := by
  induction cs generalizing place done with
  | nil =>
    cases h
    rfl
  | cons c cs ih =>
    rw [NumeralPlace.follow?, List.foldlM_cons] at h
    obtain ⟨next, hnext, hrest⟩ := Option.bind_eq_some_iff.1 h
    have hstep : Reader.step ⟨.numeral place done, stack⟩ c =
        .ok ⟨.numeral next (c :: done), stack⟩ := by
      simp [Reader.step, inNumeral, hnext]
    rw [foldlM_step_cons hstep, ih hrest, List.reverse_cons, List.append_assoc]
    rfl

theorem start_of_next? (h : NumeralPlace.sign.next? c = some place) :
    start stack c = .ok ⟨.numeral place [c], stack⟩ := by
  by_cases hzero : c = '0'
  · subst hzero
    cases h
    rfl
  · rw [NumeralPlace.next?, if_neg hzero] at h
    split at h
    · next hdigit =>
      have hother : ∀ d ∈ ['"', '[', '\x7b', '-'], c ≠ d := by
        rintro d hd rfl
        simp only [List.mem_cons, List.not_mem_nil, or_false] at hd
        rcases hd with rfl | rfl | rfl | rfl <;> exact absurd hdigit (by decide)
      cases h
      simp only [List.forall_mem_cons] at hother
      simp [start, hother, hzero, hdigit]
    · cases h

theorem spells_unsigned (h : NumeralPlace.sign.follow? w = some place)
    (hend : place.isEnd = true) : Spells w (Numeral.ofText w).document stack := by
  intro r hr
  cases w with
  | nil =>
    cases h
    cases hend
  | cons c cs =>
    obtain ⟨first, hfirst, hrest⟩ := Option.bind_eq_some_iff.1 h
    have hholds : Holds ⟨.numeral place (cs.reverse ++ [c]), stack⟩ _ stack := holds_numeral hend
    refine ⟨_, ?_, by simpa using hholds⟩
    rw [foldlM_step_cons (hr c _ (start_of_next? hfirst)), foldlM_numeral hrest]

theorem spells_minus (h : NumeralPlace.sign.follow? w = some place) (hend : place.isEnd = true) :
    Spells ('-' :: w) (Numeral.ofText ('-' :: w)).document stack := by
  intro r hr
  have hholds : Holds ⟨.numeral place (w.reverse ++ ['-']), stack⟩ _ stack := holds_numeral hend
  refine ⟨_, ?_, by simpa using hholds⟩
  rw [foldlM_step_cons (hr '-' _ rfl), foldlM_numeral h]

theorem spells_whole (h : IsWhole w) : Spells w (Numeral.ofText w).document stack ∧
    Spells ('-' :: w) (Numeral.ofText ('-' :: w)).document stack := by
  rcases NumeralPlace.follow?_whole h with h | h
  · exact ⟨spells_unsigned h rfl, spells_minus h rfl⟩
  · exact ⟨spells_unsigned h rfl, spells_minus h rfl⟩

theorem spells_toString : Spells (toString i).toList (Numeral.ofText (toString i).toList).document
    stack := by
  rw [Int.toString_eq_repr, Int.repr_eq_if]
  split
  · rw [Nat.toList_repr]
    exact (spells_whole (isWhole_toDigits _)).1
  · rw [String.toList_append, Nat.toList_repr]
    exact (spells_whole (isWhole_toDigits _)).2

theorem spells_compact {x : Binary64} (hx : x.isFinite = true) :
    Spells x.compact.toList (Numeral.ofText x.compact.toList).document stack := by
  obtain ⟨w, hw, hdecimal⟩ := Binary64.exists_isDecimal hx
  obtain ⟨place, hfollow, hend⟩ := NumeralPlace.follow?_decimal hdecimal
  rw [hw, Binary64.toList_signed]
  split
  · exact spells_minus hfollow hend
  · exact spells_unsigned hfollow hend

end numerals

section strings

theorem hexValue?_digitChar : ∀ d < 16, Text.hexValue? (Nat.digitChar d) = some d := by decide

/-- A character that is written in a string is read as itself. -/
theorem foldlM_escape :
    ((escape? c).getD [c]).foldlM step ⟨.text isName .plain done fault, stack⟩ =
      .ok ⟨.text isName .plain (c :: done) fault, stack⟩ := by
  unfold escape?
  split_ifs with hquote hbackslash _ _ _ _ _ hcontrol
  iterate 7
    subst_vars
    rfl
  · have hhigh := hexValue?_digitChar (c.toNat / 16) (by omega)
    have hlow := hexValue?_digitChar (c.toNat % 16) (by omega)
    have hvalue : c.toNat / 16 * 16 + c.toNat % 16 = c.toNat := Nat.div_add_mod' c.toNat 16
    have hstart (cs : List Char) :
        ('\\' :: 'u' :: '0' :: '0' :: cs).foldlM step ⟨.text isName .plain done fault, stack⟩ =
          cs.foldlM step ⟨.text isName (.hex 2 0) done fault, stack⟩ := rfl
    have hfirst : step ⟨.text isName (.hex 2 0) done fault, stack⟩ (c.toNat / 16).digitChar =
        .ok ⟨.text isName (.hex 1 (c.toNat / 16)) done fault, stack⟩ := by
      simp [step, inText, hhigh]
    have hlast : step ⟨.text isName (.hex 1 (c.toNat / 16)) done fault, stack⟩
        (c.toNat % 16).digitChar = .ok ⟨.text isName .plain (c :: done) fault, stack⟩ := by
      have hplain : ¬(0xDC00 ≤ c.toNat ∧ c.toNat ≤ 0xDFFF) ∧
          ¬(0xD800 ≤ c.toNat ∧ c.toNat ≤ 0xDBFF) := by omega
      simp [step, inText, hlow, hvalue, hplain]
    rw [Option.getD_some, hstart, foldlM_step_cons hfirst, foldlM_step_cons hlast]
    rfl
  · simp [step, inText, inPlain, hquote, hbackslash, hcontrol]

theorem foldlM_written :
    (cs.flatMap fun c => (escape? c).getD [c]).foldlM step ⟨.text isName .plain done none, stack⟩ =
      .ok ⟨.text isName .plain (cs.reverse ++ done) none, stack⟩ := by
  induction cs generalizing done with
  | nil => rfl
  | cons c cs ih =>
    rw [List.flatMap_cons, foldlM_step_append foldlM_escape, ih, List.reverse_cons,
      List.append_assoc]
    rfl

/-- A string that is written is read up to its end. -/
theorem foldlM_quoted (h : r.step '"' = .ok ⟨.text isName .plain [] none, stack⟩) :
    (quoted s).toList.foldlM step r = .ok (closeText isName s.toList.reverse none stack) := by
  rw [quoted, String.toList_ofList, List.cons_append, foldlM_step_cons h,
    foldlM_step_append foldlM_written, List.append_nil]
  rfl

theorem spells_str : Spells (quoted s).toList (.str s) stack := by
  intro r hr
  refine ⟨⟨.after (.str s), stack⟩, ?_, holds_after⟩
  rw [foldlM_quoted (hr '"' _ rfl)]
  simp [closeText]

/-- The name of a member is read up to its colon. -/
theorem foldlM_name {members : List (String × Json)}
    (h : r.step '"' = .ok ⟨.text true .plain [] none, .object members name none :: stack⟩) :
    (quoted s ++ ":").toList.foldlM step r = .ok ⟨.value, .object members s none :: stack⟩ := by
  rw [String.toList_append, foldlM_step_append (foldlM_quoted h)]
  simp [closeText]
  rfl

end strings

section nesting

/-- Items are read one after the other, up to the end of their list. -/
theorem foldlM_items {done : List Json} (hr : Awaits r (.list done :: stack))
    (h : ∀ i ∈ j :: items, ∀ done, Spells i.render.toList i.reread (.list done :: stack)) :
    ((renderItems (j :: items)).toList ++ [']']).foldlM step r =
      .ok (closeNested stack none (.arr (done.reverse ++ (j :: items).map reread))) := by
  -- Behind an item the reader holds it until the next character says whether another one follows.
  induction items generalizing j done r with
  | nil =>
    obtain ⟨r', hrun, hholds⟩ := h j List.mem_cons_self done r hr
    rw [renderItems, foldlM_step_append hrun, foldlM_step_cons (hholds.step ']' (by decide))]
    simp only [List.map_cons, List.map_nil, ← List.reverse_cons]
    rfl
  | cons i items ih =>
    obtain ⟨hj, hrest⟩ := List.forall_mem_cons.1 h
    obtain ⟨r', hrun, hholds⟩ := hj done r hr
    have hcomma : r'.step ',' = .ok ⟨.nextItem, .list (j.reread :: done) :: stack⟩ :=
      hholds.step ',' (by decide)
    have hnext : Awaits ⟨.nextItem, .list (j.reread :: done) :: stack⟩ _ := awaits_nextItem
    have hitems := ih hnext hrest
    rw [toList_renderItems, List.append_assoc, foldlM_step_append hrun, List.cons_append,
      foldlM_step_cons hcomma, hitems, List.reverse_cons, List.append_assoc]
    rfl

/-- Members are read one after the other, up to the end of their object. -/
theorem foldlM_members {m : String × Json} {done : List (String × Json)}
    (hr : r.step '"' = .ok ⟨.text true .plain [] none, .object done name none :: stack⟩)
    (h : ∀ e ∈ m :: ms, ∀ done name,
      Spells e.2.render.toList e.2.reread (.object done name none :: stack)) :
    ((renderMembers (m :: ms)).toList ++ ['\x7d']).foldlM step r =
      .ok (closeNested stack none
        (.obj (done.reverse ++ (m :: ms).map fun m => (m.1, m.2.reread)))) := by
  induction ms generalizing m done name r with
  | nil =>
    obtain ⟨r', hrun, hholds⟩ := h m List.mem_cons_self done m.1 _ awaits_value
    rw [renderMembers, String.toList_append, List.append_assoc, foldlM_step_append (foldlM_name hr),
      foldlM_step_append hrun, foldlM_step_cons (hholds.step '\x7d' (by decide))]
    simp only [List.map_cons, List.map_nil, ← List.reverse_cons]
    rfl
  | cons m' ms ih =>
    obtain ⟨hm, hrest⟩ := List.forall_mem_cons.1 h
    obtain ⟨r', hrun, hholds⟩ := hm done m.1 _ awaits_value
    have hcomma : r'.step ',' =
        .ok ⟨.nextName, .object ((m.1, m.2.reread) :: done) "" none :: stack⟩ :=
      hholds.step ',' (by decide)
    have hnext : step ⟨.nextName, .object ((m.1, m.2.reread) :: done) "" none :: stack⟩ '"' =
        .ok ⟨.text true .plain [] none, .object ((m.1, m.2.reread) :: done) "" none :: stack⟩ := rfl
    have hmembers := ih hnext hrest
    rw [toList_renderMembers, List.append_assoc, foldlM_step_append (foldlM_name hr),
      List.append_assoc, foldlM_step_append hrun, List.cons_append, foldlM_step_cons hcomma,
      hmembers, List.reverse_cons, List.append_assoc]
    rfl

theorem closeNested_eq (h : stack.length + 1 < depthLimit) :
    closeNested stack none j = ⟨.after j, stack⟩ := by
  simp [closeNested, h]

theorem spells_arr (hstack : stack.length + 1 < depthLimit)
    (h : ∀ i ∈ items, ∀ done, Spells i.render.toList i.reread (.list done :: stack)) :
    Spells (render (.arr items)).toList (reread (.arr items)) stack := by
  intro r hr
  refine ⟨_, ?_, holds_after⟩
  have htext : (render (.arr items)).toList = '[' :: ((renderItems items).toList ++ [']']) := by
    rw [render, String.toList_append, String.toList_append]
    rfl
  rw [htext, foldlM_step_cons (hr '[' _ rfl), reread, rereadItems_eq_map, ← closeNested_eq hstack]
  cases items with
  | nil => rfl
  | cons i items => exact foldlM_items awaits_firstItem h

theorem spells_obj (hstack : stack.length + 1 < depthLimit)
    (h : ∀ m ∈ ms, ∀ done name,
      Spells m.2.render.toList m.2.reread (.object done name none :: stack)) :
    Spells (render (.obj ms)).toList (reread (.obj ms)) stack := by
  intro r hr
  refine ⟨_, ?_, holds_after⟩
  have htext : (render (.obj ms)).toList = '\x7b' :: ((renderMembers ms).toList ++ ['\x7d']) := by
    rw [render, String.toList_append, String.toList_append]
    rfl
  rw [htext, foldlM_step_cons (hr '\x7b' _ rfl), reread_obj, ← closeNested_eq hstack]
  cases ms with
  | nil => rfl
  | cons m ms =>
    have hname : step ⟨.firstName, .object [] "" none :: stack⟩ '"' =
        .ok ⟨.text true .plain [] none, .object [] "" none :: stack⟩ := rfl
    exact foldlM_members hname h

end nesting

theorem spells_render (h : j.IsPrintable P n) (hstack : stack.length + n < depthLimit) :
    Spells j.render.toList j.reread stack := by
  -- The stack grows by one where the depth that is left shrinks by one, at each list and object.
  induction h generalizing stack with
  | null => exact spells_word (c := 'n') rfl (List.cons_ne_nil 'u' _)
  | bool b =>
    rw [render, reread]
    cases b with
    | true => exact spells_word (c := 't') rfl (List.cons_ne_nil 'r' _)
    | false => exact spells_word (c := 'f') rfl (List.cons_ne_nil 'a' _)
  | int low high =>
    rw [reread, render, ← document_toString low high]
    exact spells_toString
  | float finite _ =>
    rw [reread, render, if_pos finite, if_pos finite]
    exact spells_compact finite
  | str s => exact spells_str
  | arr h ih =>
    refine spells_arr (by omega) ?_
    intro i hi done
    refine ih i hi ?_
    rw [List.length_cons]
    omega
  | obj h ih =>
    refine spells_obj (by omega) ?_
    intro m hm done name
    refine ih m hm ?_
    rw [List.length_cons]
    omega

end Reader

namespace IsPrintable

@[simp]
theorem arr_iff : (Json.arr items).IsPrintable P (n + 1) ↔ ∀ j ∈ items, j.IsPrintable P n :=
  ⟨fun h => by cases h; assumption, .arr⟩

@[simp]
theorem obj_iff : (Json.obj ms).IsPrintable P (n + 1) ↔ ∀ m ∈ ms, m.2.IsPrintable P n :=
  ⟨fun h => by cases h; assumption, .obj⟩

attribute [simp] null bool str

theorem fault? (h : j.IsPrintable P n) : j.fault? = none := by
  induction h with
  | arr _ ih => exact itemsFault?_eq_none_iff.2 ih
  | obj _ ih => exact membersFault?_eq_none_iff.2 ih
  | null | bool | int | float | str => rfl

/-- The text of a document is read if its lists and objects nest less deep than a reader follows. -/
theorem ofText_render (h : j.IsPrintable P n) (hn : n < Reader.depthLimit) :
    ofText j.render = .ok j.reread := by
  have hstack : ([] : List Frame).length + n < Reader.depthLimit := by
    rw [List.length_nil]
    omega
  obtain ⟨r, hrun, hholds⟩ := Reader.spells_render h hstack _ Reader.awaits_value
  rw [ofText, hrun]
  exact hholds.finish

end IsPrintable

theorem ofText_compact {x : Binary64} (hx : x.isFinite = true) :
    ofText x.compact = .ok (reread (.float x)) := by
  have hprintable : IsPrintable (fun _ => True) 0 (.float x) := .float hx trivial
  have hread := hprintable.ofText_render (by decide)
  rwa [render, if_pos hx] at hread

/-- The only double that the text of a finite one can be read as. -/
theorem reread_float {x y : Binary64} {p : Passage} (hx : x.isFinite = true)
    (h : Codec.binary64.read p (reread (Codec.binary64.encode x)) = .ok y) :
    reread (.float x) = .float y := by
  have hencode : Codec.binary64.encode x = .float x := if_pos hx
  rw [hencode] at h
  rw [reread, if_pos hx] at h ⊢
  rcases Binary64.document_compact hx with ⟨z, hz⟩ | ⟨e, he⟩
  · rw [hz] at h ⊢
    cases h
    rfl
  · rw [he] at h
    cases h

namespace IsPrintable

/-- A document whose doubles are read back from their texts stays as it is. -/
theorem reread_eq (h : j.IsPrintable Binary64.Rereads n) : j.reread = j := by
  induction h with
  | float finite h => exact Except.ok.inj ((ofText_compact finite).symm.trans h)
  | arr _ ih => rw [reread, rereadItems_eq_map, List.map_congr_left ih, List.map_id']
  | obj _ ih =>
    rw [reread_obj]
    refine congrArg Json.obj ((List.map_congr_left ?_).trans (List.map_id' _))
    intro m hm
    rw [ih m hm]
  | null | bool | int | str => rfl

theorem ofText_render_eq (h : j.IsPrintable Binary64.Rereads n) (hn : n < Reader.depthLimit) :
    ofText j.render = .ok j := by
  rw [h.ofText_render hn, h.reread_eq]

end IsPrintable

end Json

namespace Binary64
variable {x y : Binary64}

/-- Both zeros are read back. -/
theorem rereads_of_isZero (h : x.isZero = true) : x.Rereads := by
  have hbits : x.bits = 0 ∨ x.bits = 0x8000000000000000 := by
    have hpow : Nat.pow 2 63 = 9223372036854775808 := rfl
    have hlt := x.bits.toNat_lt
    simp only [isZero, magnitude, decide_eq_true_eq, hpow] at h
    rcases (show x.bits.toNat = 0 ∨ x.bits.toNat = 9223372036854775808 by omega) with h | h
    · exact .inl (UInt64.toNat_inj.1 h)
    · exact .inr (UInt64.toNat_inj.1 h)
  obtain ⟨bits⟩ := x
  rcases hbits with rfl | rfl
  · decide +kernel
  · decide +kernel

/-- A double is read back if its text is read as the same number. -/
theorem rereads_of_equals (hx : x.isFinite = true) (h : Json.reread (.float x) = .float y)
    (hsame : x.equals y = true) : x.Rereads := by
  simp only [equals, Bool.and_eq_true, Bool.or_eq_true, decide_eq_true_eq] at hsame
  rcases hsame.2 with rfl | hzero
  · exact (Json.ofText_compact hx).trans (congrArg _ h)
  · exact rereads_of_isZero hzero.1

end Binary64

end ResourceSync
