import ResourceSync.Engine.World

/-! Rules for what holds when a step of a world ends, by value or by failure. -/
namespace ResourceSync.World

variable {k : Kind} {α β : Type} {x : Run k α} {w w' : World k} {a : α} {f : Failure}
  {Q Q' : α → World k → Prop} {E E' : Failure → World k → Prop}

/-- However a step ends: `Q` holds of its value and the world it leaves, `E` of its failure. -/
def Ends (x : Run k α) (w : World k) (Q : α → World k → Prop)
    (E : Failure → World k → Prop) : Prop :=
  match x w with
  | .ok a w' => Q a w'
  | .error f w' => E f w'

theorem Ends.of_ok (h : Ends x w Q E) (hx : x w = .ok a w') : Q a w' := by
  simpa only [Ends, hx] using h

theorem Ends.of_error (h : Ends x w Q E) (hx : x w = .error f w') : E f w' := by
  simpa only [Ends, hx] using h

theorem Ends.imp (h : Ends x w Q E) (hQ : ∀ a w', Q a w' → Q' a w')
    (hE : ∀ f w', E f w' → E' f w') : Ends x w Q' E' := by
  cases hx : x w with
  | ok a w' => simpa only [Ends, hx] using hQ a w' (h.of_ok hx)
  | error f w' => simpa only [Ends, hx] using hE f w' (h.of_error hx)

/-- What is known of a step from two sides is known together. -/
theorem Ends.and (h : Ends x w Q E) (h' : Ends x w Q' E') :
    Ends x w (fun a w' => Q a w' ∧ Q' a w') (fun f w' => E f w' ∧ E' f w') := by
  cases hx : x w with
  | ok a w' => simpa only [Ends, hx] using ⟨h.of_ok hx, h'.of_ok hx⟩
  | error f w' => simpa only [Ends, hx] using ⟨h.of_error hx, h'.of_error hx⟩

/-- The step itself may be kept among what is known when it ends. -/
theorem Ends.tracked (h : Ends x w Q E) :
    Ends x w (fun a w' => x w = .ok a w' ∧ Q a w') (fun f w' => x w = .error f w' ∧ E f w') := by
  cases hx : x w with
  | ok a w' => simpa only [Ends, hx, true_and] using h.of_ok hx
  | error f w' => simpa only [Ends, hx, true_and] using h.of_error hx

@[simp] theorem ends_pure : Ends (pure a) w Q E ↔ Q a w := Iff.rfl

@[simp] theorem ends_throw : Ends (throw f) w Q E ↔ E f w := Iff.rfl

@[simp] theorem ends_get {Q : World k → World k → Prop} : Ends get w Q E ↔ Q w w := Iff.rfl

@[simp] theorem ends_modify {m : World k → World k} {Q : Unit → World k → Prop} :
    Ends (modify m) w Q E ↔ Q () (m w) := Iff.rfl

theorem ends_bind {y : α → Run k β} {Q : β → World k → Prop} :
    Ends (x >>= y) w Q E ↔ Ends x w (fun a w' => Ends (y a) w' Q E) E := by
  simp only [Ends, bind, EStateM.bind]
  cases x w <;> rfl

@[simp] theorem ends_map {y : α → β} {Q : β → World k → Prop} :
    Ends (y <$> x) w Q E ↔ Ends x w (fun a => Q (y a)) E := by
  simp only [Ends, Functor.map, EStateM.map]
  cases x w <;> rfl

@[simp] theorem ends_discard {Q : Unit → World k → Prop} :
    Ends (discard x) w Q E ↔ Ends x w (fun _ => Q ()) E := ends_map

@[simp] theorem ends_attempt {Q : Except Failure α → World k → Prop} :
    Ends (attempt x) w Q E ↔ Ends x w (fun a => Q (.ok a)) (fun f => Q (.error f)) := by
  simp only [Ends, attempt]
  cases x w <;> rfl

@[simp] theorem ends_during {context : String} :
    Ends (during context x) w Q E ↔ Ends x w Q (fun f => E (f.within context)) := by
  simp only [Ends, during]
  cases x w <;> rfl

@[simp] theorem ends_measure {m : Metrics → Metrics} {Q : Unit → World k → Prop} :
    Ends (measure m) w Q E ↔ Q () { w with metrics := m w.metrics } := Iff.rfl

@[simp] theorem ends_publish {severity : Severity} {reason : Reason} {message : String}
    {Q : Unit → World k → Prop} :
    Ends (publish severity reason message) w Q E ↔
      Q () { w with events := w.events ++ [⟨severity, reason, message⟩] } := Iff.rfl

/-- The world that a step leaves, however it ends. -/
def after (x : Run k α) (w : World k) : World k :=
  match x w with
  | .ok _ w' | .error _ w' => w'

theorem after_of_ok (hx : x w = .ok a w') : after x w = w' := by simp only [after, hx]

theorem after_of_error (hx : x w = .error f w') : after x w = w' := by simp only [after, hx]

theorem Ends.after {P : World k → Prop} (h : Ends x w (fun _ => P) (fun _ => P)) :
    P (World.after x w) := by
  cases hx : x w with
  | ok a w' => exact after_of_ok hx ▸ h.of_ok hx
  | error f w' => exact after_of_error hx ▸ h.of_error hx

/-- How a step ends, the world that it leaves aside. -/
def result (x : Run k α) (w : World k) : Except Failure α :=
  match x w with
  | .ok a _ => .ok a
  | .error f _ => .error f

end ResourceSync.World
