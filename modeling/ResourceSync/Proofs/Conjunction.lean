import ResourceSync.Proofs.Parting

/-! Two selectors with a comma between them are a selector that demands what both of them demand. -/
namespace ResourceSync.Selector
variable {d : Nat} {s : List Char} {parts : List (List Char)} {rs : List Requirement}

/-- Where the parts of a text end, no parenthesis is open, and so a comma behind it begins a part. -/
theorem splitParts_append_comma (h : splitParts d s = .ok parts) (t : List Char) :
    splitParts d (s ++ ',' :: t) = (splitParts 0 t).map (parts ++ ·) := by
  induction s generalizing d parts with
  | nil =>
    unfold splitParts at h
    split at h
    · next hd =>
      obtain rfl := Except.ok.inj h
      rw [List.nil_append, hd, splitParts_comma]
      rfl
    · cases h
  | cons c s ih =>
    rw [List.cons_append]
    cases hchar : scanChar d c with
    | some d' =>
      rw [splitParts_cons_of_some hchar] at h ⊢
      obtain ⟨rest, hrest, rfl⟩ := map_eq_ok_iff.1 h
      obtain ⟨p, ps, rfl, -, -⟩ := scan_of_splitParts hrest
      rw [ih hrest]
      cases splitParts 0 t <;> rfl
    | none =>
      obtain ⟨rfl, rfl | herror⟩ := splitParts_cons_of_none hchar
      · rw [splitParts_comma] at h ⊢
        obtain ⟨rest, hrest, rfl⟩ := map_eq_ok_iff.1 h
        rw [ih hrest]
        cases splitParts 0 t <;> rfl
      · rw [herror] at h
        cases h

theorem clauses_append (parts parts' : List (List Char)) :
    clauses (parts ++ parts') = clauses parts ++ clauses parts' := by
  simp [clauses]

theorem parseRequirements_append_comma (h : parseRequirements s = .ok rs) (t : List Char) :
    parseRequirements (s ++ ',' :: t) = (parseRequirements t).map (rs ++ ·) := by
  obtain ⟨parts, hparts, hread⟩ := bind_eq_ok_iff.1 h
  change (clauses parts).mapM parseRequirement = .ok rs at hread
  unfold parseRequirements
  rw [splitParts_append_comma hparts]
  cases splitParts 0 t with
  | error fault => rfl
  | ok parts' =>
    change (clauses (parts ++ parts')).mapM parseRequirement =
      ((clauses parts').mapM parseRequirement).map (rs ++ ·)
    rw [clauses_append, List.mapM_append, hread]
    cases (clauses parts').mapM parseRequirement <;> rfl

/-- Behind a selector and a comma a text is read as it is alone: its requirements come behind those
of the selector, and a fault in it is the same fault. -/
theorem parse_append_comma {s : String} {f : Selector} (h : parse s = .ok f) (t : String) :
    parse (s ++ "," ++ t) =
      match parse t with
      | .ok g => .ok ⟨f.requirements ++ g.requirements⟩
      | .error e => .error ⟨s ++ "," ++ t, e.fault⟩ := by
  have htext : (s ++ "," ++ t).toList = s.toList ++ ',' :: t.toList := by simp
  have hboth := parseRequirements_append_comma (parse_eq_ok_iff.1 h) t.toList
  unfold parse
  rw [htext, hboth]
  cases parseRequirements t.toList <;> rfl

/-- A selector, a comma and a second text are accepted if the second text is, with the requirements
of both one after the other, so that labels match where they match both; and they are refused if it
is, for the same fault. -/
theorem comma_conjoins {s : String} {f : Selector} (h : parse s = .ok f) (t : String) :
    (∀ g, parse t = .ok g →
      ∃ both, parse (s ++ "," ++ t) = .ok both ∧
        both.requirements = f.requirements ++ g.requirements ∧
        ∀ labels, both.accepts labels = true ↔
          f.accepts labels = true ∧ g.accepts labels = true) ∧
    ∀ e, parse t = .error e → parse (s ++ "," ++ t) = .error ⟨s ++ "," ++ t, e.fault⟩ := by
  have hboth := parse_append_comma h t
  constructor
  · intro g hg
    rw [hg] at hboth
    refine ⟨_, hboth, rfl, ?_⟩
    intro labels
    rw [accepts_append, Bool.and_eq_true]
  · intro e he
    rw [he] at hboth
    exact hboth

theorem set_and_label_are_conjoined :
    parse "env in (prod,(eu))" = .ok ⟨[.oneOf "env" ["prod", "(eu)"]]⟩ ∧
      parse "env in (prod,(eu)),!legacy" =
        .ok ⟨[.oneOf "env" ["prod", "(eu)"], .absent "legacy"]⟩ := by
  have hset : parse "env in (prod,(eu))" = .ok ⟨[.oneOf "env" ["prod", "(eu)"]]⟩ := by
    decide +kernel
  have hlabel : parse "!legacy" = .ok ⟨[.absent "legacy"]⟩ := by decide +kernel
  obtain ⟨⟨both⟩, hread, hrequirements, -⟩ := (comma_conjoins hset "!legacy").1 _ hlabel
  obtain rfl := hrequirements
  exact ⟨hset, hread⟩

end ResourceSync.Selector
