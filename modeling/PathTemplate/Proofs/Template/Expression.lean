import PathTemplate.Proofs.Template.Compile

/-!
# The expression of segments

Segments have an expression if every name is valid and no constraint is empty.
There is one binding for every occurrence of a placeholder.
-/

namespace PathTemplate.Segment

/-- What an expression says about a placeholder in front of other segments. -/
theorem expressionFrom_placeholder {seen : List String} {name e : String}
    {constraint : Option String} {rest : List Segment} {bindings : List Binding}
    (h : expressionFrom seen (placeholder name constraint :: rest) = .ok (e, bindings)) :
    isValidName name ∧ constraint ≠ some "" ∧
      ∃ e' bindings', expressionFrom (name :: seen) rest = .ok (e', bindings') ∧
        e = groupText (groupName name (seen.count name + 1))
          (constraint.getD defaultConstraint) ++ e' ∧
        bindings = ⟨groupName name (seen.count name + 1), name⟩ :: bindings' := by
  rw [expressionFrom] at h
  split at h
  · cases h
  · rename_i hvalid
    split at h
    · cases h
    · rename_i hconstraint
      split at h
      · cases h
      · rename_i e' bindings' hrest
        cases h
        exact ⟨by simpa using hvalid, hconstraint, e', bindings', hrest, rfl, rfl⟩

theorem expressionFrom_literal {seen : List String} {text e : String} {rest : List Segment}
    {bindings : List Binding}
    (h : expressionFrom seen (literal text :: rest) = .ok (e, bindings)) :
    ∃ e', expressionFrom seen rest = .ok (e', bindings) ∧ e = text ++ e' := by
  rw [expressionFrom] at h
  split at h
  · cases h
  · rename_i e' bindings' hrest
    cases h
    exact ⟨e', hrest, rfl⟩

/-- A valid name has letters, digits and underscores only. -/
theorem isAlphanumeric_of_mem {name : String} (h : isValidName name) {c : Char}
    (hc : c ∈ name.toList) : c = '_' ∨ Character.isAlphanumeric c = true := by
  unfold isValidName at h
  split at h
  · cases h
  · rename_i d rest heq
    rw [heq] at hc
    simp only [Bool.and_eq_true, Bool.or_eq_true, decide_eq_true_eq, List.all_eq_true] at h
    rcases List.mem_cons.1 hc with rfl | hrest
    · refine h.1.imp_right fun ha => ?_
      rw [Character.isAlphanumeric, ha, Bool.true_or]
    · exact h.2 c hrest

/-- What stands behind a name are digits. -/
theorem isDigit_of_mem_threeDigits {n : Nat} {c : Char} (hc : c ∈ (threeDigits n).toList) :
    c.isDigit = true := by
  rw [threeDigits, String.toList_ofList] at hc
  rcases List.mem_append.1 hc with hc | hc
  · rw [List.eq_of_mem_replicate hc]
    rfl
  · exact Nat.isDigit_of_mem_toDigits (by decide) (by decide) hc

/-- An angle bracket ends the name of a group and is no part of it. -/
theorem angle_notMem_groupName {name : String} (h : isValidName name) (n : Nat) :
    '>' ∉ (groupName name n).toList := by
  rw [groupName, String.toList_append, List.mem_append, not_or]
  refine ⟨fun hname => ?_, fun hdigits => ?_⟩
  · have hchar := isAlphanumeric_of_mem h hname
    revert hchar
    decide
  · have hdigit := isDigit_of_mem_threeDigits hdigits
    revert hdigit
    decide

/-- What a group begins with. -/
def groupHead (group : String) : List Char :=
  '(' :: '?' :: 'P' :: '<' :: (group.toList ++ ['>'])

theorem toList_groupText (group body : String) :
    (groupText group body).toList = groupHead group ++ (body.toList ++ [')']) := by
  simp [groupText, groupHead]

theorem isValidName_of_expressionFrom {seen : List String} {segments : List Segment} {e : String}
    {bindings : List Binding} (h : expressionFrom seen segments = .ok (e, bindings)) :
    ∀ name ∈ names segments, isValidName name := by
  induction segments generalizing seen e bindings with
  | nil =>
      intro name hn
      cases hn
  | cons segment rest ih =>
      cases segment with
      | literal text =>
          obtain ⟨e', hrest, -⟩ := expressionFrom_literal h
          exact ih hrest
      | placeholder name constraint =>
          obtain ⟨hvalid, -, e', bindings', hrest, -, -⟩ := expressionFrom_placeholder h
          intro n hn
          rcases List.mem_cons.1 hn with rfl | hn
          · exact hvalid
          · exact ih hrest n hn

/-- There is one binding for every occurrence of a name. -/
theorem map_placeholder_of_expressionFrom {seen : List String} {segments : List Segment}
    {e : String} {bindings : List Binding} (h : expressionFrom seen segments = .ok (e, bindings)) :
    bindings.map Binding.placeholder = names segments := by
  induction segments generalizing seen e bindings with
  | nil =>
      cases h
      rfl
  | cons segment rest ih =>
      cases segment with
      | literal text =>
          obtain ⟨e', hrest, -⟩ := expressionFrom_literal h
          exact ih hrest
      | placeholder name constraint =>
          obtain ⟨-, -, e', bindings', hrest, -, rfl⟩ := expressionFrom_placeholder h
          rw [List.map_cons, ih hrest]
          rfl

/-- The anchors change nothing about the segments. -/
theorem expression_eq_ok {options : Options} {segments : List Segment} {source : String}
    {bindings : List Binding} (h : expression options segments = .ok (source, bindings)) :
    ∃ e, expressionFrom [] segments = .ok (e, bindings) ∧
      source = (if options.anchorStart then "^" else "") ++ e ++
        (if options.anchorEnd then "$" else "") := by
  unfold expression at h
  split at h
  · cases h
  · rename_i e bindings' he
    cases h
    exact ⟨e, he, rfl⟩

end PathTemplate.Segment
