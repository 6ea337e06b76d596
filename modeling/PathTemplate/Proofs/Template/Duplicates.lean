import PathTemplate.Proofs.Template.Gathering

/-!
# The duplicate check

Checking duplicates only takes answers away. A path that a template matches is
refused exactly if a placeholder gets a value that differs from an earlier one
of its own, and the first such value is reported. Every other path has the
fields that it has without the check, in which the last value of a placeholder
counts.
-/

namespace PathTemplate

namespace Template

/-- The value at this place differs from an earlier one of the same name. -/
def DiffersAt (values : List (String × String)) (j : Nat) : Prop :=
  ∃ i name v w, i < j ∧ values[i]? = some (name, v) ∧ values[j]? = some (name, w) ∧ v ≠ w

/-- What extracting with duplicates checked answers, told from the values of a match, and from
what it answers without the check. -/
structure ChecksDuplicates (values : List (String × String))
    (checked unchecked : Except Mismatch (Option Fields)) : Prop where
  refused_iff : (∃ m, checked = .error m) ↔ ∃ j, DiffersAt values j
  reported : ∀ m, checked = .error m →
    ∃ j, DiffersAt values j ∧ (∀ k < j, ¬ DiffersAt values k) ∧
      values[j]? = some (m.placeholder, m.second) ∧
      values.lookup m.placeholder = some m.first
  passed : (∀ j, ¬ DiffersAt values j) → checked = unchecked
  last : ∃ found, unchecked = .ok found ∧ (found = none ↔ values = []) ∧
    ∀ fields, found = some fields → ∀ name, fields.get? name = values.reverse.lookup name

/-- A value differs at some place if a name has two values, whichever of them comes first. -/
theorem exists_differsAt_iff {values : List (String × String)} :
    (∃ j, DiffersAt values j) ↔ ∃ name v w, (name, v) ∈ values ∧ (name, w) ∈ values ∧ v ≠ w := by
  constructor
  · rintro ⟨j, i, name, v, w, -, hi, hj, hne⟩
    exact ⟨name, v, w, List.mem_of_getElem? hi, List.mem_of_getElem? hj, hne⟩
  · rintro ⟨name, v, w, hv, hw, hne⟩
    obtain ⟨i, hi⟩ := List.mem_iff_getElem?.1 hv
    obtain ⟨j, hj⟩ := List.mem_iff_getElem?.1 hw
    rcases Nat.lt_trichotomy i j with hlt | rfl | hlt
    · exact ⟨j, i, name, v, w, hlt, hi, hj, hne⟩
    · rw [hi, Option.some.injEq, Prod.mk.injEq] at hj
      exact absurd hj.2 hne
    · exact ⟨i, j, name, w, v, hlt, hj, hi, hne.symm⟩

/-! ## Gathering -/

/-- Without the check, later values replace earlier ones. -/
theorem gather_false (values : List (String × String)) (fields : Fields) :
    gather false values fields = .ok (values.foldl (fun f e => f.insert e.1 e.2) fields) := by
  induction values generalizing fields with
  | nil => rfl
  | cons e rest ih =>
      rw [gather_cons fun hcheck => absurd hcheck Bool.false_ne_true, ih]
      rfl

theorem gather_false_empty (values : List (String × String)) :
    gather false values Fields.empty = .ok (Fields.ofList values) :=
  gather_false values Fields.empty

/-- What passes the check is gathered without it as well. -/
theorem gather_false_of_gather {check : Bool} {values : List (String × String)}
    {fields found : Fields} (h : gather check values fields = .ok found) :
    gather false values fields = .ok found := by
  induction values generalizing fields with
  | nil => exact h
  | cons e rest ih =>
      obtain ⟨-, hrest⟩ := gather_cons_eq_ok_iff.1 h
      rw [gather_cons fun hcheck => absurd hcheck Bool.false_ne_true]
      exact ih hrest

/-- A mismatch is met at one value: those in front of it are gathered, and from them its name has
another text. -/
theorem exists_split_of_gather {values : List (String × String)} {fields : Fields} {m : Mismatch}
    (h : gather true values fields = .error m) :
    ∃ front back found, values = front ++ (m.placeholder, m.second) :: back ∧
      gather true front fields = .ok found ∧ found.get? m.placeholder = some m.first ∧
      m.first ≠ m.second := by
  induction values generalizing fields with
  | nil => cases h
  | cons e rest ih =>
      obtain ⟨name, value⟩ := e
      by_cases hagrees : ∀ old, fields.get? name = some old → old = value
      · rw [gather_cons fun _ => hagrees] at h
        obtain ⟨front, back, found, rfl, hfront, hfirst, hne⟩ := ih h
        exact ⟨(name, value) :: front, back, found, rfl,
          gather_cons_eq_ok_iff.2 ⟨fun _ => hagrees, hfront⟩, hfirst, hne⟩
      · push Not at hagrees
        obtain ⟨old, hold, hne⟩ := hagrees
        rw [gather, hold] at h
        simp only [true_and, if_pos hne] at h
        cases h
        exact ⟨[], rest, fields, rfl, rfl, hold, hne⟩

/-- The mismatch is the first one: before it, every name has one value only. -/
theorem exists_first_differsAt {values : List (String × String)} {m : Mismatch}
    (h : gather true values Fields.empty = .error m) :
    ∃ j, DiffersAt values j ∧ (∀ k < j, ¬ DiffersAt values k) ∧
      values[j]? = some (m.placeholder, m.second) ∧
      values.lookup m.placeholder = some m.first := by
  obtain ⟨front, back, found, rfl, hfront, hfirst, hne⟩ := exists_split_of_gather h
  obtain ⟨hkeys, hagrees⟩ := gather_eq_ok_iff.1 hfront
  -- The text that was there is one of the values in front, and all of these agree.
  have hname : m.placeholder ∈ front.map Prod.fst := by
    rw [← Names.mem_ofList, ← hkeys, Fields.mem_keys]
    exact ⟨m.first, hfirst⟩
  have hlookup : front.lookup m.placeholder = some m.first := by
    rw [hagrees.lookup hname, hfirst]
  have hback : (front ++ (m.placeholder, m.second) :: back)[front.length]? =
      some (m.placeholder, m.second) := by
    rw [List.getElem?_append_right le_rfl, Nat.sub_self, List.getElem?_cons_zero]
  refine ⟨front.length, ?_, ?_, hback, ?_⟩
  · obtain ⟨i, hi⟩ := List.mem_iff_getElem?.1 (Fields.mem_of_lookup hlookup)
    have hlt : i < front.length := (List.getElem?_eq_some_iff.1 hi).1
    refine ⟨i, m.placeholder, m.first, m.second, hlt, ?_, hback, hne⟩
    rw [List.getElem?_append_left hlt, hi]
  · rintro k hk ⟨i, name, v, w, hik, hv, hw, hvw⟩
    rw [List.getElem?_append_left (hik.trans hk)] at hv
    rw [List.getElem?_append_left hk] at hw
    exact hvw (hagrees.eq (List.mem_of_getElem? hv) (List.mem_of_getElem? hw))
  · rw [List.lookup_append, hlookup, Option.some_or]

/-! ## Extracting -/

variable {t : Template} {path : String} {m : Regex.Match}

/-- Where the template matches, the answer is what is gathered from the match. -/
theorem extract_of_find? (hpath : path ≠ "") (hm : t.regex.find? path = some m) (check : Bool) :
    t.extract path check = (gather check (t.values m) Fields.empty).map fun fields =>
      if fields.isEmpty then none else some fields := by
  simp only [extract, if_neg hpath, hm]
  cases gather check (t.values m) Fields.empty <;> rfl

theorem extract_false (hpath : path ≠ "") (hm : t.regex.find? path = some m) :
    t.extract path false =
      .ok (if (Fields.ofList (t.values m)).isEmpty then none
        else some (Fields.ofList (t.values m))) := by
  rw [extract_of_find? hpath hm, gather_false_empty]
  rfl

theorem extract_true_eq_error_iff (hpath : path ≠ "") (hm : t.regex.find? path = some m)
    {e : Mismatch} :
    t.extract path true = .error e ↔ gather true (t.values m) Fields.empty = .error e := by
  rw [extract_of_find? hpath hm]
  cases gather true (t.values m) Fields.empty <;> simp [Except.map]

/-- Nothing is refused without the check. -/
theorem exists_extract_false (t : Template) (path : String) :
    ∃ answer, t.extract path false = .ok answer := by
  by_cases hpath : path = ""
  · exact ⟨none, by rw [extract, if_pos hpath]⟩
  · cases hm : t.regex.find? path with
    | none => exact ⟨none, by rw [extract, if_neg hpath, hm]⟩
    | some m => exact ⟨_, extract_false hpath hm⟩

/-- What passes the check is the answer without it as well. -/
theorem extract_false_of_extract {check : Bool} {answer : Option Fields}
    (h : t.extract path check = .ok answer) : t.extract path false = .ok answer := by
  by_cases hpath : path = ""
  · rw [extract, if_pos hpath] at h ⊢
    exact h
  · cases hm : t.regex.find? path with
    | none =>
        rw [extract, if_neg hpath, hm] at h ⊢
        exact h
    | some m =>
        rw [extract_of_find? hpath hm] at h ⊢
        cases hgather : gather check (t.values m) Fields.empty with
        | error e =>
            rw [hgather] at h
            cases h
        | ok found =>
            rw [gather_false_of_gather hgather, ← hgather]
            exact h

/-- The check refuses the paths in whose match a value differs from an earlier one of its
placeholder, reports the first of these values, and changes nothing else. -/
theorem checksDuplicates (hpath : path ≠ "") (hm : t.regex.find? path = some m) :
    ChecksDuplicates (t.values m) (t.extract path true) (t.extract path false) := by
  have hrefused : (∃ e, t.extract path true = .error e) ↔ ∃ j, DiffersAt (t.values m) j := by
    rw [exists_differsAt_iff, ← gather_eq_error_iff]
    apply exists_congr
    intro e
    exact extract_true_eq_error_iff hpath hm
  constructor
  · exact hrefused
  · intro e he
    exact exists_first_differsAt ((extract_true_eq_error_iff hpath hm).1 he)
  · intro hnone
    cases hchecked : t.extract path true with
    | error e => exact absurd (hrefused.1 ⟨e, hchecked⟩) (not_exists.2 hnone)
    | ok answer => exact (extract_false_of_extract hchecked).symm
  · refine ⟨_, extract_false hpath hm, ?_, ?_⟩
    · rw [← Fields.isEmpty_ofList]
      split <;> simp_all
    · intro fields hfields name
      split at hfields
      · cases hfields
      · rw [← Option.some.inj hfields, Fields.get?_ofList]

end Template

end PathTemplate
