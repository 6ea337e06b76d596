import Mathlib.Data.List.DropRight
import PathTemplate.Proofs.Template.Expression

/-!
# The names of groups

The occurrences of a placeholder are numbered, each placeholder on its own, and
the number stands behind the name of the placeholder in at least three digits.
While three are enough, they are the last three characters of the name of a
group, so that groups of one name are the same occurrence of the same
placeholder. From the thousandth occurrence on there are four digits, and the
first of them may as well be the end of a longer name.
-/

namespace PathTemplate.Segment

variable {seen : List String} {segments : List Segment} {options : Options} {e source : String}
  {bindings : List Binding}

/-! ## Numbers of three digits -/

theorem length_threeDigits {n : Nat} (h : n ≤ 999) : (threeDigits n).toList.length = 3 := by
  have hlength : (Nat.toDigits 10 n).length ≤ 3 :=
    (Nat.length_toDigits_le_iff (by decide) (by decide)).2 (by omega)
  rw [threeDigits, String.toList_ofList, List.length_append, List.length_replicate]
  omega

/-- Zeros in front do not change a number. -/
theorem ofDigitChars_replicate_zero (k : Nat) :
    Nat.ofDigitChars 10 (List.replicate k '0') 0 = 0 := by
  induction k with
  | zero => rfl
  | succ k ih =>
      rw [List.replicate_succ, Nat.ofDigitChars_cons]
      exact ih

theorem ofDigitChars_threeDigits (n : Nat) :
    Nat.ofDigitChars 10 (threeDigits n).toList 0 = n := by
  rw [threeDigits, String.toList_ofList, Nat.ofDigitChars_append, ofDigitChars_replicate_zero]
  exact Nat.ofDigitChars_toDigits (by decide) (by decide)

theorem threeDigits_injective {m n : Nat} (h : threeDigits m = threeDigits n) : m = n := by
  rw [← ofDigitChars_threeDigits m, h, ofDigitChars_threeDigits n]

/-- Behind the name of a placeholder there are three characters. -/
theorem rdrop_groupName (name : String) {n : Nat} (h : n ≤ 999) :
    (groupName name n).toList.rdrop 3 = name.toList := by
  rw [groupName, String.toList_append, ← length_threeDigits h]
  exact List.rdrop_append_length

theorem groupName_injective {name name' : String} {m n : Nat} (hm : m ≤ 999) (hn : n ≤ 999)
    (h : groupName name m = groupName name' n) : name = name' ∧ m = n := by
  have hname : name = name' := by
    apply String.toList_injective
    rw [← rdrop_groupName name hm, h, rdrop_groupName name' hn]
  subst hname
  refine ⟨rfl, threeDigits_injective ?_⟩
  apply String.toList_injective
  have hlist := congrArg String.toList h
  rw [groupName, groupName, String.toList_append, String.toList_append] at hlist
  exact List.append_cancel_left hlist

/-- A fourth digit is read as the end of a longer name. -/
theorem groupName_longer (name : String) : groupName (name ++ "1") 1 = groupName name 1001 := by
  have hdigits : threeDigits 1001 = "1" ++ threeDigits 1 := by
    decide
  rw [groupName, groupName, hdigits, String.append_assoc]

/-! ## The occurrences of names -/

/-- The bindings of names in order, where other names have been seen before. -/
def bindingsOf (seen : List String) : List String → List Binding
  | [] => []
  | name :: rest =>
    ⟨groupName name (seen.count name + 1), name⟩ :: bindingsOf (name :: seen) rest

theorem bindings_of_expressionFrom (h : expressionFrom seen segments = .ok (e, bindings)) :
    bindings = bindingsOf seen (names segments) := by
  induction segments generalizing seen e bindings with
  | nil =>
      cases h
      rfl
  | cons segment rest ih =>
      cases segment with
      | literal text =>
          obtain ⟨e', hrest, -⟩ := expressionFrom_literal h
          exact ih hrest
      | placeholder name constraint =>
          obtain ⟨-, -, e', bindings', hrest, -, rfl⟩ := expressionFrom_placeholder h
          rw [ih hrest]
          rfl

/-- The bindings of a name are numbered from the ones that have been seen on. -/
theorem mem_bindingsOf_iff {names : List String} {b : Binding} :
    b ∈ bindingsOf seen names ↔
      ∃ n, seen.count b.placeholder < n ∧
        n ≤ seen.count b.placeholder + names.count b.placeholder ∧
        b.group = groupName b.placeholder n := by
  induction names generalizing seen with
  | nil =>
      simp only [bindingsOf, List.not_mem_nil, List.count_nil, false_iff]
      rintro ⟨n, hlt, hle, -⟩
      omega
  | cons name rest ih =>
      rw [bindingsOf, List.mem_cons, ih]
      by_cases hname : b.placeholder = name
      · subst hname
        simp only [List.count_cons_self]
        constructor
        · rintro (hb | ⟨n, hlt, hle, hgroup⟩)
          · exact ⟨_, Nat.lt_succ_self _, by omega, congrArg Binding.group hb⟩
          · exact ⟨n, by omega, by omega, hgroup⟩
        · rintro ⟨n, hlt, hle, hgroup⟩
          rcases Nat.eq_or_lt_of_le hlt with rfl | hlt
          · exact .inl (by rw [← hgroup])
          · exact .inr ⟨n, hlt, by omega, hgroup⟩
      · rw [List.count_cons_of_ne (Ne.symm hname), List.count_cons_of_ne (Ne.symm hname)]
        refine or_iff_right ?_
        rintro rfl
        exact hname rfl

/-- No two groups have one name as long as three digits are enough. -/
theorem nodup_bindingsOf {names : List String}
    (h : ∀ name, seen.count name + names.count name ≤ 999) :
    ((bindingsOf seen names).map Binding.group).Nodup := by
  induction names generalizing seen with
  | nil => exact List.nodup_nil
  | cons name rest ih =>
      have hrest : ∀ n, (name :: seen).count n + rest.count n ≤ 999 := by
        intro n
        have hn := h n
        rw [List.count_cons] at hn ⊢
        omega
      refine List.nodup_cons.2 ⟨fun hmem => ?_, ih hrest⟩
      obtain ⟨b, hb, hgroup⟩ := List.mem_map.1 hmem
      obtain ⟨n, hlt, hle, hn⟩ := mem_bindingsOf_iff.1 hb
      have hlater := hrest b.placeholder
      have hfirst := hrest name
      rw [List.count_cons_self] at hfirst
      obtain ⟨hname, rfl⟩ := groupName_injective (by omega) (by omega) (hn.symm.trans hgroup)
      -- The same name would have been counted once more by then.
      rw [hname, List.count_cons_self] at hlt
      omega

/-! ## The groups of an expression -/

theorem bindings_of_expression (h : expression options segments = .ok (source, bindings)) :
    bindings = bindingsOf [] (names segments) := by
  obtain ⟨e, he, -⟩ := expression_eq_ok h
  exact bindings_of_expressionFrom he

theorem mem_bindings_iff (h : expression options segments = .ok (source, bindings))
    {b : Binding} :
    b ∈ bindings ↔
      ∃ n, 0 < n ∧ n ≤ (names segments).count b.placeholder ∧
        b.group = groupName b.placeholder n := by
  rw [bindings_of_expression h, mem_bindingsOf_iff]
  simp only [List.count_nil, Nat.zero_add]

/-- More than a thousand occurrences of a name and one of a longer name share a group. -/
theorem exists_same_group (h : expression options segments = .ok (source, bindings))
    {name : String} (hmany : 1001 ≤ (names segments).count name)
    (hlonger : name ++ "1" ∈ names segments) :
    ∃ b ∈ bindings, ∃ c ∈ bindings,
      b.placeholder = name ∧ c.placeholder = name ++ "1" ∧ b.group = c.group := by
  have hone : 1 ≤ (names segments).count (name ++ "1") := List.count_pos_iff.2 hlonger
  exact ⟨⟨groupName name 1001, name⟩, (mem_bindings_iff h).2 ⟨1001, by decide, hmany, rfl⟩,
    ⟨groupName (name ++ "1") 1, name ++ "1"⟩, (mem_bindings_iff h).2 ⟨1, by decide, hone, rfl⟩,
    rfl, rfl, (groupName_longer name).symm⟩

/-- Segments with valid names and without empty constraints have an expression. -/
theorem exists_expressionFrom (seen : List String)
    (hnames : ∀ name ∈ names segments, isValidName name)
    (hconstraints : ∀ name, placeholder name (some "") ∉ segments) :
    ∃ e bindings, expressionFrom seen segments = .ok (e, bindings) := by
  induction segments generalizing seen with
  | nil => exact ⟨_, _, rfl⟩
  | cons segment rest ih =>
      have hrest : ∀ name, placeholder name (some "") ∉ rest :=
        fun name hmem => hconstraints name (List.mem_cons_of_mem _ hmem)
      cases segment with
      | literal text =>
          obtain ⟨e, bindings, h⟩ := ih seen hnames hrest
          exact ⟨_, _, by rw [expressionFrom, h]⟩
      | placeholder name constraint =>
          have hvalid : isValidName name := hnames name List.mem_cons_self
          have hne : constraint ≠ some "" := by
            rintro rfl
            exact hconstraints name List.mem_cons_self
          obtain ⟨e, bindings, h⟩ := ih (name :: seen)
            (fun n hn => hnames n (List.mem_cons_of_mem _ hn)) hrest
          refine ⟨groupText (groupName name (seen.count name + 1))
            (constraint.getD defaultConstraint) ++ e,
            ⟨groupName name (seen.count name + 1), name⟩ :: bindings, ?_⟩
          rw [expressionFrom, if_neg (by simp [hvalid]), if_neg hne, h]

theorem exists_expression (options : Options)
    (hnames : ∀ name ∈ names segments, isValidName name)
    (hconstraints : ∀ name, placeholder name (some "") ∉ segments) :
    ∃ source bindings, expression options segments = .ok (source, bindings) := by
  obtain ⟨e, bindings, h⟩ := exists_expressionFrom [] hnames hconstraints
  exact ⟨_, _, by rw [expression, h]⟩

/-- A name a thousand and one times, and once the name with a `1` behind it. -/
def crowded (name : String) : List Segment :=
  List.replicate 1001 (placeholder name none) ++ [placeholder (name ++ "1") none]

theorem names_crowded (name : String) :
    names (crowded name) = List.replicate 1001 name ++ [name ++ "1"] := by
  have hmany : (List.replicate 1001 (placeholder name none)).filterMap name? =
      List.replicate 1001 name :=
    List.filterMap_replicate_of_some rfl
  rw [names, crowded, List.filterMap_append, hmany]
  rfl

/-- As long as no placeholder occurs more than 999 times, every occurrence has a group of its own
name, in the order of the occurrences, and the placeholder is that name without its last three
characters. Beyond that bound two placeholders can get the same group. -/
theorem groups_distinct_within_three_digits :
    (∀ (options : Options) (segments : List Segment) (source : String) (bindings : List Binding),
      expression options segments = .ok (source, bindings) →
      (∀ name, (names segments).count name ≤ 999) →
      (bindings.map Binding.group).Nodup ∧
      bindings.map Binding.placeholder = names segments ∧
      ∀ b ∈ bindings, b.group.toList.rdrop 3 = b.placeholder.toList) ∧
    ∃ segments,
      (∀ name ∈ names segments, isValidName name) ∧
      (∃ name, 999 < (names segments).count name) ∧
      ∀ options, ∃ source bindings, expression options segments = .ok (source, bindings) ∧
        ∃ b ∈ bindings, ∃ c ∈ bindings, b.placeholder ≠ c.placeholder ∧ b.group = c.group := by
  constructor
  · intro options segments source bindings h hcount
    refine ⟨?_, ?_, fun b hb => ?_⟩
    · rw [bindings_of_expression h]
      apply nodup_bindingsOf
      intro name
      rw [List.count_nil, Nat.zero_add]
      exact hcount name
    · obtain ⟨e, he, -⟩ := expression_eq_ok h
      exact map_placeholder_of_expressionFrom he
    · obtain ⟨n, -, hle, hgroup⟩ := (mem_bindings_iff h).1 hb
      rw [hgroup]
      exact rdrop_groupName _ (hle.trans (hcount _))
  · have hnames : ∀ name ∈ names (crowded "a"), isValidName name := by
      intro name hname
      rw [names_crowded, List.mem_append, List.mem_singleton] at hname
      rcases hname with hname | rfl
      · rw [List.eq_of_mem_replicate hname]
        rfl
      · rfl
    have hconstraints : ∀ name, placeholder name (some "") ∉ crowded "a" := by
      intro name hmem
      rcases List.mem_append.1 hmem with hmem | hmem
      · cases List.eq_of_mem_replicate hmem
      · cases List.mem_singleton.1 hmem
    have hcount : 1001 ≤ (names (crowded "a")).count "a" := by
      rw [names_crowded, List.count_append, List.count_replicate_self]
      exact Nat.le_add_right _ _
    have hlonger : "a" ++ "1" ∈ names (crowded "a") := by
      rw [names_crowded]
      exact List.mem_append_right _ List.mem_cons_self
    refine ⟨crowded "a", hnames, ⟨"a", by omega⟩, fun options => ?_⟩
    obtain ⟨source, bindings, h⟩ := exists_expression options hnames hconstraints
    obtain ⟨b, hb, c, hc, hname, hname', hgroup⟩ := exists_same_group h hcount hlonger
    refine ⟨source, bindings, h, b, hb, c, hc, ?_, hgroup⟩
    rw [hname, hname']
    decide

/-- Names that differ by digits only. -/
theorem groups_of_digits :
    let segments := [placeholder "a" none, literal "/", placeholder "a0" none,
      placeholder "a" none, placeholder "a001" (some "x")]
    ∃ source bindings, expression {} segments = .ok (source, bindings) ∧
      (∀ name, (names segments).count name ≤ 999) ∧
      bindings.map Binding.group = ["a001", "a0001", "a002", "a001001"] ∧
      (bindings.map Binding.group).Nodup ∧
      bindings.map Binding.placeholder = ["a", "a0", "a", "a001"] ∧
      ∀ b ∈ bindings, b.group.toList.rdrop 3 = b.placeholder.toList := by
  intro segments
  have hcount : ∀ name, (names segments).count name ≤ 999 :=
    fun name => List.count_le_length.trans (by decide)
  obtain ⟨source, bindings, h⟩ :
      ∃ source bindings, expression {} segments = .ok (source, bindings) := ⟨_, _, rfl⟩
  refine ⟨source, bindings, h, hcount, ?_,
    groups_distinct_within_three_digits.1 {} segments source bindings h hcount⟩
  rw [bindings_of_expression h]
  decide

end PathTemplate.Segment
