import PathTemplate.Proofs.Regex.Tokens
import PathTemplate.Regex.Basic

/-!
# Groups that an expression has

A named group that the reader comes to is a group of the tree. The program
remembers where it starts and ends, unless the group stands in a part that is
repeated zero times.
-/

namespace PathTemplate.Regex

/-! ## Reading a named group -/

theorem skip_questionMark (verbose : Bool) (text : List Char) :
    skip verbose ('?' :: text) = '?' :: text := by
  cases verbose with
  | false => rfl
  | true =>
      have hblank : Character.isBlank '?' = false := by decide
      have hcomment : '?' ≠ '#' := by decide
      rw [skip, if_pos rfl, skipComments, hblank, if_neg Bool.false_ne_true, if_neg hcomment]

/-- A text up to an angle bracket is taken as a name. -/
theorem groupName_append {name : List Char} (hname : '>' ∉ name) (rest : List Char) :
    groupName (name ++ '>' :: rest) =
      if isGroupName name then .ok (String.ofList name, rest)
      else .error (.groupName (String.ofList name)) := by
  have hall : ∀ c ∈ name, decide (c ≠ '>') = true := by
    intro c hc
    rw [decide_eq_true_eq]
    rintro rfl
    exact hname hc
  have hspan : (name ++ '>' :: rest).span (fun c => decide (c ≠ '>')) = (name, '>' :: rest) := by
    rw [List.span_eq_takeWhile_dropWhile, List.takeWhile_append_of_pos hall,
      List.dropWhile_append_of_pos hall]
    simp
  rw [groupName, hspan]
  rfl

namespace Reading

variable {r r' : Reading} {name rest : List Char}

/-- The reader behind the beginning of a named group. -/
def inGroup (r : Reading) (name : String) (rest : List Char) : Reading where
  rest := rest
  verbose := r.verbose
  level := {}
  captures := r.captures + 1
  opened := ⟨.capture (r.captures + 1) (some name), r.level, r.verbose⟩ :: r.opened
  names := name :: r.names

/-- If a named group can begin, it does. -/
theorem eq_inGroup_of_begin (hname : '>' ∉ name)
    (h : r.begin ('?' :: 'P' :: '<' :: (name ++ '>' :: rest)) = .ok r') :
    r' = r.inGroup (String.ofList name) rest := by
  obtain ⟨⟨o, rest'⟩, ho, h⟩ := exists_of_bind_eq_ok h
  unfold opening at ho
  rw [skip_questionMark] at ho
  obtain ⟨⟨n, rest''⟩, hn, ho⟩ := exists_of_bind_eq_ok ho
  cases ho
  rw [groupName_append hname] at hn
  split at hn
  · cases hn
    simp only at h
    split at h
    · cases h
    · cases h
      rfl
  · cases hn

theorem mem_found_inGroup (r : Reading) (name : String) (rest : List Char) :
    (r.captures + 1, some name) ∈ (r.inGroup name rest).found := by
  rw [found, List.mem_append]
  exact .inr (List.mem_append_left _ (List.mem_append_left _ List.mem_cons_self))

/-- A group that has been found is a group of the tree. -/
theorem mem_captures_of_run {g : Nat × Option String} {fuel : Nat} {e : Expr}
    (h : run fuel r = .ok e) (hg : g ∈ r.found) : g ∈ e.captures := by
  induction fuel generalizing r with
  | zero => cases h
  | succ fuel ih =>
      rw [run] at h
      split at h
      · split at h
        · rename_i hopened
          cases h
          rw [found, List.isEmpty_iff.1 hopened, List.flatMap_nil, List.append_nil] at hg
          exact r.level.captures_close.mem_iff.2 hg
        · cases h
      · split at h
        · cases h
        · rename_i hstep
          refine ih h ?_
          cases finds_of_step hstep with
          | nothing hfound _ _ => exact hfound.mem_iff.2 hg
          | group _ _ hfound _ _ => exact hfound.mem_iff.2 (List.mem_cons_of_mem _ hg)

/-- A named group that the reader comes to is a group of the tree. -/
theorem exists_capture_of_comesTo {fuel : Nat} {e : Expr} (h : run fuel r = .ok e)
    (hname : '>' ∉ name) (hcomes : r.ComesTo ('(' :: '?' :: 'P' :: '<' :: (name ++ '>' :: rest))) :
    ∃ index, (index, some (String.ofList name)) ∈ e.captures := by
  obtain ⟨r', hreads, hskip⟩ := hcomes
  obtain ⟨fuel', hrun⟩ := exists_run_of_reads hreads h
  obtain ⟨r'', hstep, fuel'', hrun'⟩ := exists_step_of_run hrun hskip
  have heq := eq_inGroup_of_begin hname hstep
  subst heq
  exact ⟨_, mem_captures_of_run hrun' (mem_found_inGroup r' _ rest)⟩

end Reading

/-! ## Groups in the program -/

namespace Expr

mutual

/-- The groups that capture and stand in no part that is repeated zero times. -/
def lasting : Expr → List (Nat × Option String)
  | repetition _ max _ body => if max = some 0 then [] else body.lasting
  | group kind body => kind.captures ++ body.lasting
  | alternation branches => lastingAll branches
  | concat parts => lastingAll parts
  | _ => []

/-- The groups in a list of expressions that capture and are not left out. -/
def lastingAll : List Expr → List (Nat × Option String)
  | [] => []
  | e :: rest => e.lasting ++ lastingAll rest

end

end Expr

/-- Wherever the code of an expression stands, it remembers a place under a number. -/
def Core.Marks (slot : Nat) (e : Core) : Prop :=
  ∀ at_, Instr.mark slot ∈ e.code at_

namespace Core.Marks

variable {slot : Nat} {e body : Core}

theorem capture (index : Nat) (h : body.Marks slot) : (capture index body).Marks slot := by
  intro at_
  rw [code]
  exact List.mem_append_left _ (List.mem_cons_of_mem _ (h _))

theorem startSlot (index : Nat) (body : Core) :
    (Core.capture index body).Marks (startSlot index) := by
  intro at_
  rw [code]
  exact List.mem_append_left _ List.mem_cons_self

theorem endSlot (index : Nat) (body : Core) : (Core.capture index body).Marks (endSlot index) := by
  intro at_
  rw [code]
  exact List.mem_append_right _ List.mem_cons_self

theorem plus (greedy : Bool) (h : body.Marks slot) : (plus greedy body).Marks slot := by
  intro at_
  rw [code]
  exact List.mem_append_left _ (h _)

theorem times (n : Nat) (h : body.Marks slot) : (times (n + 1) body).Marks slot := by
  intro at_
  rw [code, copies]
  exact List.mem_append_left _ (h _)

theorem upTo (n : Nat) (greedy : Bool) (h : body.Marks slot) :
    (upTo (n + 1) greedy body).Marks slot := by
  intro at_
  rw [code, optionals]
  exact List.mem_append_left _ (List.mem_cons_of_mem _ (h _))

theorem catAll {es : List Core} (he : e ∈ es) (h : e.Marks slot) : (catAll es).Marks slot := by
  match es with
  | [] => cases he
  | [_] =>
      rw [List.mem_singleton] at he
      subst he
      exact h
  | first :: second :: rest =>
      intro at_
      rw [Core.catAll, code, List.mem_append]
      · rcases List.mem_cons.1 he with rfl | he
        · exact .inl (h _)
        · exact .inr (catAll he h _)
      · simp

theorem altAll {es : List Core} (he : e ∈ es) (h : e.Marks slot) : (altAll es).Marks slot := by
  match es with
  | [] => cases he
  | [_] =>
      rw [List.mem_singleton] at he
      subst he
      exact h
  | first :: second :: rest =>
      intro at_
      rw [Core.altAll, code, List.mem_append]
      · rcases List.mem_cons.1 he with rfl | he
        · exact .inl (List.mem_cons_of_mem _ (h _))
        · exact .inr (List.mem_cons_of_mem _ (altAll he h _))
      · simp

/-- A repetition has the code of its body, unless it is repeated zero times. -/
theorem repetition (min : Nat) {max : Option Nat} (greedy : Bool) (hmax : max ≠ some 0)
    (h : body.Marks slot) : (repetition min max greedy body).Marks slot := by
  have hmost : (if body.isBlank then some (Min.min (max.getD 1) 1) else max) ≠ some 0 := by
    split
    · cases max with
      | none => simp
      | some n =>
          have hn : n ≠ 0 := fun e => hmax (congrArg some e)
          simp only [Option.getD_some, ne_eq, Option.some.injEq]
          omega
    · exact hmax
  dsimp only [Core.repetition]
  generalize (if body.isBlank then Min.min min 1 else min) = least
  generalize (if body.isBlank then some (Min.min (max.getD 1) 1) else max) = most at hmost
  split
  · exact (h.plus greedy).upTo 0 greedy
  · exact h.plus greedy
  · intro at_
    rw [code]
    exact List.mem_append_left _ (h.times _ _)
  · rename_i n
    cases n with
    | zero => exact absurd rfl hmost
    | succ n => exact h.upTo n greedy
  · split
    · exact h.times _
    · intro at_
      rw [code]
      exact List.mem_append_left _ (h.times _ _)

end Core.Marks

/-- The program of a group remembers both of its ends. -/
def Core.HasGroup (index : Nat) (e : Core) : Prop :=
  e.Marks (startSlot index) ∧ e.Marks (endSlot index)

mutual

/-- The code of an expression has every group that is not left out. -/
theorem hasGroup_of_meaning {e : Expr} {f f' : Flags} {core : Core}
    (h : meaning f e = .ok (core, f')) {g : Nat × Option String} (hg : g ∈ e.lasting) :
    core.HasGroup g.1 := by
  match e with
  | .empty | .flags _ | .place _ | .char _ | .dot | .charClass _ => cases hg
  | .repetition min max greedy body =>
      obtain ⟨⟨inner, f₁⟩, hbody, h⟩ := exists_of_bind_eq_ok h
      cases h
      rw [Expr.lasting] at hg
      split at hg
      · cases hg
      · rename_i hmax
        have ih : inner.HasGroup g.1 := hasGroup_of_meaning hbody hg
        exact ⟨ih.1.repetition min _ hmax, ih.2.repetition min _ hmax⟩
  | .group (.capture index name) body =>
      obtain ⟨⟨inner, f₁⟩, hbody, h⟩ := exists_of_bind_eq_ok h
      cases h
      rcases List.mem_cons.1 hg with rfl | hg
      · exact ⟨.startSlot index inner, .endSlot index inner⟩
      · have ih : inner.HasGroup g.1 := hasGroup_of_meaning hbody hg
        exact ⟨ih.1.capture index, ih.2.capture index⟩
  | .group (.plain change) body =>
      obtain ⟨⟨inner, f₁⟩, hbody, h⟩ := exists_of_bind_eq_ok h
      cases h
      have ih : core.HasGroup g.1 := hasGroup_of_meaning hbody hg
      exact ih
  | .alternation branches =>
      obtain ⟨⟨cores, f₁⟩, hbranches, h⟩ := exists_of_bind_eq_ok h
      cases h
      obtain ⟨inner, hinner, ih⟩ := hasGroup_of_meanings hbranches hg
      exact ⟨ih.1.altAll hinner, ih.2.altAll hinner⟩
  | .concat parts =>
      obtain ⟨⟨cores, f₁⟩, hparts, h⟩ := exists_of_bind_eq_ok h
      cases h
      obtain ⟨inner, hinner, ih⟩ := hasGroup_of_meanings hparts hg
      exact ⟨ih.1.catAll hinner, ih.2.catAll hinner⟩

theorem hasGroup_of_meanings {es : List Expr} {f f' : Flags} {cores : List Core}
    (h : meanings f es = .ok (cores, f')) {g : Nat × Option String} (hg : g ∈ Expr.lastingAll es) :
    ∃ core ∈ cores, core.HasGroup g.1 := by
  match es with
  | [] => cases hg
  | e :: rest =>
      obtain ⟨⟨core, f₁⟩, he, h⟩ := exists_of_bind_eq_ok h
      obtain ⟨⟨cores', f₂⟩, hrest, h⟩ := exists_of_bind_eq_ok h
      cases h
      rw [Expr.lastingAll] at hg
      rcases List.mem_append.1 hg with hg | hg
      · exact ⟨core, List.mem_cons_self, hasGroup_of_meaning he hg⟩
      · obtain ⟨core', hcore', ih⟩ := hasGroup_of_meanings hrest hg
        exact ⟨core', List.mem_cons_of_mem _ hcore', ih⟩

end

end PathTemplate.Regex
