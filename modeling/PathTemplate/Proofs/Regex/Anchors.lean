import PathTemplate.Proofs.Regex.Parts
import PathTemplate.Proofs.Regex.Tokens

/-!
# Anchors

A mark of the start in front of an expression is its first part, unless an
alternation takes it into its first branch; repetitions may stand behind the
mark. A mark of the end that the reader comes to is the last part. A run of such
parts starts and ends where the marks hold.
-/

namespace PathTemplate.Regex

/-- Whether a mark of the start, which may be repeated, has to be there. No other expression is
such a mark. -/
def Expr.startMark? : Expr → Option Bool
  | place .lineStart => some true
  | repetition min _ _ body => body.startMark?.map (decide (0 < min) && ·)
  | _ => none

/-! ## Reading the outermost level -/

/-- What a step does to the parts of one level. -/
inductive Level.Grows (l : Level) : Level → Prop
  | same : l.Grows l
  | push (e : Expr) : l.Grows (l.push e)
  | branch : l.Grows l.branch
  | repetition {e : Expr} {parts : List Expr} (min : Nat) (max : Option Nat) (greedy : Bool)
      (h : l.parts = e :: parts) :
      l.Grows { l with parts := .repetition min max greedy e :: parts }

/-- What has been read outside of all groups. -/
def Reading.outermost (r : Reading) : Level :=
  (r.opened.getLast?.map OpenGroup.around).getD r.level

namespace Reading

variable {r r' : Reading} {rest : List Char}

/-- Where no group begins or ends, the outermost level is the same or grows as the innermost. -/
theorem grows_of_level (hopened : r'.opened = r.opened) (h : r.level.Grows r'.level) :
    r.outermost.Grows r'.outermost := by
  rw [outermost, outermost, hopened]
  cases r.opened.getLast? with
  | none => exact h
  | some g => exact .same

/-- A group that begins keeps what has been read around it. -/
theorem grows_of_opened {g : OpenGroup} (hopened : r'.opened = g :: r.opened)
    (hg : g.around = r.level) : r.outermost.Grows r'.outermost := by
  have heq : r'.outermost = r.outermost := by
    rw [outermost, outermost, hopened, List.getLast?_cons]
    cases r.opened.getLast? with
    | none => exact hg
    | some g' => rfl
  rw [heq]
  exact .same

theorem grows_of_begin (h : r.begin rest = .ok r') : r.outermost.Grows r'.outermost := by
  obtain ⟨⟨o, rest'⟩, -, h⟩ := exists_of_bind_eq_ok h
  cases o with
  | flags change =>
      cases h
      exact grows_of_level rfl (.push _)
  | group kind =>
      cases kind with
      | plain change =>
          cases h
          exact grows_of_opened rfl rfl
      | capture index name =>
          cases name with
          | none =>
              cases h
              exact grows_of_opened rfl rfl
          | some n =>
              simp only at h
              split at h
              · cases h
              · cases h
                exact grows_of_opened rfl rfl

theorem grows_of_finish (h : r.finish rest = .ok r') : r.outermost.Grows r'.outermost := by
  unfold finish at h
  split at h
  · cases h
  · rename_i g outer hopened
    cases h
    rw [outermost, outermost, hopened, List.getLast?_cons]
    cases outer.getLast? with
    | none => exact .push _
    | some g' => exact .same

theorem grows_of_repetition {min : Nat} {max : Option Nat} {greedy : Bool}
    (h : r.repetition min max greedy rest = .ok r') : r.outermost.Grows r'.outermost := by
  unfold repetition at h
  split at h
  case h_4 hparts =>
    cases h
    exact grows_of_level rfl (.repetition min max greedy hparts)
  all_goals cases h

theorem grows_of_step {c : Char} (h : step r c rest = .ok r') :
    r.outermost.Grows r'.outermost := by
  unfold step at h
  split at h
  case h_1 => exact grows_of_begin h
  case h_2 => exact grows_of_finish h
  case h_3 =>
    cases h
    exact grows_of_level rfl .branch
  case h_4 =>
    obtain ⟨p, -, h⟩ := exists_of_bind_eq_ok h
    cases h
    exact grows_of_level rfl (.push _)
  case h_5 => exact grows_of_repetition h
  case h_6 => exact grows_of_repetition h
  case h_7 => exact grows_of_repetition h
  case h_8 =>
    obtain ⟨p, -, h⟩ := exists_of_bind_eq_ok h
    exact grows_of_repetition h
  case h_9 =>
    obtain ⟨p, -, h⟩ := exists_of_bind_eq_ok h
    cases h
    exact grows_of_level rfl (.push _)
  all_goals
    cases h
    exact grows_of_level rfl (.push _)

end Reading

/-! ## Marks at both ends -/

/-- The first part of a level is a mark of the start, unless its first alternative has ended. -/
def Level.StartsMarked (l : Level) : Prop :=
  l.branches ≠ [] ∨ ∃ later first, l.parts = later ++ [first] ∧ first.startMark? ≠ none

namespace Level

variable {l l' : Level}

theorem StartsMarked.of_grows (hl : l.StartsMarked) (h : l.Grows l') : l'.StartsMarked := by
  cases h with
  | same => exact hl
  | branch => exact .inl (List.cons_ne_nil _ _)
  | push e =>
      refine hl.imp_right ?_
      rintro ⟨later, first, hparts, hfirst⟩
      exact ⟨e :: later, first, congrArg (e :: ·) hparts, hfirst⟩
  | @repetition e parts min max greedy hlast =>
      refine hl.imp_right ?_
      rintro ⟨later, first, hparts, hfirst⟩
      rw [hlast] at hparts
      cases later with
      | nil =>
          cases hparts
          refine ⟨[], _, rfl, ?_⟩
          rw [Expr.startMark?, ne_eq, Option.map_eq_none_iff]
          exact hfirst
      | cons d later =>
          cases hparts
          exact ⟨_ :: later, first, rfl, hfirst⟩

theorem close_eq (l : Level) :
    (∃ branches, l.close = .alternation branches) ∨ l.close = Expr.ofParts l.parts.reverse := by
  unfold close
  split
  · exact .inr rfl
  · exact .inl ⟨_, rfl⟩

/-- A level that begins with a mark of the start is an alternation, or the mark is its first
part. -/
theorem StartsMarked.close (h : l.StartsMarked) :
    (∃ branches, l.close = .alternation branches) ∨
      ∃ first rest, l.close = Expr.ofParts (first :: rest) ∧ first.startMark? ≠ none := by
  obtain hbranches | ⟨later, first, hparts, hfirst⟩ := h
  · left
    unfold Level.close
    split
    · contradiction
    · exact ⟨_, rfl⟩
  · refine l.close_eq.imp_right fun hclose => ⟨first, later.reverse, ?_, hfirst⟩
    rw [hclose, hparts, List.reverse_append]
    rfl

end Level

namespace Reading

variable {r : Reading} {fuel : Nat} {e : Expr}

theorem startsMarked_of_run (hr : r.outermost.StartsMarked) (h : run fuel r = .ok e) :
    (∃ branches, e = .alternation branches) ∨
      ∃ first rest, e = Expr.ofParts (first :: rest) ∧ first.startMark? ≠ none := by
  induction fuel generalizing r with
  | zero => cases h
  | succ fuel ih =>
      rw [run] at h
      split at h
      · split at h
        · rename_i hopened
          cases h
          rw [outermost, List.isEmpty_iff.1 hopened] at hr
          exact hr.close
        · cases h
      · split at h
        · cases h
        · rename_i hstep
          exact ih (hr.of_grows (grows_of_step hstep)) h

/-- If the reader comes to a dollar sign behind which nothing stands, it is the last part. -/
theorem endsMarked_of_run (h : run fuel r = .ok e) (hcomes : r.ComesTo ['$']) :
    (∃ branches, e = .alternation branches) ∨
      ∃ front, e = Expr.ofParts (front ++ [.place .lineEnd]) := by
  obtain ⟨r', hreads, hskip⟩ := hcomes
  obtain ⟨fuel', hrun⟩ := exists_run_of_reads hreads h
  obtain ⟨r'', hstep, fuel'', hrun'⟩ := exists_step_of_run hrun hskip
  cases hstep
  rw [eq_close_of_run hrun' rfl]
  refine (r'.level.push (.place .lineEnd)).close_eq.imp_right fun heq =>
    ⟨r'.level.parts.reverse, ?_⟩
  rw [← List.reverse_cons]
  exact heq

end Reading

theorem startsMarked_of_readExpr {text : List Char} {e : Expr}
    (h : readExpr ('^' :: text) = .ok e) :
    (∃ branches, e = .alternation branches) ∨
      ∃ first rest, e = Expr.ofParts (first :: rest) ∧ first.startMark? ≠ none := by
  have hrun : Reading.run (text.length + 1)
      (Reading.push { rest := '^' :: text } (.place .lineStart) text) = .ok e := run_of_readExpr h
  exact Reading.startsMarked_of_run (.inr ⟨[], .place .lineStart, rfl, Option.some_ne_none _⟩) hrun

theorem endsMarked_of_readExpr {text : List Char} {e : Expr} (h : readExpr text = .ok e)
    (hcomes : Reading.ComesTo { rest := text } ['$']) :
    (∃ branches, e = .alternation branches) ∨
      ∃ front, e = Expr.ofParts (front ++ [.place .lineEnd]) :=
  Reading.endsMarked_of_run (run_of_readExpr h) hcomes

/-! ## Running marks -/

theorem meanings_of_ofParts {parts : List Expr} {f f' : Flags} {core : Core}
    (h : meaning f (Expr.ofParts parts) = .ok (core, f')) :
    ∃ cores, meanings f parts = .ok (cores, f') ∧ core = Core.catAll cores := by
  match parts with
  | [] =>
      cases h
      exact ⟨[], rfl, rfl⟩
  | [e] =>
      refine ⟨[core], ?_, rfl⟩
      rw [Expr.ofParts] at h
      rw [meanings, h]
      rfl
  | e :: e' :: rest =>
      obtain ⟨⟨cores, f₁⟩, hparts, h⟩ := exists_of_bind_eq_ok h
      cases h
      exact ⟨cores, hparts, rfl⟩

/-- What is repeated once or more often is run at the place where the repetition is. -/
theorem exists_runs_of_repetition {text : Array Char} {min : Nat} {max : Option Nat}
    {greedy : Bool} {body : Core} {p q : Nat} {tr tr' : Trail} (hmin : 0 < min)
    (h : Runs text (Core.repetition min max greedy body) p tr q tr') :
    ∃ s tr₁, Runs text body p tr s tr₁ := by
  have htimes : ∀ {n s tr₁}, Runs text (.times (n + 1) body) p tr s tr₁ →
      ∃ s tr₁, Runs text body p tr s tr₁ := by
    intro n s tr₁ h
    cases h with
    | timesSucc h _ => exact ⟨_, _, h⟩
  have hleast : 0 < (if body.isBlank then Min.min min 1 else min) := by
    split <;> omega
  dsimp only [Core.repetition] at h
  generalize (if body.isBlank then Min.min min 1 else min) = least at h hleast
  generalize (if body.isBlank then some (Min.min (max.getD 1) 1) else max) = most at h
  split at h
  · cases hleast
  · cases h with
    | plusLast h => exact ⟨_, _, h⟩
    | plusMore h _ => exact ⟨_, _, h⟩
  · cases h with
    | cat h _ => exact htimes h
  · cases hleast
  · split at h
    · exact htimes h
    · cases h with
      | cat h _ => exact htimes h

/-- A mark of the start that has to be there holds at the start only, as long as lines are not
told apart. -/
theorem eq_zero_of_startMark {text : Array Char} {e : Expr} {f f' : Flags} {core : Core}
    {p q : Nat} {tr tr' : Trail} (hmark : e.startMark? = some true) (hlines : f.multiLine = false)
    (hm : meaning f e = .ok (core, f')) (h : Runs text core p tr q tr') (hp : p ≤ text.size) :
    p = 0 := by
  fun_induction Expr.startMark? e generalizing core f' q tr' with
  | case1 =>
      cases hm
      cases h with
      | assert hholds =>
          by_contra hne
          have hlt : p - 1 < text.size := by omega
          simp [Flags.placeMeaning, hlines, Assertion.holds, before?, hne, hlt] at hholds
  | case2 min max greedy body ih =>
      obtain ⟨⟨inner, f₁⟩, hbody, hm⟩ := exists_of_bind_eq_ok hm
      cases hm
      obtain ⟨needed, hinner, hmin⟩ := Option.map_eq_some_iff.1 hmark
      rw [Bool.and_eq_true, decide_eq_true_eq] at hmin
      obtain ⟨s, tr₁, hrun⟩ := exists_runs_of_repetition hmin.1 h
      exact ih (hmin.2 ▸ hinner) hbody hrun
  | case3 => cases hmark

/-- Behind a mark of the end it holds, under the flags that are in force there. -/
theorem lineEnd_of_runsAll {text : Array Char} {front : List Expr} {f f' : Flags}
    {cores : List Core} {p q : Nat} {tr tr' : Trail}
    (hm : meanings f (front ++ [.place .lineEnd]) = .ok (cores, f'))
    (h : RunsAll text cores p tr q tr') :
    (f'.placeMeaning .lineEnd).holds (before? text q) text[q]? = true := by
  induction front generalizing f cores p tr with
  | nil =>
      cases hm
      cases h with
      | cons h hrest =>
          cases hrest
          cases h with
          | assert hholds => exact hholds
  | cons e front ih =>
      obtain ⟨⟨core, f₁⟩, -, hm⟩ := exists_of_bind_eq_ok hm
      obtain ⟨⟨cores', f₂⟩, hrest, hm⟩ := exists_of_bind_eq_ok hm
      cases hm
      cases h with
      | cons _ hruns => exact ih hrest hruns

end PathTemplate.Regex
