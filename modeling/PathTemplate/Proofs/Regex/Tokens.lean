import Mathlib.Data.List.TakeDrop
import PathTemplate.Proofs.Regex.Numbering

/-!
# Where tokens begin

An expression is read token by token. A parenthesis or a dollar sign that the
reader comes to begins a token. There are only three places in which the reader
goes over one without coming to it: a class, an escape, and a comment. Groups,
flags and counts have none inside them.
-/

namespace PathTemplate.Regex

namespace Reading

/-- The reader goes on from one state to another one. -/
inductive Reads : Reading → Reading → Prop
  | refl {r : Reading} : Reads r r
  | step {r r' r'' : Reading} {c : Char} {rest : List Char}
      (hskip : skip r.verbose r.rest = c :: rest)
      (hstep : PathTemplate.Regex.step r c rest = .ok r') (h : Reads r' r'') : Reads r r''

/-- A reader that comes to an expression reads the next token and goes on. -/
theorem exists_step_of_run {fuel : Nat} {r : Reading} {e : Expr} {c : Char} {rest : List Char}
    (h : run fuel r = .ok e) (hskip : skip r.verbose r.rest = c :: rest) :
    ∃ r', PathTemplate.Regex.step r c rest = .ok r' ∧ ∃ fuel', run fuel' r' = .ok e := by
  cases fuel with
  | zero => cases h
  | succ fuel =>
      rw [run] at h
      simp only [hskip] at h
      split at h
      · cases h
      · rename_i r' hstep
        exact ⟨r', hstep, fuel, h⟩

/-- Where nothing is left, what has been read is the expression. -/
theorem eq_close_of_run {fuel : Nat} {r : Reading} {e : Expr} (h : run fuel r = .ok e)
    (hrest : r.rest = []) : e = r.level.close := by
  have hskip : skip r.verbose r.rest = [] := by
    rw [hrest]
    cases r.verbose with
    | false => rfl
    | true => rfl
  cases fuel with
  | zero => cases h
  | succ fuel =>
      rw [run] at h
      simp only [hskip] at h
      split at h
      · cases h
        rfl
      · cases h

/-- What is read is read from every state on the way. -/
theorem exists_run_of_reads {fuel : Nat} {r r' : Reading} {e : Expr} (hr : Reads r r')
    (h : run fuel r = .ok e) : ∃ fuel', run fuel' r' = .ok e := by
  induction hr generalizing fuel with
  | refl => exact ⟨fuel, h⟩
  | step hskip hstep _ ih =>
      obtain ⟨r', hstep', fuel', h'⟩ := exists_step_of_run h hskip
      cases hstep.symm.trans hstep'
      exact ih h'

/-- The reader comes to a text: the token that it reads next begins there. -/
def ComesTo (r : Reading) (text : List Char) : Prop :=
  ∃ r', Reads r r' ∧ skip r'.verbose r'.rest = text

/-- From this state the reader goes over the beginning of a text that lies ahead: a class or an
escape reaches over it, or a comment does, which stands between tokens or inside one. -/
inductive Conceals (r : Reading) (text : List Char) : Prop
  | charClass {rest behind : List Char} {k : ClassExpr}
      (hskip : skip r.verbose r.rest = '[' :: rest) (hahead : text <:+ rest)
      (hread : readClass r.verbose ('[' :: rest) = .ok (k, behind)) (hover : ¬ text <:+ behind)
  | escape {rest behind : List Char} {e : Escape}
      (hskip : skip r.verbose r.rest = '\\' :: rest) (hahead : text <:+ rest)
      (hread : PathTemplate.Regex.escape r.verbose rest = .ok (e, behind))
      (hover : ¬ text <:+ behind)
  | comment {before : List Char} (hverbose : r.verbose = true) (hahead : r.rest = before ++ text)
      (hcomment : '#' ∈ before) (hover : ¬ text <:+ skip r.verbose r.rest)
  | commentInside {c : Char} {rest before : List Char} {r' : Reading}
      (hskip : skip r.verbose r.rest = c :: rest) (hverbose : r.verbose = true)
      (hahead : rest = before ++ text) (hcomment : '#' ∈ before)
      (hstep : PathTemplate.Regex.step r c rest = .ok r') (hover : ¬ text <:+ r'.rest)

/-- Somewhere on the way the reader goes over the beginning of a text. -/
def Hides (r : Reading) (text : List Char) : Prop :=
  ∃ r', Reads r r' ∧ r'.Conceals text

end Reading

/-! ## What tokens leave ahead -/

/-- The marks of counts and of what stands behind an opening parenthesis. -/
def innerMarks : List Char := ['?', 'P', '<', '>', ',', '-', '}', ':', ')']

/-- A character that begins a token: it is no blank and begins no comment, and it is no part of a
count or of what stands behind an opening parenthesis. -/
structure BeginsToken (a : Char) : Prop where
  notBlank : Character.isBlank a = false
  notComment : a ≠ '#'
  notDigit : a.isDigit = false
  notInName : ∀ first, isGroupNameChar first a = false
  noFlag : ∀ change value, setFlag change value a = .error (.flagUnknown a)
  notInside : a ∉ innerMarks

theorem beginsToken_open : BeginsToken '(' where
  notBlank := by decide
  notComment := by decide
  notDigit := by decide
  notInName := by decide
  noFlag _ _ := rfl
  notInside := by decide

theorem beginsToken_dollar : BeginsToken '$' where
  notBlank := by decide
  notComment := by decide
  notDigit := by decide
  notInName := by decide
  noFlag _ _ := rfl
  notInside := by decide

/-- No comment begins in a text if blanks and comments are skipped. -/
def Clear (verbose : Bool) (text : List Char) : Prop :=
  verbose = true → '#' ∉ text

theorem Clear.tail {verbose : Bool} {c : Char} {text : List Char} (h : Clear verbose (c :: text)) :
    Clear verbose text :=
  fun hv hm => h hv (List.mem_cons_of_mem _ hm)

/-- Reading from one text to another one goes over no occurrence of a character, except in
comments. -/
def Keeps (a : Char) (verbose : Bool) (text text' : List Char) : Prop :=
  ∀ before behind, text = before ++ a :: behind → Clear verbose before →
    ∃ before', text' = before' ++ a :: behind ∧ Clear verbose before'

namespace Keeps

variable {a : Char} {verbose : Bool} {s s' s'' : List Char}

theorem refl : Keeps a verbose s s :=
  fun before _ htext hclear => ⟨before, htext, hclear⟩

theorem trans (h : Keeps a verbose s s') (h' : Keeps a verbose s' s'') : Keeps a verbose s s'' := by
  intro before behind htext hclear
  obtain ⟨before', htext', hclear'⟩ := h before behind htext hclear
  exact h' before' behind htext' hclear'

/-- Another character may be gone over. -/
theorem drop {c : Char} (hc : c ≠ a) : Keeps a verbose (c :: s) s := by
  intro before behind htext hclear
  cases before with
  | nil => exact absurd (List.cons.inj htext).1 hc
  | cons d before => exact ⟨before, (List.cons.inj htext).2, hclear.tail⟩

theorem append {before : List Char} (h : ∀ c ∈ before, c ≠ a) :
    Keeps a verbose (before ++ s) s := by
  induction before with
  | nil => exact refl
  | cons c before ih =>
      exact (drop (h c List.mem_cons_self)).trans
        (ih fun d hd => h d (List.mem_cons_of_mem _ hd))

theorem skip (ha : BeginsToken a) : Keeps a verbose s (skip verbose s) := by
  cases verbose with
  | false => exact refl
  | true =>
      rw [Regex.skip, if_pos rfl]
      induction s with
      | nil => exact refl
      | cons c rest ih =>
          rw [skipComments]
          split
          · rename_i hblank
            have hc : c ≠ a := by
              rintro rfl
              rw [ha.notBlank] at hblank
              cases hblank
            exact (drop hc).trans ih
          · split
            · rename_i hcomment
              intro before behind htext hclear
              cases before with
              | nil => exact absurd ((List.cons.inj htext).1.symm.trans hcomment) ha.notComment
              | cons d before =>
                  have hd := (List.cons.inj htext).1.symm.trans hcomment
                  exact absurd (hd ▸ List.mem_cons_self) (hclear rfl)
            · exact refl

theorem advance (ha : BeginsToken a) {c : Char} (hc : c ≠ a) :
    Keeps a verbose (c :: s) (advance verbose (c :: s)) :=
  (drop hc).trans (skip ha)

/-- Characters with a property that the kept one does not have may be gone over. -/
theorem dropWhile {p : Char → Bool} (hp : p a = false) :
    Keeps a verbose s (s.dropWhile p) := by
  induction s with
  | nil => exact refl
  | cons c rest ih =>
      rw [List.dropWhile_cons]
      split
      · rename_i hc
        have hne : c ≠ a := by
          rintro rfl
          rw [hp] at hc
          cases hc
        exact (drop hne).trans ih
      · exact refl

end Keeps

section

variable {a : Char} {verbose : Bool} {text rest : List Char}

theorem BeginsToken.ne {c : Char} (ha : BeginsToken a)
    (hc : c ∈ innerMarks) : c ≠ a := by
  rintro rfl
  exact ha.notInside hc

theorem keeps_of_greed (ha : BeginsToken a) : Keeps a verbose text (Reading.greed text).2 := by
  unfold Reading.greed
  split
  · exact .drop (ha.ne (by decide))
  · exact .refl

theorem keeps_of_countDigits (ha : BeginsToken a) (fuel : Nat) :
    Keeps a verbose text (countDigits verbose fuel text).2 := by
  induction fuel generalizing text with
  | zero => exact .refl
  | succ fuel ih =>
      unfold countDigits
      split
      · rename_i c rest
        split
        · rename_i hdigit
          have hc : c ≠ a := by
            rintro rfl
            rw [ha.notDigit] at hdigit
            cases hdigit
          exact (Keeps.advance ha hc).trans ih
        · exact .refl
      · exact .refl

theorem keeps_of_count (ha : BeginsToken a) {n : Nat} (h : count verbose text = .ok (n, rest)) :
    Keeps a verbose text rest := by
  unfold count at h
  dsimp only at h
  split at h
  · cases h
  · cases h
    exact (((Keeps.dropWhile ha.notBlank).trans (keeps_of_countDigits ha _)).trans
      (Keeps.dropWhile ha.notBlank)).trans (Keeps.skip ha)

theorem keeps_of_bounds (ha : BeginsToken a) {b : Nat × Option Nat}
    (h : bounds verbose text = .ok (b, rest)) : Keeps a verbose text rest := by
  obtain ⟨⟨min, rest₁⟩, hmin, h⟩ := exists_of_bind_eq_ok h
  have hkeeps := keeps_of_count ha hmin
  dsimp only at h
  split at h
  · rename_i tail
    have hcomma : Keeps a verbose text (advance verbose (',' :: tail)) :=
      hkeeps.trans (.advance ha (ha.ne (by decide)))
    split at h
    · rename_i rest₂ hrest₂
      cases h
      rw [hrest₂] at hcomma
      exact hcomma.trans (.drop (ha.ne (by decide)))
    · obtain ⟨⟨max, rest₂⟩, hmax, h⟩ := exists_of_bind_eq_ok h
      have hkeeps₂ := hcomma.trans (keeps_of_count ha hmax)
      dsimp only at h
      split at h
      · split at h
        · cases h
          exact hkeeps₂.trans (.drop (ha.ne (by decide)))
        · cases h
      · cases h
  · cases h
    exact hkeeps.trans (.drop (ha.ne (by decide)))
  · cases h

/-- A name of a group stands in front of an angle bracket. -/
theorem groupName_eq_ok {name : String} (h : groupName text = .ok (name, rest)) :
    text = name.toList ++ '>' :: rest ∧ isGroupName name.toList := by
  unfold groupName at h
  rw [List.span_eq_takeWhile_dropWhile] at h
  have hsplit := @List.takeWhile_append_dropWhile _ (fun c => decide (c ≠ '>')) text
  generalize text.takeWhile (fun c => decide (c ≠ '>')) = chars at h hsplit
  generalize text.dropWhile (fun c => decide (c ≠ '>')) = behind at h hsplit
  split at h
  · rename_i heq
    obtain ⟨rfl, rfl⟩ := Prod.mk.inj heq
    split at h
    · rename_i hname
      cases h
      rw [String.toList_ofList]
      exact ⟨hsplit.symm, hname⟩
    · cases h
  · cases h

theorem isGroupNameChar_of_mem {name : List Char} (h : isGroupName name) {c : Char}
    (hc : c ∈ name) : ∃ first, isGroupNameChar first c = true := by
  cases name with
  | nil => cases hc
  | cons d name =>
      rw [isGroupName, Bool.and_eq_true, List.all_eq_true] at h
      rcases List.mem_cons.1 hc with rfl | hc
      · exact ⟨true, h.1⟩
      · exact ⟨false, h.2 c hc⟩

theorem keeps_of_groupName (ha : BeginsToken a) {name : String}
    (h : groupName text = .ok (name, rest)) : Keeps a verbose text rest := by
  obtain ⟨rfl, hname⟩ := groupName_eq_ok h
  have hne : ∀ c ∈ name.toList ++ ['>'], c ≠ a := by
    intro c hc
    rcases List.mem_append.1 hc with hc | hc
    · rintro rfl
      obtain ⟨first, hfirst⟩ := isGroupNameChar_of_mem hname hc
      rw [ha.notInName] at hfirst
      cases hfirst
    · rw [List.mem_singleton.1 hc]
      exact ha.ne (by decide)
  have htext : name.toList ++ '>' :: rest = (name.toList ++ ['>']) ++ rest := by simp
  rw [htext]
  exact .append hne

/-- Flags end in front of a colon or a closing parenthesis. -/
theorem keeps_of_readFlags (ha : BeginsToken a) {f : FlagReading} {change : FlagChange}
    (h : readFlags f text = .ok (change, rest)) :
    ∃ c ∈ [':', ')'], ∃ rest', rest = c :: rest' ∧ Keeps a verbose text rest' := by
  induction text generalizing f with
  | nil => cases h
  | cons c text ih =>
      rw [readFlags] at h
      split at h
      · rename_i hend
        split at h
        · cases h
          have hc : c ∈ [':', ')'] := by simpa using hend
          have hinner : c ∈ innerMarks := by
            rcases hend with rfl | rfl <;> decide
          exact ⟨c, hc, text, rfl, .drop (ha.ne hinner)⟩
        · cases h
      · split at h
        · rename_i hdash
          split at h
          · subst hdash
            obtain ⟨d, hd, rest', hrest, hkeeps⟩ := ih h
            exact ⟨d, hd, rest', hrest, (Keeps.drop (ha.ne (by decide))).trans hkeeps⟩
          · cases h
        · split at h
          · cases h
          · rename_i change' hflag
            have hc : c ≠ a := by
              rintro rfl
              rw [ha.noFlag] at hflag
              cases hflag
            obtain ⟨d, hd, rest', hrest, hkeeps⟩ := ih h
            exact ⟨d, hd, rest', hrest, (Keeps.drop hc).trans hkeeps⟩

theorem keeps_of_opening (ha : BeginsToken a) {index : Nat} {o : Opening}
    (h : opening verbose index text = .ok (o, rest)) : Keeps a verbose text rest := by
  have hskip : Keeps a verbose text (skip verbose text) := .skip ha
  have hdrop : ∀ {c s}, c ∈ innerMarks → Keeps a verbose (c :: s) s :=
    fun hc => .drop (ha.ne hc)
  unfold opening at h
  generalize skip verbose text = text' at h hskip
  split at h
  case h_5 =>
    obtain ⟨⟨name, rest'⟩, hname, h⟩ := exists_of_bind_eq_ok h
    cases h
    exact (((hskip.trans (hdrop (by decide))).trans (hdrop (by decide))).trans
      (hdrop (by decide))).trans (keeps_of_groupName ha hname)
  case h_6 =>
    obtain ⟨⟨name, rest'⟩, hname, h⟩ := exists_of_bind_eq_ok h
    cases h
    exact ((hskip.trans (hdrop (by decide))).trans (hdrop (by decide))).trans
      (keeps_of_groupName ha hname)
  case h_8 =>
    obtain ⟨⟨change, rest'⟩, hflags, h⟩ := exists_of_bind_eq_ok h
    obtain ⟨c, hc, rest'', rfl, hkeeps⟩ := keeps_of_readFlags ha hflags
    have hbehind := (hskip.trans (hdrop (by decide))).trans hkeeps
    split at h
    · rename_i heq
      cases heq
      cases h
      exact hbehind
    · rename_i heq
      cases heq
      split at h
      · cases h
      · cases h
        exact hbehind
  case h_9 =>
    cases h
    exact hskip
  all_goals cases h

/-! ## Steps -/

theorem rest_of_repetition {r r' : Reading} {min : Nat} {max : Option Nat} {greedy : Bool}
    (h : r.repetition min max greedy rest = .ok r') : r'.rest = rest := by
  unfold Reading.repetition at h
  split at h
  case h_4 =>
    cases h
    rfl
  all_goals cases h

theorem keeps_of_begin (ha : BeginsToken a) {r r' : Reading} (h : r.begin text = .ok r') :
    Keeps a r.verbose text r'.rest := by
  obtain ⟨⟨o, rest⟩, ho, h⟩ := exists_of_bind_eq_ok h
  have hkeeps := keeps_of_opening ha ho
  cases o with
  | flags change =>
      cases h
      exact hkeeps
  | group kind =>
      cases kind with
      | plain change =>
          cases h
          exact hkeeps
      | capture index name =>
          cases name with
          | none =>
              cases h
              exact hkeeps
          | some n =>
              simp only at h
              split at h
              · cases h
              · cases h
                exact hkeeps

theorem rest_of_finish {r r' : Reading} (h : r.finish rest = .ok r') : r'.rest = rest := by
  unfold Reading.finish at h
  split at h
  · cases h
  · cases h
    rfl

/-- A token goes over nothing that begins another one, unless it is a class or an escape. -/
theorem keeps_of_step (ha : BeginsToken a) {r r' : Reading} {c : Char}
    (h : step r c rest = .ok r') (hclass : c ≠ '[') (hescape : c ≠ '\\') :
    Keeps a r.verbose rest r'.rest := by
  unfold step at h
  split at h
  case h_1 => exact keeps_of_begin ha h
  case h_2 =>
    rw [rest_of_finish h]
    exact .refl
  case h_3 =>
    cases h
    exact .refl
  case h_4 => exact absurd rfl hclass
  case h_5 =>
    rw [rest_of_repetition h]
    exact keeps_of_greed ha
  case h_6 =>
    rw [rest_of_repetition h]
    exact keeps_of_greed ha
  case h_7 =>
    rw [rest_of_repetition h]
    exact keeps_of_greed ha
  case h_8 =>
    obtain ⟨⟨⟨min, max⟩, rest'⟩, hbounds, h⟩ := exists_of_bind_eq_ok h
    rw [rest_of_repetition h]
    exact (((Keeps.skip ha).trans (keeps_of_bounds ha hbounds)).trans (Keeps.skip ha)).trans
      (keeps_of_greed ha)
  case h_9 => exact absurd rfl hescape
  all_goals
    cases h
    exact .refl

theorem readClass_of_step {r r' : Reading} (h : step r '[' rest = .ok r') :
    ∃ k, readClass r.verbose ('[' :: rest) = .ok (k, r'.rest) := by
  obtain ⟨⟨k, behind⟩, hread, h⟩ := exists_of_bind_eq_ok h
  cases h
  exact ⟨k, hread⟩

theorem escape_of_step {r r' : Reading} (h : step r '\\' rest = .ok r') :
    ∃ e, escape r.verbose rest = .ok (e, r'.rest) := by
  obtain ⟨⟨e, behind⟩, hread, h⟩ := exists_of_bind_eq_ok h
  cases h
  exact ⟨e, hread⟩

end

namespace Reading

variable {a : Char} {behind : List Char}

/-- What lies ahead of the reader lies behind blanks and comments, or a comment reaches over it. -/
theorem conceals_or_ahead_of_skip (ha : BeginsToken a) {r : Reading}
    (hahead : a :: behind <:+ r.rest) :
    r.Conceals (a :: behind) ∨ a :: behind <:+ skip r.verbose r.rest := by
  by_cases hover : a :: behind <:+ skip r.verbose r.rest
  · exact .inr hover
  · obtain ⟨before, hbefore⟩ := hahead
    have hnot : ¬ Clear r.verbose before := by
      intro hclear
      obtain ⟨before', hskip, -⟩ := Keeps.skip ha before behind hbefore.symm hclear
      exact hover ⟨before', hskip.symm⟩
    obtain ⟨hverbose, hcomment⟩ := Classical.not_imp.1 hnot
    exact .inl (.comment hverbose hbefore.symm (not_not.1 hcomment) hover)

/-- What lies ahead of a token lies behind it, or the token reaches over it: it is a class or an
escape, or has a comment inside. -/
theorem conceals_or_ahead_of_step (ha : BeginsToken a) {r r' : Reading} {c : Char}
    {rest : List Char} (hskip : skip r.verbose r.rest = c :: rest)
    (hstep : PathTemplate.Regex.step r c rest = .ok r') (hahead : a :: behind <:+ rest) :
    r.Conceals (a :: behind) ∨ a :: behind <:+ r'.rest := by
  by_cases hover : a :: behind <:+ r'.rest
  · exact .inr hover
  · refine .inl ?_
    by_cases hclass : c = '['
    · subst hclass
      obtain ⟨k, hread⟩ := readClass_of_step hstep
      exact .charClass hskip hahead hread hover
    · by_cases hescape : c = '\\'
      · subst hescape
        obtain ⟨e, hread⟩ := escape_of_step hstep
        exact .escape hskip hahead hread hover
      · obtain ⟨before, hbefore⟩ := hahead
        have hnot : ¬ Clear r.verbose before := by
          intro hclear
          obtain ⟨before', hrest, -⟩ :=
            keeps_of_step ha hstep hclass hescape before behind hbefore.symm hclear
          exact hover ⟨before', hrest.symm⟩
        obtain ⟨hverbose, hcomment⟩ := Classical.not_imp.1 hnot
        exact .commentInside hskip hverbose hbefore.symm (not_not.1 hcomment) hstep hover

/-- The reader comes to every place at which a token can begin, unless a class, an escape or a
comment hides it. -/
theorem comesTo_or_hides (ha : BeginsToken a) {fuel : Nat} {r : Reading} {e : Expr}
    (h : run fuel r = .ok e) (hahead : a :: behind <:+ r.rest) :
    r.ComesTo (a :: behind) ∨ r.Hides (a :: behind) := by
  induction fuel generalizing r with
  | zero => cases h
  | succ fuel ih =>
      rcases conceals_or_ahead_of_skip ha hahead with hhere | ⟨before, hskip⟩
      · exact .inr ⟨r, .refl, hhere⟩
      · cases before with
        | nil => exact .inl ⟨r, .refl, hskip.symm⟩
        | cons c before =>
            have hskip : skip r.verbose r.rest = c :: (before ++ a :: behind) := hskip.symm
            rw [run] at h
            simp only [hskip] at h
            split at h
            · cases h
            · rename_i r' hstep
              rcases conceals_or_ahead_of_step ha hskip hstep (List.suffix_append _ _) with
                hhere | hlater
              · exact .inr ⟨r, .refl, hhere⟩
              · rcases ih h hlater with ⟨r'', hreads, hcomes⟩ | ⟨r'', hreads, hconceals⟩
                · exact .inl ⟨r'', .step hskip hstep hreads, hcomes⟩
                · exact .inr ⟨r'', .step hskip hstep hreads, hconceals⟩

end Reading

end PathTemplate.Regex
