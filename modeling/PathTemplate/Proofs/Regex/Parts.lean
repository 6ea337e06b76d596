import PathTemplate.Proofs.Regex.Numbering
import PathTemplate.Proofs.Regex.Runs
import PathTemplate.Regex.Basic

/-!
# Parts of a match

A match of a concatenation goes over the text part after part. A run remembers
places for the groups of its own expression only, so what a group has matched
is still known when the parts behind it have been run.
-/

namespace PathTemplate.Regex

/-! ## Groups of the kernel -/

namespace Core

/-- The numbers of the groups that capture. -/
def groups : Core → List Nat
  | empty => []
  | one _ => []
  | assert _ => []
  | cat first second => first.groups ++ second.groups
  | alt first second => first.groups ++ second.groups
  | times _ body => body.groups
  | upTo _ _ body => body.groups
  | plus _ body => body.groups
  | capture index body => index :: body.groups

theorem groups_catAll (es : List Core) : (catAll es).groups = es.flatMap groups := by
  match es with
  | [] => rfl
  | [e] => rw [catAll, List.flatMap_singleton]
  | e :: e' :: rest =>
      have ih := groups_catAll (e' :: rest)
      rw [List.flatMap_cons, ← ih]
      rfl

theorem groups_altAll (es : List Core) : (altAll es).groups = es.flatMap groups := by
  match es with
  | [] => rfl
  | [e] => rw [altAll, List.flatMap_singleton]
  | e :: e' :: rest =>
      have ih := groups_altAll (e' :: rest)
      rw [List.flatMap_cons, ← ih]
      rfl

theorem groups_repetition (min : Nat) (max : Option Nat) (greedy : Bool) (body : Core) :
    (repetition min max greedy body).groups ⊆ body.groups := by
  intro i hi
  dsimp only [repetition] at hi
  generalize (if body.isBlank then Min.min min 1 else min) = least at hi
  generalize (if body.isBlank then some (Min.min (max.getD 1) 1) else max) = most at hi
  split at hi
  · exact hi
  · exact hi
  · simpa [groups] using hi
  · exact hi
  · split at hi
    · exact hi
    · simpa [groups] using hi

end Core

theorem groups_of_charMeaning {f : Flags} {c : WrittenChar} {core : Core}
    (h : f.charMeaning c = .ok core) : core.groups = [] := by
  unfold Flags.charMeaning at h
  split at h
  · cases h
  · cases h
    rfl

theorem groups_of_dotMeaning {f : Flags} {core : Core} (h : f.dotMeaning = .ok core) :
    core.groups = [] := by
  unfold Flags.dotMeaning at h
  split at h
  · cases h
  · split at h
    · cases h
      rfl
    · split at h
      · cases h
        rfl
      · cases h
        rfl

mutual

/-- The groups of the meaning are groups of the expression. -/
theorem groups_of_meaning {e : Expr} {f f' : Flags} {core : Core}
    (h : meaning f e = .ok (core, f')) : core.groups ⊆ e.captures.map Prod.fst := by
  match e with
  | .empty | .flags _ | .place _ =>
      cases h
      exact List.nil_subset _
  | .char c =>
      obtain ⟨inner, hc, h⟩ := exists_of_bind_eq_ok h
      cases h
      rw [groups_of_charMeaning hc]
      exact List.nil_subset _
  | .dot =>
      obtain ⟨inner, hdot, h⟩ := exists_of_bind_eq_ok h
      cases h
      rw [groups_of_dotMeaning hdot]
      exact List.nil_subset _
  | .charClass k =>
      obtain ⟨inner, hclass, h⟩ := exists_of_bind_eq_ok h
      cases h
      exact List.nil_subset _
  | .repetition min max greedy body =>
      obtain ⟨⟨inner, f₁⟩, hbody, h⟩ := exists_of_bind_eq_ok h
      cases h
      have ih : inner.groups ⊆ body.captures.map Prod.fst := groups_of_meaning hbody
      exact List.Subset.trans (Core.groups_repetition min max _ inner) ih
  | .group (.capture index name) body =>
      obtain ⟨⟨inner, f₁⟩, hbody, h⟩ := exists_of_bind_eq_ok h
      cases h
      have ih : inner.groups ⊆ body.captures.map Prod.fst := groups_of_meaning hbody
      exact List.cons_subset_cons index ih
  | .group (.plain change) body =>
      obtain ⟨⟨inner, f₁⟩, hbody, h⟩ := exists_of_bind_eq_ok h
      cases h
      have ih : core.groups ⊆ body.captures.map Prod.fst := groups_of_meaning hbody
      exact ih
  | .alternation branches =>
      obtain ⟨⟨cores, f₁⟩, hbranches, h⟩ := exists_of_bind_eq_ok h
      cases h
      rw [Core.groups_altAll]
      exact groups_of_meanings hbranches
  | .concat parts =>
      obtain ⟨⟨cores, f₁⟩, hparts, h⟩ := exists_of_bind_eq_ok h
      cases h
      rw [Core.groups_catAll]
      exact groups_of_meanings hparts

theorem groups_of_meanings {es : List Expr} {f f' : Flags} {cores : List Core}
    (h : meanings f es = .ok (cores, f')) :
    cores.flatMap Core.groups ⊆ (Expr.capturesAll es).map Prod.fst := by
  match es with
  | [] =>
      cases h
      exact List.nil_subset _
  | e :: rest =>
      obtain ⟨⟨core, f₁⟩, he, h⟩ := exists_of_bind_eq_ok h
      obtain ⟨⟨cores', f₂⟩, hrest, h⟩ := exists_of_bind_eq_ok h
      cases h
      rw [List.flatMap_cons, Expr.capturesAll, List.map_append]
      exact List.append_subset.2
        ⟨List.Subset.trans (groups_of_meaning he) (List.subset_append_left _ _),
          List.Subset.trans (groups_of_meanings hrest) (List.subset_append_right _ _)⟩

end

/-! ## What a run remembers -/

theorem startSlot_div_two (index : Nat) : startSlot index / 2 = index := by
  rw [startSlot]
  omega

theorem endSlot_div_two (index : Nat) : endSlot index / 2 = index := by
  rw [endSlot]
  omega

theorem lookup_mark {slot slot' : Nat} (h : slot ≠ slot') (p : Nat) (tr : Trail) :
    List.lookup slot ((slot', p) :: tr) = List.lookup slot tr := by
  rw [List.lookup_cons, beq_eq_false_iff_ne.2 h]

/-- A run remembers no place for a group outside its expression. -/
theorem lookup_of_runs {text : Array Char} {e : Core} {p q : Nat} {tr tr' : Trail}
    (h : Runs text e p tr q tr') (slot : Nat) (hs : slot / 2 ∉ e.groups) :
    tr'.lookup slot = tr.lookup slot := by
  induction h with
  | empty | one _ _ | assert _ | timesZero | upToStop => rfl
  | cat _ _ ih₁ ih₂ =>
      rw [Core.groups, List.mem_append, not_or] at hs
      rw [ih₂ hs.2, ih₁ hs.1]
  | altFirst _ ih =>
      rw [Core.groups, List.mem_append, not_or] at hs
      exact ih hs.1
  | altSecond _ ih =>
      rw [Core.groups, List.mem_append, not_or] at hs
      exact ih hs.2
  | timesSucc _ _ ih₁ ih₂ | upToMore _ _ ih₁ ih₂ | plusMore _ _ ih₁ ih₂ =>
      rw [ih₂ hs, ih₁ hs]
  | plusLast _ ih => exact ih hs
  | @capture index body p q tr tr' _ ih =>
      rw [Core.groups, List.mem_cons, not_or] at hs
      have hstart : slot ≠ startSlot index := by
        rintro rfl
        exact hs.1 (startSlot_div_two index)
      have hend : slot ≠ endSlot index := by
        rintro rfl
        exact hs.1 (endSlot_div_two index)
      rw [lookup_mark hend, ih hs.2, lookup_mark hstart]

theorem le_of_runs {text : Array Char} {e : Core} {p q : Nat} {tr tr' : Trail}
    (h : Runs text e p tr q tr') : p ≤ q := by
  induction h with
  | empty | assert _ | timesZero | upToStop => exact Nat.le_refl _
  | one _ _ => exact Nat.le_succ _
  | altFirst _ ih | altSecond _ ih | plusLast _ ih | capture _ ih => exact ih
  | cat _ _ ih₁ ih₂ | timesSucc _ _ ih₁ ih₂ | upToMore _ _ ih₁ ih₂ | plusMore _ _ ih₁ ih₂ =>
      exact Nat.le_trans ih₁ ih₂

theorem le_size_of_runs {text : Array Char} {e : Core} {p q : Nat} {tr tr' : Trail}
    (h : Runs text e p tr q tr') (hp : p ≤ text.size) : q ≤ text.size := by
  induction h with
  | empty | assert _ | timesZero | upToStop => exact hp
  | one hc _ => exact (Array.getElem?_eq_some_iff.1 hc).1
  | altFirst _ ih | altSecond _ ih | plusLast _ ih | capture _ ih => exact ih hp
  | cat _ _ ih₁ ih₂ | timesSucc _ _ ih₁ ih₂ | upToMore _ _ ih₁ ih₂ | plusMore _ _ ih₁ ih₂ =>
      exact ih₂ (ih₁ hp)

/-- A group that has been run knows its span, if it does not contain itself. -/
theorem span?_of_capture {text : Array Char} {index p q : Nat} {body : Core} {tr tr' : Trail}
    (h : Runs text (.capture index body) p tr q tr') (hi : index ∉ body.groups) :
    Match.span? ⟨text, tr'⟩ index = some (p, q) := by
  cases h with
  | capture hbody =>
      have hstart := lookup_of_runs hbody (startSlot index) (by rwa [startSlot_div_two])
      have hne : startSlot index ≠ endSlot index := by
        rw [startSlot, endSlot]
        omega
      rw [Match.span?, lookup_mark hne, hstart, List.lookup_cons_self, List.lookup_cons_self]
      rfl

/-- The end of the whole match is the end of no other group. -/
theorem span?_endSlot_zero {text : Array Char} {index q : Nat} {tr : Trail} (h : 0 < index) :
    Match.span? ⟨text, (endSlot 0, q) :: tr⟩ index = Match.span? ⟨text, tr⟩ index := by
  have hstart : startSlot index ≠ endSlot 0 := by
    rw [startSlot, endSlot]
    omega
  have hend : endSlot index ≠ endSlot 0 := by
    rw [endSlot, endSlot]
    omega
  rw [Match.span?, lookup_mark hstart, lookup_mark hend, Match.span?]

theorem getElem?_of_drop_eq_cons {text : Array Char} {p : Nat} {c : Char} {behind : List Char}
    (h : text.toList.drop p = c :: behind) :
    text[p]? = some c ∧ text.toList.drop (p + 1) = behind := by
  refine ⟨?_, ?_⟩
  · rw [← Array.getElem?_toList, ← List.head?_drop, h]
    rfl
  · rw [List.drop_add_one_eq_tail_drop, h]
    rfl

/-- Expressions are run one after the other. -/
inductive RunsAll (text : Array Char) : List Core → Nat → Trail → Nat → Trail → Prop
  | nil {p : Nat} {tr : Trail} : RunsAll text [] p tr p tr
  | cons {e : Core} {rest : List Core} {p q s : Nat} {tr tr₁ tr₂ : Trail}
      (h : Runs text e p tr q tr₁) (hrest : RunsAll text rest q tr₁ s tr₂) :
      RunsAll text (e :: rest) p tr s tr₂

/-- A concatenation is run part after part. -/
theorem runsAll_of_catAll {text : Array Char} {es : List Core} {p q : Nat} {tr tr' : Trail}
    (h : Runs text (.catAll es) p tr q tr') : RunsAll text es p tr q tr' := by
  match es with
  | [] =>
      cases h
      exact .nil
  | [e] => exact .cons h .nil
  | e :: e' :: rest =>
      cases h with
      | cat h₁ h₂ => exact .cons h₁ (runsAll_of_catAll h₂)

/-- Parts that are run one after the other are a run of the concatenation. -/
theorem runs_catAll {text : Array Char} {es : List Core} {p q : Nat} {tr tr' : Trail}
    (h : RunsAll text es p tr q tr') : Runs text (.catAll es) p tr q tr' := by
  induction h with
  | nil => exact .empty
  | @cons e rest p q s tr tr₁ tr₂ h hrest ih =>
      cases rest with
      | nil =>
          cases hrest
          exact h
      | cons e' rest => exact .cat h ih

theorem lookup_of_runsAll {text : Array Char} {es : List Core} {p q : Nat} {tr tr' : Trail}
    (h : RunsAll text es p tr q tr') (slot : Nat) (hs : slot / 2 ∉ es.flatMap Core.groups) :
    tr'.lookup slot = tr.lookup slot := by
  induction h with
  | nil => rfl
  | cons h _ ih =>
      rw [List.flatMap_cons, List.mem_append, not_or] at hs
      rw [ih hs.2, lookup_of_runs h slot hs.1]

/-! ## Parts as they are written -/

/-- Parts of an expression are run one after the other, and no flags hold before the first. -/
def RunsParts (text : Array Char) (parts : List Expr) (p : Nat) (tr : Trail) (q : Nat)
    (tr' : Trail) : Prop :=
  ∃ cores f, meanings {} parts = .ok (cores, f) ∧ RunsAll text cores p tr q tr'

namespace RunsParts

variable {text : Array Char} {rest : List Expr} {p q : Nat} {tr tr' : Trail}

/-- A part that leaves the flags alone is run before the others. -/
theorem cons {e : Expr} (h : RunsParts text (e :: rest) p tr q tr')
    (he : ∀ core f, meaning {} e = .ok (core, f) → f = {}) :
    ∃ core s tr₁, meaning {} e = .ok (core, {}) ∧ Runs text core p tr s tr₁ ∧
      RunsParts text rest s tr₁ q tr' := by
  obtain ⟨cores, f, hm, hruns⟩ := h
  obtain ⟨⟨core, f₁⟩, hcore, hm⟩ := exists_of_bind_eq_ok hm
  obtain ⟨⟨cores', f₂⟩, hrest, hm⟩ := exists_of_bind_eq_ok hm
  cases hm
  have hf := he core f₁ hcore
  subst hf
  cases hruns with
  | cons hrun hruns => exact ⟨core, _, _, hcore, hrun, cores', _, hrest, hruns⟩

theorem nil : RunsParts text [] p tr p tr :=
  ⟨[], {}, rfl, .nil⟩

/-- A part that leaves the flags alone can be put in front of others. -/
theorem of_runs {e : Expr} {core : Core} {s : Nat} {tr₁ : Trail}
    (hm : meaning {} e = .ok (core, {})) (h : Runs text core p tr s tr₁)
    (hrest : RunsParts text rest s tr₁ q tr') :
    RunsParts text (e :: rest) p tr q tr' := by
  obtain ⟨cores, f, hcores, hruns⟩ := hrest
  refine ⟨core :: cores, f, ?_, .cons h hruns⟩
  rw [meanings, hm]
  simp only [bind, Except.bind, hcores]
  rfl

/-- A plain character is the next one of the text. -/
theorem char {c : Char} (h : RunsParts text (.char ⟨c, false⟩ :: rest) p tr q tr') :
    text[p]? = some c ∧ RunsParts text rest (p + 1) tr q tr' := by
  obtain ⟨core, s, tr₁, hcore, hrun, hrest⟩ := h.cons (fun core f hm => by cases hm; rfl)
  cases hcore
  cases hrun with
  | one hc hk =>
      have heq := (CharClass.has_single c _).1 hk
      subst heq
      exact ⟨hc, hrest⟩

/-- A place is not gone over. -/
theorem place {a : Place} (h : RunsParts text (.place a :: rest) p tr q tr') :
    (Flags.placeMeaning {} a).holds (before? text p) text[p]? = true ∧
      RunsParts text rest p tr q tr' := by
  obtain ⟨core, s, tr₁, hcore, hrun, hrest⟩ := h.cons (fun core f hm => by cases hm; rfl)
  cases hcore
  cases hrun with
  | assert ha => exact ⟨ha, hrest⟩

/-- Plain characters are the next ones of the text. -/
theorem chars {cs : List Char}
    (h : RunsParts text (cs.map (fun c => .char ⟨c, false⟩) ++ rest) p tr q tr') :
    text.toList.drop p = cs ++ text.toList.drop (p + cs.length) ∧
      RunsParts text rest (p + cs.length) tr q tr' := by
  induction cs generalizing p with
  | nil => exact ⟨rfl, h⟩
  | cons c cs ih =>
      obtain ⟨hc, hrest⟩ := char h
      obtain ⟨hdrop, hrest⟩ := ih hrest
      rw [List.length_cons, Nat.add_comm cs.length, ← Nat.add_assoc, List.cons_append, ← hdrop]
      obtain ⟨hp, hc⟩ := Array.getElem?_eq_some_iff.1 hc
      refine ⟨?_, hrest⟩
      rw [List.drop_eq_getElem_cons (by simpa using hp), Array.getElem_toList, hc]

/-- Plain characters that are the next ones of the text can be put in front of parts. -/
theorem of_chars {cs behind : List Char} (htext : text.toList.drop p = cs ++ behind)
    (hrest : RunsParts text rest (p + cs.length) tr q tr') :
    RunsParts text (cs.map (fun c => .char ⟨c, false⟩) ++ rest) p tr q tr' := by
  induction cs generalizing p with
  | nil => exact hrest
  | cons c cs ih =>
      obtain ⟨hc, hbehind⟩ := getElem?_of_drop_eq_cons htext
      rw [List.length_cons, Nat.add_comm cs.length, ← Nat.add_assoc] at hrest
      have hone : Runs text (.one (.single c)) p tr (p + 1) tr :=
        .one hc ((CharClass.has_single c c).2 rfl)
      exact of_runs rfl hone (ih hbehind hrest)

/-- The start of a line is the start of the text, as lines are not told apart. -/
theorem lineStart (h : RunsParts text (.place .lineStart :: rest) p tr q tr')
    (hp : p ≤ text.size) : p = 0 ∧ RunsParts text rest p tr q tr' := by
  obtain ⟨hstart, hrest⟩ := h.place
  refine ⟨?_, hrest⟩
  by_contra hne
  have hlt : p - 1 < text.size := by omega
  simp [Flags.placeMeaning, Assertion.holds, before?, hne, hlt] at hstart

/-- The end of a line is the end of the text. -/
theorem lineEnd (h : RunsParts text (.place .lineEnd :: rest) p tr q tr') :
    text.toList.drop p = [] ∧ RunsParts text rest p tr q tr' := by
  obtain ⟨hend, hrest⟩ := h.place
  refine ⟨?_, hrest⟩
  simpa [Flags.placeMeaning, Assertion.holds] using hend

theorem lookup (h : RunsParts text rest p tr q tr') (slot : Nat)
    (hs : slot / 2 ∉ (Expr.capturesAll rest).map Prod.fst) : tr'.lookup slot = tr.lookup slot := by
  obtain ⟨cores, f, hm, hruns⟩ := h
  exact lookup_of_runsAll hruns slot fun hmem => hs (groups_of_meanings hm hmem)

/-- What a group does to the flags ends with it. -/
theorem flags_of_group {index : Nat} {name : Option String} {body : Expr} {core : Core} {f : Flags}
    (h : meaning {} (.group (.capture index name) body) = .ok (core, f)) : f = {} := by
  obtain ⟨_, -, h⟩ := exists_of_bind_eq_ok h
  cases h
  rfl

/-- A group runs its body over its span, which is still known behind the other parts. -/
theorem group {index : Nat} {name : Option String} {body : Expr}
    (h : RunsParts text (.group (.capture index name) body :: rest) p tr q tr')
    (hbody : index ∉ body.captures.map Prod.fst)
    (hrest : index ∉ (Expr.capturesAll rest).map Prod.fst) :
    ∃ s tr₁, text.toList.drop p = (text.extract p s).toList ++ text.toList.drop s ∧
      Match.span? ⟨text, tr'⟩ index = some (p, s) ∧
      (∃ inner f tr₂ tr₃, meaning {} body = .ok (inner, f) ∧ Runs text inner p tr₂ s tr₃) ∧
      RunsParts text rest s tr₁ q tr' := by
  obtain ⟨core, s, tr₁, hcore, hrun, hparts⟩ := h.cons fun _ _ hm => flags_of_group hm
  obtain ⟨⟨inner, f⟩, hinner, hcore⟩ := exists_of_bind_eq_ok hcore
  cases hcore
  have hspan := span?_of_capture hrun fun hmem => hbody (groups_of_meaning hinner hmem)
  have hdrop : text.toList.drop p = (text.extract p s).toList ++ text.toList.drop s := by
    rw [Array.toList_extract, List.extract_eq_take_drop]
    calc
      text.toList.drop p =
          (text.toList.drop p).take (s - p) ++ (text.toList.drop p).drop (s - p) :=
        (List.take_append_drop _ _).symm
      _ = (text.toList.drop p).take (s - p) ++ text.toList.drop s := by
        rw [List.drop_drop, Nat.add_sub_cancel' (le_of_runs hrun)]
  refine ⟨s, tr₁, hdrop, ?_, ?_, hparts⟩
  · rw [← hspan, Match.span?, Match.span?, hparts.lookup _ (by rwa [startSlot_div_two]),
      hparts.lookup _ (by rwa [endSlot_div_two])]
  · cases hrun with
    | capture hrun => exact ⟨inner, f, _, _, hinner, hrun⟩

/-- Every group among parts that leave the flags alone knows its span at the end, over which its
body was run. -/
theorem exists_run_of_mem {parts : List Expr} (h : RunsParts text parts p tr q tr')
    (hflags : ∀ e ∈ parts, ∀ core f, meaning {} e = .ok (core, f) → f = {})
    (hnumbers : ((Expr.capturesAll parts).map Prod.fst).Nodup) {index : Nat} {name : Option String}
    {body : Expr} (hmem : .group (.capture index name) body ∈ parts) :
    ∃ first last, Match.span? ⟨text, tr'⟩ index = some (first, last) ∧
      ∃ inner f tr₂ tr₃, meaning {} body = .ok (inner, f) ∧ Runs text inner first tr₂ last tr₃ := by
  induction parts generalizing p tr with
  | nil => cases hmem
  | cons e rest ih =>
      rw [Expr.capturesAll, List.map_append, List.nodup_append] at hnumbers
      rcases List.mem_cons.1 hmem with rfl | hmem
      · have hown : index ∈ (Expr.captures (.group (.capture index name) body)).map Prod.fst := by
          rw [Expr.captures]
          exact List.mem_cons_self
        have hbody : index ∉ body.captures.map Prod.fst := by
          have hnodup := hnumbers.1
          rw [Expr.captures] at hnodup
          exact (List.nodup_cons.1 hnodup).1
        have hrest : index ∉ (Expr.capturesAll rest).map Prod.fst :=
          fun hi => hnumbers.2.2 index hown index hi rfl
        obtain ⟨last, _, -, hspan, hinner, -⟩ := group h hbody hrest
        exact ⟨p, last, hspan, hinner⟩
      · obtain ⟨core, s, tr₁, -, -, hparts⟩ := h.cons (hflags e List.mem_cons_self)
        exact ih hparts (fun e' he' => hflags e' (List.mem_cons_of_mem _ he')) hnumbers.2.1 hmem

end RunsParts

end PathTemplate.Regex

namespace PathTemplate.Regex

/-- A match is a run of the whole expression, and behind it the match ends. -/
theorem runs_of_find? {r : Regex} {path : String} {m : Match} (h : r.find? path = some m) :
    ∃ p ≤ path.toList.toArray.size, ∃ q tr, m = ⟨path.toList.toArray, (endSlot 0, q) :: tr⟩ ∧
      Runs path.toList.toArray r.core p [(startSlot 0, p)] q tr := by
  obtain ⟨out, hsearch, rfl⟩ := Option.map_eq_some_iff.1 h
  rw [r.program_eq] at hsearch
  obtain ⟨p, hp, q, hrun⟩ := runs_of_search hsearch
  cases hrun with
  | capture hrun => exact ⟨p, hp, q, _, rfl, hrun⟩

/-- The parts of a concatenation are run in a match, and behind them it ends. -/
theorem runsParts_of_find? {r : Regex} {parts : List Expr} {f : Flags} {path : String} {m : Match}
    (hm : meaning {} (.concat parts) = .ok (r.core, f)) (h : r.find? path = some m) :
    ∃ p ≤ path.toList.toArray.size, ∃ q tr, m = ⟨path.toList.toArray, (endSlot 0, q) :: tr⟩ ∧
      RunsParts path.toList.toArray parts p [(startSlot 0, p)] q tr := by
  obtain ⟨⟨cores, f'⟩, hparts, hm⟩ := exists_of_bind_eq_ok hm
  have hcore : Core.catAll cores = r.core := congrArg Prod.fst (Except.ok.inj hm)
  obtain ⟨p, hp, q, tr, rfl, hrun⟩ := runs_of_find? h
  rw [← hcore] at hrun
  exact ⟨p, hp, q, tr, rfl, cores, f', hparts, runsAll_of_catAll hrun⟩

theorem lookup_of_mem {α β : Type} [DecidableEq α] {key : α} {value : β} {l : List (α × β)}
    (hn : (l.map Prod.fst).Nodup) (h : (key, value) ∈ l) : l.lookup key = some value := by
  obtain ⟨l₁, l₂, rfl⟩ := List.append_of_mem h
  refine List.lookup_eq_some_iff.2 ⟨l₁, l₂, rfl, fun e he => ?_⟩
  rw [List.map_append, List.nodup_append] at hn
  have hne := hn.2.2 e.1 (List.mem_map_of_mem he) key List.mem_cons_self
  exact bne_iff_ne.2 hne.symm

/-- The name of a group that is told apart from the others leads to its number. -/
theorem groupNumber?_of_mem {r : Regex} {e : Expr} {index : Nat} {name : String}
    (hnames : r.names = e.groupNames) (hnumbered : WellNumbered e.captures)
    (h : (index, some name) ∈ e.captures) : r.groupNumber? name = some index := by
  have hkeys : (e.groupNames.map Prod.fst).Nodup := by
    have heq : e.groupNames.map Prod.fst = e.captures.filterMap Prod.snd := by
      rw [e.groupNames_eq, List.map_filterMap]
      refine List.filterMap_congr fun g _ => ?_
      rw [Expr.named?, Option.map_map]
      exact Option.map_id'
    rw [heq]
    exact hnumbered.names
  rw [groupNumber?, hnames]
  refine lookup_of_mem hkeys ?_
  rw [e.groupNames_eq]
  exact List.mem_filterMap.2 ⟨(index, some name), h, rfl⟩

/-- A named group has the text of its span. -/
theorem named?_of_span? {r : Regex} {m : Match} {index p q : Nat} {name : String}
    (hnumber : r.groupNumber? name = some index) (hspan : m.span? index = some (p, q)) :
    r.named? m name = some (String.ofList (m.text.extract p q).toList) := by
  rw [named?, hnumber, Option.bind_some, Match.group?, hspan]
  rfl

end PathTemplate.Regex
