import PathTemplate.Proofs.Regex.Completeness
import PathTemplate.Proofs.Regex.Groups
import PathTemplate.Proofs.Regex.Parts

/-!
# Plain text and groups without slashes

Characters without a meaning of their own are read as themselves, and a group
of any characters but slashes is read as one part. Such parts are run over a
text exactly if the text has the characters, and texts without slashes for the
groups.
-/

namespace PathTemplate.Regex

/-- What is read for any characters but slashes. -/
def Expr.slashFree : Expr :=
  .repetition 0 none true (.charClass (.brackets true (.char ⟨'/', false⟩)))

/-- The kernel of any characters but slashes. -/
def Core.slashFree : Core :=
  .upTo 1 true (.plus true (.one (.compl (.single '/'))))

/-! ## Reading -/

/-- Characters that have a meaning of their own outside of classes. -/
def specialMarks : List Char := ['(', ')', '|', '[', '?', '*', '+', '{', '\\', '.', '^', '$']

theorem step_of_notMem {c : Char} (hc : c ∉ specialMarks) (r : Reading) (rest : List Char) :
    step r c rest = .ok (r.push (.char ⟨c, false⟩) rest) := by
  unfold step
  split
  case h_13 => rfl
  all_goals exact absurd (by decide) hc

namespace Reading

/-- A reader behind parts that it has read one after the other. -/
structure ReadsOn (r r' : Reading) (parts : List Expr) (rest : List Char) : Prop where
  rest : r'.rest = rest
  verbose : r'.verbose = false
  opened : r'.opened = r.opened
  branches : r'.level.branches = r.level.branches
  parts : r'.level.parts = parts.reverse ++ r.level.parts

theorem ReadsOn.refl {r : Reading} (hverbose : r.verbose = false) : r.ReadsOn r [] r.rest :=
  ⟨rfl, hverbose, rfl, rfl, rfl⟩

theorem ReadsOn.trans {r r' r'' : Reading} {parts parts' : List Expr} {rest rest' : List Char}
    (h : r.ReadsOn r' parts rest) (h' : r'.ReadsOn r'' parts' rest') :
    r.ReadsOn r'' (parts ++ parts') rest' where
  rest := h'.rest
  verbose := h'.verbose
  opened := h'.opened.trans h.opened
  branches := h'.branches.trans h.branches
  parts := by rw [h'.parts, h.parts, List.reverse_append, List.append_assoc]

theorem ReadsOn.push {r : Reading} (hverbose : r.verbose = false) (e : Expr) (rest : List Char) :
    r.ReadsOn (r.push e rest) [e] rest :=
  ⟨rfl, hverbose, rfl, rfl, rfl⟩

/-- Parts behind which nothing is left are the whole expression. -/
theorem ReadsOn.eq_ofParts {r r' : Reading} {parts : List Expr} (h : r.ReadsOn r' parts [])
    (hlevel : r.level = {}) {fuel : Nat} {e : Expr} (hrun : run fuel r' = .ok e) :
    e = Expr.ofParts parts := by
  have hbranches : r'.level.branches = [] := by rw [h.branches, hlevel]
  have hparts : r'.level.parts = parts.reverse := by
    rw [h.parts, hlevel]
    exact List.append_nil _
  rw [eq_close_of_run hrun h.rest, Level.close, hbranches, hparts, List.reverse_reverse]

variable {r : Reading} {fuel : Nat} {e : Expr} {rest : List Char}

/-- Without verbose flag the next token begins with the next character. -/
theorem exists_step_of_cons {c : Char} (h : run fuel r = .ok e) (hverbose : r.verbose = false)
    (hrest : r.rest = c :: rest) :
    ∃ r', PathTemplate.Regex.step r c rest = .ok r' ∧ ∃ fuel', run fuel' r' = .ok e := by
  refine exists_step_of_run h ?_
  rw [hverbose, hrest]
  rfl

theorem readsOn_chars {cs : List Char} (hcs : ∀ c ∈ cs, c ∉ specialMarks)
    (hverbose : r.verbose = false) (hrest : r.rest = cs ++ rest) (h : run fuel r = .ok e) :
    ∃ r' fuel', r.ReadsOn r' (cs.map fun c => .char ⟨c, false⟩) rest ∧ run fuel' r' = .ok e := by
  induction cs generalizing r fuel with
  | nil =>
      rw [List.nil_append] at hrest
      exact ⟨r, fuel, hrest ▸ .refl hverbose, h⟩
  | cons c cs ih =>
      obtain ⟨r', hstep, fuel', h'⟩ := exists_step_of_cons h hverbose hrest
      rw [step_of_notMem (hcs c List.mem_cons_self)] at hstep
      cases hstep
      have hpush := ReadsOn.push hverbose (.char ⟨c, false⟩) (cs ++ rest)
      obtain ⟨r'', fuel'', hreads, h''⟩ :=
        ih (fun d hd => hcs d (List.mem_cons_of_mem _ hd)) hpush.verbose hpush.rest h'
      exact ⟨r'', fuel'', hpush.trans hreads, h''⟩

/-- A named group of any characters but slashes is read as one part. -/
theorem readsOn_slashFree {name : List Char} (hname : '>' ∉ name) (hverbose : r.verbose = false)
    (hrest : r.rest = '(' :: '?' :: 'P' :: '<' ::
      (name ++ '>' :: '[' :: '^' :: '/' :: ']' :: '*' :: ')' :: rest))
    (h : run fuel r = .ok e) :
    ∃ r' fuel', r.ReadsOn r'
      [.group (.capture (r.captures + 1) (some (String.ofList name))) .slashFree] rest ∧
      run fuel' r' = .ok e := by
  obtain ⟨r₁, hstep₁, fuel₁, h₁⟩ := exists_step_of_cons h hverbose hrest
  have hbegin := eq_inGroup_of_begin hname hstep₁
  subst hbegin
  have hverbose₁ : (r.inGroup (String.ofList name)
      ('[' :: '^' :: '/' :: ']' :: '*' :: ')' :: rest)).verbose = false := hverbose
  obtain ⟨r₂, hstep₂, fuel₂, h₂⟩ := exists_step_of_cons h₁ hverbose₁ rfl
  obtain ⟨⟨k, behind⟩, hclass, hstep₂⟩ := exists_of_bind_eq_ok hstep₂
  rw [hverbose₁] at hclass
  cases hclass
  cases hstep₂
  obtain ⟨r₃, hstep₃, fuel₃, h₃⟩ := exists_step_of_cons h₂ hverbose rfl
  cases hstep₃
  obtain ⟨r₄, hstep₄, fuel₄, h₄⟩ := exists_step_of_cons h₃ hverbose rfl
  cases hstep₄
  refine ⟨_, fuel₄, ?_, h₄⟩
  exact ⟨rfl, hverbose, rfl, rfl, rfl⟩

end Reading

/-! ## Running -/

/-- The classes whose characters an expression goes over. -/
def Core.classes : Core → List CharClass
  | empty => []
  | one k => [k]
  | assert _ => []
  | cat first second => first.classes ++ second.classes
  | alt first second => first.classes ++ second.classes
  | times _ body => body.classes
  | upTo _ _ body => body.classes
  | plus _ body => body.classes
  | capture _ body => body.classes

/-- Every character that a run goes over belongs to a class of the expression. -/
theorem exists_class_of_runs {text : Array Char} {e : Core} {p q : Nat} {tr tr' : Trail}
    (h : Runs text e p tr q tr') {i : Nat} (hp : p ≤ i) (hq : i < q) :
    ∃ c, text[i]? = some c ∧ ∃ k ∈ e.classes, k.has c = true := by
  induction h with
  | empty | assert _ | timesZero | upToStop => omega
  | @one k c p tr hc hk =>
      have hi : i = p := by omega
      exact ⟨c, hi ▸ hc, k, List.mem_singleton_self k, hk⟩
  | @cat first second p m q tr tr₁ tr₂ _ _ ih₁ ih₂ =>
      by_cases hm : i < m
      · obtain ⟨c, hc, k, hmem, hk⟩ := ih₁ hp hm
        exact ⟨c, hc, k, List.mem_append_left _ hmem, hk⟩
      · obtain ⟨c, hc, k, hmem, hk⟩ := ih₂ (Nat.le_of_not_lt hm) hq
        exact ⟨c, hc, k, List.mem_append_right _ hmem, hk⟩
  | altFirst _ ih =>
      obtain ⟨c, hc, k, hmem, hk⟩ := ih hp hq
      exact ⟨c, hc, k, List.mem_append_left _ hmem, hk⟩
  | altSecond _ ih =>
      obtain ⟨c, hc, k, hmem, hk⟩ := ih hp hq
      exact ⟨c, hc, k, List.mem_append_right _ hmem, hk⟩
  | @timesSucc _ _ p m q _ _ _ _ _ ih₁ ih₂ | @upToMore _ _ _ p m q _ _ _ _ _ ih₁ ih₂
  | @plusMore _ _ p m q _ _ _ _ _ ih₁ ih₂ =>
      by_cases hm : i < m
      · exact ih₁ hp hm
      · exact ih₂ (Nat.le_of_not_lt hm) hq
  | plusLast _ ih | capture _ ih => exact ih hp hq

/-- What is run for any characters but slashes has no slash. -/
theorem slash_notMem_of_runs {text : Array Char} {p q : Nat} {tr tr' : Trail}
    (h : Runs text Core.slashFree p tr q tr') : '/' ∉ (text.extract p q).toList := by
  intro hmem
  obtain ⟨k, hk, hchar⟩ := Array.mem_iff_getElem.1 (Array.mem_toList_iff.1 hmem)
  rw [Array.getElem_extract] at hchar
  rw [Array.size_extract] at hk
  obtain ⟨c, hc, k', hmem', hhas⟩ :=
    exists_class_of_runs h (Nat.le_add_right p k) (by omega : p + k < q)
  rw [Array.getElem?_eq_getElem (by omega), Option.some.injEq, hchar] at hc
  subst hc
  rw [List.mem_singleton.1 hmem'] at hhas
  revert hhas
  decide

theorem has_compl_slash {c : Char} (hc : c ≠ '/') :
    (CharClass.compl (.single '/')).has c = true := by
  rw [CharClass.has, CharClass.contains, Bool.not_eq_true', ← Bool.not_eq_true]
  exact fun h => hc ((CharClass.has_single '/' c).1 h)

theorem runs_plus_slashFree {text : Array Char} {p : Nat} {tr : Trail} {c : Char}
    {chars behind : List Char} (hchars : '/' ∉ c :: chars)
    (htext : text.toList.drop p = c :: (chars ++ behind)) :
    Runs text (.plus true (.one (.compl (.single '/')))) p tr (p + (c :: chars).length) tr := by
  induction chars generalizing p c with
  | nil =>
      have hc : c ≠ '/' := fun h => hchars (h ▸ List.mem_cons_self)
      exact .plusLast (.one (getElem?_of_drop_eq_cons htext).1 (has_compl_slash hc))
  | cons d chars ih =>
      have hc : c ≠ '/' := fun h => hchars (h ▸ List.mem_cons_self)
      obtain ⟨hhead, hbehind⟩ := getElem?_of_drop_eq_cons htext
      have hmore := ih (fun hmem => hchars (List.mem_cons_of_mem _ hmem)) hbehind
      rw [List.length_cons, Nat.add_comm _ 1, ← Nat.add_assoc]
      exact .plusMore (.one hhead (has_compl_slash hc)) hmore

/-- Any characters but slashes can be run. -/
theorem runs_slashFree {text : Array Char} {p : Nat} {tr : Trail} {chars behind : List Char}
    (hchars : '/' ∉ chars) (htext : text.toList.drop p = chars ++ behind) :
    Runs text Core.slashFree p tr (p + chars.length) tr := by
  cases chars with
  | nil => exact .upToStop
  | cons c chars => exact .upToMore (runs_plus_slashFree hchars htext) .upToStop

end PathTemplate.Regex
