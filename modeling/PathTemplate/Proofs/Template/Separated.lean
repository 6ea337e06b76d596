import PathTemplate.Proofs.Regex.SlashFree
import PathTemplate.Proofs.Template.Spelling

/-!
# Templates separated by slashes

In these templates literals are plain text, placeholders have no constraint, and
a slash or nothing stands behind each of them. A value without slashes then ends
where the next slash begins, so a path is filled in one way only, and the
expression of the template matches exactly the paths that can be filled.
-/

namespace PathTemplate

namespace Segment

open Regex (Expr RunsParts)

/-! ## One way to be filled -/

/-- No value has a slash. -/
def SlashFree (values : List (String × String)) : Prop :=
  ∀ e ∈ values, '/' ∉ e.2.toList

/-- A slash or nothing stands at the front of segments. -/
def SlashAhead : List Segment → Prop
  | [] => True
  | literal text :: _ => text.toList.head? = some '/'
  | placeholder _ _ :: _ => False

/-- Literals are plain text, and placeholders have no constraint and a slash or nothing behind
them. -/
inductive SlashSeparated : List Segment → Prop
  | nil : SlashSeparated []
  | literal {rest : List Segment} (text : String)
      (hplain : ∀ c ∈ text.toList, c ∉ Regex.specialMarks ∧ c ≠ '}') (h : SlashSeparated rest) :
      SlashSeparated (literal text :: rest)
  | placeholder {rest : List Segment} (name : String) (hahead : SlashAhead rest)
      (h : SlashSeparated rest) : SlashSeparated (placeholder name none :: rest)

theorem SlashSeparated.notMem_braces {segments : List Segment} (h : SlashSeparated segments) :
    ∀ text, Segment.literal text ∈ segments → '{' ∉ text.toList ∧ '}' ∉ text.toList := by
  induction h with
  | nil =>
      intro text ht
      cases ht
  | literal text hplain _ ih =>
      intro t ht
      rcases List.mem_cons.1 ht with heq | ht
      · cases heq
        exact ⟨fun hm => (hplain _ hm).1 (by decide), fun hm => (hplain _ hm).2 rfl⟩
      · exact ih t ht
  | placeholder name _ _ ih =>
      intro t ht
      rcases List.mem_cons.1 ht with heq | ht
      · cases heq
      · exact ih t ht

/-- A text that is filled behind a placeholder is empty or begins with a slash. -/
theorem head?_of_slashAhead {values : List (String × String)} {segments : List Segment}
    {chars : List Char} (hahead : SlashAhead segments) (h : FilledWith values segments chars) :
    ∀ c ∈ chars.head?, c = '/' := by
  cases h with
  | nil =>
      intro c hc
      cases hc
  | literal text h =>
      intro c hc
      have hhead : text.toList.head? = some '/' := hahead
      rw [List.head?_append, hhead, Option.some_or] at hc
      exact (Option.some.inj hc).symm
  | placeholder name constraint value h => exact hahead.elim

theorem eq_nil_of_slash {v more behind : List Char} (hv : '/' ∉ v ++ more)
    (hahead : ∀ c ∈ (more ++ behind).head?, c = '/') : more = [] := by
  cases more with
  | nil => rfl
  | cons c more =>
      obtain rfl : c = '/' := hahead c rfl
      exact absurd (List.mem_append_right v List.mem_cons_self) hv

/-- Texts without slashes in front of texts that are empty or begin with a slash are equal if the
whole texts are. -/
theorem append_inj_of_slash {v v' chars chars' : List Char} (hv : '/' ∉ v) (hv' : '/' ∉ v')
    (hchars : ∀ c ∈ chars.head?, c = '/') (hchars' : ∀ c ∈ chars'.head?, c = '/')
    (h : v ++ chars = v' ++ chars') : v = v' ∧ chars = chars' := by
  rcases List.append_eq_append_iff.1 h with ⟨more, rfl, rfl⟩ | ⟨more, rfl, rfl⟩
  · obtain rfl := eq_nil_of_slash hv' hchars
    exact ⟨(List.append_nil v).symm, rfl⟩
  · obtain rfl := eq_nil_of_slash hv hchars'
    exact ⟨List.append_nil v', rfl⟩

/-- Segments that are separated by slashes are filled with values without slashes in one way
only. -/
theorem filledWith_unique {values values' : List (String × String)} {segments : List Segment}
    {chars : List Char} (hseparated : SlashSeparated segments)
    (h : FilledWith values segments chars) (h' : FilledWith values' segments chars)
    (hfree : SlashFree values) (hfree' : SlashFree values') : values = values' := by
  induction hseparated generalizing values values' chars with
  | nil =>
      cases h
      cases h'
      rfl
  | literal text _ _ ih =>
      cases h with
      | @literal _ _ cs _ h =>
          generalize heq : text.toList ++ cs = chars at h'
          cases h' with
          | literal _ h' =>
              cases List.append_cancel_left heq
              exact ih h h' hfree hfree'
  | placeholder name hahead _ ih =>
      cases h with
      | @placeholder values _ cs _ _ value h =>
          generalize heq : value.toList ++ cs = chars at h'
          cases h' with
          | @placeholder values' _ cs' _ _ value' h' =>
              obtain ⟨hvalue, hvalues⟩ := List.forall_mem_cons.1 hfree
              obtain ⟨hvalue', hvalues'⟩ := List.forall_mem_cons.1 hfree'
              obtain ⟨hchars, rfl⟩ := append_inj_of_slash hvalue hvalue'
                (head?_of_slashAhead hahead h) (head?_of_slashAhead hahead h') heq
              obtain rfl : value = value' := String.toList_inj.1 hchars
              rw [ih h h' hvalues hvalues']

/-! ## Reading and running -/

/-- The expression of segments that are separated by slashes is read part by part. -/
theorem readsOn_of_slashSeparated {seen : List String} {segments : List Segment} {source : String}
    {bindings : List Binding} (hseparated : SlashSeparated segments)
    (hsource : expressionFrom seen segments = .ok (source, bindings)) {r : Regex.Reading}
    {fuel : Nat} {e : Expr} {rest : List Char} (hverbose : r.verbose = false)
    (hrest : r.rest = source.toList ++ rest) (h : Regex.Reading.run fuel r = .ok e) :
    ∃ parts, ReadsAs seen segments parts ∧
      (∀ kind body, .group kind body ∈ parts → body = .slashFree) ∧
      ∃ r' fuel', r.ReadsOn r' parts rest ∧ Regex.Reading.run fuel' r' = .ok e := by
  induction hseparated generalizing seen source bindings r fuel with
  | nil =>
      cases hsource
      rw [String.toList_empty, List.nil_append] at hrest
      refine ⟨[], .nil, ?_, r, fuel, hrest ▸ .refl hverbose, h⟩
      intro kind body hmem
      cases hmem
  | literal text hplain _ ih =>
      obtain ⟨source', hsource', rfl⟩ := expressionFrom_literal hsource
      rw [String.toList_append, List.append_assoc] at hrest
      obtain ⟨r₁, fuel₁, hreads₁, h₁⟩ :=
        Regex.Reading.readsOn_chars (fun c hc => (hplain c hc).1) hverbose hrest h
      obtain ⟨parts, hparts, hbodies, r₂, fuel₂, hreads₂, h₂⟩ :=
        ih hsource' hreads₁.verbose hreads₁.rest h₁
      refine ⟨_, .literal text hparts, ?_, r₂, fuel₂, hreads₁.trans hreads₂, h₂⟩
      intro kind body hmem
      rcases List.mem_append.1 hmem with hmem | hmem
      · obtain ⟨c, -, hc⟩ := List.mem_map.1 hmem
        cases hc
      · exact hbodies kind body hmem
  | placeholder name _ _ ih =>
      obtain ⟨hvalid, -, source', bindings', hsource', rfl, -⟩ := expressionFrom_placeholder hsource
      have htext : r.rest = '(' :: '?' :: 'P' :: '<' ::
          ((groupName name (seen.count name + 1)).toList ++
            '>' :: '[' :: '^' :: '/' :: ']' :: '*' :: ')' :: (source'.toList ++ rest)) := by
        rw [hrest, String.toList_append, toList_groupText]
        simp [groupHead, defaultConstraint]
      obtain ⟨r₁, fuel₁, hreads₁, h₁⟩ :=
        Regex.Reading.readsOn_slashFree (angle_notMem_groupName hvalid _) hverbose htext h
      rw [String.ofList_toList] at hreads₁
      obtain ⟨parts, hparts, hbodies, r₂, fuel₂, hreads₂, h₂⟩ :=
        ih hsource' hreads₁.verbose hreads₁.rest h₁
      refine ⟨_, .placeholder name none _ _ hparts, ?_, r₂, fuel₂, hreads₁.trans hreads₂, h₂⟩
      intro kind body hmem
      rcases List.mem_cons.1 hmem with heq | hmem
      · cases heq
        rfl
      · exact hbodies kind body hmem

/-- Every part that segments are read as leaves the flags alone. -/
theorem flags_of_readsAs {seen : List String} {segments : List Segment} {parts : List Expr}
    (h : ReadsAs seen segments parts) :
    ∀ e ∈ parts, ∀ core f, Regex.meaning {} e = .ok (core, f) → f = {} := by
  induction h with
  | nil =>
      intro e he
      cases he
  | literal text _ ih =>
      intro e he core f hm
      rcases List.mem_append.1 he with he | he
      · obtain ⟨c, -, rfl⟩ := List.mem_map.1 he
        cases hm
        rfl
      · exact ih e he core f hm
  | placeholder name constraint index body _ ih =>
      intro e he core f hm
      rcases List.mem_cons.1 he with rfl | he
      · exact RunsParts.flags_of_group hm
      · exact ih e he core f hm

/-- Every binding has a group among the parts. -/
theorem exists_group_of_readsAs {seen : List String} {segments : List Segment} {parts : List Expr}
    {source : String} {bindings : List Binding} (h : ReadsAs seen segments parts)
    (hsource : expressionFrom seen segments = .ok (source, bindings)) :
    ∀ b ∈ bindings, ∃ index body, .group (.capture index (some b.group)) body ∈ parts := by
  induction h generalizing source bindings with
  | nil =>
      cases hsource
      intro b hb
      cases hb
  | literal text _ ih =>
      obtain ⟨source', hsource', -⟩ := expressionFrom_literal hsource
      intro b hb
      obtain ⟨index, body, hmem⟩ := ih hsource' b hb
      exact ⟨index, body, List.mem_append_right _ hmem⟩
  | placeholder name constraint index body _ ih =>
      obtain ⟨-, -, source', bindings', hsource', -, rfl⟩ := expressionFrom_placeholder hsource
      intro b hb
      rcases List.mem_cons.1 hb with rfl | hb
      · exact ⟨index, body, List.mem_cons_self⟩
      · obtain ⟨index', body', hmem⟩ := ih hsource' b hb
        exact ⟨index', body', List.mem_cons_of_mem _ hmem⟩

/-- Segments that are filled with values without slashes are run over the text to its end. -/
theorem runsParts_of_filledWith {text : Array Char} {seen : List String} {segments : List Segment}
    {parts : List Expr} {values : List (String × String)} {p : Nat} {tr : Regex.Trail}
    (hparts : ReadsAs seen segments parts)
    (hbodies : ∀ kind body, .group kind body ∈ parts → body = .slashFree)
    (hfilled : FilledWith values segments (text.toList.drop p)) (hfree : SlashFree values) :
    ∃ q tr', RunsParts text (parts ++ [.place .lineEnd]) p tr q tr' := by
  induction hparts generalizing values p tr with
  | nil =>
      generalize hchars : text.toList.drop p = chars at hfilled
      cases hfilled
      have hend : (Regex.Assertion.textEnd).holds (Regex.before? text p) text[p]? = true := by
        have hsize : text.size ≤ p := by simpa using hchars
        rw [Array.getElem?_eq_none hsize]
        rfl
      exact ⟨p, tr, .of_runs rfl (.assert hend) .nil⟩
  | literal t _ ih =>
      generalize hchars : text.toList.drop p = chars at hfilled
      cases hfilled with
      | @literal _ _ cs _ hfilled =>
          have hdrop : text.toList.drop (p + t.toList.length) = cs := by
            rw [← List.drop_drop, hchars, List.drop_left]
          obtain ⟨q, tr', hrun⟩ := ih (fun kind body hmem =>
            hbodies kind body (List.mem_append_right _ hmem)) (hdrop ▸ hfilled) hfree
          refine ⟨q, tr', ?_⟩
          rw [List.append_assoc]
          exact .of_chars hchars hrun
  | placeholder name constraint index body _ ih =>
      obtain rfl : body = .slashFree := hbodies _ body List.mem_cons_self
      generalize hchars : text.toList.drop p = chars at hfilled
      cases hfilled with
      | @placeholder values _ cs _ _ value hfilled =>
          obtain ⟨hvalue, hvalues⟩ := List.forall_mem_cons.1 hfree
          have hdrop : text.toList.drop (p + value.toList.length) = cs := by
            rw [← List.drop_drop, hchars, List.drop_left]
          obtain ⟨q, tr', hrun⟩ := ih (fun kind body hmem =>
            hbodies kind body (List.mem_cons_of_mem _ hmem)) (hdrop ▸ hfilled) hvalues
          exact ⟨q, tr', .of_runs rfl (.capture (Regex.runs_slashFree hvalue hchars)) hrun⟩

end Segment

end PathTemplate
