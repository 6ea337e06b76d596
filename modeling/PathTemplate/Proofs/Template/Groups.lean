import PathTemplate.Proofs.Regex.Groups
import PathTemplate.Proofs.Regex.Parts
import PathTemplate.Proofs.Resolver.Templates
import PathTemplate.Proofs.Template.Expression

/-!
# Groups of placeholders

Every occurrence of a placeholder is written as a named group. Text around it
goes into the expression as it is, so it decides whether the group is read as
one. It is, unless a class, an escape or a comment hides where it begins. What
is read as a group has its place in the program, unless it stands in a part
that is repeated zero times.
-/

namespace PathTemplate

/-- A name leads to a group of which the program remembers both ends. -/
def Regex.HasGroup (r : Regex) (name : String) : Prop :=
  ∃ index, r.groupNumber? name = some index ∧
    Regex.Instr.mark (Regex.startSlot index) ∈ r.program ∧
    Regex.Instr.mark (Regex.endSlot index) ∈ r.program

/-- A group that was read and is not left out is in the program. -/
theorem Regex.hasGroup_of_mem {r : Regex} {e : Regex.Expr} {f : Regex.Flags} {index : Nat}
    {name : String} (hmeaning : Regex.meaning {} e = .ok (r.core, f))
    (hnames : r.names = e.groupNames) (hnumbered : Regex.WellNumbered e.captures)
    (hcaptures : (index, some name) ∈ e.captures) (hlasting : (index, some name) ∈ e.lasting) :
    r.HasGroup name := by
  have hcode := Regex.hasGroup_of_meaning hmeaning hlasting
  have hmem : ∀ slot, r.core.Marks slot → Regex.Instr.mark slot ∈ r.program := by
    intro slot hslot
    rw [r.program_eq, Regex.Core.program, List.mem_toArray]
    exact List.mem_append_left _ (hslot.capture 0 0)
  exact ⟨index, Regex.groupNumber?_of_mem hnames hnumbered hcaptures, hmem _ hcode.1,
    hmem _ hcode.2⟩

namespace Segment

/-- The group of a binding stands in the expression of segments, behind the expression of the
segments in front of its placeholder. Theirs are the bindings before it. -/
structure Written (seen : List String) (segments : List Segment) (e : String)
    (bindings : List Binding) (b : Binding) (front behind : List Char) : Prop where
  valid : isValidName b.placeholder
  numbered : ∃ n, b.group = groupName b.placeholder n
  text : e.toList = front ++ (groupHead b.group ++ behind)
  placed : ∃ earlier constraint later before bindingsBefore others,
    segments = earlier ++ placeholder b.placeholder constraint :: later ∧
    bindings = bindingsBefore ++ b :: others ∧
    expressionFrom seen earlier = .ok (before, bindingsBefore) ∧ front = before.toList

variable {seen : List String} {segments : List Segment} {e name : String}
  {constraint : Option String} {bindings : List Binding} {b : Binding} {front behind : List Char}

/-- A literal in front of segments stands in front of their groups. -/
theorem Written.literal (h : Written seen segments e bindings b front behind) (text : String) :
    Written seen (literal text :: segments) (text ++ e) bindings b (text.toList ++ front)
      behind where
  valid := h.valid
  numbered := h.numbered
  text := by rw [String.toList_append, h.text, List.append_assoc]
  placed := by
    obtain ⟨earlier, constraint, later, before, bindingsBefore, others, rfl, hbindings, hearlier,
      rfl⟩ := h.placed
    refine ⟨Segment.literal text :: earlier, constraint, later, text ++ before, bindingsBefore,
      others, rfl, hbindings, ?_, String.toList_append.symm⟩
    rw [expressionFrom, hearlier]

/-- The group of a placeholder in front of segments stands in front of theirs. -/
theorem Written.placeholder (h : Written (name :: seen) segments e bindings b front behind)
    (hvalid : isValidName name) (hconstraint : constraint ≠ some "") :
    let group := groupName name (seen.count name + 1)
    let text := groupText group (constraint.getD defaultConstraint)
    Written seen (placeholder name constraint :: segments) (text ++ e) (⟨group, name⟩ :: bindings) b
      (text.toList ++ front) behind where
  valid := h.valid
  numbered := h.numbered
  text := by rw [String.toList_append, h.text, List.append_assoc]
  placed := by
    obtain ⟨earlier, constraint', later, before, bindingsBefore, others, rfl, rfl, hearlier,
      rfl⟩ := h.placed
    refine ⟨Segment.placeholder name constraint :: earlier, constraint', later, _,
      _ :: bindingsBefore, others, rfl, rfl, ?_, String.toList_append.symm⟩
    rw [expressionFrom, if_neg (by simp [hvalid]), if_neg hconstraint, hearlier]

/-- The group of the first placeholder begins the expression. -/
theorem written_placeholder (hvalid : isValidName name) (n : Nat) (body e : String)
    (bindings : List Binding) :
    Written seen (placeholder name constraint :: segments) (groupText (groupName name n) body ++ e)
      (⟨groupName name n, name⟩ :: bindings) ⟨groupName name n, name⟩ []
      (body.toList ++ [')'] ++ e.toList) where
  valid := hvalid
  numbered := ⟨n, rfl⟩
  text := by rw [String.toList_append, toList_groupText, List.append_assoc, List.nil_append]
  placed := ⟨[], constraint, segments, "", [], bindings, rfl, rfl, rfl, rfl⟩

theorem written_of_expressionFrom (h : expressionFrom seen segments = .ok (e, bindings)) :
    ∀ b ∈ bindings, ∃ front behind, Written seen segments e bindings b front behind := by
  induction segments generalizing seen e bindings with
  | nil =>
      cases h
      intro b hb
      cases hb
  | cons segment rest ih =>
      cases segment with
      | literal text =>
          obtain ⟨e', hrest, rfl⟩ := expressionFrom_literal h
          intro b hb
          obtain ⟨front, behind, hwritten⟩ := ih hrest b hb
          exact ⟨_, _, hwritten.literal text⟩
      | placeholder name constraint =>
          obtain ⟨hvalid, hconstraint, e', bindings', hrest, rfl, rfl⟩ :=
            expressionFrom_placeholder h
          intro b hb
          rcases List.mem_cons.1 hb with rfl | hb
          · exact ⟨_, _, written_placeholder hvalid _ _ e' bindings'⟩
          · obtain ⟨front, behind, hwritten⟩ := ih hrest b hb
            exact ⟨_, _, hwritten.placeholder hvalid hconstraint⟩

theorem Written.angle_notMem (h : Written seen segments e bindings b front behind) :
    '>' ∉ b.group.toList := by
  obtain ⟨n, hgroup⟩ := h.numbered
  rw [hgroup]
  exact angle_notMem_groupName h.valid n

end Segment

namespace Template

/-- A class, an escape or a comment hides where the group of a binding begins, which is behind the
anchor and the expression of the segments in front of its placeholder. Theirs are the bindings
before it. -/
def HidesGroup (t : Template) (options : Options) (b : Binding) : Prop :=
  ∃ earlier constraint later before bindingsBefore others behind,
    Segment.scan t.pattern = earlier ++ .placeholder b.placeholder constraint :: later ∧
    t.bindings = bindingsBefore ++ b :: others ∧
    Segment.expressionFrom [] earlier = .ok (before, bindingsBefore) ∧
    t.regex.source.toList = (if options.anchorStart then "^" else "").toList ++ before.toList ++
      (Segment.groupHead b.group ++ behind) ∧
    Regex.Reading.Hides { rest := t.regex.source.toList } (Segment.groupHead b.group ++ behind)

/-- A group of the expression stands in a part that is repeated zero times. -/
def DropsGroup (t : Template) (group : String) : Prop :=
  ∃ e index, Regex.readExpr t.regex.source.toList = .ok e ∧
    (index, some group) ∈ e.captures ∧ (index, some group) ∉ e.lasting

/-- A group that stands in the expression is in the program, unless what is in front of it hides
where it begins or it is repeated zero times. -/
theorem hasGroup_of_text {t : Template} {group : String} {front behind : List Char}
    (h : Regex.compile t.regex.source = .ok t.regex) (hgroup : '>' ∉ group.toList)
    (htext : t.regex.source.toList = front ++ (Segment.groupHead group ++ behind)) :
    t.regex.HasGroup group ∨
      Regex.Reading.Hides { rest := t.regex.source.toList } (Segment.groupHead group ++ behind) ∨
      t.DropsGroup group := by
  obtain ⟨-, e, f, hread, hmeaning, hnames⟩ := Regex.compile_eq_ok h
  have hrun := Regex.run_of_readExpr hread
  have hhead : Segment.groupHead group ++ behind =
      '(' :: '?' :: 'P' :: '<' :: (group.toList ++ '>' :: behind) := by
    simp [Segment.groupHead]
  rw [hhead] at htext ⊢
  rcases Regex.Reading.comesTo_or_hides Regex.beginsToken_open hrun ⟨front, htext.symm⟩ with
    hcomes | hhides
  · obtain ⟨index, hcaptures⟩ := Regex.Reading.exists_capture_of_comesTo hrun hgroup hcomes
    rw [String.ofList_toList] at hcaptures
    by_cases hlasting : (index, some group) ∈ e.lasting
    · exact .inl (Regex.hasGroup_of_mem hmeaning hnames (Regex.wellNumbered_of_readExpr hread)
        hcaptures hlasting)
    · exact .inr (.inr ⟨e, index, hread, hcaptures, hlasting⟩)
  · exact .inr (.inl hhides)

/-- Every name of a template has a binding, and every binding has a group in the program, unless
the text around it hides where that group begins or has it repeated zero times. -/
theorem hasGroup_unless_hidden_or_dropped {label pattern : String} {options : Options}
    {t : Template} (h : compile label pattern options = .ok t) :
    (∀ name ∈ t.keys, ∃ b ∈ t.bindings, b.placeholder = name) ∧
    ∀ b ∈ t.bindings,
      t.regex.HasGroup b.group ∨ t.HidesGroup options b ∨ t.DropsGroup b.group := by
  have hc := compiledFrom_of_compile h
  obtain ⟨source, hsource, hanchors⟩ := Segment.expression_eq_ok hc.expression
  refine ⟨fun name hname => ?_, fun b hb => ?_⟩
  · rw [hc.keys, Names.mem_ofList, ← Segment.map_placeholder_of_expressionFrom hsource] at hname
    exact List.mem_map.1 hname
  · obtain ⟨front, behind, hwritten⟩ := Segment.written_of_expressionFrom hsource b hb
    have htext : t.regex.source.toList = (if options.anchorStart then "^" else "").toList ++
        front ++ (Segment.groupHead b.group ++
          (behind ++ (if options.anchorEnd then "$" else "").toList)) := by
      simp only [hanchors, String.toList_append, hwritten.text, List.append_assoc]
    refine (hasGroup_of_text hc.regex hwritten.angle_notMem htext).imp_right (Or.imp_left ?_)
    intro hhides
    obtain ⟨earlier, constraint, later, before, bindingsBefore, others, hsegments, hbindings,
      hearlier, rfl⟩ := hwritten.placed
    exact ⟨earlier, constraint, later, before, bindingsBefore, others, _,
      hc.pattern_eq ▸ hsegments, hbindings, hearlier, htext, hhides⟩

/-- Both occurrences of a repeated name have a group. -/
theorem hasGroup_twice :
    compile "twice" twice.pattern { cacheEnabled := true } = .ok twice ∧
      (∀ name ∈ twice.keys, ∃ b ∈ twice.bindings, b.placeholder = name) ∧
      ∀ b ∈ twice.bindings,
        twice.regex.HasGroup b.group ∨ twice.HidesGroup { cacheEnabled := true } b ∨
          twice.DropsGroup b.group :=
  ⟨compile_twice true, hasGroup_unless_hidden_or_dropped (compile_twice true)⟩

/-- Brackets around a placeholder make its group members of a class. -/
theorem compile_placeholder_in_class :
    ∃ t, compile "class" "[\x7ba\x7d]" {} = .ok t ∧ "a" ∈ t.keys ∧
      t.bindings = [⟨"a001", "a"⟩] ∧ ¬ t.regex.HasGroup "a001" := by
  have hscan : Segment.scan "[\x7ba\x7d]" =
      [.literal "[", .placeholder "a" none, .literal "]"] := by
    cbv
  have hs : Segment.expression {} (Segment.scan "[\x7ba\x7d]") =
      .ok ("^[(?P<a001>[^/]*)]$", [⟨"a001", "a"⟩]) := by
    rw [hscan]
    rfl
  have hf : Format.parse (Segment.formatSource (Segment.scan "[\x7ba\x7d]")) =
      .ok ⟨"[\x7ba\x7d]", [.literal "[", .field "a", .literal "]"]⟩ := by
    cbv
  have hn : Names.ofList (Segment.names (Segment.scan "[\x7ba\x7d]")) = Names.ofList ["a"] := by
    rw [hscan]
    rfl
  have he : Regex.readExpr "^[(?P<a001>[^/]*)]$".toList = .ok (.concat [.place .lineStart,
      .charClass (.brackets false (.union (("(?P<a001>".toList.map fun c => .char ⟨c, false⟩) ++
        [.brackets true (.char ⟨'/', false⟩), .char ⟨'*', false⟩, .char ⟨')', false⟩]))),
      .place .lineEnd]) := rfl
  have hm : Regex.meaning {} (.concat [.place .lineStart,
      .charClass (.brackets false (.union (("(?P<a001>".toList.map fun c => .char ⟨c, false⟩) ++
        [.brackets true (.char ⟨'/', false⟩), .char ⟨'*', false⟩, .char ⟨')', false⟩]))),
      .place .lineEnd]) =
      .ok (Regex.Core.catAll [.assert .textStart,
        .one (.unionAll ("(?P<a001>".toList.map .single ++
          [.compl (.single '/'), .single '*', .single ')'])), .assert .textEnd], {}) := rfl
  have h := compile_of_parts "class" hs hf hn (Regex.compile_of_readExpr he hm (by cbv))
  refine ⟨_, h, ?_, rfl, ?_⟩
  · rw [hn]
    exact List.mem_singleton.2 rfl
  · rintro ⟨index, hindex, -⟩
    cases hindex

/-- A constraint may end the group and have it repeated zero times. -/
theorem compile_placeholder_zero_times :
    ∃ t, compile "zero" "\x7ba:x)\\\x7b0\\\x7d(y\x7d" {} = .ok t ∧ "a" ∈ t.keys ∧
      t.bindings = [⟨"a001", "a"⟩] ∧ ¬ t.regex.HasGroup "a001" := by
  have hscan : Segment.scan "\x7ba:x)\\\x7b0\\\x7d(y\x7d" =
      [.placeholder "a" (some "x)\x7b0\x7d(y")] := by
    cbv
  have hs : Segment.expression {} (Segment.scan "\x7ba:x)\\\x7b0\\\x7d(y\x7d") =
      .ok ("^(?P<a001>x)\x7b0\x7d(y)$", [⟨"a001", "a"⟩]) := by
    rw [hscan]
    rfl
  have hf : Format.parse (Segment.formatSource
      (Segment.scan "\x7ba:x)\\\x7b0\\\x7d(y\x7d")) =
      .ok ⟨"\x7ba\x7d", [.field "a"]⟩ := by
    cbv
  have hn : Names.ofList (Segment.names (Segment.scan "\x7ba:x)\\\x7b0\\\x7d(y\x7d")) =
      Names.ofList ["a"] := by
    rw [hscan]
    rfl
  have he : Regex.readExpr "^(?P<a001>x)\x7b0\x7d(y)$".toList = .ok (.concat [.place .lineStart,
      .repetition 0 (some 0) true (.group (.capture 1 (some "a001")) (.char ⟨'x', false⟩)),
      .group (.capture 2 none) (.char ⟨'y', false⟩), .place .lineEnd]) := rfl
  have hm : Regex.meaning {} (.concat [.place .lineStart,
      .repetition 0 (some 0) true (.group (.capture 1 (some "a001")) (.char ⟨'x', false⟩)),
      .group (.capture 2 none) (.char ⟨'y', false⟩), .place .lineEnd]) =
      .ok (Regex.Core.catAll [.assert .textStart,
        .upTo 0 true (.capture 1 (.one (.single 'x'))), .capture 2 (.one (.single 'y')),
        .assert .textEnd], {}) := rfl
  have h := compile_of_parts "zero" hs hf hn (Regex.compile_of_readExpr he hm (by cbv))
  refine ⟨_, h, ?_, rfl, ?_⟩
  · rw [hn]
    exact List.mem_singleton.2 rfl
  · rintro ⟨index, hindex, hmark, -⟩
    cases hindex
    simp [Regex.Core.program, Regex.Core.catAll, Regex.Core.code, Regex.Core.optionals,
      Regex.startSlot, Regex.endSlot] at hmark

/-- A template is compiled even if its one binding has no group. -/
theorem binding_without_group :
    (∃ t, compile "class" "[\x7ba\x7d]" {} = .ok t ∧ "a" ∈ t.keys ∧
      t.bindings = [⟨"a001", "a"⟩] ∧ ¬ t.regex.HasGroup "a001") ∧
    ∃ t, compile "zero" "\x7ba:x)\\\x7b0\\\x7d(y\x7d" {} = .ok t ∧ "a" ∈ t.keys ∧
      t.bindings = [⟨"a001", "a"⟩] ∧ ¬ t.regex.HasGroup "a001" :=
  ⟨compile_placeholder_in_class, compile_placeholder_zero_times⟩

end Template

end PathTemplate
