import PathTemplate.Proofs.Regex.Anchors
import PathTemplate.Proofs.Resolver.Templates
import PathTemplate.Proofs.Template.Spelling

/-!
# Anchored templates

The anchors of a template are marks at both ends of its expression. The text
between them is read together with them, so it can take their force away. Where
it does not, a match starts at the beginning of the path or ends at its end.
-/

namespace PathTemplate.Template

variable {t : Template} {label pattern : String} {options : Options} {path : String}
  {m : Regex.Match} {first last : Nat}

/-! ## Texts that release a match -/

/-- The expression is an alternation outside of all groups. -/
def Alternates (t : Template) : Prop :=
  ∃ branches, Regex.readExpr t.regex.source.toList = .ok (.alternation branches)

/-- The expression begins with a mark of the start that need not be there. -/
def StartIsOptional (t : Template) : Prop :=
  ∃ first rest,
    Regex.readExpr t.regex.source.toList = .ok (Regex.Expr.ofParts (first :: rest)) ∧
      first.startMark? = some false

/-- The dollar sign at the end of the expression is read as a token of its own. -/
def EndIsRead (t : Template) : Prop :=
  Regex.Reading.ComesTo { rest := t.regex.source.toList } ['$']

/-- A class, an escape or a comment reaches over the dollar sign at the end of the expression. -/
def EndIsHidden (t : Template) : Prop :=
  Regex.Reading.Hides { rest := t.regex.source.toList } ['$']

/-- At its end the expression tells lines apart. -/
def EndsLines (t : Template) : Prop :=
  ∃ e core f, Regex.readExpr t.regex.source.toList = .ok e ∧
    Regex.meaning {} e = .ok (core, f) ∧ f.multiLine = true

/-- Every match has to begin with the mark of the start. -/
structure KeepsStart (t : Template) : Prop where
  alternates : ¬ t.Alternates
  optional : ¬ t.StartIsOptional

/-- Every match has to end with the mark of the end, which is the end of the path. -/
structure KeepsEnd (t : Template) : Prop where
  alternates : ¬ t.Alternates
  read : t.EndIsRead
  lines : ¬ t.EndsLines

/-! ## Where a match lies -/

/-- The kernel of a template is run between the two ends of a match. -/
theorem CompiledFrom.runs (h : t.CompiledFrom label pattern options)
    (hm : t.regex.find? path = some m) :
    ∃ first last tr, m.text = path.toList.toArray ∧ m.span? 0 = some (first, last) ∧
      first ≤ path.toList.toArray.size ∧ last ≤ path.toList.toArray.size ∧
      Regex.Runs path.toList.toArray t.regex.core first [(Regex.startSlot 0, first)] last tr := by
  obtain ⟨-, e, f, hread, hmeaning, -⟩ := Regex.compile_eq_ok h.regex
  obtain ⟨first, hfirst, last, tr, rfl, hrun⟩ := Regex.runs_of_find? hm
  have hzero : 0 ∉ t.regex.core.groups := by
    intro hmem
    obtain ⟨g, hg, heq⟩ := List.mem_map.1 (Regex.groups_of_meaning hmeaning hmem)
    have hpos := (Regex.wellNumbered_of_readExpr hread).pos g hg
    omega
  have hspan := Regex.span?_of_capture (.capture hrun) hzero
  exact ⟨first, last, tr, rfl, hspan, hfirst, Regex.le_size_of_runs hrun hfirst, hrun⟩

/-- A match starts at the beginning of the path. -/
theorem CompiledFrom.first_eq_zero (h : t.CompiledFrom label pattern options)
    (hanchor : options.anchorStart = true) (hkeeps : t.KeepsStart) {tr tr' : Regex.Trail}
    (hrun : Regex.Runs path.toList.toArray t.regex.core first tr last tr')
    (hfirst : first ≤ path.toList.toArray.size) : first = 0 := by
  obtain ⟨-, e, f, hread, hmeaning, -⟩ := Regex.compile_eq_ok h.regex
  obtain ⟨source, -, hsource⟩ := Segment.expression_eq_ok h.expression
  have htext : ∃ text, t.regex.source.toList = '^' :: text := by
    rw [hsource, if_pos hanchor, String.append_assoc, String.toList_append]
    exact ⟨_, rfl⟩
  obtain ⟨text, htext⟩ := htext
  rw [htext] at hread
  rcases Regex.startsMarked_of_readExpr hread with ⟨branches, rfl⟩ | ⟨mark, rest, rfl, hmark⟩
  · rw [← htext] at hread
    exact absurd ⟨branches, hread⟩ hkeeps.alternates
  · rw [← htext] at hread
    have hneeded : mark.startMark? = some true := by
      cases hcase : mark.startMark? with
      | none => exact absurd hcase hmark
      | some needed =>
          cases needed with
          | true => rfl
          | false => exact absurd ⟨mark, rest, hread, hcase⟩ hkeeps.optional
    obtain ⟨cores, hmeanings, hcore⟩ := Regex.meanings_of_ofParts hmeaning
    obtain ⟨⟨core, f₁⟩, hm, hmeanings⟩ := exists_of_bind_eq_ok hmeanings
    obtain ⟨⟨cores', f₂⟩, -, hmeanings⟩ := exists_of_bind_eq_ok hmeanings
    cases hmeanings
    rw [hcore] at hrun
    cases Regex.runsAll_of_catAll hrun with
    | cons hrun _ => exact Regex.eq_zero_of_startMark hneeded rfl hm hrun hfirst

theorem CompiledFrom.source_eq_append (h : t.CompiledFrom label pattern options)
    (hanchor : options.anchorEnd = true) : ∃ text, t.regex.source.toList = text ++ ['$'] := by
  obtain ⟨source, -, hsource⟩ := Segment.expression_eq_ok h.expression
  rw [hsource, if_pos hanchor, String.toList_append]
  exact ⟨_, rfl⟩

/-- The anchor at the end is read, unless it is hidden. -/
theorem CompiledFrom.endIsRead_or_endIsHidden (h : t.CompiledFrom label pattern options)
    (hanchor : options.anchorEnd = true) : t.EndIsRead ∨ t.EndIsHidden := by
  obtain ⟨-, e, f, hread, -, -⟩ := Regex.compile_eq_ok h.regex
  obtain ⟨text, htext⟩ := h.source_eq_append hanchor
  exact Regex.Reading.comesTo_or_hides Regex.beginsToken_dollar (Regex.run_of_readExpr hread)
    ⟨text, htext.symm⟩

/-- A match ends at the end of the path. -/
theorem CompiledFrom.last_eq_size (h : t.CompiledFrom label pattern options) (hkeeps : t.KeepsEnd)
    {tr tr' : Regex.Trail}
    (hrun : Regex.Runs path.toList.toArray t.regex.core first tr last tr')
    (hlast : last ≤ path.toList.toArray.size) : last = path.toList.toArray.size := by
  obtain ⟨-, e, f, hread, hmeaning, -⟩ := Regex.compile_eq_ok h.regex
  rcases Regex.endsMarked_of_readExpr hread hkeeps.read with ⟨branches, rfl⟩ | ⟨front, rfl⟩
  · exact absurd ⟨branches, hread⟩ hkeeps.alternates
  · have hlines : f.multiLine = false := by
      cases hcase : f.multiLine with
      | false => rfl
      | true => exact absurd ⟨_, _, f, hread, hmeaning, hcase⟩ hkeeps.lines
    obtain ⟨cores, hmeanings, hcore⟩ := Regex.meanings_of_ofParts hmeaning
    rw [hcore] at hrun
    have hholds := Regex.lineEnd_of_runsAll hmeanings (Regex.runsAll_of_catAll hrun)
    simp only [Regex.Flags.placeMeaning, hlines, Regex.Assertion.holds, Bool.not_false, if_true,
      Option.isNone_iff_eq_none, Array.getElem?_eq_none_iff] at hholds
    omega

/-- The fields of a path come from a match. With the anchor at the start it begins where the path
begins, and with the anchor at the end it ends where the path ends, as long as the text between the
anchors leaves them their force. The anchor at the end is read, unless it is hidden. -/
theorem match_anchored_of_extract (h : compile label pattern options = .ok t) {check : Bool}
    {fields : Fields} (hextract : t.extract path check = .ok (some fields)) :
    (∃ m first last, t.regex.find? path = some m ∧
      gather check (t.values m) Fields.empty = .ok fields ∧ m.span? 0 = some (first, last) ∧
      (options.anchorStart = true → t.KeepsStart → first = 0) ∧
      (options.anchorEnd = true → t.KeepsEnd → last = path.length) ∧
      (options.anchorStart = true → options.anchorEnd = true → t.KeepsStart → t.KeepsEnd →
        m.group? 0 = some path)) ∧
    (options.anchorEnd = true → t.EndIsRead ∨ t.EndIsHidden) := by
  have hc := compiledFrom_of_compile h
  refine ⟨?_, hc.endIsRead_or_endIsHidden⟩
  obtain ⟨-, m, hm, hgather⟩ := gather_of_extract hextract
  obtain ⟨first, last, tr, htext, hspan, hfirst, hlast, hrun⟩ := hc.runs hm
  have hstart := fun hanchor hkeeps => hc.first_eq_zero hanchor hkeeps hrun hfirst
  have hend := fun hkeeps => hc.last_eq_size hkeeps hrun hlast
  refine ⟨m, first, last, hm, hgather, hspan, hstart, fun _ hkeeps => hend hkeeps, ?_⟩
  intro hanchorStart _ hkeepsStart hkeepsEnd
  rw [Regex.Match.group?, hspan, hstart hanchorStart hkeepsStart, hend hkeepsEnd, htext]
  simp

/-- Two equal segments are matched from the beginning of the path to its end. -/
theorem match_twice :
    compile "twice" twice.pattern {} = .ok twice ∧
      twice.extract "x/x" true = .ok (some (Fields.ofList [("a", "x")])) ∧
      twice.KeepsStart ∧ twice.KeepsEnd ∧
      ∃ m, twice.regex.find? "x/x" = some m ∧ m.group? 0 = some "x/x" := by
  have hcompile : compile "twice" twice.pattern {} = .ok twice := compile_twice true
  have hextract : twice.extract "x/x" true = .ok (some (Fields.ofList [("a", "x")])) := by
    cbv
  have halternates : ¬ twice.Alternates := by
    rintro ⟨branches, hread⟩
    cases Regex.readExpr_twice.symm.trans hread
  have hoptional : ¬ twice.StartIsOptional := by
    rintro ⟨first, rest, hread, hmark⟩
    have heq := Except.ok.inj (Regex.readExpr_twice.symm.trans hread)
    cases rest with
    | nil =>
        cases heq
        cases hmark
    | cons second rest =>
        cases heq
        cases hmark
  have hread : twice.EndIsRead := by
    refine ⟨_, .step rfl rfl (.step rfl rfl (.step rfl rfl (.step rfl rfl (.step rfl rfl
      (.step rfl rfl (.step rfl rfl (.step rfl rfl (.step rfl rfl (.step rfl rfl
        .refl))))))))), ?_⟩
    rfl
  have hlines : ¬ twice.EndsLines := by
    rintro ⟨e, core, f, hread, hmeaning, hflag⟩
    cases Regex.readExpr_twice.symm.trans hread
    cases hmeaning
    cases hflag
  have hstart : twice.KeepsStart := ⟨halternates, hoptional⟩
  have hend : twice.KeepsEnd := ⟨halternates, hread, hlines⟩
  obtain ⟨⟨m, first, last, hm, -, -, -, -, hwhole⟩, -⟩ :=
    match_anchored_of_extract hcompile hextract
  exact ⟨hcompile, hextract, hstart, hend, m, hm, hwhole rfl rfl hstart hend⟩

/-- An alternation of two placeholders. -/
def either : Template where
  label := "either"
  pattern := "\x7ba:x\x7d|\x7bb:y\x7d"
  regex := {
    source := "^(?P<a001>x)|(?P<b001>y)$"
    core := .altAll [.catAll [.assert .textStart, .capture 1 (.one (.single 'x'))],
      .catAll [.capture 2 (.one (.single 'y')), .assert .textEnd]]
    names := [("a001", 1), ("b001", 2)] }
  bindings := [⟨"a001", "a"⟩, ⟨"b001", "b"⟩]
  format := ⟨"\x7ba\x7d|\x7bb\x7d", [.field "a", .literal "|", .field "b"]⟩
  keys := Names.ofList ["a", "b"]

theorem compile_either : compile "either" either.pattern {} = .ok either := by
  have hscan : Segment.scan either.pattern =
      [.placeholder "a" (some "x"), .literal "|", .placeholder "b" (some "y")] := by
    cbv
  have hs : Segment.expression {} (Segment.scan either.pattern) =
      .ok (either.regex.source, either.bindings) := by
    rw [hscan]
    rfl
  have hf : Format.parse (Segment.formatSource (Segment.scan either.pattern)) =
      .ok either.format := by
    cbv
  have hn : Names.ofList (Segment.names (Segment.scan either.pattern)) = either.keys := by
    cbv
  have he : Regex.readExpr either.regex.source.toList = .ok (.alternation
      [.concat [.place .lineStart, .group (.capture 1 (some "a001")) (.char ⟨'x', false⟩)],
        .concat [.group (.capture 2 (some "b001")) (.char ⟨'y', false⟩), .place .lineEnd]]) := rfl
  have hr : Regex.compile either.regex.source = .ok either.regex :=
    Regex.compile_of_readExpr he rfl (by cbv)
  rw [compile_of_parts "either" hs hf (hn.trans rfl) hr, hn]
  rfl

/-- Text in front makes the anchor at the start optional, and text behind has lines told apart at
the end. -/
def loose : Template where
  label := "loose"
  pattern := "?\x7ba\x7d(?m)"
  regex := {
    source := "^?(?P<a001>[^/]*)(?m)$"
    core := .catAll [.upTo 1 true (.assert .textStart),
      .capture 1 (.upTo 1 true (.plus true (.one (.compl (.single '/'))))), .empty,
      .assert .lineEnd]
    names := [("a001", 1)] }
  bindings := [⟨"a001", "a"⟩]
  format := ⟨"?\x7ba\x7d(?m)", [.literal "?", .field "a", .literal "(?m)"]⟩
  keys := Names.ofList ["a"]

theorem compile_loose : compile "loose" loose.pattern {} = .ok loose := by
  have hscan : Segment.scan loose.pattern =
      [.literal "?", .placeholder "a" none, .literal "(?m)"] := by
    cbv
  have hs : Segment.expression {} (Segment.scan loose.pattern) =
      .ok (loose.regex.source, loose.bindings) := by
    rw [hscan]
    rfl
  have hf : Format.parse (Segment.formatSource (Segment.scan loose.pattern)) =
      .ok loose.format := by
    cbv
  have hn : Names.ofList (Segment.names (Segment.scan loose.pattern)) = loose.keys := by
    cbv
  have he : Regex.readExpr loose.regex.source.toList = .ok (.concat
      [.repetition 0 (some 1) true (.place .lineStart),
        .group (.capture 1 (some "a001"))
          (.repetition 0 none true (.charClass (.brackets true (.char ⟨'/', false⟩)))),
        .flags { multiLine := some true }, .place .lineEnd]) := rfl
  have hr : Regex.compile loose.regex.source = .ok loose.regex :=
    Regex.compile_of_readExpr he rfl (by cbv)
  rw [compile_of_parts "loose" hs hf (hn.trans rfl) hr, hn]
  rfl

/-- Fields may be found in a part of a path although both anchors are there. -/
theorem match_not_anchored :
    (compile "loose" "?\x7ba\x7d(?m)" {} = .ok loose ∧
      loose.extract "x/y\nz/w" true = .ok (some (Fields.ofList [("a", "y")])) ∧
      (loose.regex.find? "x/y\nz/w").bind (·.span? 0) = some (2, 3)) ∧
    compile "either" "\x7ba:x\x7d|\x7bb:y\x7d" {} = .ok either ∧
      either.extract "xz" true = .ok (some (Fields.ofList [("a", "x")])) ∧
      (either.regex.find? "xz").bind (·.span? 0) = some (0, 1) ∧
      either.extract "zy" true = .ok (some (Fields.ofList [("b", "y")])) ∧
      (either.regex.find? "zy").bind (·.span? 0) = some (1, 2) := by
  refine ⟨⟨compile_loose, ?_, ?_⟩, compile_either, ?_, ?_, ?_, ?_⟩
  all_goals cbv

end PathTemplate.Template
