import PathTemplate.Proofs.Template.Separated

/-!
# What templates separated by slashes extract

The expression of such a template matches a path exactly if the path can be
filled with values without slashes. These are then the values of its groups.
They are gathered into fields if all occurrences of a name have the same value,
and two different values of a name are reported.
-/

namespace PathTemplate

namespace Template

open Segment (FilledWith SlashFree Agrees SlashSeparated ReadsAs)

variable {t : Template} {label pattern path : String} {options : Options}

/-! ## Reading -/

/-- The expression of the template is read as the parts of its segments, with groups of any
characters but slashes, between the start and the end. -/
theorem CompiledFrom.exists_parts (h : t.CompiledFrom label pattern options)
    (hstart : options.anchorStart = true) (hend : options.anchorEnd = true)
    (hseparated : SlashSeparated (Segment.scan t.pattern)) :
    ∃ parts, ReadsAs [] (Segment.scan t.pattern) parts ∧
      (∀ kind body, .group kind body ∈ parts → body = .slashFree) ∧
      Regex.readExpr t.regex.source.toList =
        .ok (.concat (.place .lineStart :: parts ++ [.place .lineEnd])) := by
  obtain ⟨-, e, -, hread, -, -⟩ := Regex.compile_eq_ok h.regex
  obtain ⟨source, hsource, hanchors⟩ := Segment.expression_eq_ok h.expression
  rw [← h.pattern_eq] at hsource
  have htext : t.regex.source.toList = '^' :: (source.toList ++ ['$']) := by
    rw [hanchors, if_pos hstart, if_pos hend, String.toList_append, String.toList_append]
    rfl
  have hrun := Regex.run_of_readExpr hread
  obtain ⟨r₁, hstep₁, fuel₁, h₁⟩ := Regex.Reading.exists_step_of_cons hrun rfl htext
  cases hstep₁
  obtain ⟨parts, hparts, hbodies, r₂, fuel₂, hreads, h₂⟩ :=
    Segment.readsOn_of_slashSeparated hseparated hsource rfl rfl h₁
  obtain ⟨r₃, hstep₃, fuel₃, h₃⟩ := Regex.Reading.exists_step_of_cons h₂ hreads.verbose hreads.rest
  cases hstep₃
  have hreads' := ((Regex.Reading.ReadsOn.push rfl (.place .lineStart) _).trans hreads).trans
    (.push hreads.verbose (.place .lineEnd) [])
  obtain rfl := hreads'.eq_ofParts rfl h₃
  refine ⟨parts, hparts, hbodies, ?_⟩
  rw [hread]
  cases parts with
  | nil => rfl
  | cons first rest => rfl

/-! ## Matching -/

/-- The values of a match have no slash. -/
theorem CompiledFrom.slashFree_of_find? (h : t.CompiledFrom label pattern options)
    (hstart : options.anchorStart = true) (hend : options.anchorEnd = true)
    (hseparated : SlashSeparated (Segment.scan t.pattern)) {m : Regex.Match}
    (hm : t.regex.find? path = some m) : SlashFree (t.values m) := by
  obtain ⟨parts, hparts, hbodies, hread⟩ := h.exists_parts hstart hend hseparated
  obtain ⟨-, e, f, hread', hmeaning, hnames⟩ := Regex.compile_eq_ok h.regex
  obtain ⟨source, hsource, -⟩ := Segment.expression_eq_ok h.expression
  obtain rfl := Except.ok.inj (hread'.symm.trans hread)
  have hnumbered := Regex.wellNumbered_of_readExpr hread
  obtain ⟨p, hp, q, tr, rfl, hrun⟩ := Regex.runsParts_of_find? hmeaning hm
  rw [h.pattern_eq] at hparts
  have hflags : ∀ e ∈ .place .lineStart :: parts ++ [.place .lineEnd],
      ∀ core f, Regex.meaning {} e = .ok (core, f) → f = {} := by
    intro e he core f hm
    rcases List.mem_append.1 he with he | he
    · rcases List.mem_cons.1 he with rfl | he
      · cases hm
        rfl
      · exact Segment.flags_of_readsAs hparts e he core f hm
    · obtain rfl := List.mem_singleton.1 he
      cases hm
      rfl
  intro e he
  obtain ⟨b, hb, hpair⟩ := List.mem_filterMap.1 he
  obtain ⟨value, hvalue, rfl⟩ := Option.map_eq_some_iff.1 hpair
  obtain ⟨index, body, hmem⟩ := Segment.exists_group_of_readsAs hparts hsource b hb
  obtain rfl := hbodies _ _ hmem
  have hmem' := List.mem_append_left [.place .lineEnd]
    (List.mem_cons_of_mem (.place .lineStart) hmem)
  obtain ⟨first, last, hspan, inner, f', tr₂, tr₃, hinner, hruns⟩ :=
    hrun.exists_run_of_mem hflags hnumbered.numbers hmem'
  cases hinner
  have hcapture := Regex.Expr.mem_capturesAll_of_mem hmem'
  have hspan' : Regex.Match.span? ⟨path.toList.toArray, (Regex.endSlot 0, q) :: tr⟩ index =
      some (first, last) :=
    (Regex.span?_endSlot_zero (hnumbered.pos _ hcapture)).trans hspan
  have hnamed :=
    Regex.named?_of_span? (Regex.groupNumber?_of_mem hnames hnumbered hcapture) hspan'
  obtain rfl := Option.some.inj (hvalue.symm.trans hnamed)
  rw [String.toList_ofList]
  exact Regex.slash_notMem_of_runs hruns

/-- A path that is matched is filled with the values of the match. -/
theorem CompiledFrom.filledWith_of_find? (h : t.CompiledFrom label pattern options)
    (hstart : options.anchorStart = true) (hend : options.anchorEnd = true)
    (hseparated : SlashSeparated (Segment.scan t.pattern)) {m : Regex.Match}
    (hm : t.regex.find? path = some m) :
    FilledWith (t.values m) (Segment.scan t.pattern) path.toList := by
  obtain ⟨parts, hparts, -, hread⟩ := h.exists_parts hstart hend hseparated
  exact Segment.filledWith_of_spells (h.spells ⟨parts, hparts, hread⟩ hm)

/-- A path that can be filled with values without slashes is matched. -/
theorem CompiledFrom.find?_ne_none_of_filledWith (h : t.CompiledFrom label pattern options)
    (hstart : options.anchorStart = true) (hend : options.anchorEnd = true)
    (hseparated : SlashSeparated (Segment.scan t.pattern)) {values : List (String × String)}
    (hfilled : FilledWith values (Segment.scan t.pattern) path.toList)
    (hfree : SlashFree values) : t.regex.find? path ≠ none := by
  obtain ⟨parts, hparts, hbodies, hread⟩ := h.exists_parts hstart hend hseparated
  obtain ⟨-, e, f, hread', hmeaning, -⟩ := Regex.compile_eq_ok h.regex
  obtain rfl := Except.ok.inj (hread'.symm.trans hread)
  have htext : FilledWith values (Segment.scan t.pattern) (path.toList.toArray.toList.drop 0) :=
    hfilled
  obtain ⟨q, tr, hrun⟩ := Segment.runsParts_of_filledWith hparts hbodies htext hfree
  exact Regex.find?_ne_none_of_runsParts hmeaning (Nat.zero_le _)
    (.of_runs rfl (.assert rfl) hrun)

/-! ## Extracting -/

/-- What is extracted from a path that can be filled is gathered from its values. -/
theorem CompiledFrom.extract_of_filledWith (h : t.CompiledFrom label pattern options)
    (hstart : options.anchorStart = true) (hend : options.anchorEnd = true)
    (hseparated : SlashSeparated (Segment.scan t.pattern))
    (hnames : Segment.names (Segment.scan t.pattern) ≠ []) (hpath : path ≠ "")
    {values : List (String × String)}
    (hfilled : FilledWith values (Segment.scan t.pattern) path.toList)
    (hfree : SlashFree values) :
    t.extract path true = (gather true values Fields.empty).map some := by
  obtain ⟨m, hm⟩ := Option.ne_none_iff_exists'.1
    (h.find?_ne_none_of_filledWith hstart hend hseparated hfilled hfree)
  have hvalues := Segment.filledWith_unique hseparated
    (h.filledWith_of_find? hstart hend hseparated hm) hfilled
    (h.slashFree_of_find? hstart hend hseparated hm) hfree
  rw [extract, if_neg hpath, hm]
  simp only [hvalues]
  cases hgather : gather true values Fields.empty with
  | error m => rfl
  | ok fields =>
      have hempty : fields.isEmpty = false := by
        refine Fields.isEmpty_eq_false_of_keys hnames ?_
        rw [(gather_eq_ok_iff.1 hgather).1, Segment.map_fst_of_filledWith hfilled]
      simp only [hempty]
      rfl

/-- Nothing is extracted from any other path. -/
theorem CompiledFrom.extract_of_not_filledWith (h : t.CompiledFrom label pattern options)
    (hstart : options.anchorStart = true) (hend : options.anchorEnd = true)
    (hseparated : SlashSeparated (Segment.scan t.pattern))
    (hnone : ¬ ∃ values, FilledWith values (Segment.scan t.pattern) path.toList ∧
      SlashFree values) : t.extract path true = .ok none := by
  have hfind : t.regex.find? path = none := by
    by_contra hsome
    obtain ⟨m, hm⟩ := Option.ne_none_iff_exists'.1 hsome
    exact hnone ⟨_, h.filledWith_of_find? hstart hend hseparated hm,
      h.slashFree_of_find? hstart hend hseparated hm⟩
  rw [extract, hfind]
  split <;> rfl

end Template

end PathTemplate
