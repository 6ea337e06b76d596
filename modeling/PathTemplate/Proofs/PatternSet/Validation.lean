import PathTemplate.Proofs.PatternSet.Reading
import PathTemplate.Proofs.PatternSet.Writing
import PathTemplate.Proofs.Resolver.Construction

/-!
# Valid pattern sets

Loading a set and making a resolver of it ask the same question: whether it has
a label, and whether the value of every label is a text. If so, no value is left
out of the resolver, and only a pattern that does not compile is in its way.
What was loaded needs no second look, and the labels are those of the document.
-/

namespace PathTemplate.PatternSet

variable {p : PatternSet} {l : List (String × Json)} {text label : String}

/-- A value is a text. -/
def IsText (j : Json) : Prop := ∃ s, j = .string s

theorem isNone_string?_iff {j : Json} : j.string?.isNone ↔ ¬ IsText j := by
  cases j with
  | string s => simp [Json.string?, IsText]
  | _ => simp [Json.string?, IsText]

theorem notText?_eq_some_iff :
    notText? l = some label ↔
      FirstAt (fun e => IsText e.2) (fun e => e.1 = label ∧ ¬ IsText e.2) l := by
  induction l with
  | nil =>
      apply iff_of_false
      · intro h
        cases h
      · exact not_firstAt_nil
  | cons e rest ih =>
      rw [firstAt_cons, notText?]
      by_cases htext : IsText e.2
      · rw [if_neg (mt isNone_string?_iff.1 (not_not.2 htext)), ih]
        simp [htext]
      · rw [if_pos (isNone_string?_iff.2 htext)]
        simp [htext]

theorem notText?_eq_none_iff : notText? l = none ↔ ∀ e ∈ l, IsText e.2 := by
  induction l with
  | nil => simp [notText?]
  | cons e rest ih =>
      rw [List.forall_mem_cons, notText?]
      by_cases htext : IsText e.2
      · rw [if_neg (mt isNone_string?_iff.1 (not_not.2 htext)), ih]
        simp [htext]
      · rw [if_pos (isNone_string?_iff.2 htext)]
        simp [htext]

/-! ## Validation -/

theorem validate_of_empty (h : p.patterns.entries = []) : p.validate = .error .empty :=
  if_pos (List.isEmpty_iff.2 h)

theorem validate_of_ne_empty (h : p.patterns.entries ≠ []) :
    p.validate =
      match notText? p.patterns.entries with
      | some label => .error (.notText label)
      | none => .ok () :=
  if_neg (mt List.isEmpty_iff.1 h)

theorem validate_eq_empty_iff : p.validate = .error .empty ↔ p.patterns.entries = [] := by
  constructor
  · intro h
    by_contra hne
    rw [validate_of_ne_empty hne] at h
    split at h <;> cases h
  · exact validate_of_empty

theorem validate_eq_notText_iff :
    p.validate = .error (.notText label) ↔
      FirstAt (fun e => IsText e.2) (fun e => e.1 = label ∧ ¬ IsText e.2) p.patterns.entries := by
  by_cases hempty : p.patterns.entries = []
  · rw [validate_of_empty hempty, hempty]
    apply iff_of_false
    · intro h
      cases h
    · exact not_firstAt_nil
  · rw [validate_of_ne_empty hempty, ← notText?_eq_some_iff]
    cases notText? p.patterns.entries with
    | none => simp
    | some found => simp

theorem validate_eq_ok_iff :
    p.validate = .ok () ↔ p.patterns.entries ≠ [] ∧ ∀ e ∈ p.patterns.entries, IsText e.2 := by
  by_cases hempty : p.patterns.entries = []
  · rw [validate_of_empty hempty]
    simp [hempty]
  · rw [validate_of_ne_empty hempty, ← notText?_eq_none_iff]
    cases notText? p.patterns.entries with
    | none => simp [hempty]
    | some found => simp

theorem forall_validate_ne_error_iff :
    (∀ e, p.validate ≠ .error e) ↔ p.validate = .ok () := by
  cases p.validate with
  | error e => simp
  | ok u => simp

theorem exists_validate_eq_error_iff :
    (∃ e, p.validate = .error e) ↔
      p.patterns.entries = [] ∨ ∃ e ∈ p.patterns.entries, ¬ IsText e.2 := by
  have hvalid := not_congr ((forall_validate_ne_error_iff (p := p)).trans validate_eq_ok_iff)
  rw [or_iff_not_imp_left]
  simpa using hvalid

theorem build_of_validate (h : p.validate = .ok ()) :
    p.build = (Resolver.build p.pairs p.options).mapError .compile := by
  rw [build, h]

theorem build_eq_invalid_iff {e : InvalidSet} :
    p.build = .error (.invalid e) ↔ p.validate = .error e := by
  cases hvalid : p.validate with
  | error e' => simp [build, hvalid]
  | ok u =>
      rw [build_of_validate hvalid]
      cases Resolver.build p.pairs p.options with
      | error c => simp [Except.mapError]
      | ok r => simp [Except.mapError]

theorem build_ne_invalid_iff : (∀ e, p.build ≠ .error (.invalid e)) ↔ p.validate = .ok () := by
  simp only [ne_eq, build_eq_invalid_iff]
  exact forall_validate_ne_error_iff

theorem load_eq_ok_iff : load text = .ok p ↔ parse text = .ok p ∧ p.validate = .ok () := by
  rw [load]
  cases parse text with
  | error fault => simp
  | ok q =>
      dsimp only
      constructor
      · intro h
        split at h
        · cases h
        · cases h
          exact ⟨rfl, ‹_›⟩
      · rintro ⟨hq, hvalid⟩
        obtain rfl := Except.ok.inj hq
        rw [hvalid]

/-! ## Resolvers of valid sets -/

theorem string?_eq_some_iff {j : Json} {s : String} : j.string? = some s ↔ j = .string s := by
  cases j with
  | string s' => simp [Json.string?]
  | _ => simp [Json.string?]

/-- No value is left out. -/
theorem map_pairs (h : ∀ e ∈ p.patterns.entries, IsText e.2) :
    p.pairs.map (fun pair => (pair.1, Json.string pair.2)) = p.patterns.entries := by
  have hsome : ∀ e ∈ p.patterns.entries,
      ((e.2.string?.map (e.1, ·)).map fun pair => (pair.1, Json.string pair.2)) = some e := by
    intro e he
    obtain ⟨label, j⟩ := e
    obtain ⟨s, hs⟩ := h _ he
    dsimp only at hs
    subst hs
    rfl
  rw [pairs, List.map_filterMap, List.filterMap_congr hsome, List.filterMap_some]

theorem mem_pairs_iff {pattern : String} :
    (label, pattern) ∈ p.pairs ↔ p.patterns.get? label = some (.string pattern) := by
  rw [Catalog.get?_eq_some_iff, pairs, List.mem_filterMap]
  constructor
  · rintro ⟨⟨label', j⟩, he, hpair⟩
    obtain ⟨s, hs, hpair⟩ := Option.map_eq_some_iff.1 hpair
    cases hpair
    exact string?_eq_some_iff.1 hs ▸ he
  · intro he
    exact ⟨_, he, rfl⟩

theorem map_fst_pairs (h : ∀ e ∈ p.patterns.entries, IsText e.2) :
    p.pairs.map Prod.fst = p.patterns.keys := by
  rw [Catalog.keys, ← map_pairs h, List.map_map]
  rfl

/-- The labels of a pattern set are distinct. -/
theorem deduplicate_pairs (h : ∀ e ∈ p.patterns.entries, IsText e.2) :
    deduplicate p.pairs = p.pairs := by
  apply deduplicate_of_nodup
  rw [map_fst_pairs h]
  exact p.patterns.nodup

theorem build_eq_ok_iff {r : Resolver} :
    p.build = .ok r ↔ p.validate = .ok () ∧ Resolver.build p.pairs p.options = .ok r := by
  rw [build]
  cases p.validate with
  | error e => simp
  | ok u =>
      cases Resolver.build p.pairs p.options with
      | error c => simp [Except.mapError]
      | ok r' => simp [Except.mapError]

theorem labels_of_build {r : Resolver} (h : p.build = .ok r) : r.labels = p.patterns.keys := by
  obtain ⟨hvalid, hbuild⟩ := build_eq_ok_iff.1 h
  have htexts := (validate_eq_ok_iff.1 hvalid).2
  calc r.labels = (p.pairs.map Prod.fst).eraseDups := Resolver.labels_of_build hbuild
    _ = (deduplicate p.pairs).map Prod.fst := (map_fst_deduplicate _).symm
    _ = p.patterns.keys := by rw [deduplicate_pairs htexts, map_fst_pairs htexts]

theorem template?_of_build {r : Resolver} (h : p.build = .ok r) {t : Template} :
    r.template? label = some t ↔
      ∃ pattern, p.patterns.get? label = some (.string pattern) ∧
        Template.compile label pattern p.options = .ok t := by
  obtain ⟨hvalid, hbuild⟩ := build_eq_ok_iff.1 h
  have htexts := (validate_eq_ok_iff.1 hvalid).2
  simp only [Resolver.template?_of_build hbuild, ← mem_deduplicate_iff, deduplicate_pairs htexts,
    mem_pairs_iff]

theorem build_eq_compile_iff (h : p.validate = .ok ()) {e : BuildError} :
    p.build = .error e ↔ ∃ c, e = .compile c ∧ Resolver.build p.pairs p.options = .error c := by
  rw [build_of_validate h]
  cases Resolver.build p.pairs p.options with
  | error c => simp [Except.mapError, eq_comm]
  | ok r => simp [Except.mapError]

theorem eq_of_document {o : Options} (hdocument : Document text o l)
    (h : parse text = .ok p) : p = ⟨o, Catalog.ofList l⟩ := by
  have hparse : parse text = .ok ⟨o, Catalog.ofList l⟩ := parse_eq_ok_iff.2 ⟨l, hdocument, rfl⟩
  exact Except.ok.inj (h.symm.trans hparse)

/-- Loading and making a resolver agree on what is valid. The latter refuses a set exactly if it
has no labels or a value that is no text, and names the first label of such a value. Otherwise no
value is left out, and the resolver is the one of all pairs in order, so that only the first pattern
that does not compile is in its way. A text is loaded exactly if it is read as a valid set. Then no
resolver is refused for its set, and its labels are those of the document in the order in which
they come first, each with the template of its last value. -/
theorem build_agrees_with_load :
    (∀ p : PatternSet,
      ((∃ e, p.build = .error (.invalid e)) ↔
        p.patterns.entries = [] ∨ ∃ e ∈ p.patterns.entries, ¬ IsText e.2) ∧
      (p.build = .error (.invalid .empty) ↔ p.patterns.entries = []) ∧
      (∀ label, p.build = .error (.invalid (.notText label)) ↔
        FirstAt (fun e => IsText e.2) (fun e => e.1 = label ∧ ¬ IsText e.2) p.patterns.entries) ∧
      ((∀ e, p.build ≠ .error (.invalid e)) →
        p.pairs.map (fun pair => (pair.1, Json.string pair.2)) = p.patterns.entries ∧
        p.build = (Resolver.build p.pairs p.options).mapError .compile ∧
        ∀ e, p.build = .error e ↔ ∃ c, e = .compile c ∧
          FirstAt (fun pair => ∃ t, Template.compile pair.1 pair.2 p.options = .ok t)
            (fun pair => Template.compile pair.1 pair.2 p.options = .error c) p.pairs)) ∧
    ∀ text p,
      (load text = .ok p ↔ parse text = .ok p ∧
        p.patterns.entries ≠ [] ∧ ∀ e ∈ p.patterns.entries, IsText e.2) ∧
      (load text = .ok p →
        (∀ e, p.build ≠ .error (.invalid e)) ∧
        (∃ l, Document text p.options l) ∧
        ∀ o l r, Document text o l → p.build = .ok r →
          p.options = o ∧
          r.labels = (l.map Prod.fst).eraseDups ∧
          ∀ label t, r.template? label = some t ↔
            ∃ pattern, l.reverse.lookup label = some (.string pattern) ∧
              Template.compile label pattern o = .ok t) := by
  constructor
  · intro p
    refine ⟨?_, ?_, fun label => ?_, fun hvalid => ?_⟩
    · simp only [build_eq_invalid_iff]
      exact exists_validate_eq_error_iff
    · exact build_eq_invalid_iff.trans validate_eq_empty_iff
    · exact build_eq_invalid_iff.trans validate_eq_notText_iff
    · have hvalid := build_ne_invalid_iff.1 hvalid
      refine ⟨map_pairs (validate_eq_ok_iff.1 hvalid).2, build_of_validate hvalid, fun e => ?_⟩
      rw [build_eq_compile_iff hvalid]
      simp only [Resolver.build_eq_error_iff]
      rfl
  · intro text p
    refine ⟨by rw [load_eq_ok_iff, validate_eq_ok_iff], fun h => ?_⟩
    obtain ⟨hparse, hvalid⟩ := load_eq_ok_iff.1 h
    obtain ⟨l, hdocument, -⟩ := parse_eq_ok_iff.1 hparse
    refine ⟨build_ne_invalid_iff.2 hvalid, ⟨l, hdocument⟩, fun o l r hdocument hbuild => ?_⟩
    obtain rfl := eq_of_document hdocument hparse
    refine ⟨rfl, ?_, fun label t => ?_⟩
    · rw [labels_of_build hbuild, Catalog.keys_ofList]
    · rw [template?_of_build hbuild]
      simp only [Catalog.get?_ofList]

/-- A value that is no text does no harm where another one follows under its label, and prevents a
resolver where none does. -/
theorem build_of_replaced_value :
    let twice := Template.twice.pattern
    let l := [("a", Json.null), ("b", Json.string twice), ("a", Json.string twice)]
    let text := String.ofList (objectText [("patterns", (Json.object l).compactChars)])
    (∃ p r, load text = .ok p ∧ p.build = .ok r ∧ (∀ e, p.build ≠ .error (.invalid e)) ∧
      r.labels = ["a", "b"] ∧ r.template? "a" = some { Template.twice with label := "a" }) ∧
    (⟨{}, Catalog.ofList [("b", .string twice), ("a", .null)]⟩ : PatternSet).build =
      .error (.invalid (.notText "a")) := by
  intro twice l text
  obtain ⟨hsets, htexts⟩ := build_agrees_with_load
  have hcompile : ∀ label, Template.compile label twice {} = .ok { Template.twice with label } :=
    Template.compile_under (Template.compile_twice true)
  have hdocument : Document text {} l := by
    apply document_objectText
    refine ⟨.inl ⟨rfl, rfl⟩, ⟨_, rfl, patternsText_compactChars ?_⟩, ?_⟩
    · simp only [l, List.forall_mem_cons, List.not_mem_nil, false_imp_iff, implies_true, and_true]
      exact ⟨.nullWord, spells_string twice, spells_string twice⟩
    · simp
  constructor
  · let p : PatternSet := ⟨{}, Catalog.ofList l⟩
    have hentries : p.patterns.entries = [("a", .string twice), ("b", .string twice)] := rfl
    have hpairs : p.pairs = [("a", twice), ("b", twice)] := rfl
    have hload : load text = .ok p := by
      apply (htexts text p).1.2
      refine ⟨parse_eq_ok_iff.2 ⟨l, hdocument, rfl⟩, ?_⟩
      rw [hentries]
      simp [IsText]
    obtain ⟨hvalid, -, hlabels⟩ := (htexts text p).2 hload
    obtain ⟨-, hbuild, -⟩ := (hsets p).2.2.2 hvalid
    obtain ⟨r, hr⟩ : ∃ r, Resolver.build p.pairs p.options = .ok r := by
      rw [Resolver.exists_build_iff, hpairs]
      simp only [List.forall_mem_cons, List.not_mem_nil, false_imp_iff, implies_true, and_true]
      exact ⟨⟨_, hcompile "a"⟩, ⟨_, hcompile "b"⟩⟩
    have hr' : p.build = .ok r := by
      rw [hbuild, hr]
      rfl
    obtain ⟨-, hnames, htemplate⟩ := hlabels {} l r hdocument hr'
    refine ⟨p, r, hload, hr', hvalid, hnames, (htemplate "a" _).2 ⟨twice, rfl, hcompile "a"⟩⟩
  · apply ((hsets _).2.2.1 "a").2
    refine ⟨[("b", .string twice)], ("a", .null), [], rfl, ?_, rfl, ?_⟩
    · simp [IsText]
    · simp [IsText]

end PathTemplate.PatternSet
