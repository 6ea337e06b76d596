import PathTemplate.Proofs.Resolver.CacheTransparency
import PathTemplate.Proofs.Template.Rendering

/-!
# What is formatted is resolved again

A path counts as formatted only if the same template resolves it to the same
fields. That resolution asks under the label that the template carries, which is
the label that it stands under, so the law holds of every answer of a session,
and it goes on holding whatever is asked of the session later.
-/

namespace PathTemplate

namespace Resolver

variable {r : Resolver} {path label : String} {fields : Fields}

theorem pathOf_eq_some_iff {t : Template} :
    r.pathOf t fields = some path ↔
      t.render fields = some path ∧ r.findOne path t.label = .ok (some fields) := by
  unfold pathOf
  cases t.render fields with
  | none => simp
  | some p =>
      have hanswer : (r.findOne p t.label).toOption = some (some fields) ↔
          r.findOne p t.label = .ok (some fields) := by
        cases r.findOne p t.label with
        | error m => simp [Except.toOption]
        | ok answer => simp [Except.toOption]
      simp only [hanswer, Option.ite_none_right_eq_some, Option.some.injEq]
      constructor
      · rintro ⟨h, rfl⟩
        exact ⟨rfl, h⟩
      · rintro ⟨rfl, h⟩
        exact ⟨h, rfl⟩

/-- When the template under a label has a path for fields. -/
theorem plainOne_eq_some_iff (hlabel : ∀ t, r.template? label = some t → t.label = label) :
    r.plainOne fields label = some path ↔
      fields.isEmpty = false ∧ ∃ t, r.template? label = some t ∧ fields.keys = t.keys ∧
        t.format.fill fields = some path ∧ r.findOne path label = .ok (some fields) := by
  unfold plainOne
  cases hempty : fields.isEmpty with
  | true => simp
  | false =>
      cases ht : r.template? label with
      | none => simp
      | some t =>
          simp only [Bool.false_eq_true, if_false, Option.bind_some, pathOf_eq_some_iff,
            Template.render_eq_some_iff, hlabel t ht, Option.some.injEq, true_and]
          constructor
          · rintro ⟨⟨hkeys, hfill⟩, hfind⟩
            exact ⟨t, rfl, hkeys, hfill, hfind⟩
          · rintro ⟨_, rfl, hkeys, hfill, hfind⟩
            exact ⟨⟨hkeys, hfill⟩, hfind⟩

/-- All answers contain the one that a label gives alone. -/
theorem findAll_get?_of_findOne (h : r.findOne path label = .ok (some fields))
    {found : Catalog String Fields} (hall : r.findAll path = .ok found) :
    found.get? label = some fields := by
  obtain ⟨t, ht, hextract⟩ := extract_of_findOne h
  rw [findAll, if_neg (ne_empty_of_findOne h)] at hall
  have hnodup : ((Catalog.empty : Catalog String Fields).keys ++
      r.templates.entries.map Prod.fst).Nodup := r.templates.nodup
  rw [Catalog.get?_eq_some_iff, allOf_entries hall hnodup]
  refine List.mem_append_right _ (List.mem_filterMap.2 ⟨_, mem_entries_of_template ht, ?_⟩)
  simp [fieldsOf, hextract]

theorem before_of_mem {front back : List (String × Template)} {e e' : String × Template}
    (h : r.templates.entries = front ++ e :: back) (he' : e' ∈ front) : r.Before e'.1 e.1 := by
  refine ⟨front.map Prod.fst, back.map Prod.fst, ?_, List.mem_map_of_mem he'⟩
  rw [labels, Catalog.keys, h, List.map_append, List.map_cons]

/-- The first answer stands at the label that finds fields or before it. -/
theorem findFirst_of_findOne (h : r.findOne path label = .ok (some fields)) :
    (∃ l found, r.findFirst path = .ok (.found l found) ∧
      (l = label ∧ found = fields ∨ r.Before l label)) ∨
    (∃ l m, r.findFirst path = .error m ∧ r.Before l label ∧ r.findOne path l = .error m) := by
  have hpath := ne_empty_of_findOne h
  obtain ⟨t, ht, hextract⟩ := extract_of_findOne h
  obtain ⟨front, back, hsplit⟩ := List.append_of_mem (mem_entries_of_template ht)
  rw [findFirst, if_neg hpath, hsplit]
  rcases firstOf_of_extract (e := (label, t)) hextract with
    hown | ⟨e, he, found, hfound⟩ | ⟨e, he, m, hm, herror⟩
  · exact .inl ⟨label, fields, hown, .inl ⟨rfl, rfl⟩⟩
  · exact .inl ⟨e.1, found, hfound, .inr (before_of_mem hsplit he)⟩
  · have hmem : e ∈ r.templates.entries := by
      rw [hsplit]
      exact List.mem_append_left _ he
    refine .inr ⟨e.1, m, herror, before_of_mem hsplit he, ?_⟩
    rw [findOne_of_template hpath (template_of_mem_entries hmem)]
    exact hm

end Resolver

/-- What a session says about a path that the template under a label made of fields: the label
finds the fields, all answers contain them, and the first answer is at the label or before. -/
structure Session.Returns (s : Session) (path label : String) (fields : Fields) : Prop where
  one : (s.perform (.resolveOne path label)).answer = .resolvedOne (.ok (some fields))
  all : ∀ found, (s.perform (.resolveAll path)).answer = .resolvedAll (.ok found) →
    found.get? label = some fields
  first :
    (∃ l found, (s.perform (.resolveFirst path)).answer = .resolvedFirst (.ok (.found l found)) ∧
      (l = label ∧ found = fields ∨ s.resolver.Before l label)) ∨
    (∃ l m, (s.perform (.resolveFirst path)).answer = .resolvedFirst (.error m) ∧
      s.resolver.Before l label ∧
      (s.perform (.resolveOne path l)).answer = .resolvedOne (.error m))

namespace Session

variable {s : Session} {r : Resolver} {path label : String} {fields : Fields}

theorem resolveOne_answer (hr : s.resolver = r) (hc : s.cache.Faithful r) (path label : String) :
    (s.perform (.resolveOne path label)).answer = .resolvedOne (r.findOne path label) :=
  (perform_agrees hr hc _).answer _ rfl

theorem formatOne_answer (hr : s.resolver = r) (hc : s.cache.Faithful r) (fields : Fields)
    (label : String) :
    (s.perform (.formatOne fields label)).answer = .formattedOne (r.plainOne fields label) :=
  (perform_agrees hr hc _).answer _ rfl

theorem returns_of_findOne (hr : s.resolver = r) (hc : s.cache.Faithful r)
    (h : r.findOne path label = .ok (some fields)) : s.Returns path label fields where
  one := by rw [resolveOne_answer hr hc, h]
  all found hfound := by
    rw [(perform_agrees hr hc (.resolveAll path)).answer _ rfl, Answer.resolvedAll.injEq] at hfound
    exact Resolver.findAll_get?_of_findOne h hfound
  first := by
    rw [(perform_agrees hr hc (.resolveFirst path)).answer _ rfl, hr]
    rcases Resolver.findFirst_of_findOne h with ⟨l, found, hfound, hl⟩ | ⟨l, m, hm, hl, hone⟩
    · exact .inl ⟨l, found, by rw [hfound], hl⟩
    · exact .inr ⟨l, m, by rw [hm], hl, by rw [resolveOne_answer hr hc, hone]⟩

/-- After any run, fields have a path under a label exactly if they are not empty, have the names
of the template, fill its format string to the path, and are what the label finds in that path.
Whatever is asked later, the session then still returns the fields. -/
theorem formatOne_eq_some_iff_and_returns {pairs : List (String × String)} {options : Options}
    (h : Resolver.build pairs options = .ok r) (earlier : List Operation) (fields : Fields)
    (label path : String) :
    let s := (start r).final earlier
    let formatted := s.perform (.formatOne fields label)
    (formatted.answer = .formattedOne (some path) ↔
      fields.isEmpty = false ∧ ∃ t, r.template? label = some t ∧ fields.keys = t.keys ∧
        t.format.fill fields = some path ∧
        (s.perform (.resolveOne path label)).answer = .resolvedOne (.ok (some fields))) ∧
    (formatted.answer = .formattedOne (some path) →
      ∀ later : List Operation, (formatted.session.final later).Returns path label fields) := by
  intro s formatted
  obtain ⟨hr, hc⟩ := final_start_faithful r earlier
  have hlabel : ∀ t, r.template? label = some t → t.label = label :=
    fun t ht => Resolver.label_of_build h ht
  have hanswer : formatted.answer = .formattedOne (some path) ↔
      r.plainOne fields label = some path := by
    rw [formatOne_answer hr hc, Answer.formattedOne.injEq]
  rw [hanswer, Resolver.plainOne_eq_some_iff hlabel]
  refine ⟨?_, ?_⟩
  · rw [resolveOne_answer hr hc]
    simp only [Answer.resolvedOne.injEq]
  · rintro ⟨-, t, -, -, -, hfind⟩ later
    have step := perform_agrees hr hc (.formatOne fields label)
    obtain ⟨hr', hc'⟩ := final_faithful step.resolver step.cache later
    exact returns_of_findOne hr' hc' hfind

/-- A path made of fields returns them after the cache has been turned off. -/
theorem returns_of_twice :
    Resolver.build [("twice", Template.twice.pattern)] {} = .ok (Resolver.twice true) ∧
      let s := (start (Resolver.twice true)).final [.resolveAll "x/y"]
      let formatted := s.perform (.formatOne (Fields.ofList [("a", "x")]) "twice")
      formatted.answer = .formattedOne (some "x/x") ∧
        (formatted.session.final [.setCacheEnabled false]).Returns "x/x" "twice"
          (Fields.ofList [("a", "x")]) := by
  refine ⟨Resolver.build_twice true, ?_⟩
  intro s formatted
  have hanswer : formatted.answer = .formattedOne (some "x/x") := by
    cbv
  exact ⟨hanswer, (formatOne_eq_some_iff_and_returns (Resolver.build_twice true)
    [.resolveAll "x/y"] (Fields.ofList [("a", "x")]) "twice" "x/x").2 hanswer _⟩

end Session

end PathTemplate
