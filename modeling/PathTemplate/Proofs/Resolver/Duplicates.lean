import PathTemplate.Proofs.Resolver.LabelOrder
import PathTemplate.Proofs.Template.Duplicates

/-!
# Resolving without the duplicate check

A resolver that does not check duplicates answers every question that the
resolver with the check answers, in the same way, and has no mismatches. So it
has every path that the resolver with the check has under a label. It may have
more of them, and its first path may stand under an earlier label. What either
of the two remembers makes no difference.
-/

namespace PathTemplate

theorem Outcome.ofOption_eq_found_iff {α : Type} {found : Option (String × α)} {label : String}
    {value : α} : ofOption found = .found label value ↔ found = some (label, value) := by
  cases found <;> simp [ofOption, Prod.ext_iff]

/-- One session answers what another one answers: it has no mismatches, it resolves what the other
one resolves to the same, and it formats under every label what the other one formats there. -/
structure Session.Relaxes (u s : Session) : Prop where
  noFault : ∀ op, (u.perform op).answer.isFault = false
  resolves : ∀ q : Question, (s.perform q.operation).answer.isFault = false →
    (u.perform q.operation).answer = (s.perform q.operation).answer
  formatsOne : ∀ fields label path,
    (s.perform (.formatOne fields label)).answer = .formattedOne (some path) →
    (u.perform (.formatOne fields label)).answer = .formattedOne (some path)
  formatsAll : ∀ fields all, (s.perform (.formatAll fields)).answer = .formattedAll all →
    ∃ all', (u.perform (.formatAll fields)).answer = .formattedAll all' ∧
      all.entries.Sublist all'.entries
  /-- The first path is a path of its label, and no later label has the first one. -/
  formatsFirst : ∀ fields label path,
    (s.perform (.formatFirst fields)).answer = .formattedFirst (.found label path) →
    (u.perform (.formatOne fields label)).answer = .formattedOne (some path) ∧
      ∃ l p, (u.perform (.formatFirst fields)).answer = .formattedFirst (.found l p) ∧
        (l = label ∧ p = path ∨ s.resolver.Before l label)

namespace Resolver

/-- The same templates and options, but duplicates are not checked. -/
def unchecked (r : Resolver) : Resolver where
  templates := r.templates
  options := { r.options with checkDuplicates := false }

variable {r : Resolver} {path label : String} {fields : Fields}

theorem build_unchecked {pairs : List (String × String)} {options : Options}
    (h : build pairs options = .ok r) :
    build pairs { options with checkDuplicates := false } = .ok r.unchecked := by
  obtain ⟨c, hc, rfl⟩ := build_eq_ok_iff.1 h
  have hcompile := compileAll_checked_enabled options false options.cacheEnabled {} pairs
  exact build_eq_ok_iff.2 ⟨c, hcompile.trans hc, rfl⟩

/-! ## Resolving -/

theorem exists_findOne_unchecked (r : Resolver) (path label : String) :
    ∃ answer, r.unchecked.findOne path label = .ok answer := by
  unfold findOne
  split
  · exact ⟨none, rfl⟩
  · split
    · exact ⟨none, rfl⟩
    · rename_i t ht
      exact t.exists_extract_false path

theorem findOne_unchecked {answer : Option Fields} (h : r.findOne path label = .ok answer) :
    r.unchecked.findOne path label = .ok answer := by
  unfold findOne at h ⊢
  split at h
  · rename_i hpath
    rw [if_pos hpath]
    exact h
  · rename_i hpath
    rw [if_neg hpath]
    have htemplate : r.unchecked.template? label = r.template? label := rfl
    rw [htemplate]
    cases ht : r.template? label with
    | none =>
        rw [ht] at h
        exact h
    | some t =>
        rw [ht] at h
        exact Template.extract_false_of_extract h

section ToldByLabels

variable {labels : List String} {one one' : String → Except Mismatch (Option Fields)}
  {first first' : Except Mismatch Resolved} {all all' : Except Mismatch (Catalog String Fields)}

/-- A first answer stays if every label keeps its answer. -/
theorem ToldByLabels.first_congr (h : ToldByLabels labels one first all)
    (h' : ToldByLabels labels one' first' all')
    (hone : ∀ l answer, one l = .ok answer → one' l = .ok answer) {found : Resolved}
    (hfound : first = .ok found) : first' = .ok found := by
  cases found with
  | found label fields =>
      apply (h'.found_iff label fields).2
      apply ((h.found_iff label fields).1 hfound).imp
      · intro l hl
        exact hone l none hl
      · rintro l ⟨hl, hanswer⟩
        exact ⟨hl, hone l (some fields) hanswer⟩
  | notFound =>
      apply h'.notFound_iff.2
      intro l hl
      exact hone l none (h.notFound_iff.1 hfound l hl)

theorem ToldByLabels.all_congr (h : ToldByLabels labels one first all)
    (h' : ToldByLabels labels one' first' all')
    (hone : ∀ l answer, one l = .ok answer → one' l = .ok answer)
    {found : Catalog String Fields} (hfound : all = .ok found) : all' = .ok found := by
  obtain ⟨hok, hentries⟩ := (h.all_found_iff found).1 hfound
  apply (h'.all_found_iff found).2
  constructor
  · intro l hl
    obtain ⟨answer, hanswer⟩ := hok l hl
    exact ⟨answer, hone l answer hanswer⟩
  · rw [hentries]
    apply List.filterMap_congr
    intro l hl
    obtain ⟨answer, hanswer⟩ := hok l hl
    rw [hanswer, hone l answer hanswer]

/-- Where no label has a mismatch, there is none among the first answer and all answers. -/
theorem ToldByLabels.no_mismatch (h : ToldByLabels labels one first all)
    (hone : ∀ l, ∃ answer, one l = .ok answer) (m : Mismatch) :
    first ≠ .error m ∧ all ≠ .error m := by
  have hnot : ∀ l, one l ≠ .error m := by
    intro l hl
    obtain ⟨answer, hanswer⟩ := hone l
    rw [hanswer] at hl
    cases hl
  constructor
  · rw [Ne, h.mismatch_iff]
    exact not_firstAt_of_forall fun l _ => hnot l
  · rw [Ne, h.all_mismatch_iff]
    exact not_firstAt_of_forall fun l _ => hnot l

end ToldByLabels

/-- Without the check, no question is answered with a mismatch. -/
theorem isFault_unchecked {q : Question} {a : Answer}
    (h : r.unchecked.plainAnswer? q.operation = some a) : a.isFault = false := by
  have hnone : ∀ path m, r.unchecked.findFirst path ≠ .error m ∧
      r.unchecked.findAll path ≠ .error m := fun path =>
    (r.unchecked.toldByLabels path).no_mismatch (r.exists_findOne_unchecked path)
  rw [Bool.eq_false_iff]
  intro hfault
  cases q with
  | first path =>
      cases h
      obtain ⟨m, hm⟩ := Answer.isFault_resolvedFirst.1 hfault
      exact (hnone path m).1 hm
  | one path label =>
      cases h
      obtain ⟨m, hm⟩ := Answer.isFault_resolvedOne.1 hfault
      obtain ⟨answer, hanswer⟩ := r.exists_findOne_unchecked path label
      rw [hanswer] at hm
      cases hm
  | all path =>
      cases h
      obtain ⟨m, hm⟩ := Answer.isFault_resolvedAll.1 hfault
      exact (hnone path m).2 hm

/-- An answer to a question that is not a mismatch is the answer without the check. -/
theorem plainAnswer?_unchecked {q : Question} {a : Answer}
    (h : r.plainAnswer? q.operation = some a) (hok : a.isFault = false) :
    r.unchecked.plainAnswer? q.operation = some a := by
  have htold := r.toldByLabels
  have htold' : ∀ path, ToldByLabels r.labels (r.unchecked.findOne path)
      (r.unchecked.findFirst path) (r.unchecked.findAll path) := r.unchecked.toldByLabels
  cases q with
  | first path =>
      cases h
      cases hfound : r.findFirst path with
      | error m => simp [hfound, Answer.isFault] at hok
      | ok found =>
          have hfound' := (htold path).first_congr (htold' path)
            (fun l answer => findOne_unchecked) hfound
          simp only [Question.operation, plainAnswer?, hfound']
  | one path label =>
      cases h
      cases hanswer : r.findOne path label with
      | error m => simp [hanswer, Answer.isFault] at hok
      | ok answer => simp only [Question.operation, plainAnswer?, findOne_unchecked hanswer]
  | all path =>
      cases h
      cases hfound : r.findAll path with
      | error m => simp [hfound, Answer.isFault] at hok
      | ok found =>
          have hfound' := (htold path).all_congr (htold' path)
            (fun l answer => findOne_unchecked) hfound
          simp only [Question.operation, plainAnswer?, hfound']

/-! ## Formatting -/

theorem plainOne_unchecked (h : r.plainOne fields label = some path) :
    r.unchecked.plainOne fields label = some path := by
  unfold plainOne at h ⊢
  split at h
  · cases h
  · rename_i hempty
    obtain ⟨t, ht, hpath⟩ := Option.bind_eq_some_iff.1 h
    obtain ⟨hrender, hfind⟩ := pathOf_eq_some_iff.1 hpath
    rw [if_neg hempty]
    exact Option.bind_eq_some_iff.2
      ⟨t, ht, pathOf_eq_some_iff.2 ⟨hrender, findOne_unchecked hfind⟩⟩

theorem entries_plainAll_unchecked (hr : r.Labelled) (fields : Fields) :
    (r.plainAll fields).entries.Sublist (r.unchecked.plainAll fields).entries := by
  have hr' : r.unchecked.Labelled := hr
  rw [entries_plainAll hr, entries_plainAll hr']
  apply filterMap_sublist_filterMap
  intro l e he
  obtain ⟨path, hpath, rfl⟩ := Option.map_eq_some_iff.1 he
  rw [plainOne_unchecked hpath, Option.map_some]

theorem plainFirst_eq_findSome? (hr : r.Labelled) (fields : Fields) :
    r.plainFirst fields =
      .ofOption (r.labels.findSome? fun label => (r.plainOne fields label).map (label, ·)) := by
  rw [plainFirst_eq_head hr, entries_plainAll hr, List.head?_filterMap]

/-- Without the check, the first path is the same one or stands under an earlier label. -/
theorem plainFirst_unchecked (hr : r.Labelled) (h : r.plainFirst fields = .found label path) :
    r.plainOne fields label = some path ∧
      ∃ l p, r.unchecked.plainFirst fields = .found l p ∧
        (l = label ∧ p = path ∨ r.Before l label) := by
  have hr' : r.unchecked.Labelled := hr
  have hlabels : r.unchecked.labels = r.labels := rfl
  rw [plainFirst_eq_findSome? hr, Outcome.ofOption_eq_found_iff] at h
  obtain ⟨front, l, back, hsplit, hl, -⟩ := List.findSome?_eq_some_iff.1 h
  obtain ⟨p, hp, heq⟩ := Option.map_eq_some_iff.1 hl
  obtain ⟨rfl, rfl⟩ := Prod.mk.inj heq
  refine ⟨hp, ?_⟩
  simp only [plainFirst_eq_findSome? hr', hlabels, Outcome.ofOption_eq_found_iff]
  rw [hsplit, List.findSome?_append, List.findSome?_cons, plainOne_unchecked hp]
  -- Of the labels in front, which have no path with the check, some may have one without it.
  cases hfront : front.findSome? fun l => (r.unchecked.plainOne fields l).map (l, ·) with
  | none => exact ⟨l, p, rfl, .inl ⟨rfl, rfl⟩⟩
  | some e =>
      obtain ⟨l', hmem, hl'⟩ := List.exists_of_findSome?_eq_some hfront
      obtain ⟨p', -, rfl⟩ := Option.map_eq_some_iff.1 hl'
      exact ⟨l', p', rfl, .inr ⟨front, back, hsplit, hmem⟩⟩

end Resolver

/-! ## Sessions with and without the check -/

theorem Question.exists_plainAnswer? (q : Question) (r : Resolver) :
    ∃ a, r.plainAnswer? q.operation = some a := by
  cases q <;> exact ⟨_, rfl⟩

theorem Session.relaxes_of_faithful {r : Resolver} (h : r.Labelled) {s u : Session}
    (hs : s.resolver = r) (hsc : s.cache.Faithful r) (hu : u.resolver = r.unchecked)
    (huc : u.cache.Faithful r.unchecked) : u.Relaxes s := by
  have hanswer : ∀ op a, r.plainAnswer? op = some a → (s.perform op).answer = a := fun op =>
    (perform_agrees hs hsc op).answer
  have hanswer' : ∀ op a, r.unchecked.plainAnswer? op = some a → (u.perform op).answer = a :=
    fun op => (perform_agrees hu huc op).answer
  constructor
  · intro op
    rw [Bool.eq_false_iff]
    intro hfault
    obtain ⟨q, rfl⟩ := question_of_isFault hfault
    obtain ⟨a, ha⟩ := q.exists_plainAnswer? r.unchecked
    rw [hanswer' _ a ha, Resolver.isFault_unchecked ha] at hfault
    cases hfault
  · intro q hok
    obtain ⟨a, ha⟩ := q.exists_plainAnswer? r
    rw [hanswer _ a ha] at hok ⊢
    exact hanswer' _ a (Resolver.plainAnswer?_unchecked ha hok)
  · intro fields label path hone
    rw [hanswer _ _ rfl, Answer.formattedOne.injEq] at hone
    rw [hanswer' _ _ rfl, Resolver.plainOne_unchecked hone]
  · intro fields all hall
    rw [hanswer _ _ rfl, Answer.formattedAll.injEq] at hall
    subst hall
    exact ⟨_, hanswer' _ _ rfl, Resolver.entries_plainAll_unchecked h fields⟩
  · intro fields label path hfirst
    rw [hanswer _ _ rfl, Answer.formattedFirst.injEq] at hfirst
    obtain ⟨hone, l, p, hfound, hl⟩ := Resolver.plainFirst_unchecked h hfirst
    rw [hanswer' _ _ rfl, Resolver.plainOne_unchecked hone, hs]
    exact ⟨rfl, l, p, by rw [hanswer' _ _ rfl, hfound], hl⟩

/-- Checking duplicates only refuses. In a path that a template matches, it refuses exactly if a
value differs from an earlier one of its placeholder, reports the first of these values, and leaves
every other answer as it is without the check, where the last value of a placeholder counts. So a
resolver that is made without the check has no mismatches and answers after any operations what the
resolver with the check answers after any others. -/
theorem duplicate_check_only_refuses :
    (∀ (t : Template) (path : String) (m : Regex.Match), path ≠ "" →
      t.regex.find? path = some m →
      Template.ChecksDuplicates (t.values m) (t.extract path true) (t.extract path false)) ∧
    ∀ (pairs : List (String × String)) (options : Options) (r : Resolver),
      Resolver.build pairs options = .ok r →
      Resolver.build pairs { options with checkDuplicates := false } = .ok r.unchecked ∧
      ∀ ops ops' : List Operation,
        ((Session.start r.unchecked).final ops').Relaxes ((Session.start r).final ops) := by
  constructor
  · intro t path m hpath hm
    exact Template.checksDuplicates hpath hm
  · intro pairs options r h
    refine ⟨Resolver.build_unchecked h, ?_⟩
    intro ops ops'
    obtain ⟨hs, hsc⟩ := Session.final_start_faithful r ops
    obtain ⟨hu, huc⟩ := Session.final_start_faithful r.unchecked ops'
    exact Session.relaxes_of_faithful (Resolver.labelled_of_build h) hs hsc hu huc

/-- A path whose second segment differs from the first one is refused, and other paths are resolved
without the check as they are with it. -/
theorem duplicate_check_of_twice :
    ("x/y" ≠ "" ∧ ∃ m, Regex.twice.find? "x/y" = some m ∧
      Template.twice.values m = [("a", "x"), ("a", "y")]) ∧
    Template.twice.extract "x/y" true = .error ⟨"a", "x", "y"⟩ ∧
    Resolver.build [("twice", Template.twice.pattern)] {} = .ok (Resolver.twice true) ∧
    (((Session.start (Resolver.twice true).unchecked).final [.setCacheEnabled false]).perform
      (.resolveOne "x/x" "twice")).answer =
        .resolvedOne (.ok (some (Fields.ofList [("a", "x")]))) := by
  obtain ⟨hchecks, hrelaxes⟩ := duplicate_check_only_refuses
  have hvalues : (Regex.twice.find? "x/y").map Template.twice.values =
      some [("a", "x"), ("a", "y")] := by
    cbv
  obtain ⟨m, hm, hmvalues⟩ := Option.map_eq_some_iff.1 hvalues
  have hcheck := hchecks Template.twice "x/y" m (by decide) hm
  rw [hmvalues] at hcheck
  have hresolved : (((Session.start (Resolver.twice true)).final []).perform
      (.resolveOne "x/x" "twice")).answer =
        .resolvedOne (.ok (some (Fields.ofList [("a", "x")]))) := by
    cbv
  refine ⟨⟨by decide, m, hm, hmvalues⟩, ?_, Resolver.build_twice true, ?_⟩
  · obtain ⟨e, he⟩ := hcheck.refused_iff.2 ⟨1, 0, "a", "x", "y", by decide, rfl, rfl, by decide⟩
    obtain ⟨j, ⟨i, -, -, -, hij, -⟩, -, hj, hfirst⟩ := hcheck.reported e he
    have hj1 : j = 1 := by
      have hlt : j < 2 := (List.getElem?_eq_some_iff.1 hj).1
      omega
    subst hj1
    obtain ⟨placeholder, first, second⟩ := e
    cases hj
    cases hfirst
    exact he
  · rw [← hresolved]
    apply ((hrelaxes _ {} _ (Resolver.build_twice true)).2 [] [.setCacheEnabled false]).resolves
      (.one "x/x" "twice")
    show Answer.isFault (((Session.start (Resolver.twice true)).final []).perform
      (.resolveOne "x/x" "twice")).answer = false
    rw [hresolved]
    rfl

end PathTemplate
