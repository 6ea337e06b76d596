import PathTemplate.Proofs.Lists
import PathTemplate.Proofs.Resolver.Separated

/-!
# What a resolver is made of

A resolver is made of pairs of labels and patterns. Each pair has to compile,
also one whose label is given another pattern later, and the first one that does
not is reported. Then the labels stand in the order in which they come first,
each with the template of its last pattern. So the same resolver is made of the
pairs without repeated labels.
-/

namespace PathTemplate.Resolver

variable {pairs : List (String × String)} {options : Options} {r : Resolver}

/-- A pair compiles. -/
def Compiles (options : Options) (p : String × String) : Prop :=
  ∃ t, Template.compile p.1 p.2 options = .ok t

/-! ## Faults -/

theorem compileAll_eq_error_iff (done : Compiled) {e : CompileError} :
    compileAll options done pairs = .error e ↔
      FirstAt (Compiles options) (fun p => Template.compile p.1 p.2 options = .error e) pairs := by
  induction pairs generalizing done with
  | nil =>
      apply iff_of_false
      · intro h
        cases h
      · exact not_firstAt_nil
  | cons p rest ih =>
      rw [firstAt_cons, compileAll, Compiles]
      cases hp : Template.compile p.1 p.2 options with
      | error e' => simp
      | ok t => simp [ih]

theorem exists_compileAll_iff (done : Compiled) :
    (∃ c, compileAll options done pairs = .ok c) ↔ ∀ p ∈ pairs, Compiles options p := by
  induction pairs generalizing done with
  | nil => simp [compileAll]
  | cons p rest ih =>
      rw [List.forall_mem_cons, compileAll, Compiles]
      cases hp : Template.compile p.1 p.2 options with
      | error e => simp
      | ok t => simp [ih]

theorem build_eq_error_iff {e : CompileError} :
    build pairs options = .error e ↔
      FirstAt (Compiles options) (fun p => Template.compile p.1 p.2 options = .error e) pairs := by
  rw [← compileAll_eq_error_iff {}]
  unfold build buildTraced
  cases compileAll options {} pairs with
  | error e' => simp [Except.map]
  | ok c => simp [Except.map]

theorem exists_build_iff :
    (∃ r, build pairs options = .ok r) ↔ ∀ p ∈ pairs, Compiles options p := by
  rw [← exists_compileAll_iff {}]
  constructor
  · rintro ⟨r, hr⟩
    obtain ⟨c, hc, -⟩ := build_eq_ok_iff.1 hr
    exact ⟨c, hc⟩
  · rintro ⟨c, hc⟩
    exact ⟨_, build_eq_ok_iff.2 ⟨c, hc, rfl⟩⟩

/-! ## Templates -/

/-- Templates that were compiled from pairs, in order. -/
def CompiledInOrder (options : Options) :
    List (String × String) → List (String × Template) → Prop :=
  List.Forall₂ fun p e => e.1 = p.1 ∧ Template.compile p.1 p.2 options = .ok e.2

theorem CompiledInOrder.map_fst {entries : List (String × Template)}
    (h : CompiledInOrder options pairs entries) :
    entries.map Prod.fst = pairs.map Prod.fst := by
  induction h with
  | nil => rfl
  | cons hp _ ih => rw [List.map_cons, List.map_cons, hp.1, ih]

/-- A label has the template of its first pattern. -/
theorem CompiledInOrder.lookup {entries : List (String × Template)}
    (h : CompiledInOrder options pairs entries) {label : String} {t : Template} :
    entries.lookup label = some t ↔
      ∃ pattern, pairs.lookup label = some pattern ∧
        Template.compile label pattern options = .ok t := by
  induction h with
  | nil => simp
  | @cons p e _ _ hp _ ih =>
      rw [List.lookup_cons, List.lookup_cons, hp.1]
      by_cases hlabel : label = p.1
      · subst hlabel
        simp [hp.2, eq_comm]
      · rw [beq_false_of_ne hlabel]
        exact ih

/-- The templates are those of the pairs, one put in after the other. -/
theorem exists_compiledInOrder {done c : Compiled}
    (h : compileAll options done pairs = .ok c) :
    ∃ entries, CompiledInOrder options pairs entries ∧
      c.templates = entries.foldl (fun c e => c.insert e.1 e.2) done.templates := by
  induction pairs generalizing done with
  | nil =>
      cases h
      exact ⟨[], .nil, rfl⟩
  | cons p rest ih =>
      rw [compileAll] at h
      cases hp : Template.compile p.1 p.2 options with
      | error e =>
          rw [hp] at h
          cases h
      | ok t =>
          rw [hp] at h
          obtain ⟨entries, hentries, htemplates⟩ := ih h
          exact ⟨(p.1, t) :: entries, .cons ⟨rfl, hp⟩ hentries, htemplates⟩

theorem exists_templates_of_build (h : build pairs options = .ok r) :
    ∃ entries, CompiledInOrder options pairs entries ∧ r.templates = Catalog.ofList entries := by
  obtain ⟨c, hc, rfl⟩ := build_eq_ok_iff.1 h
  exact exists_compiledInOrder hc

theorem labels_of_build (h : build pairs options = .ok r) :
    r.labels = (pairs.map Prod.fst).eraseDups := by
  obtain ⟨entries, hentries, htemplates⟩ := exists_templates_of_build h
  rw [labels, htemplates, Catalog.keys_ofList, hentries.map_fst]

/-- A label has the template of its last pattern. -/
theorem template?_of_build (h : build pairs options = .ok r) {label : String} {t : Template} :
    r.template? label = some t ↔
      ∃ pattern, pairs.reverse.lookup label = some pattern ∧
        Template.compile label pattern options = .ok t := by
  obtain ⟨entries, hentries, htemplates⟩ := exists_templates_of_build h
  rw [template?, htemplates, Catalog.get?_ofList]
  exact CompiledInOrder.lookup (List.forall₂_reverse_iff.2 hentries)

/-- The pairs without repeated labels make the same resolver. -/
theorem build_deduplicate (h : build pairs options = .ok r) :
    build (deduplicate pairs) options = .ok r := by
  have hcompiles : ∀ p ∈ deduplicate pairs, Compiles options p := by
    intro p hp
    exact exists_build_iff.1 ⟨r, h⟩ p (mem_of_mem_deduplicate hp)
  obtain ⟨r', hr'⟩ := exists_build_iff.2 hcompiles
  have hkeys : r'.templates.keys = r.templates.keys :=
    calc r'.labels = ((deduplicate pairs).map Prod.fst).eraseDups := labels_of_build hr'
      _ = (deduplicate (deduplicate pairs)).map Prod.fst := (map_fst_deduplicate _).symm
      _ = (pairs.map Prod.fst).eraseDups := by
        rw [deduplicate_deduplicate, map_fst_deduplicate]
      _ = r.labels := (labels_of_build h).symm
  have hget : ∀ label, r'.template? label = r.template? label := by
    intro label
    ext t
    rw [template?_of_build hr', template?_of_build h]
    simp only [← mem_deduplicate_iff, deduplicate_deduplicate]
  have heq : r' = r := by
    have htemplates : r'.templates = r.templates := Catalog.ext_get? hkeys hget
    have hoptions : r'.options = r.options :=
      (options_of_build hr').trans (options_of_build h).symm
    cases r'
    cases r
    simp_all
  rw [hr', heq]

/-- A resolver is made exactly if every pair compiles, also those whose labels are given another
pattern later, and otherwise the fault of the first pair that does not compile is returned. Its
labels stand in the order in which they come first, each has the template of its last pattern, and
every template carries the label that it stands under. After any operations it answers what the
resolver answers that is made of the pairs without repeated labels, and remembers as much. -/
theorem build_follows_pairs (pairs : List (String × String)) (options : Options) :
    ((∃ r, build pairs options = .ok r) ↔
      ∀ p ∈ pairs, ∃ t, Template.compile p.1 p.2 options = .ok t) ∧
    (∀ e, build pairs options = .error e ↔
      FirstAt (fun p => ∃ t, Template.compile p.1 p.2 options = .ok t)
        (fun p => Template.compile p.1 p.2 options = .error e) pairs) ∧
    ∀ r, build pairs options = .ok r →
      r.labels = (pairs.map Prod.fst).eraseDups ∧
      (∀ label t, r.template? label = some t ↔
        ∃ pattern, pairs.reverse.lookup label = some pattern ∧
          Template.compile label pattern options = .ok t) ∧
      (∀ label t, r.template? label = some t → t.label = label) ∧
      ∃ r', build (deduplicate pairs) options = .ok r' ∧ ∀ ops op,
        let s := (Session.start r).final ops
        let s' := (Session.start r').final ops
        (s'.perform op).answer = (s.perform op).answer ∧ s'.cache.size = s.cache.size := by
  refine ⟨exists_build_iff, fun e => build_eq_error_iff, fun r h => ?_⟩
  refine ⟨labels_of_build h, fun label t => template?_of_build h, fun label t => label_of_build h,
    r, build_deduplicate h, fun ops op => ⟨rfl, rfl⟩⟩

/-- A closing brace that stands alone is found in the format string. -/
theorem compile_unbalanced :
    Template.compile "a" "\x7ba\x7d\x7d" {} =
      .error ⟨"a", "\x7ba\x7d\x7d", .format "\x7ba\x7d\x7d" .loneClose⟩ := by
  have hscan : Segment.scan "\x7ba\x7d\x7d" = [.placeholder "a" none, .literal "\x7d"] := by
    cbv
  have hs : Segment.expression {} (Segment.scan "\x7ba\x7d\x7d") =
      .ok ("^(?P<a001>[^/]*)\x7d$", [⟨"a001", "a"⟩]) := by
    rw [hscan]
    rfl
  have hsource : Segment.formatSource (Segment.scan "\x7ba\x7d\x7d") = "\x7ba\x7d\x7d" := by
    cbv
  have hf : Format.parse "\x7ba\x7d\x7d" = .error .loneClose := by
    cbv
  simp only [Template.compile, Template.compileFault, hs, hsource, hf, bind, Except.bind,
    Except.mapError]

/-- The first pattern of a label that is given twice is replaced in its place, but nothing is made
if it does not compile. -/
theorem build_of_replaced :
    let mirror := Template.mirror.pattern
    let twice := Template.twice.pattern
    let unbalanced := "\x7ba\x7d\x7d"
    (∀ p ∈ [("a", mirror), ("b", twice), ("a", twice)],
      ∃ t, Template.compile p.1 p.2 {} = .ok t) ∧
    (∃ r, build [("a", mirror), ("b", twice), ("a", twice)] {} = .ok r ∧
      r.labels = ["a", "b"] ∧
      r.template? "a" = some { Template.twice with label := "a" } ∧
      ∃ r', build [("a", twice), ("b", twice)] {} = .ok r' ∧
        ((Session.start r').perform (.resolveAll "x/x")).answer =
          ((Session.start r).perform (.resolveAll "x/x")).answer) ∧
    build [("b", twice), ("a", unbalanced), ("a", twice)] {} =
      .error ⟨"a", unbalanced, .format unbalanced .loneClose⟩ := by
  intro mirror twice unbalanced
  have htwice : ∀ label, Template.compile label twice {} = .ok { Template.twice with label } :=
    Template.compile_under (Template.compile_twice true)
  have hcompiles : ∀ p ∈ [("a", mirror), ("b", twice), ("a", twice)],
      ∃ t, Template.compile p.1 p.2 {} = .ok t := by
    have hmirror := Template.compile_under Template.compile_mirror "a"
    simp only [List.forall_mem_cons, List.not_mem_nil, false_imp_iff, implies_true, and_true]
    exact ⟨⟨_, hmirror⟩, ⟨_, htwice "b"⟩, ⟨_, htwice "a"⟩⟩
  obtain ⟨hmade, -, hparts⟩ := build_follows_pairs [("a", mirror), ("b", twice), ("a", twice)] {}
  obtain ⟨r, hr⟩ := hmade.2 hcompiles
  obtain ⟨hlabels, htemplate, -, r', hr', hsame⟩ := hparts r hr
  refine ⟨hcompiles, ⟨r, hr, hlabels, ?_, r', hr', (hsame [] (.resolveAll "x/x")).1⟩, ?_⟩
  · exact (htemplate "a" _).2 ⟨twice, rfl, htwice "a"⟩
  · obtain ⟨-, hfault, -⟩ :=
      build_follows_pairs [("b", twice), ("a", unbalanced), ("a", twice)] {}
    apply (hfault _).2
    refine ⟨[("b", twice)], ("a", unbalanced), [("a", twice)], rfl, ?_, compile_unbalanced⟩
    intro p hp
    obtain rfl := List.mem_singleton.1 hp
    exact ⟨_, htwice "b"⟩

end PathTemplate.Resolver
