import Mathlib
import PathTemplate.Proofs.Catalog
import PathTemplate.Proofs.Template.Compile

/-!
# The templates of a resolver

Every template of a resolver was compiled under the label that it stands under,
with the options of the resolver. What the resolver finds in a path is told from
what its templates extract, one after the other.
-/

namespace PathTemplate.Resolver

variable {r : Resolver} {pairs : List (String × String)} {options : Options}

/-! ## Construction -/

/-- Every template was compiled under its label. -/
theorem compileAll_templates {done c : Compiled}
    (h : compileAll options done pairs = .ok c)
    (hdone : ∀ label t, done.templates.get? label = some t →
      ∃ pattern, Template.compile label pattern options = .ok t) :
    ∀ label t, c.templates.get? label = some t →
      ∃ pattern, Template.compile label pattern options = .ok t := by
  induction pairs generalizing done with
  | nil =>
      cases h
      exact hdone
  | cons pair rest ih =>
      obtain ⟨label, pattern⟩ := pair
      rw [compileAll] at h
      split at h
      · cases h
      · rename_i t ht
        exact ih h (Catalog.forall_get?_insert hdone ⟨pattern, ht⟩)

/-- Templates are compiled in the same way whether duplicates are checked and answers are
remembered or not. -/
theorem compileAll_checked_enabled (options : Options) (checked enabled : Bool) (done : Compiled)
    (pairs : List (String × String)) :
    compileAll { options with checkDuplicates := checked, cacheEnabled := enabled } done pairs =
      compileAll options done pairs := by
  have hcompile : ∀ label pattern,
      Template.compile label pattern
          { options with checkDuplicates := checked, cacheEnabled := enabled } =
        Template.compile label pattern options :=
    fun _ _ => rfl
  induction pairs generalizing done with
  | nil => rfl
  | cons pair rest ih => simp only [compileAll, hcompile, ih]

/-- A resolver has the compiled templates and the options that it was made with. -/
theorem build_eq_ok_iff :
    build pairs options = .ok r ↔
      ∃ c, compileAll options {} pairs = .ok c ∧ r = ⟨c.templates, options⟩ := by
  unfold build buildTraced
  cases compileAll options {} pairs with
  | error e => simp [Except.map]
  | ok c => simp [Except.map, eq_comm]

theorem options_of_build (h : build pairs options = .ok r) : r.options = options := by
  obtain ⟨c, -, rfl⟩ := build_eq_ok_iff.1 h
  rfl

theorem compiled_of_build (h : build pairs options = .ok r) {label : String} {t : Template}
    (ht : r.template? label = some t) :
    ∃ pattern, Template.compile label pattern options = .ok t := by
  obtain ⟨c, hc, rfl⟩ := build_eq_ok_iff.1 h
  refine compileAll_templates hc ?_ label t ht
  intro l u hu
  cases hu

/-- A template carries the label that it stands under. -/
theorem label_of_build (h : build pairs options = .ok r) {label : String} {t : Template}
    (ht : r.template? label = some t) : t.label = label := by
  obtain ⟨pattern, hc⟩ := compiled_of_build h ht
  exact (Template.compiledFrom_of_compile hc).label_eq

/-- Every template carries the label that it stands under. -/
def Labelled (r : Resolver) : Prop :=
  ∀ label t, r.template? label = some t → t.label = label

theorem labelled_of_build (h : build pairs options = .ok r) : r.Labelled :=
  fun _ _ ht => label_of_build h ht

/-! ## Resolving -/

/-- The fields that an entry finds in a path, under its label. -/
def fieldsOf (r : Resolver) (path : String) (e : String × Template) : Option (String × Fields) :=
  match r.extract e.2 path with
  | .ok (some fields) => some (e.1, fields)
  | _ => none

/-- A label stands before another one. -/
def Before (r : Resolver) (earlier label : String) : Prop :=
  ∃ front back, r.labels = front ++ label :: back ∧ earlier ∈ front

/-- The empty path has no fields. -/
theorem ne_empty_of_findOne {path label : String} {fields : Fields}
    (h : r.findOne path label = .ok (some fields)) : path ≠ "" := by
  rintro rfl
  simp [findOne] at h

theorem findOne_of_template {path label : String} {t : Template} (hpath : path ≠ "")
    (ht : r.template? label = some t) : r.findOne path label = r.extract t path := by
  simp [findOne, hpath, ht]

/-- Fields are found by the template under the label. -/
theorem extract_of_findOne {path label : String} {fields : Fields}
    (h : r.findOne path label = .ok (some fields)) :
    ∃ t, r.template? label = some t ∧ r.extract t path = .ok (some fields) := by
  cases ht : r.template? label with
  | none => simp [findOne, ht] at h
  | some t => exact ⟨t, rfl, findOne_of_template (ne_empty_of_findOne h) ht ▸ h⟩

theorem mem_entries_of_template {label : String} {t : Template} (ht : r.template? label = some t) :
    (label, t) ∈ r.templates.entries :=
  Catalog.get?_eq_some_iff.1 ht

theorem template_of_mem_entries {e : String × Template} (he : e ∈ r.templates.entries) :
    r.template? e.1 = some e.2 :=
  Catalog.get?_eq_some_iff.2 he

theorem Labelled.map_label (hr : r.Labelled) :
    r.templates.values.map Template.label = r.labels := by
  rw [Catalog.values, List.map_map]
  exact List.map_congr_left fun e he => hr e.1 e.2 (template_of_mem_entries he)

theorem Labelled.mem_values_iff (hr : r.Labelled) {t : Template} :
    t ∈ r.templates.values ↔ r.template? t.label = some t := by
  rw [Catalog.values, List.mem_map]
  constructor
  · rintro ⟨e, he, rfl⟩
    have ht := template_of_mem_entries he
    rwa [hr e.1 e.2 ht]
  · intro ht
    exact ⟨_, mem_entries_of_template ht, rfl⟩

/-- If an entry finds fields, the first answer is its own, or an entry in front of it gave one,
or an entry in front of it failed. -/
theorem firstOf_of_extract {path : String} {front back : List (String × Template)}
    {e : String × Template} {fields : Fields} (h : r.extract e.2 path = .ok (some fields)) :
    (r.firstOf path (front ++ e :: back) = .ok (.found e.1 fields)) ∨
    (∃ e' ∈ front, ∃ found, r.firstOf path (front ++ e :: back) = .ok (.found e'.1 found)) ∨
    (∃ e' ∈ front, ∃ m, r.extract e'.2 path = .error m ∧
      r.firstOf path (front ++ e :: back) = .error m) := by
  induction front with
  | nil =>
      refine .inl ?_
      rw [List.nil_append, firstOf, h]
  | cons f front ih =>
      cases hf : r.extract f.2 path with
      | error m =>
          refine .inr (.inr ⟨f, List.mem_cons_self, m, hf, ?_⟩)
          rw [List.cons_append, firstOf, hf]
      | ok answer =>
          cases answer with
          | some found =>
              refine .inr (.inl ⟨f, List.mem_cons_self, found, ?_⟩)
              rw [List.cons_append, firstOf, hf]
          | none =>
              have hstep : r.firstOf path (f :: front ++ e :: back) =
                  r.firstOf path (front ++ e :: back) := by
                rw [List.cons_append, firstOf, hf]
              rw [hstep]
              rcases ih with hown | ⟨e', he', found, hfound⟩ | ⟨e', he', m, hm, herror⟩
              · exact .inl hown
              · exact .inr (.inl ⟨e', List.mem_cons_of_mem _ he', found, hfound⟩)
              · exact .inr (.inr ⟨e', List.mem_cons_of_mem _ he', m, hm, herror⟩)

/-- All answers are those of the entries that find fields, in order. -/
theorem allOf_entries {path : String} {entries : List (String × Template)}
    {before found : Catalog String Fields} (h : r.allOf path entries before = .ok found)
    (hnew : (before.keys ++ entries.map Prod.fst).Nodup) :
    found.entries = before.entries ++ entries.filterMap (r.fieldsOf path) := by
  induction entries generalizing before with
  | nil =>
      cases h
      simp
  | cons e rest ih =>
      rw [allOf] at h
      cases he : r.extract e.2 path with
      | error m => simp [he] at h
      | ok answer =>
          rw [List.map_cons, List.nodup_append] at hnew
          obtain ⟨hbefore, hrest, hdisjoint⟩ := hnew
          rw [List.nodup_cons] at hrest
          cases answer with
          | none =>
              simp only [he] at h
              have hfields : r.fieldsOf path e = none := by simp [fieldsOf, he]
              rw [List.filterMap_cons_none hfields]
              refine ih h (List.nodup_append.2 ⟨hbefore, hrest.2, ?_⟩)
              intro a ha b hb
              exact hdisjoint a ha b (List.mem_cons_of_mem _ hb)
          | some fields =>
              simp only [he] at h
              have hfields : r.fieldsOf path e = some (e.1, fields) := by simp [fieldsOf, he]
              have hnot : e.1 ∉ before.keys := by
                intro hmem
                exact hdisjoint e.1 hmem e.1 List.mem_cons_self rfl
              have hentries := Catalog.entries_insert_of_notMem hnot fields
              have hkeys : (before.insert e.1 fields).keys = before.keys ++ [e.1] := by
                rw [Catalog.keys_insert, if_neg hnot]
              rw [List.filterMap_cons_some hfields, ih h, hentries, List.append_assoc]
              · rfl
              · rw [hkeys, List.append_assoc]
                exact List.nodup_append.2 ⟨hbefore, List.nodup_cons.2 hrest, hdisjoint⟩

end PathTemplate.Resolver

/-! ## A small resolver -/

namespace PathTemplate

namespace Regex

/-- Letters, as they are written. -/
def letters : Expr :=
  .repetition 1 none true (.charClass (.brackets false (.range ⟨'a', false⟩ ⟨'z', false⟩)))

/-- The kernel of letters. -/
def lettersCore : Core := .plus true (.one (.between 'a' 'z'))

/-- Two segments of a path with a slash between them, both of one placeholder. -/
def twice : Regex where
  source := "^(?P<a001>[a-z]+)/(?P<a002>[a-z]+)$"
  core := .catAll [.assert .textStart, .capture 1 lettersCore, .one (.single '/'),
    .capture 2 lettersCore, .assert .textEnd]
  names := [("a001", 1), ("a002", 2)]

theorem readExpr_twice :
    readExpr twice.source.toList =
      .ok (.concat [.place .lineStart, .group (.capture 1 (some "a001")) letters,
        .char ⟨'/', false⟩, .group (.capture 2 (some "a002")) letters, .place .lineEnd]) := rfl

theorem compile_twice : compile twice.source = .ok twice := by
  have hmeaning : meaning {} (.concat [.place .lineStart,
      .group (.capture 1 (some "a001")) letters, .char ⟨'/', false⟩,
      .group (.capture 2 (some "a002")) letters, .place .lineEnd]) =
      .ok (twice.core, {}) := rfl
  have hweight : (Core.capture 0 twice.core).weight false ≤ weightLimit := by
    cbv
  exact compile_of_readExpr readExpr_twice hmeaning hweight

end Regex

/-- The template of a path with the same segment twice. -/
def Template.twice : Template where
  label := "twice"
  pattern := "\x7ba:[a-z]+\x7d/\x7ba:[a-z]+\x7d"
  regex := Regex.twice
  bindings := [⟨"a001", "a"⟩, ⟨"a002", "a"⟩]
  format := ⟨"\x7ba\x7d/\x7ba\x7d", [.field "a", .literal "/", .field "a"]⟩
  keys := Names.ofList ["a", "a"]

theorem Segment.scan_twice :
    scan Template.twice.pattern = [.placeholder "a" (some "[a-z]+"), .literal "/",
      .placeholder "a" (some "[a-z]+")] := by
  cbv

theorem Template.compile_twice (enabled : Bool) :
    compile "twice" twice.pattern { cacheEnabled := enabled } = .ok twice := by
  have hs : Segment.expression { cacheEnabled := enabled } (Segment.scan twice.pattern) =
      .ok (Regex.twice.source, twice.bindings) := by
    rw [Segment.scan_twice]
    rfl
  have hf : Format.parse (Segment.formatSource (Segment.scan twice.pattern)) =
      .ok twice.format := by
    cbv
  have hn : Names.ofList (Segment.names (Segment.scan twice.pattern)) = twice.keys := by
    rw [Segment.scan_twice]
    rfl
  rw [compile_of_parts "twice" hs hf (hn.trans rfl) Regex.compile_twice, hn]
  rfl

/-- The resolver that has only this template. -/
def Resolver.twice (enabled : Bool) : Resolver where
  templates := .ofList [("twice", Template.twice)]
  options := { cacheEnabled := enabled }

theorem Resolver.build_twice (enabled : Bool) :
    build [("twice", Template.twice.pattern)] { cacheEnabled := enabled } =
      .ok (twice enabled) := by
  simp only [build, buildTraced, compileAll, Template.compile_twice, Except.map]
  rfl

end PathTemplate
