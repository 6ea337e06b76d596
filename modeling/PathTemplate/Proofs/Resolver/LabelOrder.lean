import PathTemplate.Proofs.Lists
import PathTemplate.Proofs.Resolver.Learning

/-!
# Answers in the order of the labels

What a resolver says about all labels is told from what it says about each of
them alone. The first answer is that of the first label that does not pass, and
a mismatch in front of it comes first. All answers are those of the labels that
have one, unless a label has a mismatch. Formatting is told in the same way, and
there a mismatch only takes away the label that has it. It does not matter which
of these answers were remembered, and since when.
-/

namespace PathTemplate

namespace Resolver

/-- The cache behind operations that are performed from the start. -/
def cacheAfter (r : Resolver) (ops : List Operation) : Cache :=
  ((Session.start r).final ops).cache

theorem cacheAfter_faithful (r : Resolver) (ops : List Operation) :
    (r.cacheAfter ops).Faithful r :=
  (Session.final_start_faithful r ops).2

/-! ## Resolving -/

/-- The entry that a label has among all answers if it answers this. -/
def entryOf (label : String) : Except Mismatch (Option Fields) → Option (String × Fields)
  | .ok (some fields) => some (label, fields)
  | _ => none

/-- The first answer and all answers are told from the answers of labels, one by one. -/
structure ToldByLabels (labels : List String) (one : String → Except Mismatch (Option Fields))
    (first : Except Mismatch Resolved) (all : Except Mismatch (Catalog String Fields)) :
    Prop where
  found_iff : ∀ label fields, first = .ok (.found label fields) ↔
    FirstAt (fun l => one l = .ok none) (fun l => l = label ∧ one l = .ok (some fields)) labels
  mismatch_iff : ∀ m, first = .error m ↔
    FirstAt (fun l => one l = .ok none) (fun l => one l = .error m) labels
  notFound_iff : first = .ok .notFound ↔ ∀ l ∈ labels, one l = .ok none
  all_mismatch_iff : ∀ m, all = .error m ↔
    FirstAt (fun l => ∃ a, one l = .ok a) (fun l => one l = .error m) labels
  all_found_iff : ∀ found, all = .ok found ↔
    (∀ l ∈ labels, ∃ a, one l = .ok a) ∧
      found.entries = labels.filterMap fun l => entryOf l (one l)

variable {r : Resolver} {path label : String} {fields : Fields} {entries : List (String × Template)}

theorem firstOf_eq_found_iff :
    r.firstOf path entries = .ok (.found label fields) ↔
      FirstAt (fun e => r.extract e.2 path = .ok none)
        (fun e => e.1 = label ∧ r.extract e.2 path = .ok (some fields)) entries := by
  induction entries with
  | nil =>
      apply iff_of_false
      · intro h
        cases h
      · exact not_firstAt_nil
  | cons e rest ih =>
      rw [firstAt_cons, firstOf]
      cases r.extract e.2 path with
      | error m => simp
      | ok answer =>
          cases answer with
          | none => simp [ih]
          | some found => simp

theorem firstOf_eq_error_iff {m : Mismatch} :
    r.firstOf path entries = .error m ↔
      FirstAt (fun e => r.extract e.2 path = .ok none)
        (fun e => r.extract e.2 path = .error m) entries := by
  induction entries with
  | nil =>
      apply iff_of_false
      · intro h
        cases h
      · exact not_firstAt_nil
  | cons e rest ih =>
      rw [firstAt_cons, firstOf]
      cases r.extract e.2 path with
      | error m' => simp
      | ok answer =>
          cases answer with
          | none => simp [ih]
          | some found => simp

theorem firstOf_eq_notFound_iff :
    r.firstOf path entries = .ok .notFound ↔ ∀ e ∈ entries, r.extract e.2 path = .ok none := by
  induction entries with
  | nil => simp [firstOf]
  | cons e rest ih =>
      rw [List.forall_mem_cons, firstOf]
      cases r.extract e.2 path with
      | error m => simp
      | ok answer =>
          cases answer with
          | none => simp [ih]
          | some found => simp

/-- All answers end at the first mismatch, whatever was found before. -/
theorem allOf_eq_error_iff {m : Mismatch} {before : Catalog String Fields} :
    r.allOf path entries before = .error m ↔
      FirstAt (fun e => ∃ a, r.extract e.2 path = .ok a)
        (fun e => r.extract e.2 path = .error m) entries := by
  induction entries generalizing before with
  | nil =>
      apply iff_of_false
      · intro h
        cases h
      · exact not_firstAt_nil
  | cons e rest ih =>
      rw [firstAt_cons, allOf]
      cases r.extract e.2 path with
      | error m' => simp
      | ok answer =>
          cases answer with
          | none => simp [ih]
          | some found => simp [ih]

theorem exists_allOf_iff {before : Catalog String Fields} :
    (∃ found, r.allOf path entries before = .ok found) ↔
      ∀ e ∈ entries, ∃ a, r.extract e.2 path = .ok a := by
  induction entries generalizing before with
  | nil => simp [allOf]
  | cons e rest ih =>
      rw [List.forall_mem_cons, allOf]
      cases r.extract e.2 path with
      | error m => simp
      | ok answer =>
          cases answer with
          | none => simp [ih]
          | some found => simp [ih]

theorem allOf_eq_ok_iff {found : Catalog String Fields} :
    r.allOf path r.templates.entries .empty = .ok found ↔
      (∀ e ∈ r.templates.entries, ∃ a, r.extract e.2 path = .ok a) ∧
        found.entries = r.templates.entries.filterMap (r.fieldsOf path) := by
  have hentries : ∀ {all}, r.allOf path r.templates.entries .empty = .ok all →
      all.entries = r.templates.entries.filterMap (r.fieldsOf path) :=
    fun h => allOf_entries h r.templates.nodup
  constructor
  · intro h
    exact ⟨exists_allOf_iff.1 ⟨found, h⟩, hentries h⟩
  · rintro ⟨hok, hfound⟩
    obtain ⟨all, hall⟩ := exists_allOf_iff.2 hok
    rw [hall, Except.ok.injEq]
    exact Catalog.ext ((hentries hall).trans hfound.symm)

/-! ### From entries to labels -/

theorem findOne_of_mem_entries (hpath : path ≠ "") :
    ∀ e ∈ r.templates.entries, r.findOne path e.1 = r.extract e.2 path := by
  intro e he
  exact findOne_of_template hpath (template_of_mem_entries he)

/-- What happens first among the answers of the labels happens first among those of the entries. -/
theorem firstAt_labels_iff (hpath : path ≠ "") (passes : Except Mismatch (Option Fields) → Prop)
    (happens : String → Except Mismatch (Option Fields) → Prop) :
    FirstAt (fun l => passes (r.findOne path l)) (fun l => happens l (r.findOne path l))
        r.labels ↔
      FirstAt (fun e => passes (r.extract e.2 path)) (fun e => happens e.1 (r.extract e.2 path))
        r.templates.entries := by
  apply firstAt_map_iff
  · intro e he
    rw [findOne_of_mem_entries hpath e he]
  · intro e he
    rw [findOne_of_mem_entries hpath e he]

theorem forall_labels_iff (hpath : path ≠ "") (passes : Except Mismatch (Option Fields) → Prop) :
    (∀ l ∈ r.labels, passes (r.findOne path l)) ↔
      ∀ e ∈ r.templates.entries, passes (r.extract e.2 path) := by
  rw [labels, Catalog.keys, List.forall_mem_map]
  apply forall₂_congr
  intro e he
  rw [findOne_of_mem_entries hpath e he]

theorem filterMap_labels (hpath : path ≠ "") :
    (r.labels.filterMap fun l => entryOf l (r.findOne path l)) =
      r.templates.entries.filterMap (r.fieldsOf path) := by
  rw [labels, Catalog.keys, List.filterMap_map]
  apply List.filterMap_congr
  intro e he
  rw [Function.comp_apply, findOne_of_mem_entries hpath e he, fieldsOf]
  rcases r.extract e.2 path with m | _ | fields <;> rfl

/-- No label finds anything in the empty path. -/
theorem toldByLabels_empty (labels : List String) :
    ToldByLabels labels (fun _ => .ok none) (.ok .notFound) (.ok .empty) where
  found_iff label fields :=
    iff_of_false (by simp) (not_firstAt_of_forall fun l _ => by simp)
  mismatch_iff m := iff_of_false (by simp) (not_firstAt_of_forall fun l _ => by simp)
  notFound_iff := iff_of_true rfl fun l _ => rfl
  all_mismatch_iff m := iff_of_false (by simp) (not_firstAt_of_forall fun l _ => by simp)
  all_found_iff found := by
    have hnone : (labels.filterMap fun l => entryOf l (.ok none)) = [] := by
      simp [entryOf]
    rw [hnone, Except.ok.injEq, Catalog.ext_iff, eq_comm]
    simp [Catalog.empty]

/-- What the templates answer together is told from what they answer under each label. -/
theorem toldByLabels (r : Resolver) (path : String) :
    ToldByLabels r.labels (r.findOne path) (r.findFirst path) (r.findAll path) := by
  by_cases hpath : path = ""
  · subst hpath
    exact toldByLabels_empty r.labels
  · have hfirst : r.findFirst path = r.firstOf path r.templates.entries := if_neg hpath
    have hall : r.findAll path = r.allOf path r.templates.entries .empty := if_neg hpath
    rw [hfirst, hall]
    constructor
    · intro label fields
      exact firstOf_eq_found_iff.trans (firstAt_labels_iff hpath (· = .ok none)
        (fun l a => l = label ∧ a = .ok (some fields))).symm
    · intro m
      exact firstOf_eq_error_iff.trans
        (firstAt_labels_iff hpath (· = .ok none) (fun _ a => a = .error m)).symm
    · exact firstOf_eq_notFound_iff.trans (forall_labels_iff hpath (· = .ok none)).symm
    · intro m
      exact allOf_eq_error_iff.trans
        (firstAt_labels_iff hpath (∃ a, · = .ok a) (fun _ a => a = .error m)).symm
    · intro found
      rw [allOf_eq_ok_iff, forall_labels_iff hpath (∃ a, · = .ok a), filterMap_labels hpath]

section ToldByLabels

variable {labels : List String} {one : String → Except Mismatch (Option Fields)}
  {first : Except Mismatch Resolved} {all : Except Mismatch (Catalog String Fields)}

/-- Where no label has a mismatch, the first answer is the first one of all. -/
theorem ToldByLabels.first_of_all (h : ToldByLabels labels one first all)
    {found : Catalog String Fields} (hall : all = .ok found) :
    first = .ok (.ofOption found.entries.head?) := by
  obtain ⟨hok, hentries⟩ := (h.all_found_iff found).1 hall
  -- Without mismatches, a label that has no entry has found nothing.
  have hpasses : ∀ l ∈ labels, entryOf l (one l) = none → one l = .ok none := by
    intro l hl hnone
    obtain ⟨a, ha⟩ := hok l hl
    rw [ha] at hnone ⊢
    cases a with
    | none => rfl
    | some fields => cases hnone
  rw [hentries, List.head?_filterMap]
  cases hfirst : labels.findSome? fun l => entryOf l (one l) with
  | none =>
      apply h.notFound_iff.2
      intro l hl
      exact hpasses l hl (List.findSome?_eq_none_iff.1 hfirst l hl)
  | some e =>
      obtain ⟨front, l, back, rfl, hl, hfront⟩ := List.findSome?_eq_some_iff.1 hfirst
      apply (h.found_iff e.1 e.2).2
      refine ⟨front, l, back, rfl, ?_, ?_⟩
      · intro l' hl'
        exact hpasses l' (List.mem_append_left _ hl') (hfront l' hl')
      · obtain ⟨a, ha⟩ := hok l (List.mem_append_right _ List.mem_cons_self)
        rw [ha] at hl ⊢
        cases a with
        | none => cases hl
        | some fields =>
            cases hl
            exact ⟨rfl, rfl⟩

/-- A mismatch that ends the first answer ends all answers. -/
theorem ToldByLabels.all_of_first (h : ToldByLabels labels one first all) {m : Mismatch}
    (hfirst : first = .error m) : all = .error m := by
  apply (h.all_mismatch_iff m).2
  apply ((h.mismatch_iff m).1 hfirst).imp
  · intro l hl
    exact ⟨none, hl⟩
  · intro l hl
    exact hl

end ToldByLabels

/-- After any operations, the first answer and all answers about a path are told from the answers
of the labels, each of them asked after any operations of its own: a label is found first if every
label before it finds nothing, and a mismatch is met first likewise, while all answers have the
first mismatch of any label or else the fields of every label that finds some, in order. So the
first answer is the first one of all answers if no label has a mismatch, and a mismatch of the
first answer is one of all answers. Nothing is found in the empty path. -/
theorem resolving_toldByLabels (r : Resolver) (path : String) (opsFirst opsAll : List Operation)
    (opsOne : String → List Operation) :
    let first := (r.resolveFirst (r.cacheAfter opsFirst) path).answer
    let one label := (r.resolveOne (r.cacheAfter (opsOne label)) path label).answer
    let all := (r.resolveAll (r.cacheAfter opsAll) path).answer
    ToldByLabels r.labels one first all ∧
    (∀ found, all = .ok found → first = .ok (.ofOption found.entries.head?)) ∧
    (∀ m, first = .error m → all = .error m) ∧
    (path = "" → first = .ok .notFound ∧ (∀ label, one label = .ok none) ∧ all = .ok .empty) := by
  intro first one all
  -- Each of the caches is faithful, so the answers are those of the templates alone.
  have hfirst : first = r.findFirst path :=
    (resolveFirst_agrees (r.cacheAfter_faithful opsFirst) path).answer
  have hone : one = r.findOne path := by
    funext label
    exact (resolveOne_agrees (r.cacheAfter_faithful (opsOne label)) path label).answer
  have hall : all = r.findAll path :=
    (resolveAll_agrees (r.cacheAfter_faithful opsAll) path).answer
  have htold : ToldByLabels r.labels one first all := by
    rw [hfirst, hone, hall]
    exact r.toldByLabels path
  refine ⟨htold, fun _ => htold.first_of_all, fun _ => htold.all_of_first, ?_⟩
  rintro rfl
  rw [hfirst, hone, hall]
  exact ⟨rfl, fun _ => rfl, rfl⟩

/-! ## Formatting -/

theorem plainOne_of_mem_entries (hempty : fields.isEmpty = false) :
    ∀ e ∈ r.templates.entries, r.plainOne fields e.1 = r.pathOf e.2 fields := by
  intro e he
  simp [plainOne, hempty, template_of_mem_entries he]

/-- The paths of the templates stand under the labels that have a path, since every template
carries the label that it stands under. -/
theorem pathsOf_eq_filterMap (hr : r.Labelled) (hempty : fields.isEmpty = false) :
    r.pathsOf fields r.templates.values =
      r.labels.filterMap fun label => (r.plainOne fields label).map (label, ·) := by
  rw [pathsOf, Catalog.values, labels, Catalog.keys, List.filterMap_map, List.filterMap_map]
  apply List.filterMap_congr
  intro e he
  have hlabel : e.2.label = e.1 := hr e.1 e.2 (template_of_mem_entries he)
  rw [Function.comp_apply, Function.comp_apply, hlabel, plainOne_of_mem_entries hempty e he]

theorem plainOne_of_isEmpty (hempty : fields.isEmpty = true) (label : String) :
    r.plainOne fields label = none := by
  rw [plainOne, if_pos hempty]

/-- All paths are those of the labels that have one, in order. -/
theorem entries_plainAll (hr : r.Labelled) (fields : Fields) :
    (r.plainAll fields).entries =
      r.labels.filterMap fun label => (r.plainOne fields label).map (label, ·) := by
  cases hempty : fields.isEmpty with
  | true =>
      rw [plainAll, if_pos hempty]
      simp [plainOne_of_isEmpty hempty, Catalog.empty]
  | false =>
      rw [plainAll, hempty, if_neg Bool.false_ne_true, pathsOf_eq_filterMap hr hempty]
      apply Catalog.entries_ofList
      rw [map_fst_filterMap]
      exact r.templates.nodup.filter _

theorem plainFirst_eq_head (hr : r.Labelled) (fields : Fields) :
    r.plainFirst fields = .ofOption (r.plainAll fields).entries.head? := by
  rw [entries_plainAll hr]
  cases hempty : fields.isEmpty with
  | true =>
      rw [plainFirst, if_pos hempty]
      simp [plainOne_of_isEmpty hempty, Outcome.ofOption]
  | false =>
      rw [plainFirst, hempty, if_neg Bool.false_ne_true, pathsOf_eq_filterMap hr hempty]

/-- A label whose path is a mismatch has none. -/
theorem plainOne_of_mismatch (hr : r.Labelled) {t : Template} (ht : r.template? label = some t)
    (hrender : t.render fields = some path) {m : Mismatch} (hm : r.findOne path label = .error m) :
    r.plainOne fields label = none := by
  rw [Option.eq_none_iff_forall_ne_some]
  intro other hother
  obtain ⟨-, u, hu, hkeys, hfill, hfind⟩ := (plainOne_eq_some_iff (hr label)).1 hother
  obtain rfl := Option.some.inj (ht.symm.trans hu)
  have hpath : path = other :=
    Option.some.inj (hrender.symm.trans (Template.render_eq_some_iff.2 ⟨hkeys, hfill⟩))
  rw [hpath, hfind] at hm
  cases hm

/-- After any operations, all paths for fields are those of the labels that have one, each of them
asked after any operations of its own. They stand in the order of the labels, each label once, and
the first path is the first one of them. No formatting is answered with a mismatch, and a label
whose path is resolved to a mismatch has no path. -/
theorem formatting_follows_labels {pairs : List (String × String)} {options : Options}
    (h : build pairs options = .ok r) (fields : Fields) (opsFirst opsAll : List Operation)
    (opsOne : String → List Operation) :
    let first := (r.formatFirst (r.cacheAfter opsFirst) fields).answer
    let one label := (r.formatOne (r.cacheAfter (opsOne label)) fields label).answer
    let all := (r.formatAll (r.cacheAfter opsAll) fields).answer
    all.entries = (r.labels.filterMap fun label => (one label).map (label, ·)) ∧
    all.keys = (r.labels.filter fun label => (one label).isSome) ∧ r.labels.Nodup ∧
    first = .ofOption all.entries.head? ∧
    (∀ (s : Session) (op : Operation), (s.perform op).answer.isFault = true →
      ∃ q : Question, op = q.operation) ∧
    ∀ label t path m ops, r.template? label = some t → t.render fields = some path →
      (r.resolveOne (r.cacheAfter ops) path label).answer = .error m → one label = none := by
  intro first one all
  -- Each of the caches is faithful, so the answers are those of the templates alone.
  have hr := labelled_of_build h
  have hfirst : first = r.plainFirst fields :=
    (formatFirst_agrees (r.cacheAfter_faithful opsFirst) fields).answer
  have hone : one = r.plainOne fields := by
    funext label
    exact (formatOne_agrees (r.cacheAfter_faithful (opsOne label)) fields label).answer
  have hall : all = r.plainAll fields :=
    (formatAll_agrees (r.cacheAfter_faithful opsAll) fields).answer
  have hentries : all.entries = r.labels.filterMap fun label => (one label).map (label, ·) := by
    rw [hall, hone]
    exact entries_plainAll hr fields
  refine ⟨hentries, ?_, r.templates.nodup, ?_, ?_, ?_⟩
  · rw [Catalog.keys, hentries, map_fst_filterMap]
  · rw [hfirst, hall]
    exact plainFirst_eq_head hr fields
  · intro s op
    exact Session.question_of_isFault
  · intro label t path m ops ht hrender hm
    rw [(resolveOne_agrees (r.cacheAfter_faithful ops) path label).answer] at hm
    rw [hone]
    exact plainOne_of_mismatch hr ht hrender hm

end Resolver

/-- A resolver with one template under two labels, the first of which was given twice. -/
def Resolver.twins : Resolver where
  templates := .ofList [("twice", Template.twice), ("again", { Template.twice with label := "again" })]
  options := {}

theorem Resolver.build_twins :
    build [("twice", Template.twice.pattern), ("again", Template.twice.pattern),
      ("twice", Template.twice.pattern)] {} = .ok twins := by
  have htwice : Template.compile "twice" Template.twice.pattern {} = .ok Template.twice :=
    Template.compile_twice true
  simp only [build, buildTraced, compileAll, htwice, Template.compile_under htwice "again",
    Except.map]
  rfl

/-- Both labels have the same path, and the first one is given where only one is asked for. -/
theorem Resolver.formatting_of_twins :
    build [("twice", Template.twice.pattern), ("again", Template.twice.pattern),
      ("twice", Template.twice.pattern)] {} = .ok twins ∧
      let fields := Fields.ofList [("a", "x")]
      (twins.formatFirst (twins.cacheAfter [.resolveAll "x/x"]) fields).answer =
        .found "twice" "x/x" ∧
      (twins.formatAll (twins.cacheAfter [.setCacheEnabled false]) fields).answer.entries =
        [("twice", "x/x"), ("again", "x/x")] := by
  refine ⟨build_twins, ?_⟩
  intro fields
  obtain ⟨hentries, -, -, hfirst, -⟩ := formatting_follows_labels build_twins fields
    [.resolveAll "x/x"] [.setCacheEnabled false] fun _ => [.clearCache]
  have htwice : (twins.formatOne (twins.cacheAfter [.clearCache]) fields "twice").answer =
      some "x/x" := by
    cbv
  have hagain : (twins.formatOne (twins.cacheAfter [.clearCache]) fields "again").answer =
      some "x/x" := by
    cbv
  have hlabels : twins.labels = ["twice", "again"] := rfl
  rw [hlabels] at hentries
  simp only [List.filterMap_cons, List.filterMap_nil, htwice, hagain, Option.map_some] at hentries
  exact ⟨by rw [hfirst, hentries]; rfl, hentries⟩

end PathTemplate
