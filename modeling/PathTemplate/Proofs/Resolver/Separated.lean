import PathTemplate.Proofs.Resolver.RoundTrip
import PathTemplate.Proofs.Template.Extraction

/-!
# What templates separated by slashes mean

For a template whose placeholders are separated by slashes, resolving and
formatting are told without its expression. Fields are found in a path exactly
if they fill the template to the path and none of their values has a slash, and
exactly these fields are formatted, to any path but the empty one.
-/

namespace PathTemplate

namespace Segment

/-- Fields have the names of segments and fill them to a path, and no value has a slash. -/
structure Fits (segments : List Segment) (fields : Fields) (path : String) : Prop where
  keys : fields.keys = Names.ofList (names segments)
  slashFree : ∀ name value, fields.get? name = some value → '/' ∉ value.toList
  filled : ∃ values, FilledWith values segments path.toList ∧ Agrees fields values

/-- Segments are filled to a path with values without slashes, but two occurrences of one name have
different ones. -/
def Disagrees (segments : List Segment) (path : String) : Prop :=
  ∃ values, FilledWith values segments path.toList ∧ SlashFree values ∧
    ∃ name v w, (name, v) ∈ values ∧ (name, w) ∈ values ∧ v ≠ w

/-- Fields that fit are gathered from the values without slashes that fill the segments. -/
theorem fits_iff {segments : List Segment} {fields : Fields} {path : String} :
    Fits segments fields path ↔
      ∃ values, FilledWith values segments path.toList ∧ SlashFree values ∧
        Template.gather true values Fields.empty = .ok fields := by
  constructor
  · rintro ⟨hkeys, hfree, values, hfilled, hagrees⟩
    refine ⟨values, hfilled, fun e he => hfree e.1 e.2 (hagrees e he), ?_⟩
    rw [Template.gather_eq_ok_iff, map_fst_of_filledWith hfilled]
    exact ⟨hkeys, hagrees⟩
  · rintro ⟨values, hfilled, hfree, hgather⟩
    obtain ⟨hkeys, hagrees⟩ := Template.gather_eq_ok_iff.1 hgather
    refine ⟨?_, ?_, values, hfilled, hagrees⟩
    · rw [hkeys, map_fst_of_filledWith hfilled]
    · intro name value hvalue
      have hname : name ∈ fields.keys := Fields.mem_keys.2 ⟨value, hvalue⟩
      rw [hkeys, Names.mem_ofList] at hname
      obtain ⟨e, he, rfl⟩ := List.mem_map.1 hname
      obtain rfl := Option.some.inj ((hagrees e he).symm.trans hvalue)
      exact hfree e he

theorem disagrees_iff {segments : List Segment} {path : String} :
    Disagrees segments path ↔
      ∃ m values, FilledWith values segments path.toList ∧ SlashFree values ∧
        Template.gather true values Fields.empty = .error m := by
  constructor
  · rintro ⟨values, hfilled, hfree, hdiffer⟩
    obtain ⟨m, hm⟩ := Template.gather_eq_error_iff.2 hdiffer
    exact ⟨m, values, hfilled, hfree, hm⟩
  · rintro ⟨m, values, hfilled, hfree, hm⟩
    exact ⟨values, hfilled, hfree, Template.gather_eq_error_iff.1 ⟨m, hm⟩⟩

end Segment

namespace Template

open Segment (FilledWith SlashFree SlashSeparated Fits Disagrees)

variable {t : Template} {label pattern path : String} {options : Options}

/-- What is extracted from a path that is not empty is what is gathered from the values without
slashes that fill the template to the path. -/
theorem CompiledFrom.extract_eq_map_iff (h : t.CompiledFrom label pattern options)
    (hstart : options.anchorStart = true) (hend : options.anchorEnd = true)
    (hseparated : SlashSeparated (Segment.scan t.pattern))
    (hnames : Segment.names (Segment.scan t.pattern) ≠ []) (hpath : path ≠ "")
    {result : Except Mismatch Fields} :
    t.extract path true = result.map some ↔
      ∃ values, FilledWith values (Segment.scan t.pattern) path.toList ∧ SlashFree values ∧
        gather true values Fields.empty = result := by
  constructor
  · intro hextract
    by_cases hfilled : ∃ values, FilledWith values (Segment.scan t.pattern) path.toList ∧
        SlashFree values
    · obtain ⟨values, hfilled, hfree⟩ := hfilled
      rw [h.extract_of_filledWith hstart hend hseparated hnames hpath hfilled hfree,
        map_some_inj] at hextract
      exact ⟨values, hfilled, hfree, hextract⟩
    · rw [h.extract_of_not_filledWith hstart hend hseparated hfilled] at hextract
      cases result with
      | error m => cases hextract
      | ok fields => cases hextract
  · rintro ⟨values, hfilled, hfree, rfl⟩
    exact h.extract_of_filledWith hstart hend hseparated hnames hpath hfilled hfree

theorem CompiledFrom.extract_eq_some_iff (h : t.CompiledFrom label pattern options)
    (hstart : options.anchorStart = true) (hend : options.anchorEnd = true)
    (hseparated : SlashSeparated (Segment.scan t.pattern))
    (hnames : Segment.names (Segment.scan t.pattern) ≠ []) (hpath : path ≠ "") {fields : Fields} :
    t.extract path true = .ok (some fields) ↔ Fits (Segment.scan t.pattern) fields path := by
  rw [Segment.fits_iff, ← h.extract_eq_map_iff hstart hend hseparated hnames hpath]
  rfl

theorem CompiledFrom.extract_eq_error_iff (h : t.CompiledFrom label pattern options)
    (hstart : options.anchorStart = true) (hend : options.anchorEnd = true)
    (hseparated : SlashSeparated (Segment.scan t.pattern))
    (hnames : Segment.names (Segment.scan t.pattern) ≠ []) (hpath : path ≠ "") :
    (∃ m, t.extract path true = .error m) ↔ Disagrees (Segment.scan t.pattern) path := by
  rw [Segment.disagrees_iff]
  refine exists_congr fun m => ?_
  rw [← h.extract_eq_map_iff hstart hend hseparated hnames hpath]
  rfl

/-- Fields that fit a path fill the format string to it. -/
theorem CompiledFrom.fill_of_fits (h : t.CompiledFrom label pattern options)
    (hseparated : SlashSeparated (Segment.scan t.pattern)) {fields : Fields}
    (hfits : Fits (Segment.scan t.pattern) fields path) :
    fields.keys = t.keys ∧ t.format.fill fields = some path := by
  refine ⟨?_, ?_⟩
  · rw [hfits.keys, h.keys, h.pattern_eq]
  · rw [Format.fill, h.samePieces.tokens_eq, ← h.pattern_eq,
      Segment.fillTokens_eq_some_iff hseparated.notMem_braces]
    exact hfits.filled

end Template

namespace Session

open Segment (SlashSeparated Fits Disagrees)

/-- Whatever was asked before, a template with at least one placeholder, all of them separated by
slashes, finds in a path that is not empty the fields that fit, reports a mismatch where
occurrences of a name disagree, and finds nothing otherwise. It formats fields to a path exactly if
they fit the path and it is not empty. -/
theorem answers_of_slashSeparated {pairs : List (String × String)} {options : Options}
    {r : Resolver} (h : Resolver.build pairs options = .ok r)
    (hstart : options.anchorStart = true) (hend : options.anchorEnd = true)
    (hcheck : options.checkDuplicates = true) {label : String} {t : Template}
    (ht : r.template? label = some t) (hseparated : SlashSeparated (Segment.scan t.pattern))
    (hnames : Segment.names (Segment.scan t.pattern) ≠ []) (earlier : List Operation) :
    let segments := Segment.scan t.pattern
    let s := (start r).final earlier
    (∀ path, path ≠ "" →
      let answer := (s.perform (.resolveOne path label)).answer
      (∀ fields, answer = .resolvedOne (.ok (some fields)) ↔ Fits segments fields path) ∧
      ((∃ m, answer = .resolvedOne (.error m)) ↔ Disagrees segments path) ∧
      (answer = .resolvedOne (.ok none) ↔
        (∀ fields, ¬ Fits segments fields path) ∧ ¬ Disagrees segments path)) ∧
    ∀ fields path, (s.perform (.formatOne fields label)).answer = .formattedOne (some path) ↔
      Fits segments fields path ∧ path ≠ "" := by
  intro segments s
  obtain ⟨hr, hc⟩ := final_start_faithful r earlier
  obtain ⟨pattern, hcompile⟩ := Resolver.compiled_of_build h ht
  have hcompiled := Template.compiledFrom_of_compile hcompile
  have hfind : ∀ path, path ≠ "" → r.findOne path label = t.extract path true := by
    intro path hpath
    rw [Resolver.findOne_of_template hpath ht, Resolver.extract, Resolver.options_of_build h,
      hcheck]
  have hfields : ∀ path, path ≠ "" → ∀ fields,
      r.findOne path label = .ok (some fields) ↔ Fits segments fields path := by
    intro path hpath fields
    rw [hfind path hpath]
    exact hcompiled.extract_eq_some_iff hstart hend hseparated hnames hpath
  have herror : ∀ path, path ≠ "" →
      ((∃ m, r.findOne path label = .error m) ↔ Disagrees segments path) := by
    intro path hpath
    rw [hfind path hpath]
    exact hcompiled.extract_eq_error_iff hstart hend hseparated hnames hpath
  refine ⟨fun path hpath => ?_, fun fields path => ?_⟩
  · intro answer
    have hanswer : answer = .resolvedOne (r.findOne path label) :=
      resolveOne_answer hr hc path label
    simp only [hanswer, Answer.resolvedOne.injEq]
    refine ⟨hfields path hpath, herror path hpath, ?_⟩
    rw [← herror path hpath]
    simp only [← hfields path hpath]
    cases r.findOne path label with
    | error m => simp
    | ok found =>
        cases found with
        | none => simp
        | some found => simp
  · have hlabel : ∀ t, r.template? label = some t → t.label = label :=
      fun t ht => Resolver.label_of_build h ht
    rw [formatOne_answer hr hc, Answer.formattedOne.injEq, Resolver.plainOne_eq_some_iff hlabel]
    constructor
    · rintro ⟨-, -, -, -, -, hfound⟩
      have hpath := Resolver.ne_empty_of_findOne hfound
      exact ⟨(hfields path hpath fields).1 hfound, hpath⟩
    · rintro ⟨hfits, hpath⟩
      obtain ⟨hkeys, hfill⟩ := hcompiled.fill_of_fits hseparated hfits
      exact ⟨Fields.isEmpty_eq_false_of_keys hnames hfits.keys, t, ht, hkeys, hfill,
        (hfields path hpath fields).2 hfits⟩

end Session

/-- A template whose last segment is its first one again. -/
def Template.mirror : Template where
  label := "mirror"
  pattern := "\x7ba\x7d/\x7bb\x7d/\x7ba\x7d"
  regex := {
    source := "^(?P<a001>[^/]*)/(?P<b001>[^/]*)/(?P<a002>[^/]*)$"
    core := .catAll [.assert .textStart, .capture 1 .slashFree, .one (.single '/'),
      .capture 2 .slashFree, .one (.single '/'), .capture 3 .slashFree, .assert .textEnd]
    names := [("a001", 1), ("b001", 2), ("a002", 3)] }
  bindings := [⟨"a001", "a"⟩, ⟨"b001", "b"⟩, ⟨"a002", "a"⟩]
  format := ⟨"\x7ba\x7d/\x7bb\x7d/\x7ba\x7d",
    [.field "a", .literal "/", .field "b", .literal "/", .field "a"]⟩
  keys := Names.ofList ["a", "b", "a"]

theorem Segment.scan_mirror :
    scan Template.mirror.pattern = [.placeholder "a" none, .literal "/", .placeholder "b" none,
      .literal "/", .placeholder "a" none] := by
  cbv

theorem Template.compile_mirror : compile "mirror" mirror.pattern {} = .ok mirror := by
  have hs : Segment.expression {} (Segment.scan mirror.pattern) =
      .ok (mirror.regex.source, mirror.bindings) := by
    rw [Segment.scan_mirror]
    rfl
  have hf : Format.parse (Segment.formatSource (Segment.scan mirror.pattern)) =
      .ok mirror.format := by
    cbv
  have hn : Names.ofList (Segment.names (Segment.scan mirror.pattern)) = mirror.keys := by
    rw [Segment.scan_mirror]
    rfl
  have he : Regex.readExpr mirror.regex.source.toList = .ok (.concat [.place .lineStart,
      .group (.capture 1 (some "a001")) .slashFree, .char ⟨'/', false⟩,
      .group (.capture 2 (some "b001")) .slashFree, .char ⟨'/', false⟩,
      .group (.capture 3 (some "a002")) .slashFree, .place .lineEnd]) := rfl
  have hr : Regex.compile mirror.regex.source = .ok mirror.regex :=
    Regex.compile_of_readExpr he rfl (by cbv)
  rw [compile_of_parts "mirror" hs hf (hn.trans rfl) hr, hn]
  rfl

def Resolver.mirror : Resolver where
  templates := .ofList [("mirror", Template.mirror)]
  options := {}

theorem Resolver.build_mirror : build [("mirror", Template.mirror.pattern)] {} = .ok mirror := by
  simp only [build, buildTraced, compileAll, Template.compile_mirror, Except.map]
  rfl

namespace Session

open Segment (FilledWith SlashFree SlashSeparated)

/-- A path with equal ends is found and formatted whatever its values are, and different ends are a
mismatch. -/
theorem answers_of_mirror :
    Resolver.build [("mirror", Template.mirror.pattern)] {} = .ok Resolver.mirror ∧
      SlashSeparated (Segment.scan Template.mirror.pattern) ∧
      Segment.names (Segment.scan Template.mirror.pattern) ≠ [] ∧
      let s := (start Resolver.mirror).final [.resolveAll "x/y/x", .setCacheEnabled false]
      (s.perform (.resolveOne "(\n/.*/(\n" "mirror")).answer =
        .resolvedOne (.ok (some (Fields.ofList [("a", "(\n"), ("b", ".*")]))) ∧
      (∃ m, (s.perform (.resolveOne "x/y/z" "mirror")).answer = .resolvedOne (.error m)) ∧
      (s.perform (.formatOne (Fields.ofList [("a", ""), ("b", "y")]) "mirror")).answer =
        .formattedOne (some "/y/") := by
  have hseparated : SlashSeparated (Segment.scan Template.mirror.pattern) := by
    rw [Segment.scan_mirror]
    have hslash : ∀ c ∈ "/".toList, c ∉ Regex.specialMarks ∧ c ≠ '}' := by
      intro c hc
      obtain rfl := List.mem_singleton.1 hc
      decide
    exact .placeholder "a" rfl (.literal "/" hslash (.placeholder "b" rfl
      (.literal "/" hslash (.placeholder "a" trivial .nil))))
  have hnames : Segment.names (Segment.scan Template.mirror.pattern) ≠ [] := by
    rw [Segment.scan_mirror]
    exact List.cons_ne_nil _ _
  have hfilled : ∀ a b c : String,
      FilledWith [("a", a), ("b", b), ("a", c)] (Segment.scan Template.mirror.pattern)
        (a.toList ++ ("/".toList ++ (b.toList ++ ("/".toList ++ (c.toList ++ []))))) := by
    intro a b c
    rw [Segment.scan_mirror]
    exact .placeholder "a" none a (.literal "/" (.placeholder "b" none b
      (.literal "/" (.placeholder "a" none c .nil))))
  obtain ⟨hresolve, hformat⟩ := answers_of_slashSeparated Resolver.build_mirror rfl rfl rfl
    (rfl : Resolver.mirror.template? "mirror" = some Template.mirror) hseparated hnames
    [.resolveAll "x/y/x", .setCacheEnabled false]
  refine ⟨Resolver.build_mirror, hseparated, hnames, ?_, ?_, ?_⟩
  · obtain ⟨hfields, -, -⟩ := hresolve "(\n/.*/(\n" (by decide)
    refine (hfields _).2 (Segment.fits_iff.2 ⟨_, hfilled "(\n" ".*" "(\n", ?_, rfl⟩)
    simp [SlashFree]
  · obtain ⟨-, herror, -⟩ := hresolve "x/y/z" (by decide)
    refine herror.2 ⟨_, hfilled "x" "y" "z", ?_, "a", "x", "z", ?_, ?_, by decide⟩
    · simp [SlashFree]
    · simp
    · simp
  · refine (hformat _ _).2 ⟨Segment.fits_iff.2 ⟨_, hfilled "" "y" "", ?_, rfl⟩, by decide⟩
    simp [SlashFree]

end Session

end PathTemplate
