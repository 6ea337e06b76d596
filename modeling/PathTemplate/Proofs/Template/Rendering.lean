import PathTemplate.Proofs.Resolver.Templates
import PathTemplate.Proofs.Template.Pieces

/-!
# What a template renders

A template takes fields by counting them and asking for each of them whether it
is a placeholder. That comes to equal sets of names, and it is all that
rendering can fail on, since the format string has no other names than the
expression. What is rendered is the text of the tokens from left to right, with
the values as they are.
-/

namespace PathTemplate

/-- The text that a token stands for. -/
def FormatToken.text (fields : Fields) : FormatToken → List Char
  | literal text => text.toList
  | field name => ((fields.get? name).getD "").toList

namespace Format

variable {fields : Fields} {path : String}

theorem fillTokens_cons_eq_some_iff {t : FormatToken} {rest : List FormatToken} :
    fillTokens fields (t :: rest) = some path ↔
      ∃ a b, fillToken fields t = some a ∧ fillTokens fields rest = some b ∧ path = a ++ b := by
  rw [fillTokens]
  cases fillToken fields t with
  | none => simp
  | some a =>
      cases fillTokens fields rest with
      | none => simp
      | some b => simp [eq_comm]

/-- A token is filled if it is text or the field has a value. -/
theorem fillToken_eq_some_iff {t : FormatToken} {a : String} :
    fillToken fields t = some a ↔
      (∀ name ∈ t.name?, name ∈ fields.keys) ∧ a.toList = t.text fields := by
  cases t with
  | literal text =>
      simp [fillToken, FormatToken.name?, FormatToken.text, String.toList_inj, eq_comm (a := a)]
  | field name =>
      simp only [fillToken, FormatToken.name?, FormatToken.text, Option.mem_some_iff,
        forall_eq', Fields.mem_keys]
      constructor
      · intro h
        simp [h]
      · rintro ⟨⟨value, hvalue⟩, ha⟩
        rw [hvalue, Option.getD_some, String.toList_inj] at ha
        rw [hvalue, ha]

/-- Tokens are filled if every field has a value, and then to their text in order. -/
theorem fillTokens_eq_some_iff_text {tokens : List FormatToken} :
    fillTokens fields tokens = some path ↔
      (∀ name ∈ tokens.filterMap FormatToken.name?, name ∈ fields.keys) ∧
        path.toList = tokens.flatMap (FormatToken.text fields) := by
  induction tokens generalizing path with
  | nil =>
      rw [fillTokens, Option.some.injEq]
      constructor
      · rintro rfl
        simp
      · rintro ⟨-, hpath⟩
        exact (String.toList_eq_nil_iff.1 hpath).symm
  | cons t rest ih =>
      have hnames : (∀ name ∈ (t :: rest).filterMap FormatToken.name?, name ∈ fields.keys) ↔
          (∀ name ∈ t.name?, name ∈ fields.keys) ∧
            ∀ name ∈ rest.filterMap FormatToken.name?, name ∈ fields.keys := by
        cases t <;> simp [FormatToken.name?]
      rw [fillTokens_cons_eq_some_iff, hnames, List.flatMap_cons]
      simp only [fillToken_eq_some_iff, ih]
      constructor
      · rintro ⟨a, b, ⟨hname, ha⟩, ⟨hrest, hb⟩, rfl⟩
        exact ⟨⟨hname, hrest⟩, by rw [String.toList_append, ha, hb]⟩
      · rintro ⟨⟨hname, hrest⟩, hpath⟩
        refine ⟨String.ofList (t.text fields), String.ofList (rest.flatMap (·.text fields)),
          ⟨hname, String.toList_ofList⟩, ⟨hrest, String.toList_ofList⟩, ?_⟩
        rw [← String.ofList_append, ← hpath, String.ofList_toList]

theorem fill_eq_some_iff {f : Format} :
    f.fill fields = some path ↔
      (∀ name ∈ f.fieldNames, name ∈ fields.keys) ∧
        path.toList = f.tokens.flatMap (FormatToken.text fields) := by
  rw [fill, fillTokens_eq_some_iff_text]
  simp only [fieldNames, Names.mem_ofList]

end Format

namespace Template

variable {t : Template} {fields : Fields} {path : String}

/-- Counting fields and asking for each of them comes to comparing the sets of names. -/
theorem accepts_eq_true_iff : t.accepts fields = true ↔ fields.keys = t.keys := by
  rw [accepts, Bool.and_eq_true, decide_eq_true_eq, List.all_eq_true, ← Fields.size_keys]
  constructor
  · rintro ⟨hsize, hall⟩
    -- No name stands twice in a set, so the inclusion of a set as large is an equality.
    apply Names.eq_of_size_eq hsize
    intro name hname
    exact Names.contains_eq_true_iff.1 (hall name hname)
  · intro hkeys
    rw [hkeys]
    refine ⟨rfl, ?_⟩
    intro name hname
    exact Names.contains_eq_true_iff.2 hname

theorem render_eq_some_iff :
    t.render fields = some path ↔ fields.keys = t.keys ∧ t.format.fill fields = some path := by
  rw [render, ← accepts_eq_true_iff]
  cases t.accepts fields with
  | true => simp
  | false => simp

/-- Placeholders, bindings and fields of the format string have the same names. -/
theorem CompiledFrom.keys_eq_bindings {label pattern : String} {options : Options}
    (h : t.CompiledFrom label pattern options) :
    t.keys = Names.ofList (t.bindings.map Binding.placeholder) := by
  obtain ⟨e, he, -⟩ := Segment.expression_eq_ok h.expression
  rw [h.keys, Segment.map_placeholder_of_expressionFrom he]

theorem CompiledFrom.isValidName_of_mem_keys {label pattern : String} {options : Options}
    (h : t.CompiledFrom label pattern options) :
    ∀ name ∈ t.keys, Segment.isValidName name := by
  intro name hname
  obtain ⟨e, he, -⟩ := Segment.expression_eq_ok h.expression
  rw [h.keys, Names.mem_ofList] at hname
  exact Segment.isValidName_of_expressionFrom he name hname

/-- A compiled template renders the fields that have the names of its placeholders, and no others.
These names are those of its segments, of its bindings and of its format string, and all of them
are valid. What it renders is the text of its tokens in order, with every value as it is. -/
theorem renders_fields_of_keys {label pattern : String} {options : Options}
    (h : compile label pattern options = .ok t) (fields : Fields) :
    (t.accepts fields = true ↔ fields.keys = t.keys) ∧
    ((∃ path, t.render fields = some path) ↔ fields.keys = t.keys) ∧
    (∀ path, t.render fields = some path →
      path.toList = t.format.tokens.flatMap (FormatToken.text fields)) ∧
    t.keys = Names.ofList (Segment.names (Segment.scan pattern)) ∧
    t.keys = Names.ofList (t.bindings.map Binding.placeholder) ∧
    t.keys = t.format.fieldNames ∧
    ∀ name ∈ t.keys, Segment.isValidName name := by
  have hcompiled := compiledFrom_of_compile h
  refine ⟨accepts_eq_true_iff, ?_, ?_, hcompiled.keys, hcompiled.keys_eq_bindings,
    hcompiled.fieldNames.symm, hcompiled.isValidName_of_mem_keys⟩
  · constructor
    · rintro ⟨path, hpath⟩
      exact (render_eq_some_iff.1 hpath).1
    · intro hkeys
      refine ⟨String.ofList (t.format.tokens.flatMap (FormatToken.text fields)), ?_⟩
      rw [render_eq_some_iff, Format.fill_eq_some_iff, hcompiled.fieldNames, hkeys]
      exact ⟨rfl, fun name hname => hname, String.toList_ofList⟩
  · intro path hpath
    obtain ⟨-, hfill⟩ := render_eq_some_iff.1 hpath
    exact (Format.fill_eq_some_iff.1 hfill).2

/-- A value that looks like a placeholder stays as it is. -/
theorem renders_twice :
    compile "twice" twice.pattern {} = .ok twice ∧
      twice.render (Fields.ofList [("a", "\x7ba\x7d\x7d")]) =
        some "\x7ba\x7d\x7d/\x7ba\x7d\x7d" ∧
      twice.render (Fields.ofList [("b", "x")]) = none := by
  have hcompile : compile "twice" twice.pattern {} = .ok twice := compile_twice true
  refine ⟨hcompile, ?_, ?_⟩
  · obtain ⟨-, hrenders, htext, -⟩ :=
      renders_fields_of_keys hcompile (Fields.ofList [("a", "\x7ba\x7d\x7d")])
    obtain ⟨path, hpath⟩ := hrenders.2 rfl
    have hchars := htext path hpath
    rw [hpath, ← String.ofList_toList (s := path), hchars]
    rfl
  · obtain ⟨-, hrenders, -⟩ := renders_fields_of_keys hcompile (Fields.ofList [("b", "x")])
    rw [Option.eq_none_iff_forall_ne_some]
    intro path hpath
    exact absurd (hrenders.1 ⟨path, hpath⟩) (by decide)

end Template

end PathTemplate
