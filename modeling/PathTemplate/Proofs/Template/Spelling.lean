import PathTemplate.Proofs.Regex.Parts
import PathTemplate.Proofs.Template.Gathering
import PathTemplate.Proofs.Template.Rendering

/-!
# What a match spells

If the text of a template stays plain in its expression and every placeholder
is one group, a match between both anchors goes over the path segment after
segment. The path is then spelled by the text of the template and the values of
its groups, whatever stands inside the groups.
-/

namespace PathTemplate

namespace Segment

open Regex (Expr Match RunsParts)

/-- Segments are read as plain characters and groups of the names they were given. What a group
may match is left open, and so is its number. -/
inductive ReadsAs : List String → List Segment → List Expr → Prop
  | nil {seen : List String} : ReadsAs seen [] []
  | literal {seen : List String} {rest : List Segment} {parts : List Expr} (text : String)
      (h : ReadsAs seen rest parts) :
      ReadsAs seen (literal text :: rest) (text.toList.map (fun c => .char ⟨c, false⟩) ++ parts)
  | placeholder {seen : List String} {rest : List Segment} {parts : List Expr} (name : String)
      (constraint : Option String) (index : Nat) (body : Expr)
      (h : ReadsAs (name :: seen) rest parts) :
      ReadsAs seen (placeholder name constraint :: rest)
        (.group (.capture index (some (groupName name (seen.count name + 1)))) body :: parts)

/-- Segments spell a text with the values of their groups. -/
inductive Spells (value : String → Option String) : List Segment → List Binding → List Char → Prop
  | nil : Spells value [] [] []
  | literal {rest : List Segment} {bindings : List Binding} {chars : List Char} (text : String)
      (h : Spells value rest bindings chars) :
      Spells value (literal text :: rest) bindings (text.toList ++ chars)
  | placeholder {rest : List Segment} {bindings : List Binding} {chars : List Char}
      {name group v : String} (constraint : Option String) (hv : value group = some v)
      (h : Spells value rest bindings chars) :
      Spells value (placeholder name constraint :: rest) (⟨group, name⟩ :: bindings)
        (v.toList ++ chars)

theorem capturesAll_chars (cs : List Char) (parts : List Expr) :
    Expr.capturesAll (cs.map (fun c => .char ⟨c, false⟩) ++ parts) = Expr.capturesAll parts := by
  induction cs with
  | nil => rfl
  | cons c rest ih => exact ih

/-- A run of the parts up to the end of the text is spelled from where it starts on. -/
theorem spells_of_runsParts {text : Array Char} {value : String → Option String}
    {seen : List String} {segments : List Segment} {parts : List Expr} {source : String}
    {bindings : List Binding} {p q : Nat} {tr tr' : Regex.Trail}
    (hparts : ReadsAs seen segments parts)
    (hbindings : expressionFrom seen segments = .ok (source, bindings))
    (hnumbers : ((Expr.capturesAll parts).map Prod.fst).Nodup)
    (hvalue : ∀ index name first last, (index, some name) ∈ Expr.capturesAll parts →
      Match.span? ⟨text, tr'⟩ index = some (first, last) →
      value name = some (String.ofList (text.extract first last).toList))
    (hrun : RunsParts text (parts ++ [.place .lineEnd]) p tr q tr') :
    Spells value segments bindings (text.toList.drop p) := by
  induction hparts generalizing source bindings p tr with
  | nil =>
      rw [expressionFrom] at hbindings
      cases hbindings
      rw [hrun.lineEnd.1]
      exact .nil
  | @literal seen rest parts t _ ih =>
      obtain ⟨source', hrest, -⟩ := expressionFrom_literal hbindings
      rw [List.append_assoc] at hrun
      obtain ⟨hdrop, hrun⟩ := hrun.chars
      rw [capturesAll_chars] at hnumbers hvalue
      rw [hdrop]
      exact .literal t (ih hrest hnumbers hvalue hrun)
  | @placeholder seen rest parts name constraint index body _ ih =>
      obtain ⟨-, -, source', bindings', hrest, -, rfl⟩ := expressionFrom_placeholder hbindings
      rw [Expr.capturesAll, Expr.captures] at hnumbers hvalue
      simp only [Regex.GroupKind.captures, List.cons_append, List.nil_append, List.map_cons,
        List.map_append, List.nodup_cons, List.nodup_append, List.mem_append, not_or] at hnumbers
      obtain ⟨⟨hbody, hparts⟩, -, hnumbers, -⟩ := hnumbers
      have hend : index ∉ (Expr.capturesAll (parts ++ [.place .lineEnd])).map Prod.fst := by
        rw [Expr.capturesAll_append, List.map_append, List.mem_append, not_or]
        exact ⟨hparts, List.not_mem_nil⟩
      obtain ⟨last, tr₁, hdrop, hspan, -, hrun⟩ := RunsParts.group hrun hbody hend
      have hv := hvalue index _ p last List.mem_cons_self hspan
      have hspells := ih hrest hnumbers
        (fun i n first last hmem => hvalue i n first last (List.mem_append_right _ hmem)) hrun
      rw [hdrop, ← @String.toList_ofList (text.extract p last).toList]
      exact .placeholder constraint hv hspells

/-! ## Values -/

/-- The values of placeholders, in the order of their groups. -/
def valuesOf (value : String → Option String) (bindings : List Binding) : List (String × String) :=
  bindings.filterMap fun b => (value b.group).map (b.placeholder, ·)

theorem valuesOf_cons {value : String → Option String} {group name v : String}
    (hv : value group = some v) (bindings : List Binding) :
    valuesOf value (⟨group, name⟩ :: bindings) = (name, v) :: valuesOf value bindings := by
  rw [valuesOf, List.filterMap_cons_some]
  · rfl
  · rw [hv]
    rfl

/-- Text without braces is the same in the format string. -/
theorem token_literal {text : String} (hopen : '{' ∉ text.toList) (hclose : '}' ∉ text.toList) :
    token (literal text) = .literal text := by
  rw [token, FormatToken.collapseBraces_of_notMem hopen hclose, String.ofList_toList]

/-! ## Filling -/

/-- Segments are filled to a text with a value for every occurrence of a placeholder, in order. -/
inductive FilledWith : List (String × String) → List Segment → List Char → Prop
  | nil : FilledWith [] [] []
  | literal {values : List (String × String)} {rest : List Segment} {chars : List Char}
      (text : String) (h : FilledWith values rest chars) :
      FilledWith values (literal text :: rest) (text.toList ++ chars)
  | placeholder {values : List (String × String)} {rest : List Segment} {chars : List Char}
      (name : String) (constraint : Option String) (value : String)
      (h : FilledWith values rest chars) :
      FilledWith ((name, value) :: values) (placeholder name constraint :: rest)
        (value.toList ++ chars)

theorem map_fst_of_filledWith {values : List (String × String)} {segments : List Segment}
    {chars : List Char} (h : FilledWith values segments chars) :
    values.map Prod.fst = names segments := by
  induction h with
  | nil => rfl
  | literal text _ ih => exact ih
  | placeholder name constraint value _ ih =>
      rw [List.map_cons, ih]
      rfl

/-- What segments spell they are filled to. -/
theorem filledWith_of_spells {value : String → Option String} {segments : List Segment}
    {bindings : List Binding} {chars : List Char} (h : Spells value segments bindings chars) :
    FilledWith (valuesOf value bindings) segments chars := by
  induction h with
  | nil => exact .nil
  | literal text _ ih => exact .literal text ih
  | placeholder constraint hv _ ih =>
      rw [valuesOf_cons hv]
      exact .placeholder _ constraint _ ih

/-- Fields fill the tokens of segments without braces to what the segments are filled to with the
values of the fields. -/
theorem fillTokens_eq_some_iff {segments : List Segment} {fields : Fields}
    (hplain : ∀ text, literal text ∈ segments → '{' ∉ text.toList ∧ '}' ∉ text.toList)
    {path : String} :
    Format.fillTokens fields (segments.map token) = some path ↔
      ∃ values, FilledWith values segments path.toList ∧ Agrees fields values := by
  constructor
  · intro h
    induction segments generalizing path with
    | nil =>
        cases h
        exact ⟨[], .nil, fun e he => nomatch he⟩
    | cons segment rest ih =>
        rw [List.map_cons, Format.fillTokens_cons_eq_some_iff] at h
        obtain ⟨a, b, ha, hb, rfl⟩ := h
        obtain ⟨values, hfilled, hagrees⟩ :=
          ih (fun text ht => hplain text (List.mem_cons_of_mem _ ht)) hb
        rw [String.toList_append]
        cases segment with
        | literal text =>
            obtain ⟨hopen, hclose⟩ := hplain text List.mem_cons_self
            rw [token_literal hopen hclose] at ha
            obtain rfl : text = a := Option.some.inj ha
            exact ⟨values, .literal text hfilled, hagrees⟩
        | placeholder name constraint =>
            exact ⟨(name, a) :: values, .placeholder name constraint a hfilled,
              List.forall_mem_cons.2 ⟨ha, hagrees⟩⟩
  · rintro ⟨values, hfilled, hagrees⟩
    rw [← String.ofList_toList (s := path)]
    generalize path.toList = chars at hfilled
    induction hfilled with
    | nil => rfl
    | literal text _ ih =>
        obtain ⟨hopen, hclose⟩ := hplain text List.mem_cons_self
        have hrest := ih (fun t ht => hplain t (List.mem_cons_of_mem _ ht)) hagrees
        rw [List.map_cons, token_literal hopen hclose, Format.fillTokens_cons_eq_some_iff]
        exact ⟨text, _, rfl, hrest, by rw [String.ofList_append, String.ofList_toList]⟩
    | placeholder name constraint value _ ih =>
        obtain ⟨hname, hvalues⟩ := List.forall_mem_cons.1 hagrees
        have hrest := ih (fun t ht => hplain t (List.mem_cons_of_mem _ ht)) hvalues
        rw [List.map_cons, Format.fillTokens_cons_eq_some_iff]
        exact ⟨value, _, hname, hrest, by rw [String.ofList_append, String.ofList_toList]⟩

end Segment

namespace Template

/-! ## Templates -/

/-- The expression of a template is read as the parts of its segments between the start and the
end. -/
def ReadsPlainly (t : Template) : Prop :=
  ∃ parts, Segment.ReadsAs [] (Segment.scan t.pattern) parts ∧
    Regex.readExpr t.regex.source.toList =
      .ok (.concat (.place .lineStart :: parts ++ [.place .lineEnd]))

/-- No literal of a template has a brace. -/
def HasNoBraces (t : Template) : Prop :=
  ∀ text, Segment.literal text ∈ Segment.scan t.pattern → '{' ∉ text.toList ∧ '}' ∉ text.toList

/-- A path that a template matches is spelled by its segments. -/
theorem CompiledFrom.spells {t : Template} {label pattern : String} {options : Options}
    (h : t.CompiledFrom label pattern options) (hreads : t.ReadsPlainly) {path : String}
    {m : Regex.Match} (hm : t.regex.find? path = some m) :
    Segment.Spells (t.regex.named? m) (Segment.scan t.pattern) t.bindings path.toList := by
  obtain ⟨parts, hparts, hread⟩ := hreads
  obtain ⟨-, e, f, hread', hmeaning, hnames⟩ := Regex.compile_eq_ok h.regex
  obtain ⟨source, hsource, -⟩ := Segment.expression_eq_ok h.expression
  have he := Except.ok.inj (hread'.symm.trans hread)
  have hnumbered := Regex.wellNumbered_of_readExpr hread'
  subst he
  obtain ⟨p, hp, q, tr, rfl, hrun⟩ := Regex.runsParts_of_find? hmeaning hm
  obtain ⟨rfl, hrun⟩ := Regex.RunsParts.lineStart hrun hp
  rw [h.pattern_eq] at hparts ⊢
  have hcaptures : (Regex.Expr.concat (.place .lineStart :: parts ++ [.place .lineEnd])).captures =
      Regex.Expr.capturesAll parts := by
    rw [Regex.Expr.captures, List.cons_append, Regex.Expr.capturesAll,
      Regex.Expr.capturesAll_append]
    exact List.append_nil _
  have hnumbers : ((Regex.Expr.capturesAll parts).map Prod.fst).Nodup := by
    rw [← hcaptures]
    exact hnumbered.numbers
  refine Segment.spells_of_runsParts hparts hsource hnumbers ?_ hrun
  intro index name first last hmem hspan
  rw [← hcaptures] at hmem
  refine Regex.named?_of_span? (Regex.groupNumber?_of_mem hnames hnumbered hmem) ?_
  exact (Regex.span?_endSlot_zero (hnumbered.pos _ hmem)).trans hspan

/-- The fields of a path have the names of the template, and they fill its format string to the
path again. -/
theorem CompiledFrom.fill_of_extract {t : Template} {label pattern : String} {options : Options}
    (h : t.CompiledFrom label pattern options) (hreads : t.ReadsPlainly) (hplain : t.HasNoBraces)
    {path : String} {fields : Fields} (hextract : t.extract path true = .ok (some fields)) :
    fields.keys = t.keys ∧ t.format.fill fields = some path := by
  obtain ⟨-, m, hm, hgather⟩ := gather_of_extract hextract
  have hfilled := Segment.filledWith_of_spells (h.spells hreads hm)
  obtain ⟨hkeys, hagrees⟩ := gather_eq_ok_iff.1 hgather
  refine ⟨?_, ?_⟩
  · rw [hkeys, h.keys, ← h.pattern_eq, ← Segment.map_fst_of_filledWith hfilled]
    rfl
  · rw [Format.fill, h.samePieces.tokens_eq, ← h.pattern_eq,
      Segment.fillTokens_eq_some_iff hplain]
    exact ⟨_, hfilled, hagrees⟩

end Template

end PathTemplate
