import PathTemplate.Proofs.Fields
import PathTemplate.Proofs.Outcome
import PathTemplate.Resolver.Session

/-!
# What a compiled template is made of

A template is compiled from the segments of its pattern in two ways, into an
expression and into a format string. The lemmas here take the steps of the
compilation apart once, so that what is proved about a template starts from its
parts.
-/

namespace PathTemplate

/-- The parts of a template that was compiled from a pattern under a label. -/
structure Template.CompiledFrom (t : Template) (label pattern : String) (options : Options) :
    Prop where
  label_eq : t.label = label
  pattern_eq : t.pattern = pattern
  expression : Segment.expression options (Segment.scan pattern) = .ok (t.regex.source, t.bindings)
  regex : Regex.compile t.regex.source = .ok t.regex
  format : Format.parse (Segment.formatSource (Segment.scan pattern)) = .ok t.format
  keys : t.keys = Names.ofList (Segment.names (Segment.scan pattern))
  fieldNames : t.format.fieldNames = t.keys

namespace Regex

/-- A regular expression that was read keeps its text. Its groups are named by the tree and its
kernel is the meaning of the tree. -/
theorem compile_eq_ok {source : String} {r : Regex} (h : compile source = .ok r) :
    r.source = source ∧ ∃ e f, readExpr source.toList = .ok e ∧ meaning {} e = .ok (r.core, f) ∧
      r.names = e.groupNames := by
  obtain ⟨e, he, h⟩ := exists_of_bind_eq_ok h
  obtain ⟨⟨core, f⟩, hm, h⟩ := exists_of_bind_eq_ok h
  dsimp only at h
  split at h
  · cases h
  · cases h
    exact ⟨rfl, e, f, he, hm, rfl⟩

theorem compile_of_readExpr {source : String} {e : Expr} {core : Core} {f : Flags}
    (he : readExpr source.toList = .ok e) (hm : meaning {} e = .ok (core, f))
    (hw : (Core.capture 0 core).weight false ≤ weightLimit) :
    compile source = .ok { source, core, names := e.groupNames } := by
  unfold compile
  simp only [he, hm, bind, Except.bind, Nat.not_lt.2 hw, if_false]
  rfl

end Regex

namespace Template

theorem compiledFrom_of_compile {label pattern : String} {options : Options} {t : Template}
    (h : compile label pattern options = .ok t) : t.CompiledFrom label pattern options := by
  obtain ⟨⟨source, bindings⟩, hs, h⟩ := exists_of_bind_eq_ok (eq_ok_of_mapError h)
  obtain ⟨format, hf, h⟩ := exists_of_bind_eq_ok h
  dsimp only at h
  split at h
  · cases h
  · rename_i hkeys
    obtain ⟨regex, hr, h⟩ := exists_of_bind_eq_ok h
    cases h
    have hregex := eq_ok_of_mapError hr
    have hsource := (Regex.compile_eq_ok hregex).1
    subst hsource
    exact ⟨rfl, rfl, eq_ok_of_mapError hs, hregex, eq_ok_of_mapError hf, rfl,
      (not_not.1 hkeys).symm⟩

theorem compile_of_parts (label : String) {pattern source : String} {options : Options}
    {bindings : List Binding} {format : Format} {regex : Regex}
    (hs : Segment.expression options (Segment.scan pattern) = .ok (source, bindings))
    (hf : Format.parse (Segment.formatSource (Segment.scan pattern)) = .ok format)
    (hk : Names.ofList (Segment.names (Segment.scan pattern)) = format.fieldNames)
    (hr : Regex.compile source = .ok regex) :
    compile label pattern options =
      .ok ⟨label, pattern, regex, bindings, format,
        Names.ofList (Segment.names (Segment.scan pattern))⟩ := by
  unfold compile compileFault
  simp only [hs, hf, hk, hr, bind, Except.bind, Except.mapError, ne_eq, not_true_eq_false, if_false]
  rfl

/-- A template compiles under every label if it does under one, and only carries the other label
then. -/
theorem compile_under {label pattern : String} {options : Options} {t : Template}
    (h : compile label pattern options = .ok t) (other : String) :
    compile other pattern options = .ok { t with label := other } := by
  obtain ⟨-, rfl, hs, hr, hf, hk, hn⟩ := compiledFrom_of_compile h
  rw [compile_of_parts other hs hf (hk.symm.trans hn.symm) hr, ← hk]

end Template

end PathTemplate
