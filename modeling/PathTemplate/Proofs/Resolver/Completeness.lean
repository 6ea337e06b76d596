import PathTemplate.Proofs.Resolver.RoundTrip
import PathTemplate.Proofs.Template.Spelling

/-!
# What is resolved is formatted again

Where the text of a template stays plain in its expression, a path that was
resolved is spelled by the template and the fields, so the fields have the path
again. With duplicates unchecked this could fail, as only the last value of a
placeholder is kept.
-/

namespace PathTemplate.Session

/-- Fields that a session found in a path under a label have the names of the template, and any
session of the resolver formats them under the label to the path again. -/
theorem formatOne_of_resolveOne {pairs : List (String × String)} {options : Options} {r : Resolver}
    (h : Resolver.build pairs options = .ok r) (hcheck : options.checkDuplicates = true)
    {label : String} {t : Template} (ht : r.template? label = some t) (hreads : t.ReadsPlainly)
    (hplain : t.HasNoBraces) (earlier : List Operation) {path : String} {fields : Fields}
    (hresolved : (((start r).final earlier).perform (.resolveOne path label)).answer =
      .resolvedOne (.ok (some fields))) :
    fields.keys = t.keys ∧ ∀ others : List Operation,
      (((start r).final others).perform (.formatOne fields label)).answer =
        .formattedOne (some path) := by
  obtain ⟨hr, hc⟩ := final_start_faithful r earlier
  rw [resolveOne_answer hr hc, Answer.resolvedOne.injEq] at hresolved
  obtain ⟨u, hu, hextract⟩ := Resolver.extract_of_findOne hresolved
  cases ht.symm.trans hu
  rw [Resolver.extract, Resolver.options_of_build h, hcheck] at hextract
  obtain ⟨pattern, hcompile⟩ := Resolver.compiled_of_build h ht
  obtain ⟨hkeys, hfill⟩ :=
    (Template.compiledFrom_of_compile hcompile).fill_of_extract hreads hplain hextract
  refine ⟨hkeys, fun others => ?_⟩
  obtain ⟨hr', hc'⟩ := final_start_faithful r others
  have hlabel : ∀ t, r.template? label = some t → t.label = label :=
    fun t ht => Resolver.label_of_build h ht
  have hempty := (Template.gather_of_extract hextract).1
  rw [formatOne_answer hr' hc', Answer.formattedOne.injEq, Resolver.plainOne_eq_some_iff hlabel]
  exact ⟨hempty, t, ht, hkeys, hfill, hresolved⟩

/-- A path with the same segment twice is formatted again after the cache has been cleared. -/
theorem formatOne_of_twice :
    Resolver.build [("twice", Template.twice.pattern)] {} = .ok (Resolver.twice true) ∧
      (((start (Resolver.twice true)).final [.resolveFirst "x/x"]).perform
        (.resolveOne "x/x" "twice")).answer =
          .resolvedOne (.ok (some (Fields.ofList [("a", "x")]))) ∧
      (((start (Resolver.twice true)).final [.resolveFirst "x/x", .clearCache]).perform
        (.formatOne (Fields.ofList [("a", "x")]) "twice")).answer = .formattedOne (some "x/x") := by
  have hreads : Template.twice.ReadsPlainly := by
    refine ⟨[.group (.capture 1 (some "a001")) Regex.letters, .char ⟨'/', false⟩,
      .group (.capture 2 (some "a002")) Regex.letters], ?_, Regex.readExpr_twice⟩
    rw [Segment.scan_twice]
    exact .placeholder "a" (some "[a-z]+") 1 _
      (.literal "/" (.placeholder "a" (some "[a-z]+") 2 _ .nil))
  have hplain : Template.twice.HasNoBraces := by
    intro text ht
    rw [Segment.scan_twice] at ht
    have htext : text = "/" := by simpa using ht
    subst htext
    decide
  have hresolved : (((start (Resolver.twice true)).final [.resolveFirst "x/x"]).perform
      (.resolveOne "x/x" "twice")).answer =
        .resolvedOne (.ok (some (Fields.ofList [("a", "x")]))) := by
    cbv
  refine ⟨Resolver.build_twice true, hresolved, ?_⟩
  exact (formatOne_of_resolveOne (Resolver.build_twice true) rfl rfl hreads hplain
    [.resolveFirst "x/x"] hresolved).2 _

end PathTemplate.Session
