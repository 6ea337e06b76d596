import PathTemplate.Proofs.Template.Pieces

/-!
# Cutting templates into segments

The scanner loses nothing: the pieces that its segments stand as make up the
pattern. It finds every placeholder, as a brace stays in a literal only where
none begins. These two rules leave only one way to cut a pattern, so segments
that are written down are scanned again as they were.
-/

namespace PathTemplate.Segment

/-- Whether no opening brace of a text begins a placeholder in front of other text. -/
def StaysLiteral (text behind : List Char) : Prop :=
  ∀ before after, text = before ++ '{' :: after → BeginsNoPlaceholder (after ++ behind)

/-- The segments of a text: literals as long as they can be, between placeholders. -/
inductive Cuts : List Segment → List Char → Prop
  | nil : Cuts [] []
  | placeholder {segment : Segment} {piece text : List Char} {segments : List Segment}
      (hplaceholder : ¬ segment.IsLiteral) (hsound : segment.IsSound)
      (hpiece : segment.StandsAs piece) (rest : Cuts segments text) :
      Cuts (segment :: segments) (piece ++ text)
  | literal {piece : String} {text : List Char} {segments : List Segment} (hne : piece ≠ "")
      (hstays : StaysLiteral piece.toList text)
      (hhead : ∀ next ∈ segments.head?, ¬ next.IsLiteral) (rest : Cuts segments text) :
      Cuts (literal piece :: segments) (piece.toList ++ text)

namespace StaysLiteral

theorem nil (behind : List Char) : StaysLiteral [] behind := by
  intro before after h
  simp at h

/-- Text without an opening brace. -/
theorem of_notMem {text : List Char} (h : '{' ∉ text) (behind : List Char) :
    StaysLiteral text behind := by
  rintro before after rfl
  simp at h

/-- A character goes over from the text behind, if it begins no placeholder. -/
theorem push {text behind : List Char} {c : Char} (h : StaysLiteral text (c :: behind))
    (hc : c = '{' → BeginsNoPlaceholder behind) : StaysLiteral (text ++ [c]) behind := by
  intro before after htext
  rcases List.eq_nil_or_concat after with rfl | ⟨after, d, rfl⟩
  · obtain ⟨-, hlast⟩ := List.append_inj' htext rfl
    exact hc (List.cons.inj hlast).1
  · have hsplit : text ++ [c] = (before ++ '{' :: after) ++ [d] := by simpa using htext
    obtain ⟨rfl, hlast⟩ := List.append_inj' hsplit rfl
    obtain ⟨rfl, -⟩ := List.cons.inj hlast
    simpa using h before after rfl

theorem head {c : Char} {text behind : List Char} (h : StaysLiteral (c :: text) behind)
    (hc : c = '{') : BeginsNoPlaceholder (text ++ behind) :=
  h [] text (by rw [hc]; rfl)

theorem tail {c : Char} {text behind : List Char} (h : StaysLiteral (c :: text) behind) :
    StaysLiteral text behind :=
  fun before after htext => h (c :: before) after (by rw [htext]; rfl)

end StaysLiteral

namespace Cuts

/-- Waiting text becomes a literal in front of what is no literal. -/
theorem consLiteral {segments : List Segment} {text backwards : List Char}
    (h : Cuts segments text) (hstays : StaysLiteral backwards.reverse text)
    (hhead : ∀ next ∈ segments.head?, ¬ next.IsLiteral) :
    Cuts (consLiteral backwards segments) (backwards.reverse ++ text) := by
  cases backwards with
  | nil => exact h
  | cons c backwards =>
      have hne : String.ofList (c :: backwards).reverse ≠ "" := by simp
      have hcut := literal hne (by rwa [String.toList_ofList]) hhead h
      rwa [String.toList_ofList] at hcut

end Cuts

/-- What is scanned behind waiting text are the segments of both together. -/
theorem cuts_scanFrom {backwards text : List Char} (h : StaysLiteral backwards.reverse text) :
    Cuts (scanFrom backwards text) (backwards.reverse ++ text) := by
  fun_induction scanFrom backwards text with
  | case1 backwards =>
      exact Cuts.nil.consLiteral h (by simp)
  | case2 backwards rest segment rest' hfound ih =>
      obtain ⟨hplaceholder, hsound, piece, hpiece, htext⟩ := placeholder?_eq_some_iff.1 hfound
      rw [htext] at h ⊢
      refine (Cuts.placeholder hplaceholder hsound hpiece (ih (.nil rest'))).consLiteral h ?_
      intro next hnext
      cases hnext
      exact hplaceholder
  | case3 backwards rest hnone ih =>
      have hpush : StaysLiteral ('{' :: backwards).reverse rest := by
        rw [List.reverse_cons]
        exact h.push fun _ => placeholder?_eq_none_iff.1 hnone
      simpa using ih hpush
  | case4 backwards c rest hc ih =>
      have hpush : StaysLiteral (c :: backwards).reverse rest := by
        rw [List.reverse_cons]
        exact h.push fun hopen => absurd hopen hc
      simpa using ih hpush

/-- Literal text waits until a placeholder begins or the text ends. -/
theorem scanFrom_append {text behind : List Char} (h : StaysLiteral text behind)
    (backwards : List Char) :
    scanFrom backwards (text ++ behind) = scanFrom (text.reverse ++ backwards) behind := by
  induction text generalizing backwards with
  | nil => rfl
  | cons c text ih =>
      rw [List.cons_append, scanFrom_char fun hc => placeholder?_eq_none_iff.2 (h.head hc),
        ih h.tail, List.reverse_cons, List.append_assoc]
      rfl

/-- The segments of a text are scanned, with waiting text as a literal in front of them. -/
theorem scanFrom_of_cuts {segments : List Segment} {text backwards : List Char}
    (h : Cuts segments text)
    (hwaiting : backwards ≠ [] → ∀ next ∈ segments.head?, ¬ next.IsLiteral) :
    scanFrom backwards text = consLiteral backwards segments := by
  induction h generalizing backwards with
  | nil => rw [scanFrom]
  | @placeholder segment piece text segments hplaceholder hsound hpiece rest ih =>
      obtain ⟨behind, rfl⟩ := hpiece.exists_open hplaceholder
      have hfound : placeholder? (behind ++ text) = some (segment, text) :=
        placeholder?_eq_some_iff.2 ⟨hplaceholder, hsound, _, hpiece, rfl⟩
      rw [List.cons_append, scanFrom_placeholder hfound, ih fun hne => absurd rfl hne]
      rfl
  | @literal piece text segments hne hstays hhead rest ih =>
      have hnil : backwards = [] := by
        by_contra hwait
        exact hwaiting hwait _ rfl trivial
      subst hnil
      rw [scanFrom_append hstays, List.append_nil, ih fun _ => hhead]
      simp [Segment.consLiteral, hne]

/-- The scanner finds the only segments that a pattern has. -/
theorem scan_eq_iff {pattern : String} {segments : List Segment} :
    scan pattern = segments ↔ Cuts segments pattern.toList := by
  constructor
  · rintro rfl
    exact cuts_scanFrom (.nil pattern.toList)
  · exact fun h => scanFrom_of_cuts h fun hne => absurd rfl hne

/-! ## Nothing is lost -/

/-- Pieces of a text for its segments: each is what its segment stands as, and no brace in a
literal begins a placeholder in front of the pieces behind the literal. -/
structure Pieces (segments : List Segment) (pieces : List (List Char)) : Prop where
  stands : List.Forall₂ StandsAs segments pieces
  stays : ∀ i text, segments[i]? = some (literal text) →
    StaysLiteral text.toList (pieces.drop (i + 1)).flatten

theorem Pieces.nil : Pieces [] [] :=
  ⟨.nil, fun i text h => by simp at h⟩

theorem Pieces.cons {segment : Segment} {piece : List Char} {segments : List Segment}
    {pieces : List (List Char)} (h : Pieces segments pieces) (hpiece : segment.StandsAs piece)
    (hstays : ∀ text, segment = literal text → StaysLiteral text.toList pieces.flatten) :
    Pieces (segment :: segments) (piece :: pieces) := by
  refine ⟨.cons hpiece h.stands, fun i text htext => ?_⟩
  cases i with
  | zero => exact hstays text (by simpa using htext)
  | succ i => exact h.stays i text (by simpa using htext)

/-- The segments of a text have pieces that make up the text. -/
theorem Cuts.exists_pieces {segments : List Segment} {text : List Char} (h : Cuts segments text) :
    ∃ pieces, pieces.flatten = text ∧ Pieces segments pieces := by
  induction h with
  | nil => exact ⟨[], rfl, .nil⟩
  | @placeholder segment piece text segments hplaceholder hsound hpiece rest ih =>
      obtain ⟨pieces, rfl, hpieces⟩ := ih
      refine ⟨piece :: pieces, rfl, hpieces.cons hpiece ?_⟩
      rintro text rfl
      exact absurd trivial hplaceholder
  | @literal piece text segments hne hstays hhead rest ih =>
      obtain ⟨pieces, rfl, hpieces⟩ := ih
      refine ⟨piece.toList :: pieces, rfl, hpieces.cons rfl ?_⟩
      rintro text heq
      cases heq
      exact hstays

theorem Cuts.sound {segments : List Segment} {text : List Char} (h : Cuts segments text) :
    ∀ segment ∈ segments, segment.IsSound := by
  induction h with
  | nil => simp
  | placeholder hplaceholder hsound hpiece rest ih => exact List.forall_mem_cons.2 ⟨hsound, ih⟩
  | literal hne hstays hhead rest ih => exact List.forall_mem_cons.2 ⟨hne, ih⟩

theorem Cuts.apart {segments : List Segment} {text : List Char} (h : Cuts segments text) :
    segments.IsChain fun a b => ¬ (a.IsLiteral ∧ b.IsLiteral) := by
  induction h with
  | nil => exact .nil
  | placeholder hplaceholder hsound hpiece rest ih =>
      exact ih.cons fun next hnext hboth => hplaceholder hboth.1
  | literal hne hstays hhead rest ih =>
      exact ih.cons fun next hnext hboth => hhead next hnext hboth.2

/-- A pattern is made up of pieces, one for each segment that is scanned: the text of a literal, a
name between braces, or a name and a constraint in which braces have backslashes. No literal is
empty, no two literals touch, and no name is empty or has a character that ends names. A brace
stays in a literal only if no placeholder begins behind it. -/
theorem scan_pieces (pattern : String) :
    ∃ pieces : List (List Char), pieces.flatten = pattern.toList ∧
      List.Forall₂ StandsAs (scan pattern) pieces ∧
      (∀ segment ∈ scan pattern, segment.IsSound) ∧
      (scan pattern).IsChain (fun a b => ¬ (a.IsLiteral ∧ b.IsLiteral)) ∧
      ∀ i text before after, (scan pattern)[i]? = some (literal text) →
        text.toList = before ++ '{' :: after →
        BeginsNoPlaceholder (after ++ (pieces.drop (i + 1)).flatten) := by
  have hcuts : Cuts (scan pattern) pattern.toList := scan_eq_iff.1 rfl
  obtain ⟨pieces, hflatten, hpieces⟩ := hcuts.exists_pieces
  refine ⟨pieces, hflatten, hpieces.stands, hcuts.sound, hcuts.apart, ?_⟩
  exact fun i text before after hi htext => hpieces.stays i text hi before after htext

/-! ## Written segments -/

/-- Whether segments are those of the text that they are written as: literals have no opening
brace, and no constraint ends in a backslash, which would take the closing brace with it. -/
structure Writable (segments : List Segment) : Prop where
  sound : ∀ segment ∈ segments, segment.IsSound
  apart : segments.IsChain fun a b => ¬ (a.IsLiteral ∧ b.IsLiteral)
  noOpen : ∀ text, literal text ∈ segments → '{' ∉ text.toList
  ends : ∀ name constraint, placeholder name (some constraint) ∈ segments →
    constraint.toList.getLast? ≠ some '\\'

theorem Writable.tail {segment : Segment} {segments : List Segment}
    (h : Writable (segment :: segments)) : Writable segments where
  sound s hs := h.sound s (List.mem_cons_of_mem _ hs)
  apart := h.apart.tail
  noOpen text ht := h.noOpen text (List.mem_cons_of_mem _ ht)
  ends name constraint hc := h.ends name constraint (List.mem_cons_of_mem _ hc)

/-- A segment stands as it is written. -/
theorem standsAs_write {segment : Segment}
    (h : ∀ name constraint, segment = placeholder name (some constraint) →
      constraint.toList.getLast? ≠ some '\\') : segment.StandsAs segment.write := by
  cases segment with
  | literal text => rfl
  | placeholder name constraint =>
      cases constraint with
      | none => rfl
      | some constraint =>
          refine ⟨escapeConstraint constraint.toList, by simp [write], ?_, ?_⟩
          · exact isRawConstraint_escapeConstraint (h name constraint rfl)
          · exact unescapeBraces_escapeConstraint constraint.toList

theorem cuts_flatMap_write {segments : List Segment} (h : Writable segments) :
    Cuts segments (segments.flatMap write) := by
  induction segments with
  | nil => exact .nil
  | cons segment segments ih =>
      have hsound := h.sound segment List.mem_cons_self
      rw [List.flatMap_cons]
      cases segment with
      | literal text =>
          refine .literal hsound (.of_notMem (h.noOpen text List.mem_cons_self) _) ?_ (ih h.tail)
          intro next hnext hlit
          exact (List.isChain_cons.1 h.apart).1 next hnext ⟨trivial, hlit⟩
      | placeholder name constraint =>
          refine .placeholder id hsound (standsAs_write ?_) (ih h.tail)
          rintro n c heq
          exact h.ends n c (heq ▸ List.mem_cons_self)

/-- Written segments are scanned again as they were. -/
theorem scan_write {segments : List Segment} (h : Writable segments) :
    scan (String.ofList (segments.flatMap write)) = segments := by
  rw [scan_eq_iff, String.toList_ofList]
  exact cuts_flatMap_write h

/-- A name with a brace and a backslash, and a constraint with both, are scanned again. -/
theorem scan_write_version :
    let segments := [literal "v\x7d", placeholder "a\x7b\\" (some "\\d\x7b3\x7d\\\x7b"),
      literal ":"]
    Writable segments ∧
      String.ofList (segments.flatMap write) =
        "v\x7d\x7ba\x7b\\:\\d\\\x7b3\\\x7d\\\\\x7b\x7d:" ∧
      scan (String.ofList (segments.flatMap write)) = segments := by
  intro segments
  have hwritable : Writable segments := by
    constructor
    · simp [segments, IsSound, EndsNoName]
    · simp [segments, IsLiteral]
    · intro text ht
      have htext : text = "v\x7d" ∨ text = ":" := by simpa [segments] using ht
      rcases htext with rfl | rfl
      · decide
      · decide
    · intro name constraint hc
      obtain ⟨-, rfl⟩ : name = "a\x7b\\" ∧ constraint = "\\d\x7b3\x7d\\\x7b" := by
        simpa [segments] using hc
      decide
  exact ⟨hwritable, rfl, scan_write hwritable⟩

end PathTemplate.Segment
