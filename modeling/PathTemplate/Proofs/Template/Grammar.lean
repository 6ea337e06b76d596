import Mathlib.Data.List.Chain
import Mathlib.Data.List.TakeWhile
import PathTemplate.Template.Segment

/-!
# The grammar of placeholders

A placeholder is a name up to a colon or a closing brace, and behind a colon a
constraint up to the first closing brace that has no backslash before it. The
grammar is told here without the scanner, and the scanner is shown to follow it:
where a placeholder begins it is the one that the scanner finds, and where the
scanner finds none, none begins.
-/

namespace PathTemplate.Segment

/-! ## Braces in constraints -/

/-- Whether a backslash stands directly before every closing brace of a text. -/
def ClosesEscaped (text : List Char) : Prop :=
  text.head? ≠ some '}' ∧ text.IsChain fun before c => c = '}' → before = '\\'

/-- Text in which every backslash before a brace is taken away, from left to right. -/
def unescapeBraces : List Char → List Char
  | [] => []
  | '\\' :: '{' :: rest => '{' :: unescapeBraces rest
  | '\\' :: '}' :: rest => '}' :: unescapeBraces rest
  | c :: rest => c :: unescapeBraces rest

/-- A constraint as it may stand in a template: the brace behind it is the first one that has no
backslash before it. -/
structure IsRawConstraint (raw : List Char) : Prop where
  escaped : ClosesEscaped raw
  ends : raw.getLast? ≠ some '\\'

/-- Whether a character and the one behind it stand for a brace. -/
def Escapes (c : Char) (rest : List Char) : Prop :=
  c = '\\' ∧ ∃ later, rest = '{' :: later ∨ rest = '}' :: later

namespace ClosesEscaped

theorem nil : ClosesEscaped [] :=
  ⟨by simp, .nil⟩

/-- A character that is no closing brace may stand in front. -/
theorem cons {c : Char} {text : List Char} (h : ClosesEscaped text) (hc : c ≠ '}') :
    ClosesEscaped (c :: text) := by
  refine ⟨by simpa using hc, h.2.cons fun next hnext hclose => ?_⟩
  subst hclose
  exact absurd hnext h.1

/-- Any character may stand in front with a backslash. -/
theorem escape (c : Char) {text : List Char} (h : ClosesEscaped text) :
    ClosesEscaped ('\\' :: c :: text) := by
  refine ⟨by simp, .cons_cons (fun _ => rfl) (h.2.cons fun next hnext hclose => ?_)⟩
  subst hclose
  exact absurd hnext h.1

theorem head_ne {c : Char} {text : List Char} (h : ClosesEscaped (c :: text)) : c ≠ '}' := by
  simpa using h.1

/-- Behind a character that escapes no brace. -/
theorem tail {c : Char} {text : List Char} (h : ClosesEscaped (c :: text))
    (hc : ¬ Escapes c text) : ClosesEscaped text := by
  refine ⟨fun hhead => hc ?_, h.2.tail⟩
  obtain ⟨later, rfl⟩ := List.head?_eq_some_iff.1 hhead
  exact ⟨(List.isChain_cons.1 h.2).1 '}' rfl rfl, later, .inr rfl⟩

/-- Behind a character that is no backslash. -/
theorem behind {b c : Char} {text : List Char} (h : ClosesEscaped (b :: c :: text))
    (hc : c ≠ '\\') : ClosesEscaped text := by
  have hchain := h.2.tail
  refine ⟨fun hhead => hc ?_, hchain.tail⟩
  exact (List.isChain_cons.1 hchain).1 '}' hhead rfl

/-- A closing brace has its backslash at the end of what stands in front of it. -/
theorem getLast?_eq {front back : List Char} (h : ClosesEscaped (front ++ '}' :: back)) :
    front.getLast? = some '\\' := by
  cases hlast : front.getLast? with
  | none =>
      rw [List.getLast?_eq_none_iff.1 hlast] at h
      exact absurd rfl h.head_ne
  | some c =>
      have hlink := (List.isChain_append.1 h.2).2.2 c hlast '}' rfl
      rw [hlink rfl]

end ClosesEscaped

theorem getLast?_ne_of_cons {c d : Char} {text : List Char} (h : (c :: text).getLast? ≠ some d) :
    text.getLast? ≠ some d := by
  cases text with
  | nil => simp
  | cons e text => exact List.getLast?_cons_cons ▸ h

namespace IsRawConstraint

theorem nil : IsRawConstraint [] :=
  ⟨.nil, by simp⟩

theorem cons {c : Char} {raw : List Char} (h : IsRawConstraint raw) (hc : c ≠ '}')
    (hends : c = '\\' → raw ≠ []) : IsRawConstraint (c :: raw) := by
  refine ⟨h.escaped.cons hc, ?_⟩
  cases raw with
  | nil =>
      rw [List.getLast?_singleton, ne_eq, Option.some.injEq]
      exact fun hb => hends hb rfl
  | cons d raw =>
      rw [List.getLast?_cons_cons]
      exact h.ends

theorem escape {c : Char} {raw : List Char} (h : IsRawConstraint raw) (hc : c ≠ '\\') :
    IsRawConstraint ('\\' :: c :: raw) := by
  refine ⟨h.escaped.escape c, ?_⟩
  rw [List.getLast?_cons_cons]
  cases raw with
  | nil => simpa using hc
  | cons d raw =>
      rw [List.getLast?_cons_cons]
      exact h.ends

/-- Behind a character that escapes no brace. -/
theorem tail {c : Char} {raw : List Char} (h : IsRawConstraint (c :: raw))
    (hc : ¬ Escapes c raw) : IsRawConstraint raw :=
  ⟨h.escaped.tail hc, getLast?_ne_of_cons h.ends⟩

/-- Behind a character that is no backslash. -/
theorem behind {b c : Char} {raw : List Char} (h : IsRawConstraint (b :: c :: raw))
    (hc : c ≠ '\\') : IsRawConstraint raw :=
  ⟨h.escaped.behind hc, getLast?_ne_of_cons (getLast?_ne_of_cons h.ends)⟩

end IsRawConstraint

theorem unescapeBraces_char {c : Char} {rest : List Char} (h : ¬ Escapes c rest) :
    unescapeBraces (c :: rest) = c :: unescapeBraces rest := by
  rw [unescapeBraces.eq_4]
  · exact fun later hc hrest => h ⟨hc, later, .inl hrest⟩
  · exact fun later hc hrest => h ⟨hc, later, .inr hrest⟩

theorem constraint?_char {c : Char} {rest : List Char} (hc : c ≠ '}') (h : ¬ Escapes c rest) :
    constraint? (c :: rest) = (constraint? rest).map fun p => (c :: p.1, p.2) := by
  rw [constraint?.eq_5]
  · exact hc
  · exact fun later hb hrest => h ⟨hb, later, .inl hrest⟩
  · exact fun later hb hrest => h ⟨hb, later, .inr hrest⟩

/-- A constraint is read up to the first closing brace without a backslash. -/
theorem constraint?_append {raw : List Char} (h : IsRawConstraint raw) (rest : List Char) :
    constraint? (raw ++ '}' :: rest) = some (unescapeBraces raw, rest) := by
  fun_induction unescapeBraces raw with
  | case1 => rfl
  | case2 raw ih =>
      rw [List.cons_append, List.cons_append, constraint?, ih (h.behind (by decide))]
      rfl
  | case3 raw ih =>
      rw [List.cons_append, List.cons_append, constraint?, ih (h.behind (by decide))]
      rfl
  | case4 c raw hopen hclose ih =>
      have hc : ¬ Escapes c raw := by
        rintro ⟨hb, later, rfl | rfl⟩
        · exact hopen later hb rfl
        · exact hclose later hb rfl
      have hc' : ¬ Escapes c (raw ++ '}' :: rest) := by
        rintro ⟨hb, later, hlater⟩
        cases raw with
        | nil => exact h.ends (by rw [hb, List.getLast?_singleton])
        | cons d raw =>
            rcases hlater with hbrace | hbrace
            · exact hopen raw hb (by rw [(List.cons.inj hbrace).1])
            · exact hclose raw hb (by rw [(List.cons.inj hbrace).1])
      rw [List.cons_append, constraint?_char h.escaped.head_ne hc', ih (h.tail hc)]
      rfl

/-- What is read as a constraint is one, and a closing brace stands behind it. -/
theorem exists_of_constraint? {text constraint rest : List Char}
    (h : constraint? text = some (constraint, rest)) :
    ∃ raw, text = raw ++ '}' :: rest ∧ IsRawConstraint raw ∧
      unescapeBraces raw = constraint := by
  fun_induction constraint? text generalizing constraint with
  | case1 => cases h
  | case2 text =>
      cases h
      exact ⟨[], rfl, .nil, rfl⟩
  | case3 text ih =>
      obtain ⟨⟨c, r⟩, hread, hp⟩ := Option.map_eq_some_iff.1 h
      cases hp
      obtain ⟨raw, rfl, hraw, rfl⟩ := ih hread
      exact ⟨'\\' :: '{' :: raw, rfl, hraw.escape (by decide), rfl⟩
  | case4 text ih =>
      obtain ⟨⟨c, r⟩, hread, hp⟩ := Option.map_eq_some_iff.1 h
      cases hp
      obtain ⟨raw, rfl, hraw, rfl⟩ := ih hread
      exact ⟨'\\' :: '}' :: raw, rfl, hraw.escape (by decide), rfl⟩
  | case5 d text hd hopen hclose ih =>
      obtain ⟨⟨c, r⟩, hread, hp⟩ := Option.map_eq_some_iff.1 h
      cases hp
      obtain ⟨raw, rfl, hraw, rfl⟩ := ih hread
      refine ⟨d :: raw, rfl, hraw.cons hd ?_, unescapeBraces_char ?_⟩
      · rintro hb rfl
        exact hclose _ hb rfl
      · rintro ⟨hb, later, rfl | rfl⟩
        · exact hopen _ hb rfl
        · exact hclose _ hb rfl

/-- Where no constraint is read, no closing brace is without a backslash. -/
theorem closesEscaped_of_constraint? {text : List Char} (h : constraint? text = none) :
    ClosesEscaped text := by
  fun_induction constraint? text with
  | case1 => exact .nil
  | case2 text => cases h
  | case3 text ih => exact (ih (Option.map_eq_none_iff.1 h)).escape '{'
  | case4 text ih => exact (ih (Option.map_eq_none_iff.1 h)).escape '}'
  | case5 c text hc hopen hclose ih => exact (ih (Option.map_eq_none_iff.1 h)).cons hc

theorem constraint?_eq_none_iff {text : List Char} :
    constraint? text = none ↔ ClosesEscaped text := by
  refine ⟨closesEscaped_of_constraint?, fun h => ?_⟩
  cases hread : constraint? text with
  | none => rfl
  | some found =>
      obtain ⟨raw, rfl, hraw, -⟩ := exists_of_constraint? hread
      exact absurd h.getLast?_eq hraw.ends

/-! ## Escaped constraints -/

theorem escapeConstraint_brace {c : Char} (h : c = '{' ∨ c = '}') (text : List Char) :
    escapeConstraint (c :: text) = '\\' :: c :: escapeConstraint text := by
  rw [escapeConstraint, if_pos h]

theorem escapeConstraint_char {c : Char} (h : ¬ (c = '{' ∨ c = '}')) (text : List Char) :
    escapeConstraint (c :: text) = c :: escapeConstraint text := by
  rw [escapeConstraint, if_neg h]

/-- Escaped text begins with no brace. -/
theorem not_escapes_escapeConstraint (c : Char) (text : List Char) :
    ¬ Escapes c (escapeConstraint text) := by
  rintro ⟨-, later, hlater⟩
  cases text with
  | nil =>
      rcases hlater with h | h
      · cases h
      · cases h
  | cons d text =>
      by_cases hd : d = '{' ∨ d = '}'
      · rw [escapeConstraint_brace hd] at hlater
        rcases hlater with h | h
        · cases (List.cons.inj h).1
        · cases (List.cons.inj h).1
      · rw [escapeConstraint_char hd] at hlater
        rcases hlater with h | h
        · exact hd (.inl (List.cons.inj h).1)
        · exact hd (.inr (List.cons.inj h).1)

theorem unescapeBraces_escapeConstraint (text : List Char) :
    unescapeBraces (escapeConstraint text) = text := by
  induction text with
  | nil => rfl
  | cons c text ih =>
      by_cases hc : c = '{' ∨ c = '}'
      · rw [escapeConstraint_brace hc]
        rcases hc with rfl | rfl
        · rw [unescapeBraces, ih]
        · rw [unescapeBraces, ih]
      · rw [escapeConstraint_char hc,
          unescapeBraces_char (not_escapes_escapeConstraint c text), ih]

/-- Escaped text may stand in a template if it does not end in a backslash. -/
theorem isRawConstraint_escapeConstraint {text : List Char} (h : text.getLast? ≠ some '\\') :
    IsRawConstraint (escapeConstraint text) := by
  induction text with
  | nil => exact .nil
  | cons c text ih =>
      by_cases hc : c = '{' ∨ c = '}'
      · rw [escapeConstraint_brace hc]
        refine (ih (getLast?_ne_of_cons h)).escape ?_
        rcases hc with rfl | rfl
        · decide
        · decide
      · rw [escapeConstraint_char hc]
        refine (ih (getLast?_ne_of_cons h)).cons (fun hclose => hc (.inr hclose)) ?_
        rintro rfl hnil
        rw [← unescapeBraces_escapeConstraint text, hnil] at h
        exact h rfl

/-! ## Placeholders -/

/-- Whether nothing in a text ends a name. -/
def EndsNoName (text : List Char) : Prop :=
  ':' ∉ text ∧ '}' ∉ text

/-- Whether a segment is a piece of text. -/
def IsLiteral : Segment → Prop
  | literal _ => True
  | placeholder _ _ => False

/-- A literal has text. A name has text as well, and nothing in it ends it. -/
def IsSound : Segment → Prop
  | literal text => text ≠ ""
  | placeholder name _ => name ≠ "" ∧ EndsNoName name.toList

/-- What a segment may stand as in a template. -/
def StandsAs : Segment → List Char → Prop
  | literal text, piece => piece = text.toList
  | placeholder name none, piece => piece = '{' :: (name.toList ++ ['}'])
  | placeholder name (some constraint), piece =>
    ∃ raw, piece = '{' :: (name.toList ++ ':' :: (raw ++ ['}'])) ∧ IsRawConstraint raw ∧
      unescapeBraces raw = constraint.toList

/-- No placeholder begins behind an opening brace if no name ends there, or the name is empty, or
its constraint is not closed. -/
def BeginsNoPlaceholder (text : List Char) : Prop :=
  EndsNoName text ∨ (∃ rest, text = ':' :: rest ∨ text = '}' :: rest) ∨
    ∃ name rest, text = name ++ ':' :: rest ∧ EndsNoName name ∧ ClosesEscaped rest

theorem EndsNoName.endsName_eq {text : List Char} (h : EndsNoName text) {c : Char}
    (hc : c ∈ text) : endsName c = false := by
  have hcolon : c ≠ ':' := fun e => h.1 (e ▸ hc)
  have hclose : c ≠ '}' := fun e => h.2 (e ▸ hc)
  simp [endsName, hcolon, hclose]

/-- A name ends where the first character stands that ends names. -/
theorem span_name {name : List Char} (hname : EndsNoName name) (rest : List Char)
    (hrest : ∀ c ∈ rest.head?, endsName c = true) :
    (name ++ rest).takeWhile (!endsName ·) = name ∧
      (name ++ rest).dropWhile (!endsName ·) = rest := by
  have hall : ∀ c ∈ name, (!endsName c) = true := fun c hc => by simp [hname.endsName_eq hc]
  rw [List.takeWhile_append_of_pos hall, List.dropWhile_append_of_pos hall]
  cases rest with
  | nil => simp
  | cons c rest => simp [hrest c rfl]

theorem endsName_eq_true_iff {c : Char} : endsName c = true ↔ c = ':' ∨ c = '}' := by
  simp [endsName]

/-- Where the first name of a text ends, and by what. -/
theorem name_cases (text : List Char) :
    EndsNoName text ∨ (∃ rest, text = ':' :: rest ∨ text = '}' :: rest) ∨
      ∃ name rest, name ≠ [] ∧ EndsNoName name ∧
        (text = name ++ '}' :: rest ∨ text = name ++ ':' :: rest) := by
  have hname : EndsNoName (text.takeWhile (!endsName ·)) := by
    constructor
    · intro hc
      simpa [endsName] using List.mem_takeWhile_imp hc
    · intro hc
      simpa [endsName] using List.mem_takeWhile_imp hc
  have hsplit := List.takeWhile_append_dropWhile (p := (!endsName ·)) (l := text)
  have hhead := List.head?_dropWhile_not (!endsName ·) text
  generalize text.takeWhile (!endsName ·) = name at hname hsplit
  generalize text.dropWhile (!endsName ·) = rest at hsplit hhead
  subst hsplit
  cases rest with
  | nil => exact .inl (by rwa [List.append_nil])
  | cons c rest =>
      have hc : c = ':' ∨ c = '}' := endsName_eq_true_iff.1 (by simpa using hhead)
      cases name with
      | nil =>
          rcases hc with rfl | rfl
          · exact .inr (.inl ⟨rest, .inl rfl⟩)
          · exact .inr (.inl ⟨rest, .inr rfl⟩)
      | cons d name =>
          refine .inr (.inr ⟨d :: name, rest, List.cons_ne_nil d name, hname, ?_⟩)
          rcases hc with rfl | rfl
          · exact .inr rfl
          · exact .inl rfl

theorem placeholder?_close {name : List Char} (hne : name ≠ []) (hname : EndsNoName name)
    (rest : List Char) :
    placeholder? (name ++ '}' :: rest) = some (placeholder (String.ofList name) none, rest) := by
  obtain ⟨htake, hdrop⟩ := span_name hname ('}' :: rest) (by simp [endsName])
  unfold placeholder?
  simp [htake, hdrop, hne]

theorem placeholder?_colon {name : List Char} (hne : name ≠ []) (hname : EndsNoName name)
    (rest : List Char) :
    placeholder? (name ++ ':' :: rest) =
      (constraint? rest).map fun p =>
        (placeholder (String.ofList name) (some (String.ofList p.1)), p.2) := by
  obtain ⟨htake, hdrop⟩ := span_name hname (':' :: rest) (by simp [endsName])
  unfold placeholder?
  simp [htake, hdrop, hne]

theorem placeholder?_of_endsNoName {text : List Char} (h : EndsNoName text) :
    placeholder? text = none := by
  obtain ⟨htake, hdrop⟩ := span_name h [] (by simp)
  rw [List.append_nil] at htake hdrop
  unfold placeholder?
  simp [htake, hdrop]

theorem placeholder?_of_endsName {c : Char} (h : endsName c = true) (rest : List Char) :
    placeholder? (c :: rest) = none := by
  unfold placeholder?
  simp [h]

theorem StandsAs.exists_open {segment : Segment} {piece : List Char} (h : segment.StandsAs piece)
    (hplaceholder : ¬ segment.IsLiteral) : ∃ text, piece = '{' :: text := by
  cases segment with
  | literal text => exact absurd trivial hplaceholder
  | placeholder name constraint =>
      cases constraint with
      | none => exact ⟨_, h⟩
      | some constraint =>
          obtain ⟨raw, rfl, -⟩ := h
          exact ⟨_, rfl⟩

/-- The scanner finds a placeholder exactly where one stands. -/
theorem placeholder?_eq_some_iff {text rest : List Char} {segment : Segment} :
    placeholder? text = some (segment, rest) ↔
      ¬ segment.IsLiteral ∧ segment.IsSound ∧
        ∃ piece, segment.StandsAs piece ∧ '{' :: text = piece ++ rest := by
  constructor
  · intro h
    rcases name_cases text with hname | ⟨r, rfl | rfl⟩ | ⟨name, r, hne, hname, rfl | rfl⟩
    · rw [placeholder?_of_endsNoName hname] at h
      cases h
    · rw [placeholder?_of_endsName rfl] at h
      cases h
    · rw [placeholder?_of_endsName rfl] at h
      cases h
    · rw [placeholder?_close hne hname] at h
      cases h
      exact ⟨id, ⟨by simpa using hne, by rwa [String.toList_ofList]⟩, _, rfl, by simp⟩
    · rw [placeholder?_colon hne hname] at h
      obtain ⟨⟨constraint, behind⟩, hread, hp⟩ := Option.map_eq_some_iff.1 h
      cases hp
      obtain ⟨raw, rfl, hraw, rfl⟩ := exists_of_constraint? hread
      have hsound : (placeholder (String.ofList name)
          (some (String.ofList (unescapeBraces raw)))).IsSound :=
        ⟨by simpa using hne, by rwa [String.toList_ofList]⟩
      exact ⟨id, hsound, _, ⟨raw, rfl, hraw, by rw [String.toList_ofList]⟩, by simp⟩
  · rintro ⟨hplaceholder, hsound, piece, hpiece, htext⟩
    cases segment with
    | literal text => exact absurd trivial hplaceholder
    | placeholder name constraint =>
        have hne : name.toList ≠ [] := fun hnil => hsound.1 (String.toList_eq_nil_iff.1 hnil)
        cases constraint with
        | none =>
            obtain rfl := hpiece
            have htext' : text = name.toList ++ '}' :: rest := by simpa using htext
            rw [htext', placeholder?_close hne hsound.2, String.ofList_toList]
        | some constraint =>
            obtain ⟨raw, rfl, hraw, hconstraint⟩ := hpiece
            have htext' : text = name.toList ++ ':' :: (raw ++ '}' :: rest) := by
              simpa using htext
            rw [htext', placeholder?_colon hne hsound.2, constraint?_append hraw, hconstraint]
            simp

theorem placeholder?_eq_none_iff {text : List Char} :
    placeholder? text = none ↔ BeginsNoPlaceholder text := by
  constructor
  · intro h
    rcases name_cases text with hname | hempty | ⟨name, rest, hne, hname, rfl | rfl⟩
    · exact .inl hname
    · exact .inr (.inl hempty)
    · rw [placeholder?_close hne hname] at h
      cases h
    · rw [placeholder?_colon hne hname, Option.map_eq_none_iff] at h
      exact .inr (.inr ⟨name, rest, rfl, hname, constraint?_eq_none_iff.1 h⟩)
  · rintro (hname | ⟨rest, rfl | rfl⟩ | ⟨name, rest, rfl, hname, hclosed⟩)
    · exact placeholder?_of_endsNoName hname
    · exact placeholder?_of_endsName rfl rest
    · exact placeholder?_of_endsName rfl rest
    · cases name with
      | nil => exact placeholder?_of_endsName rfl rest
      | cons c name =>
          rw [placeholder?_colon (List.cons_ne_nil c name) hname, constraint?_eq_none_iff.2 hclosed]
          rfl

end PathTemplate.Segment
