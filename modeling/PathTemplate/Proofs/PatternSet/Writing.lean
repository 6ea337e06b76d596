import Mathlib.Data.List.Forall2
import PathTemplate.Proofs.PatternSet.Grammar

/-!
# Writing pattern sets

Objects are written without blanks, each member behind its quoted name. A quoted
text is read back as it was, whatever characters it has.
-/

namespace PathTemplate

namespace Json

theorem codeUnit?_control :
    ∀ n < 32, codeUnit? '0' '0' (hexDigit (n / 16)) (hexDigit n) = some n ∧
      isLeading n = false ∧ isTrailing n = false := by
  decide

/-- A character is written as an escape of one letter, as four digits, or as it is. -/
theorem escape_cases (c : Char) :
    (∃ d, escape c = ['\\', d] ∧ escaped? d = some c) ∨
      (c < ' ' ∧
        escape c = ['\\', 'u', '0', '0', hexDigit (c.toNat / 16), hexDigit c.toNat]) ∨
      (c ≠ '"' ∧ c ≠ '\\' ∧ ¬ c < ' ' ∧ escape c = [c]) := by
  unfold escape
  split_ifs with hquote hescape h h h h h hcontrol
  iterate 7
    · subst c
      exact .inl ⟨_, rfl, rfl⟩
  · exact .inr (.inl ⟨hcontrol, rfl⟩)
  · exact .inr (.inr ⟨hquote, hescape, hcontrol, rfl⟩)

theorem stringText_escape {s t : List Char} (c : Char) (h : StringText .read s t) :
    StringText .read (c :: s) (escape c ++ t) := by
  rcases escape_cases c with ⟨d, hc, hd⟩ | ⟨hcontrol, hc⟩ | ⟨hquote, hescape, hcontrol, hc⟩
  · rw [hc]
    exact .letter hd h
  · have hlt : c.toNat < 32 := hcontrol
    obtain ⟨hunit, hleading, htrailing⟩ := codeUnit?_control c.toNat hlt
    have hchar := StringText.unit rfl hunit hleading htrailing h
    rw [Char.ofNat_toNat] at hchar
    rw [hc]
    exact hchar
  · rw [hc]
    exact .char hquote hescape hcontrol h

theorem stringText_flatMap_escape (s : List Char) : StringText .read s (s.flatMap escape) := by
  induction s with
  | nil => exact .nil
  | cons c s ih => exact stringText_escape c ih

end Json

namespace PatternSet

open Json (StringText Blank Spells)

/-- A member of an object: its quoted name, and the text of its value. -/
def memberText (m : String × List Char) : List Char := Json.quote m.1 ++ ':' :: m.2

/-- An object of members with these texts. -/
def objectText (members : List (String × List Char)) : List Char :=
  '{' :: (List.intercalate [','] (members.map memberText) ++ ['}'])

variable {members : List (String × List Char)} {depth : Nat}

theorem intercalate_memberText_cons (m : String × List Char)
    (members : List (String × List Char)) (u : List Char) :
    List.intercalate [','] ((m :: members).map memberText) ++ u =
      '"' :: (m.1.toList.flatMap Json.escape ++ '"' :: ([] ++ ':' :: (m.2 ++
        (match members with
        | [] => u
        | _ => ',' :: (List.intercalate [','] (members.map memberText) ++ u))))) := by
  cases members with
  | nil => simp [memberText, Json.quote]
  | cons m' members => simp [memberText, Json.quote]

theorem membersText_intercalate (members : List (String × List Char)) :
    MembersText true members (List.intercalate [','] (members.map memberText) ++ ['}']) := by
  induction members with
  | nil => exact .nil
  | cons m members ih =>
      have hname := Json.stringText_flatMap_escape m.1.toList
      rw [intercalate_memberText_cons]
      cases members with
      | nil =>
          have hmember := MembersText.member (v := m.2) hname .nil .nil
          rwa [String.ofList_toList] at hmember
      | cons m' members =>
          have hmember := MembersText.member (v := m.2) hname .nil (.another ih)
          rwa [String.ofList_toList] at hmember

/-- Members whose values are spelled spell an object. -/
theorem MembersText.spells {first : Bool} {t : List Char} (h : MembersText first members t)
    {l : List (String × Json)}
    (hl : List.Forall₂ (fun m e => m.1 = e.1 ∧ Spells .read depth (.value e.2) m.2) members l) :
    Spells .read depth (.members first l) t := by
  induction h generalizing l with
  | blank hc _ ih => exact .blank hc (ih hl)
  | nil =>
      cases hl
      exact .noMember
  | member hname hb _ ih =>
      cases hl with
      | @cons _ e _ _ he hl =>
          obtain ⟨label, j⟩ := e
          obtain ⟨rfl, hv⟩ := he
          exact .member hname hb hv (ih hl)
  | another _ ih =>
      cases hl with
      | cons he hl => exact .anotherMember (ih (.cons he hl))

theorem compactMembers_eq (l : List (String × Json)) :
    Json.compactMembers l =
      List.intercalate [','] ((l.map fun e => (e.1, e.2.compactChars)).map memberText) := by
  induction l with
  | nil => simp [Json.compactMembers]
  | cons e rest ih =>
      obtain ⟨label, j⟩ := e
      cases rest with
      | nil => simp [Json.compactMembers, memberText]
      | cons e rest => simp [Json.compactMembers, memberText, ih]

/-- An object is written as its members are. -/
theorem compactChars_object (l : List (String × Json)) :
    (Json.object l).compactChars = objectText (l.map fun e => (e.1, e.2.compactChars)) := by
  rw [Json.compactChars, compactMembers_eq, objectText]
  rfl

theorem spells_string (s : String) :
    Spells .read depth (.value (.string s)) (Json.string s).compactChars := by
  have h : Spells .read depth _ _ := .string (Json.stringText_flatMap_escape s.toList)
  rwa [String.ofList_toList] at h

/-- Values that are spelled as they are written stand under their labels. -/
theorem patternsText_compactChars {l : List (String × Json)}
    (hl : ∀ e ∈ l, Spells .read (Json.depthLimit - 2) (.value e.2) e.2.compactChars) :
    PatternsText l (Json.object l).compactChars := by
  rw [compactChars_object]
  refine ⟨[], _, .nil, rfl, (membersText_intercalate _).spells ?_⟩
  rw [List.forall₂_map_left_iff, List.forall₂_same]
  intro e he
  exact ⟨rfl, hl e he⟩

/-- A set that is written as an object is a document. -/
theorem document_objectText {o : Options} {l : List (String × Json)}
    (h : SetMembers o l members) : Document (String.ofList (objectText members)) o l := by
  refine ⟨objectText members, [], ?_, ?_, .nil⟩
  · rw [String.toList_ofList, List.append_nil]
  · exact SetText.object Blank.nil (membersText_intercalate members) h

end PatternSet

end PathTemplate
