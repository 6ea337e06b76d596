import PathTemplate.Proofs.Template.Pieces

/-!
# Format strings and canonical tokens

Every token is written in one way, and the reader takes written tokens apart
again. Conversely, what the reader accepts is written by the tokens it finds.
These are canonical: no literal is empty, no two literals touch, and no name
has a brace. So format strings and canonical lists of tokens are two forms of
the same thing.
-/

namespace PathTemplate

namespace FormatToken

/-- Tokens as they stand in a format string. -/
def print (tokens : List FormatToken) : String :=
  String.ofList (tokens.flatMap write)

/-- Whether a token is a piece of text. -/
def IsLiteral : FormatToken → Prop
  | literal _ => True
  | field _ => False

/-- A literal has text and a name has no braces. -/
def IsSound : FormatToken → Prop
  | literal text => text ≠ ""
  | field name => '{' ∉ name.toList ∧ '}' ∉ name.toList

/-- Tokens that cannot be written with fewer pieces: each is sound by itself, and literals do not
touch. -/
structure Canonical (tokens : List FormatToken) : Prop where
  sound : ∀ token ∈ tokens, token.IsSound
  apart : tokens.IsChain fun a b => ¬ (a.IsLiteral ∧ b.IsLiteral)

namespace Canonical

theorem nil : Canonical [] := by
  refine ⟨fun token ht => ?_, .nil⟩
  cases ht

theorem tail {token : FormatToken} {rest : List FormatToken} (h : Canonical (token :: rest)) :
    Canonical rest :=
  ⟨fun t ht => h.sound t (List.mem_cons_of_mem _ ht), h.apart.tail⟩

theorem cons {token : FormatToken} {rest : List FormatToken} (h : Canonical rest)
    (hsound : token.IsSound) (hhead : ∀ next ∈ rest.head?, ¬ (token.IsLiteral ∧ next.IsLiteral)) :
    Canonical (token :: rest) := by
  constructor
  · intro t ht
    rcases List.mem_cons.1 ht with rfl | ht
    · exact hsound
    · exact h.sound t ht
  · exact h.apart.cons hhead

/-- A field may stand in front of anything. -/
theorem field {name : String} {rest : List FormatToken} (h : Canonical rest)
    (hopen : '{' ∉ name.toList) (hclose : '}' ∉ name.toList) :
    Canonical (field name :: rest) :=
  h.cons ⟨hopen, hclose⟩ fun _ _ hlit => hlit.1

/-- A literal may stand in front of anything but a literal. -/
theorem consLiteral {tokens : List FormatToken} (h : Canonical tokens) (backwards : List Char)
    (hhead : ∀ next ∈ tokens.head?, ¬ next.IsLiteral) :
    Canonical (consLiteral backwards tokens) := by
  unfold FormatToken.consLiteral
  split
  · exact h
  · rename_i hne
    refine h.cons (fun hempty => hne ?_) fun next hn hlit => hhead next hn hlit.2
    have hnil : backwards.reverse = [] := by
      rw [← String.toList_ofList (l := backwards.reverse), hempty]
      rfl
    simpa using hnil

end Canonical

/-! ## Writing -/

theorem flatMap_write_consLiteral (backwards : List Char) (tokens : List FormatToken) :
    (consLiteral backwards tokens).flatMap write =
      doubleBraces backwards.reverse ++ tokens.flatMap write := by
  unfold consLiteral
  split
  · rename_i hempty
    rw [List.isEmpty_iff.1 hempty]
    rfl
  · rw [List.flatMap_cons, write, String.toList_ofList]

/-- The reader makes one brace of two and keeps every other character. -/
theorem parseFrom_doubleBraces (backwards text rest : List Char) :
    parseFrom backwards (doubleBraces text ++ rest) =
      parseFrom (text.reverse ++ backwards) rest := by
  induction text generalizing backwards with
  | nil => rfl
  | cons c text ih =>
      have hreverse : (c :: text).reverse ++ backwards = text.reverse ++ c :: backwards := by
        simp
      rw [hreverse, ← ih]
      by_cases hopen : c = '{'
      · subst hopen
        rw [doubleBraces_open, List.cons_append, List.cons_append, parseFrom.eq_2]
      · by_cases hclose : c = '}'
        · subst hclose
          rw [doubleBraces_close, List.cons_append, List.cons_append, parseFrom.eq_3]
        · rw [doubleBraces_char hopen hclose, List.cons_append, parseFrom_char hopen hclose]

/-- A brace that is not doubled opens a field. -/
theorem parseFrom_of_fieldName {backwards rest name rest' : List Char} {later : List FormatToken}
    (hname : fieldName rest = .ok (name, rest')) (hlater : parseFrom [] rest' = .ok later) :
    parseFrom backwards ('{' :: rest) =
      .ok (consLiteral backwards (field (String.ofList name) :: later)) := by
  have hsingle : ∀ r, rest ≠ '{' :: r := by
    rintro r rfl
    cases hname
  rw [parseFrom.eq_def]
  split
  · rename_i heq
    cases heq
  · rename_i r heq
    exact absurd (List.cons.inj heq).2 (hsingle r)
  · rename_i heq
    cases (List.cons.inj heq).1
  · rename_i c r _ _ heq
    obtain ⟨rfl, rfl⟩ := List.cons.inj heq
    simp only [if_true]
    split
    · rename_i hfault
      rw [hname] at hfault
      cases hfault
    · rename_i hfound
      rw [hname] at hfound
      cases hfound
      rw [hlater]

theorem parseFrom_write_field {name : String} (hopen : '{' ∉ name.toList)
    (hclose : '}' ∉ name.toList) {backwards rest : List Char} {later : List FormatToken}
    (hlater : parseFrom [] rest = .ok later) :
    parseFrom backwards (write (field name) ++ rest) =
      .ok (consLiteral backwards (field name :: later)) := by
  have htext : write (field name) ++ rest = '{' :: (name.toList ++ '}' :: rest) := by
    simp [write]
  rw [htext, parseFrom_of_fieldName (fieldName_append hopen hclose rest) hlater,
    String.ofList_toList]

/-- Written tokens are read back. Text that waits in front of them is no part of a literal among
them. -/
theorem parseFrom_flatMap_write {tokens : List FormatToken} (h : Canonical tokens)
    {backwards : List Char} (hwaiting : backwards ≠ [] → ∀ next ∈ tokens.head?, ¬ next.IsLiteral) :
    parseFrom backwards (tokens.flatMap write) = .ok (consLiteral backwards tokens) := by
  induction tokens generalizing backwards with
  | nil => rw [List.flatMap_nil, parseFrom_nil]
  | cons token rest ih =>
      rw [List.flatMap_cons]
      have hsound := h.sound token List.mem_cons_self
      cases token with
      | field name =>
          have hlater : parseFrom [] (rest.flatMap write) = .ok (consLiteral [] rest) :=
            ih h.tail fun hne => absurd rfl hne
          exact parseFrom_write_field hsound.1 hsound.2 hlater
      | literal text =>
          have hnil : backwards = [] := by
            by_contra hne
            exact hwaiting hne _ rfl trivial
          have hchars : text.toList ≠ [] := fun hempty => hsound (String.toList_eq_nil_iff.1 hempty)
          have hrest : ∀ next ∈ rest.head?, ¬ next.IsLiteral := by
            intro next hn hlit
            exact (List.isChain_cons.1 h.apart).1 next hn ⟨trivial, hlit⟩
          subst hnil
          rw [write, parseFrom_doubleBraces, List.append_nil, ih h.tail fun _ => hrest]
          simp [consLiteral, hchars]

/-! ## Reading -/

/-- What the reader accepts behind waiting text is written by canonical tokens. -/
theorem canonical_of_parseFrom {backwards text : List Char} {tokens : List FormatToken}
    (h : parseFrom backwards text = .ok tokens) :
    Canonical tokens ∧ tokens.flatMap write = doubleBraces backwards.reverse ++ text := by
  -- One lemma for each kind of character says what an accepted text has behind it; each leaves a
  -- shorter text, with the character added to the text that waits.
  induction hlen : text.length using Nat.strong_induction_on
    generalizing backwards text tokens with
  | _ n ih =>
  subst hlen
  cases text with
  | nil =>
      rw [parseFrom_nil] at h
      cases h
      refine ⟨Canonical.nil.consLiteral backwards fun next hn => ?_, ?_⟩
      · cases hn
      · rw [flatMap_write_consLiteral]
        rfl
  | cons c rest =>
      by_cases hopen : c = '{'
      · subst hopen
        rcases parseFrom_open h with ⟨rest', rfl, hrest⟩ | ⟨name, rest', later, hname, hlater, rfl⟩
        · have hlt : rest'.length < ('{' :: '{' :: rest').length := by simp
          obtain ⟨hcanonical, hwrite⟩ := ih _ hlt hrest rfl
          refine ⟨hcanonical, ?_⟩
          rw [hwrite, List.reverse_cons, doubleBraces_append, List.append_assoc]
          rfl
        · have hlt : rest'.length < ('{' :: rest).length :=
            Nat.lt_succ_of_lt (length_of_fieldName hname)
          obtain ⟨hcanonical, hwrite⟩ := ih _ hlt hlater rfl
          obtain ⟨rfl, hopen, hclose⟩ := fieldName_eq_ok hname
          have hfield : Canonical (field (String.ofList name) :: later) :=
            hcanonical.field (by rwa [String.toList_ofList]) (by rwa [String.toList_ofList])
          refine ⟨hfield.consLiteral backwards fun next hn hlit => ?_, ?_⟩
          · cases hn
            exact hlit
          · rw [flatMap_write_consLiteral, List.flatMap_cons, hwrite, write, String.toList_ofList]
            simp [doubleBraces]
      · by_cases hclose : c = '}'
        · subst hclose
          obtain ⟨rest', rfl, hrest⟩ := parseFrom_close h
          have hlt : rest'.length < ('}' :: '}' :: rest').length := by simp
          obtain ⟨hcanonical, hwrite⟩ := ih _ hlt hrest rfl
          refine ⟨hcanonical, ?_⟩
          rw [hwrite, List.reverse_cons, doubleBraces_append, List.append_assoc]
          rfl
        · rw [parseFrom_char hopen hclose] at h
          obtain ⟨hcanonical, hwrite⟩ := ih _ (Nat.lt_succ_self _) h rfl
          refine ⟨hcanonical, ?_⟩
          rw [hwrite, List.reverse_cons, doubleBraces_append, List.append_assoc,
            doubleBraces_char hopen hclose]
          rfl

end FormatToken

namespace Format

open FormatToken (Canonical print)

theorem parse_print {tokens : List FormatToken} (h : Canonical tokens) :
    parse (print tokens) = .ok ⟨print tokens, tokens⟩ := by
  have hread : FormatToken.parseFrom [] (tokens.flatMap FormatToken.write) =
      .ok (FormatToken.consLiteral [] tokens) :=
    FormatToken.parseFrom_flatMap_write h fun hne => absurd rfl hne
  rw [parse, print, String.toList_ofList, hread]
  rfl

theorem print_of_parse {source : String} {f : Format} (h : parse source = .ok f) :
    f.source = source ∧ Canonical f.tokens ∧ print f.tokens = source := by
  obtain ⟨hcanonical, hwrite⟩ := FormatToken.canonical_of_parseFrom (parse_eq_ok h)
  refine ⟨?_, hcanonical, ?_⟩
  · unfold parse at h
    split at h
    · cases h
      rfl
    · cases h
  · have htext : f.tokens.flatMap FormatToken.write = source.toList := hwrite
    rw [print, htext, String.ofList_toList]

/-- Reading takes every canonical list of tokens from its written form, an accepted source is the
written form of its tokens, which are canonical, and the sources that are refused are those that
no canonical list is written as. -/
theorem parse_inverts_print :
    (∀ tokens, Canonical tokens → parse (print tokens) = .ok ⟨print tokens, tokens⟩) ∧
    (∀ source f, parse source = .ok f →
      f.source = source ∧ Canonical f.tokens ∧ print f.tokens = source) ∧
    (∀ source, (∃ fault, parse source = .error fault) ↔
      ¬ ∃ tokens, Canonical tokens ∧ print tokens = source) := by
  refine ⟨fun tokens => parse_print, fun source f => print_of_parse, fun source => ?_⟩
  constructor
  · rintro ⟨fault, hfault⟩ ⟨tokens, hcanonical, rfl⟩
    rw [parse_print hcanonical] at hfault
    cases hfault
  · intro hnone
    cases hparse : parse source with
    | error fault => exact ⟨fault, rfl⟩
    | ok f =>
        obtain ⟨-, hcanonical, hprint⟩ := print_of_parse hparse
        exact absurd ⟨f.tokens, hcanonical, hprint⟩ hnone

/-- A field between two literals that are braces. -/
theorem parse_print_braces :
    Canonical [.literal "\x7b", .field "a", .literal "\x7d"] ∧
      print [.literal "\x7b", .field "a", .literal "\x7d"] = "\x7b\x7b\x7ba\x7d\x7d\x7d" ∧
      parse "\x7b\x7b\x7ba\x7d\x7d\x7d" =
        .ok ⟨"\x7b\x7b\x7ba\x7d\x7d\x7d", [.literal "\x7b", .field "a", .literal "\x7d"]⟩ := by
  have hcanonical : Canonical [.literal "\x7b", .field "a", .literal "\x7d"] := by
    constructor
    · simp [FormatToken.IsSound]
    · simp [FormatToken.IsLiteral]
  exact ⟨hcanonical, rfl, parse_inverts_print.1 _ hcanonical⟩

end Format

end PathTemplate
