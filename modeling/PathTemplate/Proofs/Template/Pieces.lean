import Mathlib
import PathTemplate.Proofs.Template.Expression
import PathTemplate.Proofs.Template.Grammar

/-!
# The two readings of a template agree

The pattern of a template is read twice: the scanner cuts it into segments, and
the format string that is written from these segments is read for tokens. The
two readers treat braces differently. A template compiles only if both find the
same set of names, and then they find the same pieces: every brace that the
scanner leaves in a literal stands twice, and the format reader makes one of
the two.
-/

namespace PathTemplate

namespace FormatToken

/-- Text in which every doubled brace has become a single one, from left to right. -/
def collapseBraces : List Char → List Char
  | [] => []
  | '{' :: '{' :: rest => '{' :: collapseBraces rest
  | '}' :: '}' :: rest => '}' :: collapseBraces rest
  | c :: rest => c :: collapseBraces rest

theorem doubleBraces_cons (c : Char) (text : List Char) :
    doubleBraces (c :: text) =
      (if c = '{' ∨ c = '}' then [c, c] else [c]) ++ doubleBraces text := rfl

theorem doubleBraces_open (text : List Char) :
    doubleBraces ('{' :: text) = '{' :: '{' :: doubleBraces text := rfl

theorem doubleBraces_close (text : List Char) :
    doubleBraces ('}' :: text) = '}' :: '}' :: doubleBraces text := rfl

theorem doubleBraces_char {c : Char} (hopen : c ≠ '{') (hclose : c ≠ '}') (text : List Char) :
    doubleBraces (c :: text) = c :: doubleBraces text := by
  simp [doubleBraces_cons, hopen, hclose]

theorem doubleBraces_append (a b : List Char) :
    doubleBraces (a ++ b) = doubleBraces a ++ doubleBraces b :=
  List.flatMap_append

/-- Doubling braces reads the same from both ends. -/
theorem reverse_doubleBraces (text : List Char) :
    (doubleBraces text).reverse = doubleBraces text.reverse := by
  induction text with
  | nil => rfl
  | cons c text ih =>
      rw [doubleBraces_cons, List.reverse_append, ih, List.reverse_cons, doubleBraces_append]
      by_cases hc : c = '{' ∨ c = '}'
      · simp [doubleBraces, hc]
      · simp [doubleBraces, hc]

theorem collapseBraces_char {c : Char} (hopen : c ≠ '{') (hclose : c ≠ '}') (text : List Char) :
    collapseBraces (c :: text) = c :: collapseBraces text := by
  rw [collapseBraces.eq_4]
  · intro rest h
    exact absurd h hopen
  · intro rest h
    exact absurd h hclose

/-- Text without braces stays as it is. -/
theorem collapseBraces_of_notMem {text : List Char} (hopen : '{' ∉ text) (hclose : '}' ∉ text) :
    collapseBraces text = text := by
  induction text with
  | nil => rfl
  | cons c rest ih =>
      rw [List.mem_cons, not_or] at hopen hclose
      rw [collapseBraces_char (Ne.symm hopen.1) (Ne.symm hclose.1), ih hopen.2 hclose.2]

/-- Collapsing undoes doubling. -/
theorem collapseBraces_doubleBraces (text : List Char) :
    collapseBraces (doubleBraces text) = text := by
  induction text with
  | nil => rfl
  | cons c text ih =>
      by_cases hopen : c = '{'
      · subst hopen
        rw [doubleBraces_open, collapseBraces, ih]
      · by_cases hclose : c = '}'
        · subst hclose
          rw [doubleBraces_close, collapseBraces, ih]
        · rw [doubleBraces_char hopen hclose, collapseBraces_char hopen hclose, ih]

/-! ## Reading format strings -/

theorem fieldName_eq_ok {text name rest : List Char} (h : fieldName text = .ok (name, rest)) :
    text = name ++ '}' :: rest ∧ '{' ∉ name ∧ '}' ∉ name := by
  induction text generalizing name with
  | nil => cases h
  | cons c text ih =>
      rw [fieldName] at h
      split at h
      · rename_i hc
        cases h
        simp [hc]
      · rename_i hclose
        split at h
        · cases h
        · rename_i hopen
          split at h
          · cases h
          · rename_i n r hr
            cases h
            obtain ⟨htext, ho, hc⟩ := ih hr
            refine ⟨by rw [htext]; rfl, ?_, ?_⟩
            · rw [List.mem_cons, not_or]
              exact ⟨fun e => hopen e.symm, ho⟩
            · rw [List.mem_cons, not_or]
              exact ⟨fun e => hclose e.symm, hc⟩

theorem fieldName_append {name : List Char} (hopen : '{' ∉ name) (hclose : '}' ∉ name)
    (rest : List Char) : fieldName (name ++ '}' :: rest) = .ok (name, rest) := by
  induction name with
  | nil => rfl
  | cons c name ih =>
      rw [List.mem_cons, not_or] at hopen hclose
      have ho : c ≠ '{' := fun e => hopen.1 e.symm
      have hc : c ≠ '}' := fun e => hclose.1 e.symm
      rw [List.cons_append, fieldName, if_neg hc, if_neg ho, ih hopen.2 hclose.2]

theorem parseFrom_nil (backwards : List Char) :
    parseFrom backwards [] = .ok (consLiteral backwards []) := by
  rw [parseFrom]

/-- An opening brace stands twice, or the name of a field follows it. -/
theorem parseFrom_open {backwards rest : List Char} {tokens : List FormatToken}
    (h : parseFrom backwards ('{' :: rest) = .ok tokens) :
    (∃ rest', rest = '{' :: rest' ∧ parseFrom ('{' :: backwards) rest' = .ok tokens) ∨
    (∃ name rest' later, fieldName rest = .ok (name, rest') ∧ parseFrom [] rest' = .ok later ∧
      tokens = consLiteral backwards (field (String.ofList name) :: later)) := by
  rw [parseFrom.eq_def] at h
  split at h
  · rename_i heq
    cases heq
  · rename_i rest' heq
    obtain ⟨-, rfl⟩ := List.cons.inj heq
    exact .inl ⟨rest', rfl, h⟩
  · rename_i heq
    cases (List.cons.inj heq).1
  · rename_i c rest' hdouble _ heq
    obtain ⟨rfl, rfl⟩ := List.cons.inj heq
    simp only [if_true] at h
    split at h
    · cases h
    · rename_i name rest'' hname
      split at h
      · cases h
      · rename_i later hlater
        cases h
        exact .inr ⟨name, rest'', later, hname, hlater, rfl⟩

/-- A name without braces between braces is a field. -/
theorem parseFrom_field {backwards name rest : List Char} {tokens : List FormatToken}
    (hne : name ≠ []) (hopen : '{' ∉ name) (hclose : '}' ∉ name)
    (h : parseFrom backwards ('{' :: (name ++ '}' :: rest)) = .ok tokens) :
    ∃ later, parseFrom [] rest = .ok later ∧
      tokens = consLiteral backwards (field (String.ofList name) :: later) := by
  rcases parseFrom_open h with ⟨rest', hrest, -⟩ | ⟨name', rest', later, hname, hlater, htokens⟩
  · cases name with
    | nil => exact absurd rfl hne
    | cons c name =>
        rw [(List.cons.inj hrest).1] at hopen
        exact absurd List.mem_cons_self hopen
  · rw [fieldName_append hopen hclose] at hname
    cases hname
    exact ⟨later, hlater, htokens⟩

/-- A closing brace outside of a field stands twice. -/
theorem parseFrom_close {backwards rest : List Char} {tokens : List FormatToken}
    (h : parseFrom backwards ('}' :: rest) = .ok tokens) :
    ∃ rest', rest = '}' :: rest' ∧ parseFrom ('}' :: backwards) rest' = .ok tokens := by
  rw [parseFrom.eq_def] at h
  split at h
  · rename_i heq
    cases heq
  · rename_i heq
    cases (List.cons.inj heq).1
  · rename_i rest' heq
    obtain ⟨-, rfl⟩ := List.cons.inj heq
    exact ⟨rest', rfl, h⟩
  · rename_i c rest' _ hdouble heq
    obtain ⟨rfl, rfl⟩ := List.cons.inj heq
    simp at h

theorem parseFrom_char {c : Char} (hopen : c ≠ '{') (hclose : c ≠ '}')
    (backwards rest : List Char) :
    parseFrom backwards (c :: rest) = parseFrom (c :: backwards) rest := by
  rw [parseFrom.eq_4]
  · simp only [hopen, hclose, if_false]
  · intro rest' h
    exact absurd h hopen
  · intro rest' h
    exact absurd h hclose

end FormatToken

namespace Segment

/-! ## Names of placeholders -/

theorem isValidName_char {name : List Char} (h : isValidName (String.ofList name)) {c : Char}
    (hc : c ∈ name) : c ≠ '{' ∧ c ≠ '}' ∧ c ≠ ':' := by
  have hchar := isAlphanumeric_of_mem h (by rwa [String.toList_ofList])
  refine ⟨?_, ?_, ?_⟩
  all_goals
    rintro rfl
    revert hchar
    decide

theorem isValidName_ne_nil {name : List Char} (h : isValidName (String.ofList name)) :
    name ≠ [] := by
  rintro rfl
  cases h

/-! ## What the scanner finds -/

/-- The text that a segment has in the format string. -/
def plain : Segment → List Char
  | literal text => text.toList
  | placeholder name _ => write (placeholder name none)

theorem toList_formatSource (segments : List Segment) :
    (formatSource segments).toList = segments.flatMap plain := by
  rw [formatSource, String.toList_ofList]
  rfl

/-- The format string that a text comes to. -/
def plainText (text : List Char) : List Char :=
  (scanFrom [] text).flatMap plain

theorem plain_consLiteral (backwards : List Char) (segments : List Segment) :
    (consLiteral backwards segments).flatMap plain =
      backwards.reverse ++ segments.flatMap plain := by
  cases backwards with
  | nil => rfl
  | cons c rest => simp [consLiteral, plain]

theorem scanFrom_placeholder {rest rest' : List Char} {segment : Segment}
    (h : placeholder? rest = some (segment, rest')) (backwards : List Char) :
    scanFrom backwards ('{' :: rest) = consLiteral backwards (segment :: scanFrom [] rest') := by
  rw [scanFrom]
  simp only [if_true]
  split
  · rename_i s r hs
    rw [h] at hs
    cases hs
    rfl
  · rename_i hs
    rw [h] at hs
    cases hs

/-- A character that begins no placeholder belongs to a literal. -/
theorem scanFrom_char {c : Char} {rest : List Char} (h : c = '{' → placeholder? rest = none)
    (backwards : List Char) :
    scanFrom backwards (c :: rest) = scanFrom (c :: backwards) rest := by
  rw [scanFrom]
  split
  · rename_i hc
    split
    · rename_i s r hs
      rw [h hc] at hs
      cases hs
    · rfl
  · rfl

/-- A literal that waits stands in front of the rest. -/
theorem plain_scanFrom_append (backwards text before : List Char) :
    (scanFrom (backwards ++ before) text).flatMap plain =
      before.reverse ++ (scanFrom backwards text).flatMap plain := by
  fun_induction scanFrom backwards text with
  | case1 backwards =>
      rw [scanFrom, plain_consLiteral, plain_consLiteral, List.reverse_append, List.append_assoc]
  | case2 backwards rest segment rest' h ih =>
      rw [scanFrom_placeholder h, plain_consLiteral, plain_consLiteral, List.reverse_append,
        List.append_assoc]
  | case3 backwards rest h ih =>
      rw [scanFrom_char fun _ => h]
      exact ih
  | case4 backwards c rest h ih =>
      rw [scanFrom_char fun hc => absurd hc h]
      exact ih

@[simp] theorem plainText_nil : plainText [] = [] := by
  rw [plainText, scanFrom]
  rfl

theorem plainText_placeholder {rest rest' : List Char} {segment : Segment}
    (h : placeholder? rest = some (segment, rest')) :
    plainText ('{' :: rest) = segment.plain ++ plainText rest' := by
  rw [plainText, scanFrom_placeholder h]
  rfl

theorem plainText_char {c : Char} {rest : List Char} (h : c = '{' → placeholder? rest = none) :
    plainText (c :: rest) = c :: plainText rest := by
  rw [plainText, scanFrom_char h]
  exact plain_scanFrom_append [] rest [c]

theorem plain_placeholder_append (name : List Char) (constraint : Option String)
    (behind : List Char) :
    (placeholder (String.ofList name) constraint).plain ++ behind =
      '{' :: (name ++ '}' :: behind) := by
  simp [plain, write]

/-! ## Where placeholders begin -/

theorem exists_placeholder {text rest : List Char} {segment : Segment}
    (h : placeholder? text = some (segment, rest)) :
    ∃ name constraint, segment = placeholder (String.ofList name) constraint := by
  unfold placeholder? at h
  dsimp only at h
  split at h
  · cases h
  · split at h
    · cases h
      exact ⟨_, _, rfl⟩
    · obtain ⟨p, -, hp⟩ := Option.map_eq_some_iff.1 h
      cases hp
      exact ⟨_, _, rfl⟩
    · cases h

/-- A name up to a closing brace is a placeholder. -/
theorem placeholder?_name {name : List Char} (h : isValidName (String.ofList name))
    (rest : List Char) :
    placeholder? (name ++ '}' :: rest) = some (placeholder (String.ofList name) none, rest) := by
  have hname : EndsNoName name :=
    ⟨fun hm => (isValidName_char h hm).2.2 rfl, fun hm => (isValidName_char h hm).2.1 rfl⟩
  exact placeholder?_close (isValidName_ne_nil h) hname rest

/-- Where a placeholder begins, one begins a character earlier as well if that character may
stand in a name. -/
theorem placeholder?_cons_ne_none {c : Char} {text : List Char} (hc : endsName c = false)
    (h : placeholder? text ≠ none) : placeholder? (c :: text) ≠ none := by
  have hneg : (!endsName c) = true := by simp [hc]
  intro hnone
  apply h
  unfold placeholder? at hnone ⊢
  simp only [List.takeWhile_cons, List.dropWhile_cons, hneg, if_true] at hnone
  dsimp only
  split
  · rfl
  · split at hnone
    · rename_i hempty
      cases hempty
    · split at hnone
      · cases hnone
      · exact Option.map_eq_none_iff.2 (Option.map_eq_none_iff.1 hnone)
      · rfl

/-- A character of the format string that opens no field is one of the text. -/
theorem eq_cons_of_plainText {c : Char} {text behind : List Char} (hc : c ≠ '{')
    (h : plainText text = c :: behind) :
    ∃ rest, text = c :: rest ∧ behind = plainText rest := by
  cases text with
  | nil => simp at h
  | cons d rest =>
      by_cases hd : d = '{' → placeholder? rest = none
      · rw [plainText_char hd] at h
        obtain ⟨rfl, hbehind⟩ := List.cons.inj h
        exact ⟨rest, rfl, hbehind.symm⟩
      · obtain ⟨rfl, hp⟩ := Classical.not_imp.1 hd
        obtain ⟨⟨segment, rest'⟩, hs⟩ := Option.ne_none_iff_exists'.1 hp
        obtain ⟨name, constraint, rfl⟩ := exists_placeholder hs
        rw [plainText_placeholder hs] at h
        exact absurd (List.cons.inj h).1.symm hc

/-- Text without an opening brace stands in the format string as it stands in the pattern. -/
theorem eq_append_of_plainText {name text behind : List Char} (hname : '{' ∉ name)
    (h : plainText text = name ++ '}' :: behind) : ∃ rest, text = name ++ '}' :: rest := by
  induction name generalizing text with
  | nil =>
      obtain ⟨rest, htext, -⟩ := eq_cons_of_plainText (by decide) h
      exact ⟨rest, htext⟩
  | cons c name ih =>
      rw [List.mem_cons, not_or] at hname
      obtain ⟨rest, rfl, hrest⟩ := eq_cons_of_plainText (fun e => hname.1 e.symm) h
      obtain ⟨rest', rfl⟩ := ih hname.2 hrest.symm
      exact ⟨rest', rfl⟩

/-- Behind a brace that begins no placeholder, an opening brace of the format string begins none
either. -/
theorem eq_open_of_plainText {text behind : List Char} (hnone : placeholder? text = none)
    (h : plainText text = '{' :: behind) :
    ∃ rest, text = '{' :: rest ∧ placeholder? rest = none ∧ behind = plainText rest := by
  cases text with
  | nil => simp at h
  | cons d rest =>
      have hd : d = '{' → placeholder? rest = none := by
        rintro rfl
        by_contra hp
        exact placeholder?_cons_ne_none rfl hp hnone
      rw [plainText_char hd] at h
      obtain ⟨rfl, hbehind⟩ := List.cons.inj h
      exact ⟨rest, rfl, hd rfl, hbehind.symm⟩

/-! ## The pieces -/

/-- The token of a format string that a segment becomes. -/
def token : Segment → FormatToken
  | literal text => .literal (String.ofList (FormatToken.collapseBraces text.toList))
  | placeholder name _ => .field name

/-- Every brace of a literal belongs to a doubled one. -/
def BracesDoubled : Segment → Prop
  | literal text => ∃ single, text.toList = FormatToken.doubleBraces single
  | placeholder _ _ => True

theorem token_doubleBraces (text : List Char) :
    token (literal (String.ofList (FormatToken.doubleBraces text))) =
      .literal (String.ofList text) := by
  rw [token, String.toList_ofList, FormatToken.collapseBraces_doubleBraces]

/-- A literal that waits in the scanner with its braces doubled waits in the reader of format
strings with single ones. -/
theorem map_token_consLiteral (backwards : List Char) (segments : List Segment) :
    (consLiteral (FormatToken.doubleBraces backwards) segments).map token =
      FormatToken.consLiteral backwards (segments.map token) := by
  cases backwards with
  | nil => rfl
  | cons c rest =>
      have hne : (FormatToken.doubleBraces (c :: rest)).isEmpty = false := by
        rw [FormatToken.doubleBraces_cons]
        split <;> rfl
      rw [consLiteral, hne, FormatToken.reverse_doubleBraces]
      simp only [Bool.false_eq_true, if_false, List.map_cons, token_doubleBraces]
      rfl

/-- Tokens are segments one by one, and every brace of a literal is doubled. -/
structure SamePieces (segments : List Segment) (tokens : List FormatToken) : Prop where
  tokens_eq : tokens = segments.map token
  doubled : ∀ segment ∈ segments, segment.BracesDoubled

theorem SamePieces.nil : SamePieces [] [] where
  tokens_eq := rfl
  doubled := by
    intro segment hs
    cases hs

theorem SamePieces.placeholder {segments : List Segment} {tokens : List FormatToken}
    (h : SamePieces segments tokens) (name : String) (constraint : Option String) :
    SamePieces (placeholder name constraint :: segments) (.field name :: tokens) where
  tokens_eq := by
    rw [h.tokens_eq]
    rfl
  doubled := by
    intro segment hs
    rcases List.mem_cons.1 hs with rfl | hs
    · trivial
    · exact h.doubled segment hs

theorem SamePieces.consLiteral {segments : List Segment} {tokens : List FormatToken}
    (h : SamePieces segments tokens) (backwards : List Char) :
    SamePieces (consLiteral (FormatToken.doubleBraces backwards) segments)
      (FormatToken.consLiteral backwards tokens) where
  tokens_eq := by rw [map_token_consLiteral, h.tokens_eq]
  doubled := by
    unfold Segment.consLiteral
    split
    · exact h.doubled
    · intro segment hs
      rcases List.mem_cons.1 hs with rfl | hs
      · refine ⟨backwards.reverse, ?_⟩
        rw [String.toList_ofList, FormatToken.reverse_doubleBraces]
      · exact h.doubled segment hs

theorem names_consLiteral (backwards : List Char) (segments : List Segment) :
    names (consLiteral backwards segments) = names segments := by
  unfold consLiteral
  split <;> rfl

theorem name?_consLiteral (backwards : List Char) (tokens : List FormatToken) :
    (FormatToken.consLiteral backwards tokens).filterMap FormatToken.name? =
      tokens.filterMap FormatToken.name? := by
  unfold FormatToken.consLiteral
  split <;> rfl

/-- Two opening braces that begin no placeholder wait as one doubled brace. -/
theorem scanFrom_open {rest : List Char} (h : placeholder? ('{' :: rest) = none)
    (h' : placeholder? rest = none) (backwards : List Char) :
    scanFrom (FormatToken.doubleBraces backwards) ('{' :: '{' :: rest) =
      scanFrom (FormatToken.doubleBraces ('{' :: backwards)) rest := by
  rw [scanFrom_char fun _ => h, scanFrom_char fun _ => h', FormatToken.doubleBraces_open]

theorem scanFrom_close (backwards rest : List Char) :
    scanFrom (FormatToken.doubleBraces backwards) ('}' :: '}' :: rest) =
      scanFrom (FormatToken.doubleBraces ('}' :: backwards)) rest := by
  have hne : '}' ≠ '{' := by decide
  rw [scanFrom_char fun e => absurd e hne, scanFrom_char fun e => absurd e hne,
    FormatToken.doubleBraces_close]

/-- Where the format string has a valid name, the text has a placeholder. -/
theorem placeholder?_ne_none {text name behind : List Char}
    (h : FormatToken.fieldName (plainText text) = .ok (name, behind))
    (hvalid : isValidName (String.ofList name)) : placeholder? text ≠ none := by
  obtain ⟨htext, hopen, -⟩ := FormatToken.fieldName_eq_ok h
  obtain ⟨rest, rfl⟩ := eq_append_of_plainText hopen htext
  rw [placeholder?_name hvalid]
  exact Option.some_ne_none _

/-- The reader of format strings finds the pieces of the scanner, as long as all names that
either finds are valid. What waits in the scanner is what waits in the reader with its braces
doubled. -/
theorem samePieces_of_parseFrom {text backwards : List Char} {tokens : List FormatToken}
    (hparse : FormatToken.parseFrom backwards (plainText text) = .ok tokens)
    (hnames : ∀ name ∈ names (scanFrom (FormatToken.doubleBraces backwards) text),
      isValidName name)
    (hfields : ∀ name ∈ tokens.filterMap FormatToken.name?, isValidName name) :
    SamePieces (scanFrom (FormatToken.doubleBraces backwards) text) tokens := by
  induction hlen : text.length using Nat.strong_induction_on
    generalizing text backwards tokens with
  | _ n ih =>
  subst hlen
  cases text with
  | nil =>
      rw [plainText_nil, FormatToken.parseFrom_nil] at hparse
      cases hparse
      rw [scanFrom]
      exact SamePieces.nil.consLiteral backwards
  | cons c rest =>
      by_cases hopen : c = '{'
      · subst hopen
        cases hp : placeholder? rest with
        | none =>
            -- The brace is literal, so the reader takes the brace behind it as well: the name of
            -- a field there would have made it a placeholder.
            rw [plainText_char fun _ => hp] at hparse
            rcases FormatToken.parseFrom_open hparse with
              ⟨behind, hbehind, hrest⟩ | ⟨name, behind, later, hname, -, rfl⟩
            · obtain ⟨rest', rfl, hp', rfl⟩ := eq_open_of_plainText hp hbehind
              rw [scanFrom_open hp hp'] at hnames ⊢
              refine ih rest'.length ?_ hrest hnames hfields rfl
              simp only [List.length_cons]
              omega
            · have hvalid : isValidName (String.ofList name) := by
                apply hfields
                rw [name?_consLiteral]
                exact List.mem_cons_self
              exact absurd hp (placeholder?_ne_none hname hvalid)
        | some found =>
            obtain ⟨segment, rest'⟩ := found
            obtain ⟨name, constraint, rfl⟩ := exists_placeholder hp
            rw [scanFrom_placeholder hp] at hnames ⊢
            rw [names_consLiteral] at hnames
            have hvalid : isValidName (String.ofList name) := hnames _ List.mem_cons_self
            rw [plainText_placeholder hp, plain_placeholder_append] at hparse
            obtain ⟨later, hlater, rfl⟩ := FormatToken.parseFrom_field (isValidName_ne_nil hvalid)
              (fun hm => (isValidName_char hvalid hm).1 rfl)
              (fun hm => (isValidName_char hvalid hm).2.1 rfl) hparse
            rw [name?_consLiteral] at hfields
            have hrest := ih rest'.length (Nat.lt_succ_of_lt (length_of_placeholder? hp)) hlater
              (fun n hn => hnames n (List.mem_cons_of_mem _ hn))
              (fun n hn => hfields n (List.mem_cons_of_mem _ hn)) rfl
            exact (hrest.placeholder _ constraint).consLiteral backwards
      · have hc : c = '{' → placeholder? rest = none := fun e => absurd e hopen
        rw [plainText_char hc] at hparse
        by_cases hclose : c = '}'
        · subst hclose
          obtain ⟨behind, hbehind, hrest⟩ := FormatToken.parseFrom_close hparse
          obtain ⟨rest', rfl, rfl⟩ := eq_cons_of_plainText (by decide) hbehind
          rw [scanFrom_close] at hnames ⊢
          refine ih rest'.length ?_ hrest hnames hfields rfl
          simp only [List.length_cons]
          omega
        · rw [FormatToken.parseFrom_char hopen hclose] at hparse
          rw [scanFrom_char hc, ← FormatToken.doubleBraces_char hopen hclose] at hnames ⊢
          exact ih rest.length (Nat.lt_succ_self _) hparse hnames hfields rfl

end Segment

theorem Format.parse_eq_ok {source : String} {f : Format} (h : parse source = .ok f) :
    FormatToken.parseFrom [] source.toList = .ok f.tokens := by
  unfold parse at h
  split at h
  · rename_i tokens ht
    cases h
    exact ht
  · cases h

/-- Both sides of a compiled template have the same names, which are valid, so they have the same
pieces. -/
theorem Template.CompiledFrom.samePieces {t : Template} {label pattern : String}
    {options : Options} (h : t.CompiledFrom label pattern options) :
    Segment.SamePieces (Segment.scan pattern) t.format.tokens := by
  obtain ⟨e, he, -⟩ := Segment.expression_eq_ok h.expression
  have hnames := Segment.isValidName_of_expressionFrom he
  have hfields : ∀ name ∈ t.format.tokens.filterMap FormatToken.name?,
      Segment.isValidName name := by
    intro name hn
    apply hnames
    rw [← Names.mem_ofList, ← h.keys, ← h.fieldNames]
    exact Names.mem_ofList.2 hn
  have hparse := Format.parse_eq_ok h.format
  rw [Segment.toList_formatSource] at hparse
  exact Segment.samePieces_of_parseFrom hparse hnames hfields

/-- The tokens of a compiled template are its segments one by one. A placeholder is a field of
the same name, and of every literal the braces are doubled and become single ones. -/
theorem Template.tokens_eq_map_token {label pattern : String} {options : Options} {t : Template}
    (h : compile label pattern options = .ok t) :
    t.format.tokens = (Segment.scan pattern).map Segment.token ∧
      (∀ segment ∈ Segment.scan pattern, segment.BracesDoubled) ∧
      t.format.tokens.filterMap FormatToken.name? = Segment.names (Segment.scan pattern) := by
  obtain ⟨htokens, hdoubled⟩ := (compiledFrom_of_compile h).samePieces
  refine ⟨htokens, hdoubled, ?_⟩
  rw [htokens, List.filterMap_map]
  refine List.filterMap_congr fun segment _ => ?_
  cases segment with
  | literal text => rfl
  | placeholder name constraint => rfl

/-- A doubled brace in front of a placeholder with a constraint. -/
theorem Template.tokens_of_closing_braces :
    ∃ t, compile "tail" "\x7d\x7d\x7ba:x\x7d" {} = .ok t ∧
      t.format.tokens = [.literal "\x7d", .field "a"] := by
  have hscan : Segment.scan "\x7d\x7d\x7ba:x\x7d" =
      [.literal "\x7d\x7d", .placeholder "a" (some "x")] := by
    cbv
  have hs : Segment.expression {} (Segment.scan "\x7d\x7d\x7ba:x\x7d") =
      .ok ("^\x7d\x7d(?P<a001>x)$", [⟨"a001", "a"⟩]) := by
    rw [hscan]
    rfl
  have hf : Format.parse (Segment.formatSource (Segment.scan "\x7d\x7d\x7ba:x\x7d")) =
      .ok ⟨"\x7d\x7d\x7ba\x7d", [.literal "\x7d", .field "a"]⟩ := by
    cbv
  have hn : Names.ofList (Segment.names (Segment.scan "\x7d\x7d\x7ba:x\x7d")) =
      Names.ofList ["a"] := by
    rw [hscan]
    rfl
  have he : Regex.readExpr "^\x7d\x7d(?P<a001>x)$".toList =
      .ok (.concat [.place .lineStart, .char ⟨'}', false⟩, .char ⟨'}', false⟩,
        .group (.capture 1 (some "a001")) (.char ⟨'x', false⟩), .place .lineEnd]) := rfl
  have hm : Regex.meaning {} (.concat [.place .lineStart, .char ⟨'}', false⟩, .char ⟨'}', false⟩,
        .group (.capture 1 (some "a001")) (.char ⟨'x', false⟩), .place .lineEnd]) =
      .ok (Regex.Core.catAll [.assert .textStart, .one (.single '}'), .one (.single '}'),
        .capture 1 (.one (.single 'x')), .assert .textEnd], {}) := rfl
  have h := compile_of_parts "tail" hs hf hn (Regex.compile_of_readExpr he hm (by cbv))
  refine ⟨_, h, ?_⟩
  rw [(tokens_eq_map_token h).1, hscan]
  cbv

end PathTemplate
