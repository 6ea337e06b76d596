import Mathlib.Data.List.TakeDrop
import Mathlib.Data.List.TakeWhile
import PathTemplate.Json.Reader
import PathTemplate.Proofs.Outcome

/-!
# Words, strings and numbers of JSON

A grammar says what a text spells. What a reader takes from the front of a text
spells what the reader returns, and a reader reads what is spelled. A number has
no end of its own: it is read up if what stands behind it does not continue it.
-/

namespace PathTemplate.Json

variable {mode : Mode} {text rest : List Char}

/-! ## Blanks and words -/

def IsBlank (c : Char) : Prop := c = ' ' ∨ c = '\n' ∨ c = '\t' ∨ c = '\r'

instance : DecidablePred IsBlank :=
  fun c => inferInstanceAs (Decidable (c = ' ' ∨ c = '\n' ∨ c = '\t' ∨ c = '\r'))

/-- A text has nothing but blanks. -/
def Blank (t : List Char) : Prop := ∀ c ∈ t, IsBlank c

theorem Blank.nil : Blank [] :=
  List.forall_mem_nil _

theorem skipBlanks_blank {c : Char} (h : IsBlank c) (t : List Char) :
    skipBlanks (c :: t) = skipBlanks t :=
  if_pos h

theorem skipBlanks_char {c : Char} (h : ¬ IsBlank c) (t : List Char) :
    skipBlanks (c :: t) = c :: t :=
  if_neg h

theorem skipBlanks_append {b : List Char} (h : Blank b) (t : List Char) :
    skipBlanks (b ++ t) = skipBlanks t := by
  induction b with
  | nil => rfl
  | cons c b ih =>
      obtain ⟨hc, hb⟩ := List.forall_mem_cons.1 h
      rw [List.cons_append, skipBlanks_blank hc, ih hb]

/-- What stands in front of the first character that is no blank. -/
theorem exists_blank (text : List Char) : ∃ b, Blank b ∧ text = b ++ skipBlanks text := by
  induction text with
  | nil => exact ⟨[], .nil, rfl⟩
  | cons c rest ih =>
      by_cases hc : IsBlank c
      · obtain ⟨b, hb, hrest⟩ := ih
        refine ⟨c :: b, List.forall_mem_cons.2 ⟨hc, hb⟩, ?_⟩
        rw [skipBlanks_blank hc, List.cons_append, ← hrest]
      · exact ⟨[], .nil, (skipBlanks_char hc rest).symm⟩

/-- What may have a blank in front of it may have any number of them there. -/
theorem blanks_append {P : List Char → Prop} (hP : ∀ {c t}, IsBlank c → P t → P (c :: t))
    {b t : List Char} (hb : Blank b) (h : P t) : P (b ++ t) := by
  induction b with
  | nil => exact h
  | cons c b ih =>
      obtain ⟨hc, hb⟩ := List.forall_mem_cons.1 hb
      exact hP hc (ih hb)

theorem exists_of_skipBlanks {P : List Char → Prop} (hP : ∀ {c t}, IsBlank c → P t → P (c :: t))
    {t : List Char} (hskip : skipBlanks text = t ++ rest) (h : P t) :
    ∃ t, text = t ++ rest ∧ P t := by
  obtain ⟨b, hb, htext⟩ := exists_blank text
  refine ⟨b ++ t, ?_, blanks_append hP hb h⟩
  rw [htext, hskip, List.append_assoc]

theorem skipBlanks_eq_nil_iff : skipBlanks text = [] ↔ Blank text := by
  constructor
  · intro h
    obtain ⟨b, hb, htext⟩ := exists_blank text
    rw [htext, h, List.append_nil]
    exact hb
  · intro h
    rw [← List.append_nil text, skipBlanks_append h]
    rfl

theorem not_isBlank_of_skipBlanks {c : Char} (h : skipBlanks text = c :: rest) :
    ¬ IsBlank c := by
  induction text with
  | nil => cases h
  | cons d text ih =>
      by_cases hd : IsBlank d
      · exact ih (skipBlanks_blank hd text ▸ h)
      · rw [skipBlanks_char hd] at h
        obtain ⟨rfl, -⟩ := List.cons.inj h
        exact hd

theorem skipBlanks_append_of_cons {c : Char} (h : skipBlanks text = c :: rest)
    (behind : List Char) : skipBlanks (text ++ behind) = c :: (rest ++ behind) := by
  obtain ⟨b, hb, htext⟩ := exists_blank text
  rw [htext, h, List.append_assoc, skipBlanks_append hb, List.cons_append]
  exact skipBlanks_char (not_isBlank_of_skipBlanks h) _

theorem skipBlanks_front {b t : List Char} {c : Char} (hb : Blank b) (hc : ¬ IsBlank c)
    (rest : List Char) : skipBlanks (b ++ c :: t ++ rest) = c :: (t ++ rest) := by
  rw [List.append_assoc, skipBlanks_append hb]
  exact skipBlanks_char hc _

theorem skipBlanks_skipBlanks (text : List Char) :
    skipBlanks (skipBlanks text) = skipBlanks text := by
  obtain ⟨b, hb, htext⟩ := exists_blank text
  calc skipBlanks (skipBlanks text) = skipBlanks (b ++ skipBlanks text) :=
        (skipBlanks_append hb _).symm
    _ = skipBlanks text := by rw [← htext]

theorem expect_eq_ok_iff {word : List Char} :
    expect word text = .ok rest ↔ text = word ++ rest := by
  induction word generalizing text with
  | nil => simp [expect]
  | cons w word ih =>
      cases text with
      | nil => simp [expect]
      | cons c text =>
          by_cases hc : c = w
          · simp [expect, hc, ih]
          · simp [expect, hc]

theorem colon_eq_ok_iff :
    colon text = .ok rest ↔ ∃ b, Blank b ∧ text = b ++ ':' :: rest := by
  constructor
  · intro h
    obtain ⟨b, hb, htext⟩ := exists_blank text
    rw [colon] at h
    split at h
    · cases h
    · rename_i hcolon
      cases h
      exact ⟨b, hb, hcolon ▸ htext⟩
    · cases h
  · rintro ⟨b, hb, rfl⟩
    rw [colon, skipBlanks_append hb]
    rfl

/-! ## Strings -/

theorem Mode.eq_read_of_ne (h : mode ≠ .skip) : mode = .read := by
  cases mode with
  | read => rfl
  | skip => exact absurd rfl h

theorem consChar_eq_ok_iff {c : Char} {r : Except Fault (List Char × List Char)} {s : List Char} :
    consChar c r = .ok (s, rest) ↔ ∃ s', s = c :: s' ∧ r = .ok (s', rest) := by
  cases r with
  | error e => simp [consChar]
  | ok p =>
      obtain ⟨s', rest'⟩ := p
      simp [consChar]
      grind

/-- Characters, and how they stand between quotes. Where a string is skipped, a code unit stands
for nothing. -/
inductive StringText (mode : Mode) : (s t : List Char) → Prop
  | nil : StringText mode [] []
  | char {c : Char} {s t : List Char} (hquote : c ≠ '"') (hescape : c ≠ '\\')
      (hc : ¬ c < ' ') (h : StringText mode s t) : StringText mode (c :: s) (c :: t)
  | letter {c e : Char} {s t : List Char} (he : escaped? c = some e) (h : StringText mode s t) :
      StringText mode (e :: s) ('\\' :: c :: t)
  | skipped {a b c d : Char} {unit : Nat} {s t : List Char} (hmode : mode = .skip)
      (hunit : codeUnit? a b c d = some unit) (h : StringText mode s t) :
      StringText mode s ('\\' :: 'u' :: a :: b :: c :: d :: t)
  | unit {a b c d : Char} {unit : Nat} {s t : List Char} (hmode : mode = .read)
      (hunit : codeUnit? a b c d = some unit) (hleading : isLeading unit = false)
      (htrailing : isTrailing unit = false) (h : StringText mode s t) :
      StringText mode (Char.ofNat unit :: s) ('\\' :: 'u' :: a :: b :: c :: d :: t)
  | pair {a b c d e f g i : Char} {leading trailing : Nat} {s t : List Char} (hmode : mode = .read)
      (hunit : codeUnit? a b c d = some leading) (hnext : codeUnit? e f g i = some trailing)
      (hleading : isLeading leading = true) (htrailing : isTrailing trailing = true)
      (h : StringText mode s t) :
      StringText mode (pairedChar leading trailing :: s)
        ('\\' :: 'u' :: a :: b :: c :: d :: '\\' :: 'u' :: e :: f :: g :: i :: t)

theorem stringText_of_stringBody {s : List Char} (h : stringBody mode text = .ok (s, rest)) :
    ∃ t, text = t ++ '"' :: rest ∧ StringText mode s t := by
  fun_induction stringBody mode text generalizing s with
  | case2 rest =>
      cases h
      exact ⟨[], rfl, .nil⟩
  | case4 a b c d text unit hunit hmode ih =>
      obtain ⟨t, rfl, ht⟩ := ih h
      exact ⟨'\\' :: 'u' :: a :: b :: c :: d :: t, rfl, .skipped hmode hunit ht⟩
  | case7 a b c d leading hunit hmode hnot hleading e f g i text trailing hnext htrailing ih =>
      obtain ⟨s, rfl, hs⟩ := consChar_eq_ok_iff.1 h
      obtain ⟨t, rfl, ht⟩ := ih hs
      refine ⟨'\\' :: 'u' :: a :: b :: c :: d :: '\\' :: 'u' :: e :: f :: g :: i :: t, rfl, ?_⟩
      exact .pair (Mode.eq_read_of_ne hmode) hunit hnext hleading htrailing ht
  | case13 a b c d text unit hunit hmode htrailing hleading ih =>
      obtain ⟨s, rfl, hs⟩ := consChar_eq_ok_iff.1 h
      obtain ⟨t, rfl, ht⟩ := ih hs
      refine ⟨'\\' :: 'u' :: a :: b :: c :: d :: t, rfl, ?_⟩
      exact .unit (Mode.eq_read_of_ne hmode) hunit (by simpa using hleading)
        (by simpa using htrailing) ht
  | case16 c text _ _ e he ih =>
      obtain ⟨s, rfl, hs⟩ := consChar_eq_ok_iff.1 h
      obtain ⟨t, rfl, ht⟩ := ih hs
      exact ⟨'\\' :: c :: t, rfl, .letter he ht⟩
  | case19 c text hquote _ _ hend hescape hc ih =>
      obtain ⟨s, rfl, hs⟩ := consChar_eq_ok_iff.1 h
      obtain ⟨t, rfl, ht⟩ := ih hs
      refine ⟨c :: t, rfl, .char hquote ?_ hc ht⟩
      rintro rfl
      cases hrest : t ++ '"' :: rest with
      | nil => exact hend rfl hrest
      | cons d rest' => exact hescape d rest' rfl hrest
  | _ => cases h

theorem isTrailing_of_isLeading {unit : Nat} (h : isLeading unit = true) :
    isTrailing unit = false := by
  simp only [isLeading, isTrailing, Bool.and_eq_true, decide_eq_true_eq, Bool.and_eq_false_iff,
    decide_eq_false_iff_not] at h ⊢
  omega

theorem stringBody_append {s t : List Char} (h : StringText mode s t) (rest : List Char) :
    stringBody mode (t ++ '"' :: rest) = .ok (s, rest) := by
  induction h with
  | nil => rfl
  | char hquote hescape hc _ ih =>
      rw [List.cons_append, stringBody, if_neg hc, ih, consChar]
      all_goals simp_all
  | @letter c e s t he _ ih =>
      have hu : c ≠ 'u' := by
        rintro rfl
        cases he
      rw [List.cons_append, List.cons_append, stringBody, he]
      · simp only [ih, consChar]
      all_goals simp_all
  | skipped hmode hunit _ ih =>
      subst hmode
      simpa [stringBody, hunit] using ih
  | unit hmode hunit hleading htrailing _ ih =>
      subst hmode
      simp [stringBody, hunit, hleading, htrailing, ih, consChar]
  | pair hmode hunit hnext hleading htrailing _ ih =>
      subst hmode
      have hnot := isTrailing_of_isLeading hleading
      simp [stringBody, hunit, hnext, hleading, hnot, htrailing, ih, consChar]

/-! ## Numbers -/

/-- Digits, and at least one. -/
def Digits (t : List Char) : Prop := t ≠ [] ∧ ∀ c ∈ t, c.isDigit = true

/-- The digits in front of the point. -/
inductive WholeText : (t : List Char) → Prop
  | zero : WholeText ['0']
  | digits {t : List Char} (h : Digits t) (hzero : t.head? ≠ some '0') : WholeText t

/-- The digits behind the point, and how they stand there. -/
inductive FractionText : (digits t : List Char) → Prop
  | absent : FractionText [] []
  | digits {ds : List Char} (h : Digits ds) : FractionText ds ('.' :: ds)

/-- The sign and the digits of an exponent, and how they stand there. -/
inductive ExponentText : (negative : Bool) → (power t : List Char) → Prop
  | absent : ExponentText false [] []
  | unsigned {c : Char} {ds : List Char} (hc : c = 'e' ∨ c = 'E') (h : Digits ds) :
      ExponentText false ds (c :: ds)
  | plus {c : Char} {ds : List Char} (hc : c = 'e' ∨ c = 'E') (h : Digits ds) :
      ExponentText false ds (c :: '+' :: ds)
  | minus {c : Char} {ds : List Char} (hc : c = 'e' ∨ c = 'E') (h : Digits ds) :
      ExponentText true ds (c :: '-' :: ds)

/-- A number. One that is not skipped is not too large. -/
inductive NumberText (mode : Mode) : (t : List Char) → Prop
  | mk {sign whole fraction power t u : List Char} {negative : Bool}
      (hsign : sign = [] ∨ sign = ['-']) (hwhole : WholeText whole)
      (hfraction : FractionText fraction t) (hexponent : ExponentText negative power u)
      (hsize : mode = .read → tooLarge (decimal (whole ++ fraction))
        ((if negative then -(decimal power : Int) else decimal power) - fraction.length) = false) :
      NumberText mode (sign ++ (whole ++ (t ++ u)))

/-- No digit comes next. -/
def NoDigit (rest : List Char) : Prop := ∀ c ∈ rest.head?, c.isDigit = false

/-- Nothing comes next that continues a number. -/
def Stops (rest : List Char) : Prop :=
  ∀ c ∈ rest.head?, c.isDigit = false ∧ c ≠ '.' ∧ c ≠ 'e' ∧ c ≠ 'E'

theorem Stops.noDigit (h : Stops rest) : NoDigit rest :=
  fun c hc => (h c hc).1

theorem digits_eq_iff {ds : List Char} :
    digits text = (ds, rest) ↔
      text = ds ++ rest ∧ (∀ c ∈ ds, c.isDigit = true) ∧ NoDigit rest := by
  rw [digits, List.span_eq_takeWhile_dropWhile]
  constructor
  · intro h
    obtain ⟨rfl, rfl⟩ := Prod.mk.inj h
    refine ⟨List.takeWhile_append_dropWhile.symm, fun c hc => List.mem_takeWhile_imp hc, ?_⟩
    intro c hc
    simpa [Option.mem_def.1 hc] using List.head?_dropWhile_not Char.isDigit text
  · rintro ⟨rfl, hds, hrest⟩
    rw [List.takeWhile_append_of_pos hds, List.dropWhile_append_of_pos hds]
    cases rest with
    | nil => simp
    | cons c rest =>
        have hc := hrest c rfl
        simp [hc]

theorem digits_append {ds : List Char} (h : Digits ds) (hrest : NoDigit rest) :
    digits (ds ++ rest) = (ds, rest) :=
  digits_eq_iff.2 ⟨rfl, h.2, hrest⟩

theorem digits_of_noDigit (h : NoDigit rest) : digits rest = ([], rest) :=
  digits_eq_iff.2 ⟨rfl, List.forall_mem_nil _, h⟩

theorem digits_sound {ds : List Char} (h : digits text = (ds, rest)) (hne : ds ≠ []) :
    text = ds ++ rest ∧ Digits ds := by
  obtain ⟨htext, hds, -⟩ := digits_eq_iff.1 h
  exact ⟨htext, hne, hds⟩

theorem wholeText_of_wholeDigits {whole : List Char}
    (h : wholeDigits mode text = .ok (whole, rest)) : text = whole ++ rest ∧ WholeText whole := by
  rw [wholeDigits.eq_def] at h
  split at h
  · split at h
    · cases h
      exact ⟨rfl, .zero⟩
    · cases h
  · rename_i hzero
    split at h
    · cases h
    · rename_i hne
      have hdigits := Except.ok.inj h
      rw [hdigits] at hne
      obtain ⟨rfl, hds⟩ := digits_sound hdigits hne
      refine ⟨rfl, .digits hds fun hhead => ?_⟩
      obtain ⟨tail, rfl⟩ := List.head?_eq_some_iff.1 hhead
      exact hzero (tail ++ rest) rfl

theorem wholeDigits_append {whole : List Char} (h : WholeText whole) (hrest : NoDigit rest) :
    wholeDigits mode (whole ++ rest) = .ok (whole, rest) := by
  cases h with
  | zero =>
      have hnone := digits_of_noDigit hrest
      simp [wholeDigits, hnone]
  | digits h hzero =>
      rw [wholeDigits, digits_append h hrest, if_neg h.1]
      rintro text htext
      cases whole with
      | nil => exact h.1 rfl
      | cons c tail =>
          obtain ⟨rfl, -⟩ := List.cons.inj htext
          exact hzero rfl

theorem fractionText_of_fractionDigits {fraction : List Char}
    (h : fractionDigits mode text = .ok (fraction, rest)) :
    ∃ t, text = t ++ rest ∧ FractionText fraction t := by
  rw [fractionDigits.eq_def] at h
  split at h
  · split at h
    · cases h
    · rename_i hne
      have hdigits := Except.ok.inj h
      rw [hdigits] at hne
      obtain ⟨rfl, hds⟩ := digits_sound hdigits hne
      exact ⟨'.' :: fraction, rfl, .digits hds⟩
  · cases h
    exact ⟨[], rfl, .absent⟩

theorem fractionDigits_append {fraction t : List Char} (h : FractionText fraction t)
    (hrest : ∀ c ∈ rest.head?, c.isDigit = false ∧ c ≠ '.') :
    fractionDigits mode (t ++ rest) = .ok (fraction, rest) := by
  cases h with
  | absent =>
      rw [List.nil_append, fractionDigits]
      rintro tail rfl
      exact (hrest '.' rfl).2 rfl
  | digits h =>
      have hdigits := digits_append h fun c hc => (hrest c hc).1
      simp [fractionDigits, hdigits, h.1]

theorem exponentText_of_exponentDigits {negative : Bool} {power : List Char}
    (h : exponentDigits mode text = .ok ((negative, power), rest)) :
    ∃ t, text = t ++ rest ∧ ExponentText negative power t := by
  rw [exponentDigits.eq_def] at h
  split at h
  · rename_i c text
    split at h
    · rename_i hc
      split at h
      rename_i isNegative behind hsign
      split at h
      · cases h
      · rename_i hne
        obtain ⟨⟨rfl, hpower⟩, hrest⟩ : (isNegative = negative ∧ (digits behind).1 = power) ∧
            (digits behind).2 = rest := by
          simpa using h
        obtain ⟨rfl, hds⟩ := digits_sound (Prod.ext hpower hrest) (hpower ▸ hne)
        split at hsign
        · cases hsign
          exact ⟨c :: '+' :: power, rfl, .plus hc hds⟩
        · cases hsign
          exact ⟨c :: '-' :: power, rfl, .minus hc hds⟩
        · cases hsign
          exact ⟨c :: power, rfl, .unsigned hc hds⟩
    · cases h
      exact ⟨[], rfl, .absent⟩
  · cases h
    exact ⟨[], rfl, .absent⟩

theorem Digits.exists_cons {ds : List Char} (h : Digits ds) :
    ∃ c tail, ds = c :: tail ∧ c.isDigit = true := by
  obtain ⟨c, tail, rfl⟩ := List.exists_cons_of_ne_nil h.1
  exact ⟨c, tail, rfl, h.2 c List.mem_cons_self⟩

theorem exponentDigits_append {negative : Bool} {power t : List Char}
    (h : ExponentText negative power t) (hrest : Stops rest) :
    exponentDigits mode (t ++ rest) = .ok ((negative, power), rest) := by
  cases h with
  | absent =>
      cases rest with
      | nil => rfl
      | cons c rest =>
          obtain ⟨-, -, he, hE⟩ := hrest c rfl
          simp [exponentDigits, he, hE]
  | unsigned hc h =>
      have hdigits := digits_append h hrest.noDigit
      obtain ⟨d, tail, rfl, hd⟩ := h.exists_cons
      have hplus : d ≠ '+' := by
        rintro rfl
        cases hd
      have hminus : d ≠ '-' := by
        rintro rfl
        cases hd
      rw [List.cons_append] at hdigits
      simp [exponentDigits, hc, hplus, hminus, hdigits]
  | plus hc h =>
      have hdigits := digits_append h hrest.noDigit
      simp [exponentDigits, hc, hdigits, h.1]
  | minus hc h =>
      have hdigits := digits_append h hrest.noDigit
      simp [exponentDigits, hc, hdigits, h.1]

theorem WholeText.exists_cons {whole : List Char} (h : WholeText whole) :
    ∃ c tail, whole = c :: tail ∧ c.isDigit = true := by
  cases h with
  | zero => exact ⟨'0', [], rfl, rfl⟩
  | digits h _ => exact h.exists_cons

theorem NumberText.exists_cons {t : List Char} (h : NumberText mode t) :
    ∃ c tail, t = c :: tail ∧ (c = '-' ∨ c.isDigit = true) := by
  obtain @⟨sign, whole, fraction, power, t, u, negative, hsign, hwhole, -, -, -⟩ := h
  rcases hsign with rfl | rfl
  · obtain ⟨c, tail, rfl, hc⟩ := hwhole.exists_cons
    exact ⟨c, _, rfl, .inr hc⟩
  · exact ⟨'-', _, rfl, .inl rfl⟩

/-- What stands behind the digits of a fraction. -/
theorem ExponentText.behind {negative : Bool} {power t : List Char}
    (h : ExponentText negative power t) (hrest : Stops rest) :
    ∀ c ∈ (t ++ rest).head?, c.isDigit = false ∧ c ≠ '.' := by
  intro c hc
  have hletter : ∀ e : Char, e = 'e' ∨ e = 'E' → e.isDigit = false ∧ e ≠ '.' := by
    rintro e (rfl | rfl) <;> decide
  cases h with
  | absent => exact ⟨(hrest c hc).1, (hrest c hc).2.1⟩
  | unsigned he _ => exact Option.some.inj hc ▸ hletter _ he
  | plus he _ => exact Option.some.inj hc ▸ hletter _ he
  | minus he _ => exact Option.some.inj hc ▸ hletter _ he

/-- What stands behind the digits in front of a fraction. -/
theorem FractionText.behind {fraction t : List Char} (h : FractionText fraction t)
    (hrest : NoDigit rest) : NoDigit (t ++ rest) := by
  cases h with
  | absent => exact hrest
  | digits _ =>
      intro c hc
      cases hc
      rfl

/-- The text behind the sign of a number. -/
def unsigned (text : List Char) : List Char :=
  match text with
  | '-' :: rest => rest
  | _ => text

/-- A number is read in three parts, and returned as it stands there. -/
theorem numeral_eq_ok_iff {literal : String} :
    numeral mode text = .ok (literal, rest) ↔
      ∃ whole fraction negative power behind behind',
        wholeDigits mode (unsigned text) = .ok (whole, behind) ∧
        fractionDigits mode behind = .ok (fraction, behind') ∧
        exponentDigits mode behind' = .ok ((negative, power), rest) ∧
        (mode = .read → tooLarge (decimal (whole ++ fraction))
          ((if negative then -(decimal power : Int) else decimal power) - fraction.length) =
            false) ∧
        literal = String.ofList (text.take (text.length - rest.length)) := by
  constructor
  · intro h
    obtain ⟨⟨whole, behind⟩, hwhole, h⟩ := exists_of_bind_eq_ok h
    obtain ⟨⟨fraction, behind'⟩, hfraction, h⟩ := exists_of_bind_eq_ok h
    obtain ⟨⟨⟨negative, power⟩, behind''⟩, hexponent, h⟩ := exists_of_bind_eq_ok h
    dsimp only at h
    by_cases hsize : mode = .read ∧ tooLarge (decimal (whole ++ fraction))
        ((if negative then -(decimal power : Int) else decimal power) - fraction.length)
    · rw [if_pos hsize] at h
      cases h
    · rw [if_neg hsize] at h
      cases h
      refine ⟨whole, fraction, negative, power, behind, behind', hwhole, hfraction, hexponent, ?_,
        rfl⟩
      intro hmode
      simpa [hmode] using hsize
  · rintro ⟨whole, fraction, negative, power, behind, behind', hwhole, hfraction, hexponent, hsize,
      rfl⟩
    have hsize' : ¬ (mode = .read ∧ tooLarge (decimal (whole ++ fraction))
        ((if negative then -(decimal power : Int) else decimal power) - fraction.length)) := by
      rintro ⟨hmode, hlarge⟩
      rw [hsize hmode] at hlarge
      cases hlarge
    change (wholeDigits mode (unsigned text) >>= _) = _
    simp only [hwhole, hfraction, hexponent, if_neg hsize', bind, Except.bind]
    rfl

theorem numberText_of_numeral {literal : String} (h : numeral mode text = .ok (literal, rest)) :
    ∃ t, text = t ++ rest ∧ literal = String.ofList t ∧ NumberText mode t := by
  obtain ⟨whole, fraction, negative, power, behind, behind', hwhole, hfraction, hexponent, hsize,
    rfl⟩ := numeral_eq_ok_iff.1 h
  obtain ⟨hunsigned, hwholeText⟩ := wholeText_of_wholeDigits hwhole
  obtain ⟨t, rfl, hfractionText⟩ := fractionText_of_fractionDigits hfraction
  obtain ⟨u, rfl, hexponentText⟩ := exponentText_of_exponentDigits hexponent
  obtain ⟨sign, hsign, htext⟩ :
      ∃ sign, (sign = [] ∨ sign = ['-']) ∧ text = sign ++ unsigned text := by
    rw [unsigned.eq_def]
    split
    · exact ⟨['-'], .inr rfl, rfl⟩
    · exact ⟨[], .inl rfl, rfl⟩
  have hsplit : text = sign ++ (whole ++ (t ++ u)) ++ rest := by
    rw [htext, hunsigned]
    simp
  refine ⟨sign ++ (whole ++ (t ++ u)), hsplit, ?_,
    .mk hsign hwholeText hfractionText hexponentText hsize⟩
  rw [hsplit, List.take_left' (Nat.eq_sub_of_add_eq List.length_append.symm)]

theorem numeral_append {t : List Char} (h : NumberText mode t) (hrest : Stops rest) :
    numeral mode (t ++ rest) = .ok (String.ofList t, rest) := by
  obtain @⟨sign, whole, fraction, power, t, u, negative, hsign, hwhole, hfraction, hexponent,
    hsize⟩ := h
  have hbehind := hexponent.behind hrest
  have hnoDigit := hfraction.behind fun c hc => (hbehind c hc).1
  have hunsigned : unsigned (sign ++ (whole ++ (t ++ u)) ++ rest) =
      whole ++ (t ++ (u ++ rest)) := by
    simp only [List.append_assoc]
    rcases hsign with rfl | rfl
    · obtain ⟨c, tail, rfl, hc⟩ := hwhole.exists_cons
      have hminus : c ≠ '-' := by
        rintro rfl
        cases hc
      simp [unsigned, hminus]
    · rfl
  refine numeral_eq_ok_iff.2 ⟨whole, fraction, negative, power, _, _,
    hunsigned ▸ wholeDigits_append hwhole hnoDigit, fractionDigits_append hfraction hbehind,
    exponentDigits_append hexponent hrest, hsize, ?_⟩
  rw [List.take_left' (Nat.eq_sub_of_add_eq List.length_append.symm)]

end PathTemplate.Json
