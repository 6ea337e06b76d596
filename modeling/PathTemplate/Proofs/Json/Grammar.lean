import PathTemplate.Proofs.Json.Scalars

/-!
# The grammar of JSON values

A value, the items of an array up to its end and the members of an object up to
its end are spelled with blanks in front of every part. The reader reads what is
spelled, and what it reads is spelled. A value that is read may not be nested
too deep, one that is skipped may be nested to any depth.
-/

namespace PathTemplate.Json

variable {mode : Mode} {depth : Nat} {text rest : List Char}

/-- What a text may spell. Items and members come with the end of what they belong to, and either
they come first there or others stand in front of them. -/
inductive Phrase
  | value (j : Json)
  | items (first : Bool) (l : List Json)
  | members (first : Bool) (l : List (String × Json))

/-- How a phrase is written, where `depth` more values may be nested in each other. A repeated
name keeps its first place among the members of an object, and has its last value. -/
inductive Spells (mode : Mode) : (depth : Nat) → Phrase → (t : List Char) → Prop
  | blank {depth : Nat} {phrase : Phrase} {c : Char} {t : List Char} (hc : IsBlank c)
      (h : Spells mode depth phrase t) : Spells mode depth phrase (c :: t)
  | nullWord {depth : Nat} : Spells mode depth (.value .null) ['n', 'u', 'l', 'l']
  | trueWord {depth : Nat} : Spells mode depth (.value (.bool true)) ['t', 'r', 'u', 'e']
  | falseWord {depth : Nat} : Spells mode depth (.value (.bool false)) ['f', 'a', 'l', 's', 'e']
  | number {depth : Nat} {t : List Char} (h : NumberText mode t) :
      Spells mode depth (.value (.number (String.ofList t))) t
  | string {depth : Nat} {s t : List Char} (h : StringText mode s t) :
      Spells mode depth (.value (.string (String.ofList s))) ('"' :: (t ++ ['"']))
  | array {depth : Nat} {l : List Json} {t : List Char} (hdepth : mode = .read → depth ≠ 0)
      (h : Spells mode (depth - 1) (.items true l) t) :
      Spells mode depth (.value (.array l)) ('[' :: t)
  | object {depth : Nat} {l : List (String × Json)} {t : List Char}
      (hdepth : mode = .read → depth ≠ 0)
      (h : Spells mode (depth - 1) (.members true l) t) :
      Spells mode depth (.value (.object (Catalog.ofList l).entries)) ('{' :: t)
  | noItem {depth : Nat} {first : Bool} : Spells mode depth (.items first []) [']']
  | item {depth : Nat} {j : Json} {l : List Json} {t u : List Char}
      (h : Spells mode depth (.value j) t) (hl : Spells mode depth (.items false l) u) :
      Spells mode depth (.items true (j :: l)) (t ++ u)
  | anotherItem {depth : Nat} {j : Json} {l : List Json} {t : List Char}
      (h : Spells mode depth (.items true (j :: l)) t) :
      Spells mode depth (.items false (j :: l)) (',' :: t)
  | noMember {depth : Nat} {first : Bool} : Spells mode depth (.members first []) ['}']
  | member {depth : Nat} {s n b t u : List Char} {j : Json} {l : List (String × Json)}
      (hname : StringText mode s n) (hb : Blank b) (h : Spells mode depth (.value j) t)
      (hl : Spells mode depth (.members false l) u) :
      Spells mode depth (.members true ((String.ofList s, j) :: l))
        ('"' :: (n ++ '"' :: (b ++ ':' :: (t ++ u))))
  | anotherMember {depth : Nat} {e : String × Json} {l : List (String × Json)} {t : List Char}
      (h : Spells mode depth (.members true (e :: l)) t) :
      Spells mode depth (.members false (e :: l)) (',' :: t)

/-! ## Steps of the reader -/

section Steps

variable {fuel : Nat} {first : Bool}

/-- The next item or member begins: nothing stands in front of the first one, and a comma in front
of any other. -/
def PartAt (first : Bool) (text start : List Char) : Prop :=
  if first then start = text else skipBlanks text = ',' :: start

theorem readValue_skipBlanks (text : List Char) :
    readValue mode fuel depth (skipBlanks text) = readValue mode fuel depth text := by
  cases fuel with
  | zero => rfl
  | succ fuel => rw [readValue, readValue, skipBlanks_skipBlanks]

theorem exists_cons_of_readValue {j : Json} (h : readValue mode fuel depth text = .ok (j, rest)) :
    ∃ c behind, skipBlanks text = c :: behind ∧ c ≠ ']' := by
  cases fuel with
  | zero => cases h
  | succ fuel =>
      rw [readValue] at h
      cases hskip : skipBlanks text with
      | nil =>
          rw [hskip] at h
          cases h
      | cons c behind =>
          refine ⟨c, behind, rfl, ?_⟩
          rintro rfl
          rw [hskip] at h
          cases h

theorem readValue_number {c : Char} (hc : c = '-' ∨ c.isDigit = true) (text : List Char) :
    readValue mode (fuel + 1) depth (c :: text) =
      (numeral mode (c :: text)).map fun r => (.number r.1, r.2) := by
  have hne : ∀ d : Char, d ≠ '-' → d.isDigit = false → c ≠ d := by
    rintro d hminus hdigit rfl
    rcases hc with rfl | hc
    · exact hminus rfl
    · rw [hdigit] at hc
      cases hc
  have hblank : ¬ IsBlank c := by
    rintro (h | h | h | h)
    all_goals exact hne _ (by decide) (by decide) h
  have hquote := hne '"' (by decide) (by decide)
  have harray := hne '[' (by decide) (by decide)
  have hobject := hne '\x7b' (by decide) (by decide)
  have hnull := hne 'n' (by decide) (by decide)
  have htrue := hne 't' (by decide) (by decide)
  have hfalse := hne 'f' (by decide) (by decide)
  simp only [readValue, skipBlanks_char hblank, if_pos hc]
  cases numeral mode (c :: text) with
  | error e => rfl
  | ok r => rfl

theorem readItems_eq_ok_iff {l : List Json} :
    readItems mode (fuel + 1) depth first text = .ok (l, rest) ↔
      (l = [] ∧ skipBlanks text = ']' :: rest) ∨
      ∃ j l' start behind, l = j :: l' ∧ PartAt first text start ∧
        readValue mode fuel depth start = .ok (j, behind) ∧
        readItems mode fuel depth false behind = .ok (l', rest) := by
  constructor
  · intro h
    rw [readItems] at h
    split at h
    · cases h
    · rename_i hskip
      cases h
      exact .inl ⟨rfl, hskip⟩
    · rename_i c tail hclose hskip
      dsimp only at h
      split at h
      · cases h
      · rename_i start hstart
        obtain ⟨⟨j, behind⟩, hj, h⟩ := exists_of_bind_eq_ok h
        obtain ⟨⟨l', rest⟩, hl, h⟩ := exists_of_bind_eq_ok h
        cases h
        cases first with
        | true =>
            cases hstart
            rw [← hskip, readValue_skipBlanks] at hj
            exact .inr ⟨j, l', text, behind, rfl, rfl, hj, hl⟩
        | false =>
            obtain ⟨rfl, rfl⟩ : c = ',' ∧ tail = start := by
              simpa [Option.ite_none_right_eq_some] using hstart
            exact .inr ⟨j, l', tail, behind, rfl, hskip, hj, hl⟩
  · rintro (⟨rfl, hskip⟩ | ⟨j, l', start, behind, rfl, hstart, hj, hl⟩)
    · rw [readItems, hskip]
      rfl
    · cases first with
      | true =>
          obtain rfl : start = text := hstart
          obtain ⟨c, tail, hskip, hclose⟩ := exists_cons_of_readValue hj
          rw [← readValue_skipBlanks, hskip] at hj
          rw [readItems, hskip]
          simp [hj, hl, bind, Except.bind, pure, Except.pure]
      | false =>
          have hstart : skipBlanks text = ',' :: start := hstart
          rw [readItems, hstart]
          simp [hj, hl, bind, Except.bind, pure, Except.pure]

theorem readMembers_eq_ok_iff {l : List (String × Json)} :
    readMembers mode (fuel + 1) depth first text = .ok (l, rest) ↔
      (l = [] ∧ skipBlanks text = '}' :: rest) ∨
      ∃ s j l' start name behind v behind', l = (String.ofList s, j) :: l' ∧
        PartAt first text start ∧ skipBlanks start = '"' :: name ∧
        stringBody mode name = .ok (s, behind) ∧ colon behind = .ok v ∧
        readValue mode fuel depth v = .ok (j, behind') ∧
        readMembers mode fuel depth false behind' = .ok (l', rest) := by
  constructor
  · intro h
    rw [readMembers] at h
    split at h
    · cases h
    · rename_i hskip
      cases h
      exact .inl ⟨rfl, hskip⟩
    · rename_i c tail hclose hskip
      dsimp only at h
      split at h
      · rename_i name hname
        obtain ⟨⟨s, behind⟩, hs, h⟩ := exists_of_bind_eq_ok h
        obtain ⟨v, hv, h⟩ := exists_of_bind_eq_ok h
        obtain ⟨⟨j, behind'⟩, hj, h⟩ := exists_of_bind_eq_ok h
        obtain ⟨⟨l', rest⟩, hl, h⟩ := exists_of_bind_eq_ok h
        cases h
        cases first with
        | true =>
            cases hname
            exact .inr ⟨s, j, l', text, tail, behind, v, behind', rfl, rfl, hskip, hs, hv, hj, hl⟩
        | false =>
            obtain ⟨rfl, hquote⟩ : c = ',' ∧ skipBlanks tail = '"' :: name := by
              simpa [Option.ite_none_right_eq_some] using hname
            exact .inr ⟨s, j, l', tail, name, behind, v, behind', rfl, hskip, hquote, hs, hv, hj,
              hl⟩
      · cases h
      · cases h
  · rintro (⟨rfl, hskip⟩ |
      ⟨s, j, l', start, name, behind, v, behind', rfl, hstart, hname, hs, hv, hj, hl⟩)
    · rw [readMembers, hskip]
      rfl
    · cases first with
      | true =>
          obtain rfl : start = text := hstart
          rw [readMembers, hname]
          simp [hs, hv, hj, hl, bind, Except.bind, pure, Except.pure]
      | false =>
          have hstart : skipBlanks text = ',' :: start := hstart
          rw [readMembers, hstart]
          simp [hname, hs, hv, hj, hl, bind, Except.bind, pure, Except.pure]

end Steps

/-- A phrase is read from the front of a text. -/
def Reads (mode : Mode) (fuel depth : Nat) (text rest : List Char) : Phrase → Prop
  | .value j => readValue mode fuel depth text = .ok (j, rest)
  | .items first l => readItems mode fuel depth first text = .ok (l, rest)
  | .members first l => readMembers mode fuel depth first text = .ok (l, rest)

/-! ## What is spelled is read -/

section Completeness

variable {fuel : Nat} {phrase : Phrase} {t : List Char}

/-- The part of an array or object that stands behind an item or a member. -/
def Phrase.IsTail : Phrase → Prop
  | .items false _ | .members false _ => True
  | _ => False

theorem stops_cons {c : Char} (hc : IsBlank c ∨ c = ',' ∨ c = ']' ∨ c = '}') (rest : List Char) :
    Stops (c :: rest) := by
  intro d hd
  obtain rfl : c = d := Option.some.inj hd
  rcases hc with (rfl | rfl | rfl | rfl) | rfl | rfl | rfl <;> decide

/-- Items and members are followed by something that continues no number. -/
theorem Spells.stops (h : Spells mode depth phrase t) (hphrase : phrase.IsTail)
    (rest : List Char) : Stops (t ++ rest) := by
  cases h with
  | blank hc _ => exact stops_cons (.inl hc) _
  | noItem | anotherItem _ | noMember | anotherMember _ => exact stops_cons (by decide) _
  | _ => cases hphrase

theorem Spells.ne_nil (h : Spells mode depth phrase t) : t ≠ [] := by
  induction h with
  | number h =>
      obtain ⟨c, tail, rfl, -⟩ := h.exists_cons
      exact List.cons_ne_nil c tail
  | item _ _ ih _ => exact List.append_ne_nil_of_left_ne_nil ih _
  | _ => exact List.cons_ne_nil _ _

theorem Reads.blank {c : Char} (hc : IsBlank c) (h : Reads mode fuel depth text rest phrase) :
    Reads mode fuel depth (c :: text) rest phrase := by
  cases fuel with
  | zero => cases phrase <;> cases h
  | succ fuel =>
      cases phrase with
      | value j =>
          rw [Reads, readValue, skipBlanks_blank hc]
          exact h
      | items first l =>
          rw [Reads, readItems, skipBlanks_blank hc]
          exact h
      | members first l =>
          rw [Reads, readMembers, skipBlanks_blank hc]
          exact h

theorem reads_anotherItem {j : Json} {l : List Json}
    (h : Reads mode fuel depth text rest (.items true (j :: l))) :
    Reads mode fuel depth (',' :: text) rest (.items false (j :: l)) := by
  -- The comma takes no fuel: the reader passes it in the step that reads the item behind it.
  cases fuel with
  | zero => cases h
  | succ fuel =>
      rcases readItems_eq_ok_iff.1 h with ⟨hnil, -⟩ | ⟨j', l', start, behind, hl, rfl, hread⟩
      · cases hnil
      · exact readItems_eq_ok_iff.2 (.inr ⟨j', l', start, behind, hl, rfl, hread⟩)

theorem reads_anotherMember {e : String × Json} {l : List (String × Json)}
    (h : Reads mode fuel depth text rest (.members true (e :: l))) :
    Reads mode fuel depth (',' :: text) rest (.members false (e :: l)) := by
  cases fuel with
  | zero => cases h
  | succ fuel =>
      rcases readMembers_eq_ok_iff.1 h with ⟨hnil, -⟩ |
        ⟨s, j, l', start, name, behind, v, behind', hl, rfl, hread⟩
      · cases hnil
      · exact readMembers_eq_ok_iff.2
          (.inr ⟨s, j, l', start, name, behind, v, behind', hl, rfl, hread⟩)

theorem reads_of_spells (h : Spells mode depth phrase t) :
    ∀ {fuel rest}, t.length ≤ fuel → Stops rest →
      Reads mode fuel depth (t ++ rest) rest phrase := by
  -- Every part is read with the parts behind it as the rest, and each of these has a character, so
  -- that the fuel may go down with the length of what is left.
  induction h with
  | blank hc _ ih =>
      intro fuel rest hfuel hrest
      exact (ih (Nat.le_of_succ_le hfuel) hrest).blank hc
  | nullWord | trueWord | falseWord =>
      intro fuel rest hfuel _
      obtain ⟨fuel, rfl⟩ := Nat.exists_eq_add_of_le' (Nat.le_trans (by simp) hfuel : 1 ≤ fuel)
      rfl
  | @number _ t h =>
      intro fuel rest hfuel hrest
      have hread := numeral_append h hrest
      obtain ⟨c, tail, rfl, hc⟩ := h.exists_cons
      obtain ⟨fuel, rfl⟩ := Nat.exists_eq_add_of_le' (Nat.le_trans (by simp) hfuel : 1 ≤ fuel)
      rw [List.cons_append] at hread ⊢
      rw [Reads, readValue_number hc, hread]
      rfl
  | @string _ s t h =>
      intro fuel rest hfuel _
      obtain ⟨fuel, rfl⟩ := Nat.exists_eq_add_of_le' (Nat.le_trans (by simp) hfuel : 1 ≤ fuel)
      have hread := stringBody_append h rest
      have hquote : ¬ IsBlank '"' := by decide
      rw [Reads, readValue, List.cons_append, skipBlanks_char hquote, List.append_assoc,
        List.singleton_append]
      simp only [hread]
      rfl
  | array hdepth _ ih =>
      intro fuel rest hfuel hrest
      obtain ⟨fuel, rfl⟩ := Nat.exists_eq_add_of_le' (Nat.le_trans (by simp) hfuel : 1 ≤ fuel)
      have hread := ih (Nat.le_of_succ_le_succ hfuel) hrest
      have hopen : ¬ IsBlank '[' := by decide
      have hnested := not_and.2 hdepth
      simp only [Reads] at hread
      simp only [Reads, readValue, List.cons_append, skipBlanks_char hopen, if_neg hnested, hread]
      rfl
  | object hdepth _ ih =>
      intro fuel rest hfuel hrest
      obtain ⟨fuel, rfl⟩ := Nat.exists_eq_add_of_le' (Nat.le_trans (by simp) hfuel : 1 ≤ fuel)
      have hread := ih (Nat.le_of_succ_le_succ hfuel) hrest
      have hopen : ¬ IsBlank '\x7b' := by decide
      have hnested := not_and.2 hdepth
      simp only [Reads] at hread
      simp only [Reads, readValue, List.cons_append, skipBlanks_char hopen, if_neg hnested, hread]
      rfl
  | noItem =>
      intro fuel rest hfuel _
      obtain ⟨fuel, rfl⟩ := Nat.exists_eq_add_of_le' hfuel
      exact readItems_eq_ok_iff.2 (.inl ⟨rfl, rfl⟩)
  | @item _ j l t u h hl ih ihl =>
      intro fuel rest hfuel hrest
      have ht := List.length_pos_iff.2 h.ne_nil
      have hu := List.length_pos_iff.2 hl.ne_nil
      rw [List.length_append] at hfuel
      obtain ⟨fuel, rfl⟩ := Nat.exists_eq_add_of_le' (by omega : 1 ≤ fuel)
      have hread := ih (by omega : t.length ≤ fuel) (hl.stops trivial rest)
      have hreadl := ihl (by omega : u.length ≤ fuel) hrest
      rw [List.append_assoc]
      exact readItems_eq_ok_iff.2 (.inr ⟨j, l, _, _, rfl, rfl, hread, hreadl⟩)
  | anotherItem _ ih =>
      intro fuel rest hfuel hrest
      exact reads_anotherItem (ih (Nat.le_of_succ_le hfuel) hrest)
  | noMember =>
      intro fuel rest hfuel _
      obtain ⟨fuel, rfl⟩ := Nat.exists_eq_add_of_le' hfuel
      exact readMembers_eq_ok_iff.2 (.inl ⟨rfl, rfl⟩)
  | @member _ s n b t u j l hname hb _ hl ih ihl =>
      intro fuel rest hfuel hrest
      simp only [List.length_cons, List.length_append] at hfuel
      obtain ⟨fuel, rfl⟩ := Nat.exists_eq_add_of_le' (by omega : 1 ≤ fuel)
      have hread := ih (by omega : t.length ≤ fuel) (hl.stops trivial rest)
      have hreadl := ihl (by omega : u.length ≤ fuel) hrest
      have hs := stringBody_append hname (b ++ ':' :: (t ++ (u ++ rest)))
      have hcolon := colon_eq_ok_iff.2 ⟨b, hb, (rfl : _ = b ++ ':' :: (t ++ (u ++ rest)))⟩
      simp only [List.cons_append, List.append_assoc]
      exact readMembers_eq_ok_iff.2
        (.inr ⟨s, j, l, _, _, _, _, _, rfl, rfl, rfl, hs, hcolon, hread, hreadl⟩)
  | anotherMember _ ih =>
      intro fuel rest hfuel hrest
      exact reads_anotherMember (ih (Nat.le_of_succ_le hfuel) hrest)

end Completeness

/-! ## What is read is spelled -/

section Soundness

variable {fuel : Nat} {phrase : Phrase} {t : List Char}

/-- What stands in front of the rest that a reader leaves spells what it returns. -/
def Sound (mode : Mode) (fuel : Nat) : Prop :=
  ∀ {depth text rest} phrase, Reads mode fuel depth text rest phrase →
    ∃ t, text = t ++ rest ∧ Spells mode depth phrase t

theorem spells_value (ih : Sound mode fuel) {j : Json}
    (h : readValue mode (fuel + 1) depth text = .ok (j, rest)) :
    ∃ t, text = t ++ rest ∧ Spells mode depth (.value j) t := by
  suffices hphrase : ∃ t, skipBlanks text = t ++ rest ∧ Spells mode depth (.value j) t by
    obtain ⟨t, hskip, ht⟩ := hphrase
    exact exists_of_skipBlanks .blank hskip ht
  rw [readValue] at h
  split at h
  · cases h
  · rename_i behind hskip
    obtain ⟨⟨s, rest⟩, hs, h⟩ := exists_of_bind_eq_ok h
    cases h
    obtain ⟨t, rfl, ht⟩ := stringText_of_stringBody hs
    exact ⟨'"' :: (t ++ ['"']), by simp [hskip], .string ht⟩
  · rename_i behind hskip
    split at h
    · cases h
    · rename_i hdepth
      obtain ⟨⟨l, rest⟩, hl, h⟩ := exists_of_bind_eq_ok h
      cases h
      obtain ⟨t, rfl, ht⟩ := ih (.items true l) hl
      exact ⟨'[' :: t, hskip, .array (not_and.1 hdepth) ht⟩
  · rename_i behind hskip
    split at h
    · cases h
    · rename_i hdepth
      obtain ⟨⟨l, rest⟩, hl, h⟩ := exists_of_bind_eq_ok h
      cases h
      obtain ⟨t, rfl, ht⟩ := ih (.members true l) hl
      exact ⟨'\x7b' :: t, hskip, .object (not_and.1 hdepth) ht⟩
  · rename_i behind hskip
    obtain ⟨rest, hword, h⟩ := exists_of_bind_eq_ok h
    cases h
    rw [expect_eq_ok_iff.1 hword] at hskip
    exact ⟨_, hskip, .nullWord⟩
  · rename_i behind hskip
    obtain ⟨rest, hword, h⟩ := exists_of_bind_eq_ok h
    cases h
    rw [expect_eq_ok_iff.1 hword] at hskip
    exact ⟨_, hskip, .trueWord⟩
  · rename_i behind hskip
    obtain ⟨rest, hword, h⟩ := exists_of_bind_eq_ok h
    cases h
    rw [expect_eq_ok_iff.1 hword] at hskip
    exact ⟨_, hskip, .falseWord⟩
  · rename_i c behind _ _ _ _ _ _ hskip
    split at h
    · obtain ⟨⟨literal, rest⟩, hnumber, h⟩ := exists_of_bind_eq_ok h
      cases h
      obtain ⟨t, htext, rfl, ht⟩ := numberText_of_numeral hnumber
      exact ⟨t, hskip.trans htext, .number ht⟩
    · cases h

theorem spells_items (ih : Sound mode fuel) {first : Bool} {l : List Json}
    (h : readItems mode (fuel + 1) depth first text = .ok (l, rest)) :
    ∃ t, text = t ++ rest ∧ Spells mode depth (.items first l) t := by
  rcases readItems_eq_ok_iff.1 h with ⟨rfl, hskip⟩ | ⟨j, l, start, behind, rfl, hstart, hj, hl⟩
  · exact exists_of_skipBlanks .blank hskip .noItem
  · obtain ⟨t, rfl, ht⟩ := ih (.value j) hj
    obtain ⟨u, rfl, hu⟩ := ih (.items false l) hl
    have hitem := Spells.item ht hu
    cases first with
    | true =>
        obtain rfl : _ = text := hstart
        exact ⟨t ++ u, (List.append_assoc ..).symm, hitem⟩
    | false =>
        have hskip : skipBlanks text = ',' :: (t ++ u) ++ rest := by
          rw [List.cons_append, List.append_assoc]
          exact hstart
        exact exists_of_skipBlanks .blank hskip (.anotherItem hitem)

theorem spells_members (ih : Sound mode fuel) {first : Bool} {l : List (String × Json)}
    (h : readMembers mode (fuel + 1) depth first text = .ok (l, rest)) :
    ∃ t, text = t ++ rest ∧ Spells mode depth (.members first l) t := by
  rcases readMembers_eq_ok_iff.1 h with ⟨rfl, hskip⟩ |
    ⟨s, j, l, start, name, behind, v, behind', rfl, hstart, hname, hs, hcolon, hj, hl⟩
  · exact exists_of_skipBlanks .blank hskip .noMember
  · obtain ⟨n, rfl, hn⟩ := stringText_of_stringBody hs
    obtain ⟨b, hb, rfl⟩ := colon_eq_ok_iff.1 hcolon
    obtain ⟨t, rfl, ht⟩ := ih (.value j) hj
    obtain ⟨u, rfl, hu⟩ := ih (.members false l) hl
    have hmember := Spells.member hn hb ht hu
    have hstart' : skipBlanks start =
        '"' :: (n ++ '"' :: (b ++ ':' :: (t ++ u))) ++ rest := by
      rw [hname]
      simp only [List.cons_append, List.append_assoc]
    obtain ⟨w, rfl, hmember⟩ := exists_of_skipBlanks .blank hstart' hmember
    cases first with
    | true =>
        obtain rfl : w ++ rest = text := hstart
        exact ⟨w, rfl, hmember⟩
    | false =>
        have hskip : skipBlanks text = ',' :: w ++ rest := hstart
        exact exists_of_skipBlanks .blank hskip (.anotherMember hmember)

theorem sound (mode : Mode) (fuel : Nat) : Sound mode fuel := by
  -- The three readers call each other with less fuel, so one induction carries all of them.
  induction fuel with
  | zero =>
      intro depth text rest phrase h
      cases phrase <;> cases h
  | succ fuel ih =>
      intro depth text rest phrase h
      cases phrase with
      | value j => exact spells_value ih h
      | items first l => exact spells_items ih h
      | members first l => exact spells_members ih h

end Soundness

end PathTemplate.Json
