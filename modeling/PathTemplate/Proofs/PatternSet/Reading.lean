import PathTemplate.Proofs.PatternSet.Parts

/-!
# Reading pattern sets

The reader accepts exactly the documents of the grammar, and returns the options
that they give, and the catalog of the values that they put under labels.
-/

namespace PathTemplate.PatternSet

open Json (Stops colon skipBlanks)

variable {first : Bool} {text rest behind t : List Char}

/-! ## Values -/

theorem readBool_eq_ok_iff {value : Bool} :
    readBool text = .ok (value, rest) ↔ ∃ t, text = t ++ rest ∧ TruthText value t := by
  constructor
  · intro h
    obtain ⟨b, hb, htext⟩ := Json.exists_blank text
    rw [readBool] at h
    split at h
    · rename_i behind hskip
      obtain ⟨rest', hword, h⟩ := map_eq_ok_iff.1 h
      cases h
      rw [hskip, Json.expect_eq_ok_iff.1 hword] at htext
      exact ⟨b ++ ['t', 'r', 'u', 'e'], by simpa using htext, b, hb, rfl⟩
    · rename_i behind hskip
      obtain ⟨rest', hword, h⟩ := map_eq_ok_iff.1 h
      cases h
      rw [hskip, Json.expect_eq_ok_iff.1 hword] at htext
      exact ⟨b ++ ['f', 'a', 'l', 's', 'e'], by simpa using htext, b, hb, rfl⟩
    · cases h
  · rintro ⟨t, rfl, b, hb, rfl⟩
    rw [readBool, List.append_assoc, Json.skipBlanks_append hb]
    cases value with
    | true => rfl
    | false => rfl

theorem readBool_skipBlanks (text : List Char) :
    readBool (skipBlanks text) = readBool text := by
  rw [readBool, readBool, Json.skipBlanks_skipBlanks]

theorem TruthText.begins {value : Bool} (h : TruthText value t) : Begins t := by
  obtain ⟨b, hb, rfl⟩ := h
  cases value with
  | true => exact ⟨'t', ['r', 'u', 'e'], Json.skipBlanks_append hb _, by decide⟩
  | false => exact ⟨'f', ['a', 'l', 's', 'e'], Json.skipBlanks_append hb _, by decide⟩

theorem exists_isJson_of_skipMember (h : skipMember text = .ok rest) :
    ∃ v, colon text = .ok (v ++ rest) ∧ IsJson v := by
  obtain ⟨behind, hcolon, h⟩ := exists_of_bind_eq_ok h
  obtain ⟨⟨j, rest'⟩, hread, h⟩ := exists_of_bind_eq_ok h
  cases h
  obtain ⟨v, rfl, hv⟩ := Json.sound .skip _ (.value j) hread
  exact ⟨v, hcolon, j, hv⟩

theorem skipMember_of_isJson {v : List Char} (hcolon : colon text = .ok (v ++ rest))
    (hv : IsJson v) (hrest : Stops rest) : skipMember text = .ok rest := by
  obtain ⟨j, hv⟩ := hv
  have hfuel : v.length ≤ Json.fuelFor (v ++ rest) := by
    rw [Json.fuelFor, List.length_append]
    omega
  have hread : Json.readValue .skip _ 0 (v ++ rest) = .ok (j, rest) :=
    Json.reads_of_spells hv hfuel hrest
  simp only [skipMember, hcolon, hread, bind, Except.bind]
  rfl

/-! ## Options -/

section Options

open Options (Key)

variable {given keys : List Key} {o o' : Options} {members : List (String × List Char)}
  {name : String} {v : List Char}

theorem turns_nil_iff : Turns given o o' [] ↔ o' = o := by
  constructor
  · intro h
    exact Options.ext_get fun k => h.others k List.not_mem_nil
  · rintro rfl
    exact ⟨List.forall_mem_nil _, List.nodup_nil, List.forall_mem_nil _, fun _ _ => rfl⟩

theorem turns_unknown_iff (hname : Key.ofName? name = none) :
    Turns given o o' ((name, v) :: members) ↔ IsJson v ∧ Turns given o o' members := by
  have hkeys : givenKeys ((name, v) :: members) = givenKeys members :=
    List.filterMap_cons_none hname
  have hmember : Says o' (name, v) ↔ IsJson v := by
    rw [Says, hname]
  constructor
  · rintro ⟨hagree, hnodup, hfresh, hothers⟩
    obtain ⟨hv, hagree⟩ := List.forall_mem_cons.1 hagree
    rw [hkeys] at hnodup hfresh hothers
    exact ⟨hmember.1 hv, hagree, hnodup, hfresh, hothers⟩
  · rintro ⟨hv, hagree, hnodup, hfresh, hothers⟩
    rw [← hkeys] at hnodup hfresh hothers
    exact ⟨List.forall_mem_cons.2 ⟨hmember.2 hv, hagree⟩, hnodup, hfresh, hothers⟩

theorem turns_known_iff {k : Key} (hname : Key.ofName? name = some k) :
    Turns given o o' ((name, v) :: members) ↔
      k ∉ given ∧ ∃ value, TruthText value v ∧ Turns (k :: given) (o.set value k) o' members := by
  have hkeys : givenKeys ((name, v) :: members) = k :: givenKeys members :=
    List.filterMap_cons_some hname
  have hmember : Says o' (name, v) ↔ TruthText (o'.get k) v := by
    rw [Says, hname]
  constructor
  · rintro ⟨hagree, hnodup, hfresh, hothers⟩
    obtain ⟨hv, hagree⟩ := List.forall_mem_cons.1 hagree
    rw [hkeys] at hnodup hfresh hothers
    obtain ⟨hk, hnodup⟩ := List.nodup_cons.1 hnodup
    obtain ⟨hnew, hfresh⟩ := List.forall_mem_cons.1 hfresh
    refine ⟨hnew, o'.get k, hmember.1 hv, hagree, hnodup, ?_, ?_⟩
    · intro l hl hmem
      rcases List.mem_cons.1 hmem with rfl | hmem
      · exact hk hl
      · exact hfresh l hl hmem
    · intro l hl
      rw [Options.get_set]
      split
      · rename_i hkl
        rw [hkl]
      · rename_i hkl
        exact hothers l (List.not_mem_cons_of_ne_of_not_mem (Ne.symm hkl) hl)
  · rintro ⟨hnew, value, hv, hagree, hnodup, hfresh, hothers⟩
    have hk : k ∉ givenKeys members := fun hk => hfresh k hk List.mem_cons_self
    have hvalue : o'.get k = value := by
      rw [hothers k hk, Options.get_set, if_pos rfl]
    refine ⟨List.forall_mem_cons.2 ⟨hmember.2 (hvalue ▸ hv), hagree⟩, ?_, ?_, ?_⟩
    · rw [hkeys]
      exact List.nodup_cons.2 ⟨hk, hnodup⟩
    · rw [hkeys]
      refine List.forall_mem_cons.2 ⟨hnew, fun l hl hmem => ?_⟩
      exact hfresh l hl (List.mem_cons_of_mem k hmem)
    · intro l hl
      rw [hkeys, List.mem_cons, not_or] at hl
      rw [hothers l hl.2, Options.get_set, if_neg (Ne.symm hl.1)]

theorem optionMembers_sound {fuel : Nat}
    (h : optionMembers fuel first given o text = .ok (o', rest)) :
    ∃ members t, text = t ++ rest ∧ MembersText first members t ∧ Turns given o o' members := by
  -- What has been given and the options so far are what the members in front have left.
  induction fuel generalizing first given o text with
  | zero => cases h
  | succ fuel ih =>
      obtain ⟨⟨name, behind⟩, hname, h⟩ := exists_of_bind_eq_ok h
      cases name with
      | none =>
          cases h
          obtain ⟨t, htext, ht⟩ := membersText_nil hname
          exact ⟨[], t, htext, ht, turns_nil_iff.2 rfl⟩
      | some name =>
          dsimp only at h
          split at h
          · rename_i hunknown
            obtain ⟨behind', hskip, h⟩ := exists_of_bind_eq_ok h
            obtain ⟨v, hcolon, hv⟩ := exists_isJson_of_skipMember hskip
            obtain ⟨members, u, rfl, hu, hturns⟩ := ih h
            obtain ⟨t, htext, ht⟩ := membersText_cons hname hcolon hu
            exact ⟨(name, v) :: members, t, htext, ht, (turns_unknown_iff hunknown).2 ⟨hv, hturns⟩⟩
          · rename_i k hknown
            split at h
            · cases h
            · rename_i hgiven
              obtain ⟨behind', hcolon, h⟩ := exists_of_bind_eq_ok h
              obtain ⟨⟨value, behind''⟩, hvalue, hmore⟩ := exists_of_bind_eq_ok h
              obtain ⟨v, rfl, hv⟩ := readBool_eq_ok_iff.1 hvalue
              obtain ⟨members, u, rfl, hu, hturns⟩ := ih hmore
              obtain ⟨t, htext, ht⟩ := membersText_cons hname hcolon hu
              have hnew : k ∉ given := by simpa using hgiven
              exact ⟨(name, v) :: members, t, htext, ht,
                (turns_known_iff hknown).2 ⟨hnew, value, hv, hturns⟩⟩

theorem optionMembers_complete {fuel : Nat} (h : MembersText first members t)
    (hturns : Turns given o o' members) (hfuel : members.length < fuel) (rest : List Char) :
    optionMembers fuel first given o (t ++ rest) = .ok (o', rest) := by
  -- On the members and not on how they are written, since the reader passes blanks and commas
  -- together with the name behind them.
  induction members generalizing fuel first given o t with
  | nil =>
      obtain ⟨fuel, rfl⟩ := Nat.exists_eq_add_of_le' hfuel
      obtain rfl := turns_nil_iff.1 hturns
      simp only [optionMembers, nextName_of_nil h, bind, Except.bind]
      rfl
  | cons m members ih =>
      obtain ⟨name, v⟩ := m
      obtain ⟨fuel, rfl⟩ := Nat.exists_eq_add_of_le' (Nat.one_le_of_lt hfuel)
      have hfuel : members.length < fuel := Nat.lt_of_succ_lt_succ hfuel
      obtain ⟨behind, u, hname, hcolon, hu⟩ := nextName_of_cons h rest
      cases hkey : Key.ofName? name with
      | none =>
          obtain ⟨hv, hturns⟩ := (turns_unknown_iff hkey).1 hturns
          have hskip := skipMember_of_isJson hcolon hv (hu.stops rest)
          simp only [optionMembers, hname, hkey, hskip, bind, Except.bind]
          exact ih hu hturns hfuel
      | some k =>
          obtain ⟨hnew, value, hv, hturns⟩ := (turns_known_iff hkey).1 hturns
          have hcontains : given.contains k = false := by simpa using hnew
          have hread := readBool_eq_ok_iff.2 ⟨v, (rfl : v ++ (u ++ rest) = _), hv⟩
          simp only [optionMembers, hname, hkey, hcontains, hcolon, hread, bind, Except.bind]
          exact ih hu hturns hfuel

theorem arrayEnd_eq_ok_iff : arrayEnd text = .ok rest ↔ skipBlanks text = ']' :: rest := by
  constructor
  · intro h
    rw [arrayEnd] at h
    split at h
    · cases h
    · rename_i hskip
      cases h
      exact hskip
    · cases h
  · intro hskip
    rw [arrayEnd, hskip]
    rfl

theorem optionItems_sound (h : optionItems first keys o text = .ok (o', behind))
    (hend : arrayEnd behind = .ok rest) :
    ∃ items t, text = t ++ rest ∧ ItemsText first items t ∧ TurnsInOrder keys o o' items := by
  induction keys generalizing first o text with
  | nil =>
      cases h
      obtain ⟨t, htext, ht⟩ := itemsText_nil (arrayEnd_eq_ok_iff.1 hend)
      exact ⟨[], t, htext, ht, rfl⟩
  | cons k keys ih =>
      obtain ⟨⟨more, start⟩, hmore, h⟩ := exists_of_bind_eq_ok h
      cases more with
      | false =>
          cases h
          obtain ⟨tail, hskip, rfl⟩ := anotherItem_eq_false_iff.1 hmore
          cases hend
          obtain ⟨t, htext, ht⟩ := itemsText_nil hskip
          exact ⟨[], t, htext, ht, rfl⟩
      | true =>
          obtain ⟨⟨value, behind'⟩, hvalue, h⟩ := exists_of_bind_eq_ok h
          obtain ⟨items, u, rfl, hu, hturns⟩ := ih h
          obtain ⟨v, rfl, hv⟩ := readBool_eq_ok_iff.1 hvalue
          obtain ⟨t, htext, ht⟩ := itemsText_cons hmore hu
          exact ⟨v :: items, t, htext, ht, value, hv, hturns⟩

theorem optionItems_complete {items : List (List Char)} (h : ItemsText first items t)
    (hturns : TurnsInOrder keys o o' items) (rest : List Char) :
    ∃ behind, optionItems first keys o (t ++ rest) = .ok (o', behind) ∧
      arrayEnd behind = .ok rest := by
  induction keys generalizing first o t items with
  | nil =>
      cases items with
      | nil =>
          obtain rfl : o' = o := hturns
          exact ⟨t ++ rest, rfl, arrayEnd_eq_ok_iff.2 (skipBlanks_of_nil h rest)⟩
      | cons v items => exact hturns.elim
  | cons k keys ih =>
      cases items with
      | nil =>
          obtain rfl : o' = o := hturns
          have hmore : anotherItem first (t ++ rest) = .ok (false, ']' :: rest) :=
            anotherItem_eq_false_iff.2 ⟨rest, skipBlanks_of_nil h rest, rfl⟩
          refine ⟨']' :: rest, ?_, rfl⟩
          simp only [optionItems, hmore, bind, Except.bind]
          rfl
      | cons v items =>
          obtain ⟨value, hv, hturns⟩ := hturns
          obtain ⟨u, hmore, hu⟩ := anotherItem_of_cons h hv.begins rest
          have hread := readBool_eq_ok_iff.2 ⟨v, (rfl : v ++ (u ++ rest) = _), hv⟩
          obtain ⟨behind, hitems, hend⟩ := ih hu hturns
          refine ⟨behind, ?_, hend⟩
          simp only [optionItems, hmore, readBool_skipBlanks, hread, bind, Except.bind]
          exact hitems

theorem readOptions_sound (h : readOptions text = .ok (o, rest)) :
    ∃ t, text = t ++ rest ∧ OptionsText o t := by
  obtain ⟨b, hb, htext⟩ := Json.exists_blank text
  rw [readOptions] at h
  split at h
  · cases h
  · rename_i tail hskip
    obtain ⟨⟨o', behind⟩, hitems, h⟩ := exists_of_bind_eq_ok h
    obtain ⟨rest', hend, h⟩ := exists_of_bind_eq_ok h
    cases h
    obtain ⟨items, t, rfl, ht, hturns⟩ := optionItems_sound hitems hend
    exact ⟨b ++ '[' :: t, by simpa [hskip] using htext, .array hb ht hturns⟩
  · rename_i tail hskip
    obtain ⟨members, t, rfl, ht, hturns⟩ := optionMembers_sound h
    exact ⟨b ++ '{' :: t, by simpa [hskip] using htext, .object hb ht hturns⟩
  · cases h

theorem readOptions_complete (h : OptionsText o t) (rest : List Char) :
    readOptions (t ++ rest) = .ok (o, rest) := by
  cases h with
  | @object b t members hb ht hturns =>
      have hskip : skipBlanks (b ++ '{' :: t ++ rest) = '{' :: (t ++ rest) :=
        Json.skipBlanks_front hb (by decide) rest
      have hfuel : members.length < (t ++ rest).length + 1 := by
        have := ht.length_lt
        rw [List.length_append]
        omega
      rw [readOptions, hskip]
      exact optionMembers_complete ht hturns hfuel rest
  | @array b t items hb ht hturns =>
      have hskip : skipBlanks (b ++ '[' :: t ++ rest) = '[' :: (t ++ rest) :=
        Json.skipBlanks_front hb (by decide) rest
      obtain ⟨behind, hitems, hend⟩ := optionItems_complete ht hturns rest
      rw [readOptions, hskip]
      simp only [hitems, hend, bind, Except.bind]
      rfl

theorem OptionsText.begins (h : OptionsText o t) : Begins t := by
  cases h with
  | object hb _ _ => exact ⟨'{', _, Json.skipBlanks_append hb _, by decide⟩
  | array hb _ _ => exact ⟨'[', _, Json.skipBlanks_append hb _, by decide⟩

theorem readOptions_skipBlanks (text : List Char) :
    readOptions (skipBlanks text) = readOptions text := by
  rw [readOptions, readOptions, Json.skipBlanks_skipBlanks]

end Options

/-! ## Sets -/

section Sets

variable {p : PatternSet} {options : Option Options} {patterns : Option (Catalog String Json)}
  {members : List (String × List Char)} {name : String} {v : List Char}

theorem readPatterns_sound {c : Catalog String Json} (h : readPatterns text = .ok (c, rest)) :
    ∃ l t, text = t ++ rest ∧ PatternsText l t ∧ c = Catalog.ofList l := by
  obtain ⟨b, hb, htext⟩ := Json.exists_blank text
  rw [readPatterns] at h
  split at h
  · cases h
  · rename_i tail hskip
    obtain ⟨⟨l, rest'⟩, hmembers, h⟩ := exists_of_bind_eq_ok h
    cases h
    obtain ⟨t, rfl, ht⟩ := Json.sound .read _ (.members true l) hmembers
    exact ⟨l, b ++ '{' :: t, by simpa [hskip] using htext, ⟨b, t, hb, rfl, ht⟩, rfl⟩
  · cases h

theorem readPatterns_complete {l : List (String × Json)} (h : PatternsText l t)
    (hrest : Stops rest) : readPatterns (t ++ rest) = .ok (Catalog.ofList l, rest) := by
  obtain ⟨b, t, hb, rfl, ht⟩ := h
  have hskip : skipBlanks (b ++ '{' :: t ++ rest) = '{' :: (t ++ rest) :=
    Json.skipBlanks_front hb (by decide) rest
  have hfuel : t.length ≤ Json.fuelFor (t ++ rest) := by
    rw [Json.fuelFor, List.length_append]
    omega
  have hread : Json.readMembers .read _ (Json.depthLimit - 2) true (t ++ rest) = .ok (l, rest) :=
    Json.reads_of_spells ht hfuel hrest
  rw [readPatterns, hskip]
  simp only [hread, bind, Except.bind]
  rfl

theorem PatternsText.begins {l : List (String × Json)} (h : PatternsText l t) : Begins t := by
  obtain ⟨b, u, hb, rfl, -⟩ := h
  exact ⟨'{', u, Json.skipBlanks_append hb _, by decide⟩

theorem readPatterns_skipBlanks (text : List Char) :
    readPatterns (skipBlanks text) = readPatterns text := by
  rw [readPatterns, readPatterns, Json.skipBlanks_skipBlanks]

/-- What the members of a set give goes with what others have given before: nothing is given
again, and in the end there are patterns. -/
structure Completes (options : Option Options) (patterns : Option (Catalog String Json))
    (p : PatternSet) (members : List (String × List Char)) : Prop where
  optionsOnce : (valuesOf "options" members = [] ∧ p.options = options.getD {}) ∨
    (options = none ∧ ∃ v, valuesOf "options" members = [v] ∧ OptionsText p.options v)
  patternsOnce : (valuesOf "patterns" members = [] ∧ patterns = some p.patterns) ∨
    (patterns = none ∧ ∃ v l, valuesOf "patterns" members = [v] ∧ PatternsText l v ∧
      p.patterns = Catalog.ofList l)
  others : ∀ m ∈ members, m.1 ≠ "options" → m.1 ≠ "patterns" → IsJson m.2

theorem valuesOf_cons_self : valuesOf name ((name, v) :: members) = v :: valuesOf name members :=
  List.filterMap_cons_some (if_pos rfl)

theorem valuesOf_cons_of_ne {name' : String} (h : name' ≠ name) :
    valuesOf name ((name', v) :: members) = valuesOf name members :=
  List.filterMap_cons_none (if_neg h)

theorem completes_nil_iff :
    Completes options patterns p [] ↔ p.options = options.getD {} ∧ patterns = some p.patterns := by
  constructor
  · rintro ⟨ho, hp, -⟩
    rcases ho with ⟨-, ho⟩ | ⟨-, v, hv, -⟩
    · rcases hp with ⟨-, hp⟩ | ⟨-, v, l, hv, -⟩
      · exact ⟨ho, hp⟩
      · cases hv
    · cases hv
  · rintro ⟨ho, hp⟩
    exact ⟨.inl ⟨rfl, ho⟩, .inl ⟨rfl, hp⟩, List.forall_mem_nil _⟩

theorem completes_options_iff :
    Completes options patterns p (("options", v) :: members) ↔
      options = none ∧ ∃ o, OptionsText o v ∧ Completes (some o) patterns p members := by
  have hne : "options" ≠ "patterns" := by decide
  constructor
  · rintro ⟨ho, hp, hothers⟩
    rw [valuesOf_cons_self] at ho
    rw [valuesOf_cons_of_ne hne] at hp
    rcases ho with ⟨hnil, -⟩ | ⟨hnone, v', hv', ho⟩
    · cases hnil
    · obtain ⟨rfl, hnil⟩ := List.cons.inj hv'
      exact ⟨hnone, p.options, ho, .inl ⟨hnil, rfl⟩, hp, (List.forall_mem_cons.1 hothers).2⟩
  · rintro ⟨hnone, o, ho, hoptions, hp, hothers⟩
    rcases hoptions with ⟨hnil, rfl⟩ | ⟨hsome, -⟩
    · refine ⟨.inr ⟨hnone, v, ?_, ho⟩, ?_, ?_⟩
      · rw [valuesOf_cons_self, hnil]
      · rw [valuesOf_cons_of_ne hne]
        exact hp
      · exact List.forall_mem_cons.2 ⟨fun h => absurd rfl h, hothers⟩
    · cases hsome

theorem completes_patterns_iff :
    Completes options patterns p (("patterns", v) :: members) ↔
      patterns = none ∧ ∃ l, PatternsText l v ∧
        Completes options (some (Catalog.ofList l)) p members := by
  have hne : "patterns" ≠ "options" := by decide
  constructor
  · rintro ⟨ho, hp, hothers⟩
    rw [valuesOf_cons_of_ne hne] at ho
    rw [valuesOf_cons_self] at hp
    rcases hp with ⟨hnil, -⟩ | ⟨hnone, v', l, hv', hl, hp⟩
    · cases hnil
    · obtain ⟨rfl, hnil⟩ := List.cons.inj hv'
      exact ⟨hnone, l, hl, ho, .inl ⟨hnil, hp ▸ rfl⟩, (List.forall_mem_cons.1 hothers).2⟩
  · rintro ⟨hnone, l, hl, ho, hpatterns, hothers⟩
    rcases hpatterns with ⟨hnil, hp⟩ | ⟨hsome, -⟩
    · refine ⟨?_, .inr ⟨hnone, v, l, ?_, hl, (Option.some.inj hp).symm⟩, ?_⟩
      · rw [valuesOf_cons_of_ne hne]
        exact ho
      · rw [valuesOf_cons_self, hnil]
      · exact List.forall_mem_cons.2 ⟨fun _ h => absurd rfl h, hothers⟩
    · cases hsome

theorem completes_other_iff (hoptions : name ≠ "options") (hpatterns : name ≠ "patterns") :
    Completes options patterns p ((name, v) :: members) ↔
      IsJson v ∧ Completes options patterns p members := by
  constructor
  · rintro ⟨ho, hp, hothers⟩
    rw [valuesOf_cons_of_ne hoptions] at ho
    rw [valuesOf_cons_of_ne hpatterns] at hp
    obtain ⟨hv, hothers⟩ := List.forall_mem_cons.1 hothers
    exact ⟨hv hoptions hpatterns, ho, hp, hothers⟩
  · rintro ⟨hv, ho, hp, hothers⟩
    refine ⟨?_, ?_, List.forall_mem_cons.2 ⟨fun _ _ => hv, hothers⟩⟩
    · rw [valuesOf_cons_of_ne hoptions]
      exact ho
    · rw [valuesOf_cons_of_ne hpatterns]
      exact hp

theorem setMembers_sound {fuel : Nat}
    (h : setMembers fuel first options patterns text = .ok (p, rest)) :
    ∃ members t, text = t ++ rest ∧ MembersText first members t ∧
      Completes options patterns p members := by
  induction fuel generalizing first options patterns text with
  | zero => cases h
  | succ fuel ih =>
      obtain ⟨⟨name, behind⟩, hname, h⟩ := exists_of_bind_eq_ok h
      dsimp only at h
      split at h
      · cases h
        obtain ⟨t, htext, ht⟩ := membersText_nil hname
        exact ⟨[], t, htext, ht, completes_nil_iff.2 ⟨rfl, rfl⟩⟩
      · cases h
      · obtain ⟨behind', hcolon, h⟩ := exists_of_bind_eq_ok h
        obtain ⟨⟨o, behind''⟩, ho, hmore⟩ := exists_of_bind_eq_ok h
        obtain ⟨v, rfl, hv⟩ := readOptions_sound ho
        obtain ⟨members, u, rfl, hu, hcompletes⟩ := ih hmore
        obtain ⟨t, htext, ht⟩ := membersText_cons hname hcolon hu
        exact ⟨("options", v) :: members, t, htext, ht,
          completes_options_iff.2 ⟨rfl, o, hv, hcompletes⟩⟩
      · obtain ⟨behind', hcolon, h⟩ := exists_of_bind_eq_ok h
        obtain ⟨⟨c, behind''⟩, hc, hmore⟩ := exists_of_bind_eq_ok h
        obtain ⟨l, v, rfl, hv, rfl⟩ := readPatterns_sound hc
        obtain ⟨members, u, rfl, hu, hcompletes⟩ := ih hmore
        obtain ⟨t, htext, ht⟩ := membersText_cons hname hcolon hu
        exact ⟨("patterns", v) :: members, t, htext, ht,
          completes_patterns_iff.2 ⟨rfl, l, hv, hcompletes⟩⟩
      · cases h
      · cases h
      · rename_i name hnoOptions hgivenOptions hnoPatterns hgivenPatterns
        obtain ⟨behind', hskip, hmore⟩ := exists_of_bind_eq_ok h
        obtain ⟨v, hcolon, hv⟩ := exists_isJson_of_skipMember hskip
        obtain ⟨members, u, rfl, hu, hcompletes⟩ := ih hmore
        obtain ⟨t, htext, ht⟩ := membersText_cons hname hcolon hu
        have hoptions : name ≠ "options" := by
          cases options with
          | none => exact hnoOptions rfl
          | some o => exact hgivenOptions o rfl
        have hpatterns : name ≠ "patterns" := by
          cases patterns with
          | none => exact hnoPatterns rfl
          | some c => exact hgivenPatterns c rfl
        exact ⟨(name, v) :: members, t, htext, ht,
          (completes_other_iff hoptions hpatterns).2 ⟨hv, hcompletes⟩⟩

theorem setMembers_other {fuel : Nat} (hoptions : name ≠ "options")
    (hpatterns : name ≠ "patterns") (hname : nextName first text = .ok (some name, behind)) :
    setMembers (fuel + 1) first options patterns text =
      skipMember behind >>= setMembers fuel false options patterns := by
  rw [setMembers, hname]
  simp only [bind, Except.bind]
  split
  · rename_i h
    cases h
  · rename_i h
    cases h
  · rename_i h
    exact absurd (Option.some.inj h) hoptions
  · rename_i h
    exact absurd (Option.some.inj h) hpatterns
  · rename_i h
    exact absurd (Option.some.inj h) hoptions
  · rename_i h
    exact absurd (Option.some.inj h) hpatterns
  · rfl

theorem setMembers_complete {fuel : Nat} (h : MembersText first members t)
    (hcompletes : Completes options patterns p members) (hfuel : members.length < fuel)
    (rest : List Char) :
    setMembers fuel first options patterns (t ++ rest) = .ok (p, rest) := by
  induction members generalizing fuel first options patterns t with
  | nil =>
      obtain ⟨fuel, rfl⟩ := Nat.exists_eq_add_of_le' hfuel
      obtain ⟨ho, rfl⟩ := completes_nil_iff.1 hcompletes
      simp only [setMembers, nextName_of_nil h, ← ho, bind, Except.bind]
      rfl
  | cons m members ih =>
      obtain ⟨name, v⟩ := m
      obtain ⟨fuel, rfl⟩ := Nat.exists_eq_add_of_le' (Nat.one_le_of_lt hfuel)
      have hless : members.length < fuel := Nat.lt_of_succ_lt_succ hfuel
      obtain ⟨behind, u, hname, hcolon, hu⟩ := nextName_of_cons h rest
      by_cases hoptions : name = "options"
      · subst hoptions
        obtain ⟨rfl, o, hv, hcompletes⟩ := completes_options_iff.1 hcompletes
        have hread := readOptions_complete hv (u ++ rest)
        simp only [setMembers, hname, hcolon, hread, bind, Except.bind]
        exact ih hu hcompletes hless
      · by_cases hpatterns : name = "patterns"
        · subst hpatterns
          obtain ⟨rfl, l, hv, hcompletes⟩ := completes_patterns_iff.1 hcompletes
          have hread := readPatterns_complete hv (hu.stops rest)
          simp only [setMembers, hname, hcolon, hread, bind, Except.bind]
          exact ih hu hcompletes hless
        · obtain ⟨hv, hcompletes⟩ := (completes_other_iff hoptions hpatterns).1 hcompletes
          have hskip := skipMember_of_isJson hcolon hv (hu.stops rest)
          rw [setMembers_other hoptions hpatterns hname, hskip]
          exact ih hu hcompletes hless

theorem completes_none_iff :
    Completes none none p members ↔
      ∃ l, SetMembers p.options l members ∧ p.patterns = Catalog.ofList l := by
  constructor
  · rintro ⟨ho, hp, hothers⟩
    have ho' : (valuesOf "options" members = [] ∧ p.options = {}) ∨
        ∃ v, valuesOf "options" members = [v] ∧ OptionsText p.options v :=
      ho.imp id And.right
    rcases hp with ⟨-, hp⟩ | ⟨-, v, l, hv, hl, hp⟩
    · cases hp
    · exact ⟨l, ⟨ho', ⟨v, hv, hl⟩, hothers⟩, hp⟩
  · rintro ⟨l, ⟨ho, ⟨v, hv, hl⟩, hothers⟩, hp⟩
    exact ⟨ho.imp id fun ho => ⟨rfl, ho⟩, .inr ⟨rfl, v, l, hv, hl, hp⟩, hothers⟩

theorem setItems_sound (h : setItems text = .ok (p, rest)) :
    ∃ l v w t, text = t ++ rest ∧ ItemsText true [v, w] t ∧ OptionsText p.options v ∧
      PatternsText l w ∧ p.patterns = Catalog.ofList l := by
  obtain ⟨⟨more, start⟩, hmore, h⟩ := exists_of_bind_eq_ok h
  cases more with
  | false => cases h
  | true =>
      obtain ⟨⟨o, behind⟩, ho, h⟩ := exists_of_bind_eq_ok h
      obtain ⟨⟨more', start'⟩, hmore', h⟩ := exists_of_bind_eq_ok h
      cases more' with
      | false => cases h
      | true =>
          obtain ⟨⟨c, behind'⟩, hc, h⟩ := exists_of_bind_eq_ok h
          obtain ⟨rest', hend, h⟩ := exists_of_bind_eq_ok h
          cases h
          obtain ⟨u, rfl, hu⟩ := itemsText_nil (arrayEnd_eq_ok_iff.1 hend)
          obtain ⟨l, w, rfl, hw, rfl⟩ := readPatterns_sound hc
          obtain ⟨u', rfl, hu'⟩ := itemsText_cons hmore' hu
          obtain ⟨v, rfl, hv⟩ := readOptions_sound ho
          obtain ⟨t, rfl, ht⟩ := itemsText_cons hmore hu'
          exact ⟨l, v, w, t, rfl, ht, hv, hw, rfl⟩

theorem setItems_complete {o : Options} {l : List (String × Json)} {w : List Char}
    (h : ItemsText true [v, w] t) (ho : OptionsText o v) (hl : PatternsText l w)
    (rest : List Char) : setItems (t ++ rest) = .ok (⟨o, Catalog.ofList l⟩, rest) := by
  obtain ⟨u, hmore, hu⟩ := anotherItem_of_cons h ho.begins rest
  obtain ⟨u', hmore', hu'⟩ := anotherItem_of_cons hu hl.begins rest
  have hoptions := readOptions_complete ho (u ++ rest)
  have hpatterns := readPatterns_complete hl (hu'.stops rest)
  have hend := arrayEnd_eq_ok_iff.2 (skipBlanks_of_nil hu' rest)
  simp only [setItems, hmore, hmore', readOptions_skipBlanks, readPatterns_skipBlanks, hoptions,
    hpatterns, hend, bind, Except.bind]
  rfl

theorem readSet_sound (h : readSet text = .ok (p, rest)) :
    ∃ l t, text = t ++ rest ∧ SetText p.options l t ∧ p.patterns = Catalog.ofList l := by
  obtain ⟨b, hb, htext⟩ := Json.exists_blank text
  rw [readSet] at h
  split at h
  · cases h
  · rename_i tail hskip
    obtain ⟨l, v, w, t, rfl, ht, hv, hw, hp⟩ := setItems_sound h
    exact ⟨l, b ++ '[' :: t, by simpa [hskip] using htext, .array hb ht hv hw, hp⟩
  · rename_i tail hskip
    obtain ⟨members, t, rfl, ht, hcompletes⟩ := setMembers_sound h
    obtain ⟨l, hmembers, hp⟩ := completes_none_iff.1 hcompletes
    exact ⟨l, b ++ '{' :: t, by simpa [hskip] using htext, .object hb ht hmembers, hp⟩
  · cases h

theorem readSet_complete {o : Options} {l : List (String × Json)} (h : SetText o l t)
    (rest : List Char) : readSet (t ++ rest) = .ok (⟨o, Catalog.ofList l⟩, rest) := by
  cases h with
  | @object b t members hb ht hmembers =>
      have hskip : skipBlanks (b ++ '{' :: t ++ rest) = '{' :: (t ++ rest) :=
        Json.skipBlanks_front hb (by decide) rest
      have hfuel : members.length < (t ++ rest).length + 1 := by
        have := ht.length_lt
        rw [List.length_append]
        omega
      rw [readSet, hskip]
      exact setMembers_complete ht (completes_none_iff.2 ⟨l, hmembers, rfl⟩) hfuel rest
  | @array b t v w hb ht ho hl =>
      have hskip : skipBlanks (b ++ '[' :: t ++ rest) = '[' :: (t ++ rest) :=
        Json.skipBlanks_front hb (by decide) rest
      rw [readSet, hskip]
      exact setItems_complete ht ho hl rest

/-- A text is read exactly if it is a document, and as what the document says. -/
theorem parse_eq_ok_iff {text : String} :
    parse text = .ok p ↔ ∃ l, Document text p.options l ∧ p.patterns = Catalog.ofList l := by
  constructor
  · intro h
    obtain ⟨⟨p', b⟩, hread, h⟩ := exists_of_bind_eq_ok h
    dsimp only at h
    split at h
    · rename_i hblank
      cases h
      obtain ⟨l, t, htext, ht, hp⟩ := readSet_sound hread
      exact ⟨l, ⟨t, b, htext, ht, Json.skipBlanks_eq_nil_iff.1 hblank⟩, hp⟩
    · cases h
  · rintro ⟨l, ⟨t, b, htext, ht, hb⟩, hp⟩
    have hblank := Json.skipBlanks_eq_nil_iff.2 hb
    have hset : (⟨p.options, Catalog.ofList l⟩ : PatternSet) = p := by
      rw [← hp]
    simp only [parse, htext, readSet_complete ht, if_pos hblank, hset, bind, Except.bind]
    rfl

end Sets

end PathTemplate.PatternSet
