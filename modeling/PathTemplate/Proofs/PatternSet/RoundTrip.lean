import PathTemplate.Proofs.PatternSet.Validation

/-!
# Written pattern sets are loaded

A set that is written is loaded as it was, options, labels and values. The order
of its members and of its options does not matter, options that are on may be
left out, and members of other names may be added.
-/

namespace PathTemplate.PatternSet

variable {o : Options} {keys : List Options.Key} {more members : List (String × List Char)}
  {p : PatternSet}

/-! ## Options -/

theorem truthText_compactChars (value : Bool) : TruthText value (Json.bool value).compactChars := by
  cases value with
  | true => exact ⟨[], .nil, by rw [Json.compactChars]; rfl⟩
  | false => exact ⟨[], .nil, by rw [Json.compactChars]; rfl⟩

/-- Members for options. -/
def optionTexts (o : Options) (keys : List Options.Key) : List (String × List Char) :=
  keys.map fun k => (k.name, (Json.bool (o.get k)).compactChars)

theorem givenKeys_optionTexts (o : Options) (keys : List Options.Key) :
    givenKeys (optionTexts o keys) = keys := by
  rw [givenKeys, optionTexts, List.filterMap_map]
  have hsome : ∀ k ∈ keys, Options.Key.ofName? k.name = some k :=
    fun k _ => Options.Key.ofName?_name k
  exact (List.filterMap_congr hsome).trans List.filterMap_some

theorem ofName?_eq_none_iff {name : String} :
    Options.Key.ofName? name = none ↔ name ∉ Options.Key.all.map Options.Key.name := by
  simp only [Options.Key.ofName?, List.find?_eq_none, List.mem_map, decide_eq_true_eq, not_exists,
    not_and]

/-- Members of none of these names, with any values. -/
def Unknown (names : List String) (more : List (String × List Char)) : Prop :=
  ∀ m ∈ more, m.1 ∉ names ∧ IsJson m.2

theorem givenKeys_of_unknown (h : Unknown (Options.Key.all.map Options.Key.name) more) :
    givenKeys more = [] := by
  rw [givenKeys, List.filterMap_eq_nil_iff]
  intro m hm
  exact ofName?_eq_none_iff.2 (h m hm).1

theorem mem_all (k : Options.Key) : k ∈ Options.Key.all := by
  cases k <;> decide

theorem get_default (k : Options.Key) : ({} : Options).get k = true := by
  cases k <;> rfl

/-- Options are told by members for them in any order, if all that are left out are on. -/
theorem turns_of_perm (hkeys : keys.Nodup) (hon : ∀ k, k ∉ keys → o.get k = true)
    (hmore : Unknown (Options.Key.all.map Options.Key.name) more)
    (hperm : members.Perm (optionTexts o keys ++ more)) : Turns [] {} o members := by
  have hgiven : (givenKeys members).Perm keys := by
    have happend : givenKeys (optionTexts o keys ++ more) = keys :=
      calc givenKeys (optionTexts o keys ++ more)
          = givenKeys (optionTexts o keys) ++ givenKeys more := List.filterMap_append
        _ = keys := by rw [givenKeys_optionTexts, givenKeys_of_unknown hmore, List.append_nil]
    exact happend ▸ hperm.filterMap _
  -- That none is given twice and which are left out is told by the given keys, in any order.
  refine ⟨fun m hm => ?_, hgiven.nodup_iff.2 hkeys, fun k _ hk => ?_, fun k hk => ?_⟩
  · rcases List.mem_append.1 (hperm.mem_iff.1 hm) with hknown | hunknown
    · obtain ⟨k, -, rfl⟩ := List.mem_map.1 hknown
      rw [Says, Options.Key.ofName?_name]
      exact truthText_compactChars _
    · obtain ⟨hname, hjson⟩ := hmore m hunknown
      rw [Says, ofName?_eq_none_iff.2 hname]
      exact hjson
  · cases hk
  · rw [hon k (mt hgiven.mem_iff.2 hk), get_default]

/-! ## Sets -/

theorem valuesOf_perm {members' : List (String × List Char)} (h : members.Perm members')
    (name : String) : (valuesOf name members).Perm (valuesOf name members') :=
  h.filterMap _

theorem valuesOf_of_unknown {names : List String} (h : Unknown names more) {name : String}
    (hname : name ∈ names) : valuesOf name more = [] := by
  rw [valuesOf, List.filterMap_eq_nil_iff]
  intro m hm
  apply if_neg
  rintro rfl
  exact (h m hm).1 hname

/-- The members of a set may stand in any order. -/
theorem SetMembers.of_perm {l : List (String × Json)} {members' : List (String × List Char)}
    (h : SetMembers o l members') (hperm : members.Perm members') : SetMembers o l members := by
  obtain ⟨hoptions, ⟨v, hv, hpatterns⟩, hothers⟩ := h
  refine ⟨?_, ⟨v, ?_, hpatterns⟩, fun m hm => hothers m (hperm.mem_iff.1 hm)⟩
  · rcases hoptions with ⟨hnone, ho⟩ | ⟨v, hv, ho⟩
    · exact .inl ⟨(hnone ▸ valuesOf_perm hperm _).eq_nil, ho⟩
    · exact .inr ⟨v, (hv ▸ valuesOf_perm hperm _).eq_singleton, ho⟩
  · exact (hv ▸ valuesOf_perm hperm _).eq_singleton

theorem setMembers_patterns {l : List (String × Json)} {v : List Char} (h : PatternsText l v)
    (hmore : Unknown ["options", "patterns"] more) : SetMembers {} l (("patterns", v) :: more) := by
  have hoptions : valuesOf "options" more = [] := valuesOf_of_unknown hmore (by simp)
  have hpatterns : valuesOf "patterns" more = [] := valuesOf_of_unknown hmore (by simp)
  refine ⟨.inl ⟨?_, rfl⟩, ⟨v, ?_, h⟩, List.forall_mem_cons.2 ⟨?_, fun m hm _ _ => (hmore m hm).2⟩⟩
  · rw [valuesOf_cons_of_ne (by decide), hoptions]
  · rw [valuesOf_cons_self, hpatterns]
  · exact fun _ hname => absurd rfl hname

theorem SetMembers.cons_options {l : List (String × Json)} {v : List Char}
    (h : SetMembers {} l members) (hnone : valuesOf "options" members = [])
    (ho : OptionsText o v) : SetMembers o l (("options", v) :: members) := by
  obtain ⟨-, ⟨w, hw, hpatterns⟩, hothers⟩ := h
  refine ⟨.inr ⟨v, ?_, ho⟩, ⟨w, ?_, hpatterns⟩, List.forall_mem_cons.2 ⟨?_, hothers⟩⟩
  · rw [valuesOf_cons_self, hnone]
  · rw [valuesOf_cons_of_ne (by decide), hw]
  · exact fun hname => absurd rfl hname

theorem setMembers_options {l : List (String × Json)} {v w : List Char} (ho : OptionsText o w)
    (h : PatternsText l v) (hmore : Unknown ["options", "patterns"] more) :
    SetMembers o l (("options", w) :: ("patterns", v) :: more) := by
  refine (setMembers_patterns h hmore).cons_options ?_ ho
  rw [valuesOf_cons_of_ne (by decide)]
  exact valuesOf_of_unknown hmore (by simp)

theorem patternsText_texts (h : ∀ e ∈ p.patterns.entries, IsText e.2) :
    PatternsText p.patterns.entries (Json.object p.patterns.entries).compactChars := by
  apply patternsText_compactChars
  intro e he
  obtain ⟨s, hs⟩ := h e he
  rw [hs]
  exact spells_string s

theorem optionsText_objectText (h : Turns [] {} o members) : OptionsText o (objectText members) :=
  .object Json.Blank.nil (membersText_intercalate members) h

theorem json_compact (p : PatternSet) :
    p.json.compact = String.ofList (objectText
      [("options", objectText (optionTexts p.options Options.Key.all)),
        ("patterns", (Json.object p.patterns.entries).compactChars)]) := by
  rw [Json.compact, json, compactChars_object, List.map_cons, List.map_cons, List.map_nil,
    Options.json, compactChars_object, List.map_map]
  rfl

/-- A set is loaded from the members that it is written with. -/
theorem load_objectText (hne : p.patterns.entries ≠ [])
    (htexts : ∀ e ∈ p.patterns.entries, IsText e.2)
    (h : SetMembers p.options p.patterns.entries members) :
    load (String.ofList (objectText members)) = .ok p := by
  have hcatalog : p.patterns = Catalog.ofList p.patterns.entries :=
    Catalog.ext (Catalog.entries_ofList p.patterns.nodup).symm
  exact load_eq_ok_iff.2 ⟨parse_eq_ok_iff.2 ⟨_, document_objectText h, hcatalog⟩,
    validate_eq_ok_iff.2 ⟨hne, htexts⟩⟩

/-- A set of texts is loaded as it was from how it is written. It is also loaded if some options
that are on are left out, or all of them with the member that they are in, if the members of the
set and of its options stand in another order, and if there are others of unknown names with any
values, nested to any depth. -/
theorem load_of_written (p : PatternSet) (hne : p.patterns.entries ≠ [])
    (htexts : ∀ e ∈ p.patterns.entries, IsText e.2) :
    load p.json.compact = .ok p ∧
    ∀ (keys : List Options.Key)
      (moreOptions more optionMembers members : List (String × List Char)),
      keys.Nodup → (∀ k, k ∉ keys → p.options.get k = true) →
      Unknown (Options.Key.all.map Options.Key.name) moreOptions →
      Unknown ["options", "patterns"] more →
      optionMembers.Perm (optionTexts p.options keys ++ moreOptions) →
      (members.Perm (("options", objectText optionMembers) ::
          ("patterns", (Json.object p.patterns.entries).compactChars) :: more) ∨
        p.options = {} ∧
          members.Perm (("patterns", (Json.object p.patterns.entries).compactChars) :: more)) →
      load (String.ofList (objectText members)) = .ok p := by
  have hpatterns := patternsText_texts htexts
  constructor
  · have hnone : Unknown ["options", "patterns"] [] := List.forall_mem_nil _
    have hoptions : Turns [] {} p.options (optionTexts p.options Options.Key.all) := by
      have hall : Options.Key.all.Nodup := by decide
      refine turns_of_perm hall (fun k hk => absurd (mem_all k) hk) (List.forall_mem_nil _) ?_
      rw [List.append_nil]
    rw [json_compact]
    exact load_objectText hne htexts
      (setMembers_options (optionsText_objectText hoptions) hpatterns hnone)
  · intro keys moreOptions more optionMembers members hkeys hon hmoreOptions hmore hoptions hmembers
    apply load_objectText hne htexts
    rcases hmembers with hperm | ⟨hdefault, hperm⟩
    · have hturns := turns_of_perm hkeys hon hmoreOptions hoptions
      exact (setMembers_options (optionsText_objectText hturns) hpatterns hmore).of_perm hperm
    · rw [hdefault]
      exact (setMembers_patterns hpatterns hmore).of_perm hperm

theorem isJson_of_readValue {fuel : Nat} {j : Json} {t : List Char}
    (h : Json.readValue .skip fuel 0 t = .ok (j, [])) : IsJson t := by
  obtain ⟨u, rfl, hu⟩ := Json.sound .skip fuel (.value j) h
  rw [List.append_nil]
  exact ⟨j, hu⟩

/-- Escapes are read back, and what stands under unknown names may be too large and too deep to be
read. -/
theorem load_of_permuted :
    let p : PatternSet :=
      ⟨{ anchorEnd := false }, Catalog.ofList [("é\n", .string "\\d\""), ("a", .string "")]⟩
    let patterns := (Json.object p.patterns.entries).compactChars
    let note := ['[', '1', 'e', '9', '9', '9', ',', '[', ']', ']']
    let options := objectText [("note", note), ("anchor_end", ['f', 'a', 'l', 's', 'e'])]
    load p.json.compact = .ok p ∧
    load (String.ofList (objectText
      [("patterns", patterns), ("note", note), ("options", options)])) = .ok p ∧
    load (String.ofList (objectText [("note", note), ("patterns", patterns)])) =
      .ok { p with options := {} } := by
  intro p patterns note options
  have hne : p.patterns.entries ≠ [] := List.cons_ne_nil _ _
  have htexts : ∀ e ∈ p.patterns.entries, IsText e.2 := by
    have hentries : p.patterns.entries = [("é\n", .string "\\d\""), ("a", .string "")] := rfl
    rw [hentries]
    simp [IsText]
  have hnote : IsJson note := isJson_of_readValue (rfl : Json.readValue .skip 9 0 note = _)
  have hunknown : ∀ names, "note" ∉ names → Unknown names [("note", note)] := by
    intro names hname m hm
    obtain rfl := List.mem_singleton.1 hm
    exact ⟨hname, hnote⟩
  have hmore := hunknown ["options", "patterns"] (by decide)
  obtain ⟨hcompact, hwritten⟩ := load_of_written p hne htexts
  obtain ⟨-, hdefault⟩ := load_of_written { p with options := {} } hne htexts
  refine ⟨hcompact, ?_, ?_⟩
  · refine hwritten [.anchorEnd] [("note", note)] [("note", note)]
      [("note", note), ("anchor_end", ['f', 'a', 'l', 's', 'e'])] _ (List.nodup_singleton _) ?_
      (hunknown _ (by decide)) hmore (.swap _ _ _) (.inl ?_)
    · intro k hk
      cases k with
      | anchorEnd => exact absurd List.mem_cons_self hk
      | _ => rfl
    · exact (List.perm_append_comm : ([_, _] ++ [_]).Perm ([_] ++ [_, _]))
  · exact hdefault [] [] [("note", note)] [] _ List.nodup_nil (fun k _ => get_default k)
      (List.forall_mem_nil _) hmore .nil (.inr ⟨rfl, .swap _ _ _⟩)

end PathTemplate.PatternSet
