import PathTemplate.Proofs.CommandLine.Words
import PathTemplate.Proofs.Fields
import PathTemplate.Proofs.Lists

/-!
# Fields as arguments

An argument with an equals sign gives a text to a name, which stands in front of
the first equals sign. The last argument for a name counts, so any fields whose
names have no equals sign are given by their own arguments, in any order and
behind any others for the same names.
-/

namespace PathTemplate.CommandLine

/-- An argument gives a text to a name. -/
def IsField (argument name text : String) : Prop :=
  argument = name ++ "=" ++ text ∧ '=' ∉ name.toList

/-- The argument that gives a text to a name. -/
def fieldArgument (e : String × String) : String := e.1 ++ "=" ++ e.2

/-- A name has a text in the last argument for it. -/
def IsLast (arguments : List String) (name text : String) : Prop :=
  ∃ front argument back, arguments = front ++ argument :: back ∧
    (∀ a ∈ back, ∀ text', ¬ IsField a name text') ∧ IsField argument name text

/-- Every name has the text of the last argument for it. -/
def LastGiven (arguments : List String) (fields : Fields) : Prop :=
  ∀ name text, fields.get? name = some text ↔ IsLast arguments name text

/-- Arguments give fields whose names have no equals sign, each by its own argument, in any order
and behind any others for the same names. -/
structure Gives (arguments : List String) (fields : Fields) : Prop where
  names : ∀ name ∈ fields.keys, '=' ∉ name.toList
  split : ∃ (earlier : List String) (entries : List (String × String)),
    arguments = earlier ++ entries.map fieldArgument ∧ entries.Perm fields.entries ∧
    ∀ a ∈ earlier, ∃ name ∈ fields.keys, ∃ text, IsField a name text

variable {argument name text : String} {arguments : List String} {fields fields' : Fields}
  {entries : List (String × String)}

/-! ## Splitting an argument -/

theorem field?_eq_some_iff : field? argument = some (name, text) ↔ IsField argument name text := by
  constructor
  · intro h
    rcases equals_cases argument.toList with hnone | ⟨left, right, hsplit, hleft⟩
    · simp only [field?, (takeWhile_of_notMem hnone).2] at h
      cases h
    · obtain ⟨htake, hdrop⟩ := takeWhile_of_equals hleft right
      simp only [field?, hsplit, htake, hdrop] at h
      cases h
      refine ⟨String.toList_injective ?_, by rwa [String.toList_ofList]⟩
      simp [hsplit]
  · rintro ⟨rfl, hname⟩
    have hlist : (name ++ "=" ++ text).toList = name.toList ++ '=' :: text.toList := by
      simp
    obtain ⟨htake, hdrop⟩ := takeWhile_of_equals hname text.toList
    simp only [field?, hlist, htake, hdrop, String.ofList_toList]

/-- The name and the text of an argument are its own. -/
theorem IsField.unique {name' text' : String} (h : IsField argument name text)
    (h' : IsField argument name' text') : name = name' ∧ text = text' := by
  have heq := (field?_eq_some_iff.2 h).symm.trans (field?_eq_some_iff.2 h')
  cases heq
  exact ⟨rfl, rfl⟩

theorem isSome_field? (h : IsField argument name text) : (field? argument).isSome := by
  rw [field?_eq_some_iff.2 h]
  rfl

theorem isField_fieldArgument {e : String × String} (h : '=' ∉ e.1.toList) :
    IsField (fieldArgument e) e.1 e.2 := ⟨rfl, h⟩

/-! ## The last argument for a name -/

/-- The last argument is for the name, or what counts stands in front of it. -/
theorem isLast_concat {last : String} :
    IsLast (arguments ++ [last]) name text ↔
      IsField last name text ∨
        (∀ text', ¬ IsField last name text') ∧ IsLast arguments name text :=
  exists_split_concat_iff

/-- Fields that are collected from arguments have the last text for every name. -/
theorem lastGiven_ofList (arguments : List String) :
    LastGiven arguments (Fields.ofList (arguments.filterMap field?)) := by
  induction arguments using List.reverseRecOn with
  | nil =>
      intro name text
      apply iff_of_false
      · intro h
        cases h
      · rintro ⟨front, argument, back, h, -⟩
        simp at h
  | append_singleton arguments last ih =>
      intro name text
      rw [isLast_concat, ← ih name text, List.filterMap_append]
      cases hlast : field? last with
      | none =>
          have hno : ∀ text', ¬ IsField last name text' := by
            intro text' hfield
            rw [field?_eq_some_iff.2 hfield] at hlast
            cases hlast
          rw [List.filterMap_cons_none hlast, List.filterMap_nil, List.append_nil]
          simp [hno]
      | some e =>
          obtain ⟨name', text'⟩ := e
          have hfield := field?_eq_some_iff.1 hlast
          rw [List.filterMap_cons_some hlast, List.filterMap_nil, Fields.ofList_concat,
            Fields.get?_insert]
          by_cases hname : name = name'
          · subst hname
            rw [if_pos rfl, Option.some.injEq]
            constructor
            · rintro rfl
              exact .inl hfield
            · rintro (hlast | ⟨hno, -⟩)
              · exact (hfield.unique hlast).2
              · exact absurd hfield (hno text')
          · -- The argument is for another name.
            have hno : ∀ text, ¬ IsField last name text :=
              fun text hlast => hname (hlast.unique hfield).1
            rw [if_neg hname]
            simp [hno]

theorem eq_of_lastGiven (h : LastGiven arguments fields) (h' : LastGiven arguments fields') :
    fields = fields' := by
  refine Fields.ext_get? fun name => Option.ext fun text => ?_
  exact (h name text).trans (h' name text).symm

/-- A name stands at one place among entries of fields. -/
theorem name_ne_of_behind (hperm : entries.Perm fields.entries) {front back : List (String × String)}
    {e e' : String × String} (hentries : entries = front ++ e :: back) (he' : e' ∈ back) :
    e'.1 ≠ e.1 := by
  have hnodup : (entries.map Prod.fst).Nodup := (hperm.map Prod.fst).nodup_iff.2 fields.keys.nodup
  rw [hentries, List.map_append, List.map_cons] at hnodup
  have hnotMem := (List.nodup_cons.1 (List.nodup_append.1 hnodup).2.1).1
  exact fun heq => hnotMem (heq ▸ List.mem_map_of_mem he')

/-- The argument of an entry is for its name. -/
theorem Gives.isField (h : Gives arguments fields) (hperm : entries.Perm fields.entries) :
    ∀ e ∈ entries, IsField (fieldArgument e) e.1 e.2 := by
  intro e he
  exact isField_fieldArgument (h.names _ (List.mem_map_of_mem (hperm.mem_iff.1 he)))

/-- Every argument is for a name of the fields. -/
theorem Gives.exists_isField (h : Gives arguments fields) (hmem : argument ∈ arguments) :
    ∃ name ∈ fields.keys, ∃ text, IsField argument name text := by
  obtain ⟨earlier, entries, rfl, hperm, hearlier⟩ := h.split
  rcases List.mem_append.1 hmem with hmem | hmem
  · exact hearlier argument hmem
  · obtain ⟨e, he, rfl⟩ := List.mem_map.1 hmem
    exact ⟨e.1, List.mem_map_of_mem (hperm.mem_iff.1 he), e.2, h.isField hperm e he⟩

theorem Gives.isSome_field? (h : Gives arguments fields) :
    ∀ argument ∈ arguments, (field? argument).isSome := by
  intro argument hmem
  obtain ⟨name, -, text, hfield⟩ := h.exists_isField hmem
  exact CommandLine.isSome_field? hfield

/-- Behind the argument of an entry there is none for its name. -/
theorem Gives.isLast (h : Gives arguments fields) (htext : fields.get? name = some text) :
    IsLast arguments name text := by
  obtain ⟨earlier, entries, rfl, hperm, -⟩ := h.split
  have hfield := h.isField hperm
  have hmem := hperm.mem_iff.2 (Fields.get?_eq_some_iff.1 htext)
  obtain ⟨front, back, hentries⟩ := List.append_of_mem hmem
  refine ⟨earlier ++ front.map fieldArgument, _, back.map fieldArgument, by simp [hentries], ?_,
    hfield _ hmem⟩
  intro a ha text' hlater
  obtain ⟨e, he, rfl⟩ := List.mem_map.1 ha
  have hsame := ((hfield e (by simp [hentries, he])).unique hlater).1
  exact name_ne_of_behind hperm hentries he hsame

/-- The order of the fields does not count, nor what stands in front of them. -/
theorem Gives.lastGiven (h : Gives arguments fields) : LastGiven arguments fields := by
  intro name text
  refine ⟨h.isLast, fun hlast => ?_⟩
  obtain ⟨front, argument, back, hsplit, -, hargument⟩ := id hlast
  have hmem : argument ∈ arguments := by simp [hsplit]
  obtain ⟨name', hname, text', hfield⟩ := h.exists_isField hmem
  obtain ⟨rfl, -⟩ := hargument.unique hfield
  obtain ⟨text'', htext⟩ := Fields.mem_keys.1 hname
  -- Both texts are the one that the collected fields have.
  have hcollected := lastGiven_ofList arguments name
  have hsame := ((hcollected text'').2 (h.isLast htext)).symm.trans ((hcollected text).2 hlast)
  rw [htext, hsame]

theorem Gives.ne_nil (h : Gives arguments fields) (hne : fields.isEmpty = false) :
    arguments ≠ [] := by
  obtain ⟨earlier, entries, rfl, hperm, -⟩ := h.split
  intro hnil
  have hentries : entries = [] := List.map_eq_nil_iff.1 (List.append_eq_nil_iff.1 hnil).2
  have hempty : fields.entries = [] := (hentries ▸ hperm).nil_eq.symm
  rw [Fields.isEmpty, hempty] at hne
  cases hne

end PathTemplate.CommandLine
