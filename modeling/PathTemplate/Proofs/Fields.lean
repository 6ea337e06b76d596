import Mathlib.Data.List.Induction
import Mathlib.Data.List.Sort
import PathTemplate.Fields

/-!
# Members of names and fields

A set of names is known by its members, and the names of fields are those that
have a text.
-/

namespace PathTemplate

namespace Names

theorem mem_def {s : Names} {name : String} : name ∈ s ↔ name ∈ s.toList := Iff.rfl

/-- Two sets of names with the same members are equal. -/
theorem ext_mem {a b : Names} (h : ∀ name, name ∈ a ↔ name ∈ b) : a = b := by
  have : Std.Irrefl (α := String) (· < ·) := ⟨String.lt_irrefl⟩
  have : Std.Asymm (α := String) (· < ·) := ⟨fun _ _ h => String.lt_asymm h⟩
  exact ext (a.sorted.eq_of_mem_iff b.sorted fun {name} => h name)

/-- No name stands twice in a set. -/
theorem nodup (s : Names) : s.toList.Nodup := by
  refine s.sorted.imp ?_
  rintro name _ hlt rfl
  exact String.lt_irrefl name hlt

@[simp] theorem contains_eq_true_iff {s : Names} {name : String} :
    s.contains name = true ↔ name ∈ s := by
  rw [contains, List.contains_iff_mem, mem_def]

/-- A set that is as large as another one and has only members of it is the other one. -/
theorem eq_of_size_eq {a b : Names} (hsize : a.size = b.size) (h : ∀ name ∈ a, name ∈ b) :
    a = b := by
  have hperm : a.toList.Perm b.toList :=
    (List.subperm_of_subset a.nodup h).perm_of_length_le hsize.ge
  apply ext_mem
  intro name
  exact hperm.mem_iff

theorem mem_foldl_insert {names : List String} {s : Names} {name : String} :
    name ∈ names.foldl insert s ↔ name ∈ s ∨ name ∈ names := by
  induction names generalizing s with
  | nil => simp
  | cons n rest ih =>
      rw [List.foldl_cons, ih, mem_insert, List.mem_cons]
      tauto

/-- A set that is made of a list has the members of the list. -/
theorem mem_ofList {names : List String} {name : String} : name ∈ ofList names ↔ name ∈ names := by
  rw [ofList, mem_foldl_insert]
  exact or_iff_right (by simp [mem_def, empty])

end Names

namespace Fields

/-- The names of fields are those that have a text. -/
theorem mem_keys {f : Fields} {name : String} :
    name ∈ f.keys ↔ ∃ text, f.get? name = some text := by
  rw [← Option.isSome_iff_exists, get?, List.lookup_isSome_iff]
  simp only [Names.mem_def, keys, List.mem_map]
  constructor
  · rintro ⟨e, he, rfl⟩
    exact ⟨e, he, beq_self_eq_true e.1⟩
  · rintro ⟨e, he, hname⟩
    exact ⟨e, he, (beq_iff_eq.1 hname).symm⟩

theorem get?_eq_none_iff {f : Fields} {name : String} : f.get? name = none ↔ name ∉ f.keys := by
  rw [mem_keys, ← Option.isSome_iff_exists, Option.not_isSome_iff_eq_none]

theorem size_keys (f : Fields) : f.keys.size = f.size := List.length_map _

/-- Fields without names are empty. -/
theorem isEmpty_eq_false_iff {f : Fields} : f.isEmpty = false ↔ ∃ name, name ∈ f.keys := by
  simp only [Names.mem_def, keys, isEmpty, List.isEmpty_eq_false_iff_exists_mem, List.mem_map]
  constructor
  · rintro ⟨e, he⟩
    exact ⟨e.1, e, he, rfl⟩
  · rintro ⟨_, e, he, -⟩
    exact ⟨e, he⟩

/-- Fields that have some names are not empty. -/
theorem isEmpty_eq_false_of_keys {names : List String} (hnames : names ≠ []) {f : Fields}
    (hkeys : f.keys = Names.ofList names) : f.isEmpty = false := by
  obtain ⟨name, hname⟩ := List.exists_mem_of_ne_nil _ hnames
  refine isEmpty_eq_false_iff.2 ⟨name, ?_⟩
  rw [hkeys, Names.mem_ofList]
  exact hname

theorem mem_of_lookup {pairs : List (String × String)} {name text : String}
    (h : pairs.lookup name = some text) : (name, text) ∈ pairs := by
  obtain ⟨front, back, rfl, -⟩ := List.lookup_eq_some_iff.1 h
  exact List.mem_append_right _ List.mem_cons_self

/-- A name has the text that stands beside it. -/
theorem get?_eq_some_iff {f : Fields} {name text : String} :
    f.get? name = some text ↔ (name, text) ∈ f.entries := by
  constructor
  · exact mem_of_lookup
  · intro h
    rw [get?, List.lookup_eq_some_iff]
    obtain ⟨front, back, hentries⟩ := List.append_of_mem h
    refine ⟨front, back, hentries, fun e he => bne_iff_ne.2 ?_⟩
    have hsorted := f.sorted
    rw [hentries, List.pairwise_append] at hsorted
    have hlt : e.1 < name := hsorted.2.2 e he (name, text) List.mem_cons_self
    rintro rfl
    exact String.lt_irrefl _ hlt

/-- Fields are known by the texts of names. -/
theorem ext_get? {a b : Fields} (h : ∀ name, a.get? name = b.get? name) : a = b := by
  have : Std.Irrefl (α := String × String) (fun a b => a.1 < b.1) :=
    ⟨fun e => String.lt_irrefl e.1⟩
  have : Std.Asymm (α := String × String) (fun a b => a.1 < b.1) :=
    ⟨fun _ _ h => String.lt_asymm h⟩
  refine ext (a.sorted.eq_of_mem_iff b.sorted fun {e} => ?_)
  rw [← get?_eq_some_iff (f := a), ← get?_eq_some_iff (f := b), h]

theorem ofList_concat (front : List (String × String)) (e : String × String) :
    ofList (front ++ [e]) = (ofList front).insert e.1 e.2 := by
  rw [ofList, List.foldl_concat]
  rfl

/-- In fields that are made of a list, a name has its last text there. -/
theorem get?_ofList (pairs : List (String × String)) (name : String) :
    (ofList pairs).get? name = pairs.reverse.lookup name := by
  induction pairs using List.reverseRecOn with
  | nil => rfl
  | append_singleton front e ih =>
      rw [ofList_concat, get?_insert, List.reverse_concat]
      by_cases hname : name = e.1
      · rw [if_pos hname, hname, List.lookup_cons_self]
      · rw [if_neg hname, ih, List.lookup_cons, beq_false_of_ne hname]

theorem isEmpty_ofList {pairs : List (String × String)} :
    (ofList pairs).isEmpty = true ↔ pairs = [] := by
  induction pairs using List.reverseRecOn with
  | nil => exact iff_of_true rfl rfl
  | append_singleton front e ih =>
      have hmem : e.1 ∈ (ofList (front ++ [e])).keys := by
        rw [ofList_concat, keys_insert, Names.mem_insert]
        exact .inl rfl
      apply iff_of_false
      · rw [Bool.not_eq_true]
        exact isEmpty_eq_false_iff.2 ⟨e.1, hmem⟩
      · simp

end Fields

end PathTemplate
