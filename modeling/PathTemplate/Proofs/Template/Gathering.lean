import PathTemplate.Proofs.Fields
import PathTemplate.Template.Basic

/-!
# Gathering

The values of a match are put into fields one after the other. With duplicates
checked, this comes to fields exactly if no name has two different values, and
the fields then have these values and no others.
-/

namespace PathTemplate

namespace Segment

/-- Fields have the values. -/
def Agrees (fields : Fields) (values : List (String × String)) : Prop :=
  ∀ e ∈ values, fields.get? e.1 = some e.2

/-- Fields have one value for a name. -/
theorem Agrees.eq {fields : Fields} {values : List (String × String)} (h : Agrees fields values)
    {name v w : String} (hv : (name, v) ∈ values) (hw : (name, w) ∈ values) : v = w := by
  have hvalue : fields.get? name = some v := h _ hv
  have hvalue' : fields.get? name = some w := h _ hw
  exact Option.some.inj (hvalue.symm.trans hvalue')

/-- Fields have the first value of a name, as any other one. -/
theorem Agrees.lookup {fields : Fields} {values : List (String × String)} (h : Agrees fields values)
    {name : String} (hname : name ∈ values.map Prod.fst) :
    values.lookup name = fields.get? name := by
  obtain ⟨e, he, rfl⟩ := List.mem_map.1 hname
  obtain ⟨v, hv⟩ := Option.isSome_iff_exists.1
    (List.lookup_isSome_iff.2 ⟨e, he, beq_self_eq_true e.1⟩)
  rw [hv, h (e.1, v) (Fields.mem_of_lookup hv)]

end Segment

namespace Template

open Segment (Agrees)

/-- A value is put into fields if duplicates are not checked or its name has no other one. -/
theorem gather_cons {check : Bool} {name value : String} {rest : List (String × String)}
    {fields : Fields} (h : check = true → ∀ old, fields.get? name = some old → old = value) :
    gather check ((name, value) :: rest) fields =
      gather check rest (fields.insert name value) := by
  rw [gather]
  cases hold : fields.get? name with
  | none => rfl
  | some old =>
      have hagrees : ¬ (check = true ∧ old ≠ value) := fun hdiffers =>
        hdiffers.2 (h hdiffers.1 old hold)
      exact if_neg hagrees

/-- A value is put into fields, unless duplicates are checked and its name has another one. -/
theorem gather_cons_eq_ok_iff {check : Bool} {name value : String} {rest : List (String × String)}
    {fields found : Fields} :
    gather check ((name, value) :: rest) fields = .ok found ↔
      (check = true → ∀ old, fields.get? name = some old → old = value) ∧
        gather check rest (fields.insert name value) = .ok found := by
  rw [gather]
  cases hold : fields.get? name with
  | none => simp
  | some old =>
      by_cases hdiffers : check = true ∧ old ≠ value
      · simp [hdiffers]
      · simp only [if_neg hdiffers]
        rw [not_and, not_not] at hdiffers
        simpa using fun _ => hdiffers

/-- With duplicates checked, fields that were gathered have every value that was given. -/
theorem get?_of_gather {values : List (String × String)} {fields found : Fields}
    (h : gather true values fields = .ok found) {name value : String}
    (hv : (name, value) ∈ values ∨ fields.get? name = some value) :
    found.get? name = some value := by
  induction values generalizing fields with
  | nil =>
      cases h
      simpa using hv
  | cons e rest ih =>
      obtain ⟨n, v⟩ := e
      obtain ⟨hagrees, hrest⟩ := gather_cons_eq_ok_iff.1 h
      apply ih hrest
      rw [Fields.get?_insert]
      rcases hv with hv | hv
      · rcases List.mem_cons.1 hv with heq | hv
        · cases heq
          exact .inr (if_pos rfl)
        · exact .inl hv
      · refine .inr ?_
        split
        · rename_i heq
          subst heq
          rw [hagrees rfl value hv]
        · exact hv

theorem mem_keys_of_gather {check : Bool} {values : List (String × String)} {fields found : Fields}
    (h : gather check values fields = .ok found) {name : String} :
    name ∈ found.keys ↔ name ∈ fields.keys ∨ name ∈ values.map Prod.fst := by
  induction values generalizing fields with
  | nil =>
      cases h
      simp
  | cons e rest ih =>
      obtain ⟨n, v⟩ := e
      obtain ⟨-, hrest⟩ := gather_cons_eq_ok_iff.1 h
      rw [ih hrest, Fields.keys_insert, Names.mem_insert, List.map_cons, List.mem_cons]
      tauto

/-- Values are gathered with duplicates checked if no name has two of them and none differs from
a field. -/
theorem exists_gather {values : List (String × String)} {fields : Fields}
    (hvalues : ∀ name v w, (name, v) ∈ values → (name, w) ∈ values → v = w)
    (hfields : ∀ name v w, (name, v) ∈ values → fields.get? name = some w → v = w) :
    ∃ found, gather true values fields = .ok found := by
  induction values generalizing fields with
  | nil => exact ⟨fields, rfl⟩
  | cons e rest ih =>
      obtain ⟨n, v⟩ := e
      have hinsert : ∀ name u w, (name, u) ∈ rest →
          (fields.insert n v).get? name = some w → u = w := by
        intro name u w hu hw
        rw [Fields.get?_insert] at hw
        split at hw
        · rename_i heq
          cases hw
          subst heq
          exact hvalues name u v (List.mem_cons_of_mem _ hu) List.mem_cons_self
        · exact hfields name u w (List.mem_cons_of_mem _ hu) hw
      obtain ⟨found, hfound⟩ := ih (fun name u w hu hw =>
        hvalues name u w (List.mem_cons_of_mem _ hu) (List.mem_cons_of_mem _ hw)) hinsert
      exact ⟨found, gather_cons_eq_ok_iff.2
        ⟨fun _ old hold => (hfields n v old List.mem_cons_self hold).symm, hfound⟩⟩

theorem exists_gather_empty {values : List (String × String)}
    (hvalues : ∀ name v w, (name, v) ∈ values → (name, w) ∈ values → v = w) :
    ∃ found, gather true values Fields.empty = .ok found := by
  refine exists_gather hvalues fun name v w _ hw => ?_
  cases hw

/-- Fields are gathered from values exactly if they have these values and no other names. -/
theorem gather_eq_ok_iff {values : List (String × String)} {fields : Fields} :
    gather true values Fields.empty = .ok fields ↔
      fields.keys = Names.ofList (values.map Prod.fst) ∧ Agrees fields values := by
  have keys_of_gather : ∀ {found}, gather true values Fields.empty = .ok found →
      found.keys = Names.ofList (values.map Prod.fst) := by
    intro found hgather
    refine Names.ext_mem fun name => ?_
    rw [mem_keys_of_gather hgather, Names.mem_ofList]
    exact or_iff_right fun hmem => by cases hmem
  constructor
  · intro hgather
    exact ⟨keys_of_gather hgather, fun e he => get?_of_gather hgather (.inl he)⟩
  · rintro ⟨hkeys, hagrees⟩
    obtain ⟨found, hgather⟩ := exists_gather_empty fun _ _ _ hv hw => hagrees.eq hv hw
    have heq : found = fields := by
      have hfound := keys_of_gather hgather
      refine Fields.ext_get? fun name => ?_
      by_cases hname : name ∈ values.map Prod.fst
      · obtain ⟨e, he, rfl⟩ := List.mem_map.1 hname
        rw [hagrees e he, get?_of_gather hgather (.inl he)]
      · rw [← Names.mem_ofList] at hname
        rw [Fields.get?_eq_none_iff.2 (hfound ▸ hname), Fields.get?_eq_none_iff.2 (hkeys ▸ hname)]
    rw [hgather, heq]

theorem gather_eq_error_iff {values : List (String × String)} :
    (∃ m, gather true values Fields.empty = .error m) ↔
      ∃ name v w, (name, v) ∈ values ∧ (name, w) ∈ values ∧ v ≠ w := by
  constructor
  · rintro ⟨m, hm⟩
    by_contra hnone
    push Not at hnone
    obtain ⟨found, hfound⟩ := exists_gather_empty hnone
    rw [hfound] at hm
    cases hm
  · rintro ⟨name, v, w, hv, hw, hne⟩
    cases hgather : gather true values Fields.empty with
    | error m => exact ⟨m, rfl⟩
    | ok fields =>
        exact absurd ((gather_eq_ok_iff.1 hgather).2.eq hv hw) hne

/-! ## Extracting -/

/-- Fields are gathered from a match, and there is at least one. -/
theorem gather_of_extract {t : Template} {path : String} {check : Bool} {fields : Fields}
    (h : t.extract path check = .ok (some fields)) :
    fields.isEmpty = false ∧ ∃ m, t.regex.find? path = some m ∧
      gather check (t.values m) Fields.empty = .ok fields := by
  unfold extract at h
  split at h
  · cases h
  · split at h
    · cases h
    · rename_i m hm
      split at h
      · cases h
      · rename_i found hgather
        split at h
        · cases h
        · rename_i hempty
          cases h
          exact ⟨Bool.eq_false_iff.2 hempty, m, hm, hgather⟩

end Template

end PathTemplate
