/-!
# What happens first and last

Something that happened at a place of a list, and nothing against it behind that
place, is told from the last element and from the list in front of it. What
happens at a place and nothing against it in front of that place is told from
the first element and from the list behind it.
-/

namespace PathTemplate

/-- Either the last element is what happened, or it is not against what happened before it. -/
theorem exists_split_concat_iff {α : Type} {happened : List α → α → Prop} {passes : α → Prop}
    {l : List α} {last : α} :
    (∃ front x back, l ++ [last] = front ++ x :: back ∧ (∀ y ∈ back, passes y) ∧
        happened front x) ↔
      happened l last ∨ passes last ∧
        ∃ front x back, l = front ++ x :: back ∧ (∀ y ∈ back, passes y) ∧ happened front x := by
  constructor
  · rintro ⟨front, x, back, h, hback, hx⟩
    rcases List.eq_nil_or_concat back with rfl | ⟨back, y, rfl⟩
    · obtain ⟨rfl, hlast⟩ := List.append_inj' h rfl
      obtain ⟨rfl, -⟩ := List.cons.inj hlast
      exact .inl hx
    · have hsplit : l ++ [last] = (front ++ x :: back) ++ [y] := by
        simpa using h
      obtain ⟨rfl, hlast⟩ := List.append_inj' hsplit rfl
      obtain ⟨rfl, -⟩ := List.cons.inj hlast
      refine .inr ⟨hback _ (by simp), front, x, back, rfl, fun z hz => ?_, hx⟩
      exact hback z (by simp [hz])
  · rintro (hlast | ⟨hpasses, front, x, back, rfl, hback, hx⟩)
    · exact ⟨l, last, [], rfl, by simp, hlast⟩
    · refine ⟨front, x, back ++ [last], by simp, fun z hz => ?_, hx⟩
      rcases List.mem_append.1 hz with hold | hnew
      · exact hback z hold
      · obtain rfl := List.mem_singleton.1 hnew
        exact hpasses

/-- Something happens at an element, and every element in front of it passes. -/
def FirstAt {α : Type} (passes happens : α → Prop) (l : List α) : Prop :=
  ∃ front x back, l = front ++ x :: back ∧ (∀ y ∈ front, passes y) ∧ happens x

section FirstAt

variable {α β : Type} {passes happens passes' happens' : α → Prop} {l : List α}

theorem not_firstAt_nil : ¬ FirstAt passes happens [] := by
  rintro ⟨front, x, back, h, -⟩
  simp at h

theorem not_firstAt_of_forall (h : ∀ x ∈ l, ¬ happens x) : ¬ FirstAt passes happens l := by
  rintro ⟨front, x, back, rfl, -, hx⟩
  exact h x (List.mem_append_right _ List.mem_cons_self) hx

/-- It happens at the first element, or that one passes and it happens behind it. -/
theorem firstAt_cons {x : α} :
    FirstAt passes happens (x :: l) ↔ happens x ∨ passes x ∧ FirstAt passes happens l := by
  constructor
  · rintro ⟨front, y, back, h, hfront, hy⟩
    cases front with
    | nil =>
        obtain ⟨rfl, -⟩ := List.cons.inj h
        exact .inl hy
    | cons z front =>
        obtain ⟨rfl, rfl⟩ := List.cons.inj h
        obtain ⟨hz, hfront⟩ := List.forall_mem_cons.1 hfront
        exact .inr ⟨hz, front, y, back, rfl, hfront, hy⟩
  · rintro (hx | ⟨hx, front, y, back, rfl, hfront, hy⟩)
    · exact ⟨[], x, l, rfl, by simp, hx⟩
    · exact ⟨x :: front, y, back, rfl, List.forall_mem_cons.2 ⟨hx, hfront⟩, hy⟩

theorem FirstAt.imp (h : FirstAt passes happens l) (hpasses : ∀ x, passes x → passes' x)
    (hhappens : ∀ x, happens x → happens' x) : FirstAt passes' happens' l := by
  obtain ⟨front, x, back, hl, hfront, hx⟩ := h
  exact ⟨front, x, back, hl, fun y hy => hpasses y (hfront y hy), hhappens x hx⟩

/-- What happens first among the images of elements happens first among the elements, as far as
they tell the same. -/
theorem firstAt_map_iff {passes happens : β → Prop} {f : α → β}
    (hpasses : ∀ x ∈ l, passes (f x) ↔ passes' x)
    (hhappens : ∀ x ∈ l, happens (f x) ↔ happens' x) :
    FirstAt passes happens (l.map f) ↔ FirstAt passes' happens' l := by
  induction l with
  | nil => exact iff_of_false not_firstAt_nil not_firstAt_nil
  | cons x rest ih =>
      obtain ⟨hx, hrest⟩ := List.forall_mem_cons.1 hpasses
      obtain ⟨hx', hrest'⟩ := List.forall_mem_cons.1 hhappens
      rw [List.map_cons, firstAt_cons, firstAt_cons, hx, hx', ih hrest hrest']

end FirstAt

/-- The elements that stand beside what they have are those that have something. -/
theorem map_fst_filterMap {α β : Type} (f : α → Option β) (l : List α) :
    (l.filterMap fun x => (f x).map (x, ·)).map Prod.fst = l.filter fun x => (f x).isSome := by
  induction l with
  | nil => rfl
  | cons x rest ih => cases h : f x <;> simp [h, ih]

/-- Elements that give the same or more give it in the same order. -/
theorem filterMap_sublist_filterMap {α β : Type} {f g : α → Option β}
    (h : ∀ x y, f x = some y → g x = some y) (l : List α) :
    (l.filterMap f).Sublist (l.filterMap g) := by
  induction l with
  | nil => exact .refl []
  | cons x rest ih =>
      cases hf : f x with
      | some y =>
          rw [List.filterMap_cons_some hf, List.filterMap_cons_some (h x y hf)]
          exact ih.cons_cons y
      | none =>
          rw [List.filterMap_cons_none hf]
          cases hg : g x with
          | none =>
              rw [List.filterMap_cons_none hg]
              exact ih
          | some y =>
              rw [List.filterMap_cons_some hg]
              exact ih.cons y

end PathTemplate
