import Mathlib.Data.List.Basic
import Mathlib.Data.List.Induction
import PathTemplate.Catalog

/-!
# Entries of catalogs

The value of a key is the one that stands beside it among the entries, and a
new key goes behind all others. So the catalog of a list of pairs has the keys
in the order in which they come first, each with the value that it has last.
-/

namespace PathTemplate

/-- The keys of pairs in the order in which they come first, each with the value that it has
last. -/
def deduplicate {κ α : Type} [DecidableEq κ] (pairs : List (κ × α)) : List (κ × α) :=
  (pairs.map Prod.fst).eraseDups.filterMap fun key => (pairs.reverse.lookup key).map (key, ·)

namespace Catalog

variable {κ α : Type} [DecidableEq κ]

theorem mem_of_lookup {key : κ} {value : α} {l : List (κ × α)}
    (h : lookup key l = some value) : (key, value) ∈ l := by
  induction l with
  | nil => cases h
  | cons e rest ih =>
      obtain ⟨k, v⟩ := e
      rw [lookup] at h
      split at h
      · rename_i hk
        subst hk
        cases h
        exact List.mem_cons_self
      · exact List.mem_cons_of_mem _ (ih h)

theorem lookup_of_mem {key : κ} {value : α} {l : List (κ × α)} (hn : (l.map Prod.fst).Nodup)
    (h : (key, value) ∈ l) : lookup key l = some value := by
  induction l with
  | nil => cases h
  | cons e rest ih =>
      obtain ⟨k, v⟩ := e
      rw [List.map_cons, List.nodup_cons] at hn
      rw [lookup]
      rcases List.mem_cons.1 h with heq | hrest
      · cases heq
        rw [if_pos rfl]
      · have hne : k ≠ key := by
          rintro rfl
          exact hn.1 (List.mem_map.2 ⟨(k, value), hrest, rfl⟩)
        rw [if_neg hne]
        exact ih hn.2 hrest

theorem get?_eq_some_iff {c : Catalog κ α} {key : κ} {value : α} :
    c.get? key = some value ↔ (key, value) ∈ c.entries :=
  ⟨mem_of_lookup, lookup_of_mem c.nodup⟩

/-- What holds of every entry and of a new one holds of every entry after the insertion. -/
theorem forall_get?_insert {c : Catalog κ α} {P : κ → α → Prop}
    (h : ∀ k v, c.get? k = some v → P k v) {key : κ} {value : α} (hnew : P key value) :
    ∀ k v, (c.insert key value).get? k = some v → P k v := by
  intro k v hk
  rw [get?_insert] at hk
  split at hk
  · rename_i heq
    subst heq
    exact Option.some.inj hk ▸ hnew
  · exact h k v hk

theorem place_of_notMem {key : κ} {l : List (κ × α)} (h : key ∉ l.map Prod.fst) (value : α) :
    place key value l = l ++ [(key, value)] := by
  induction l with
  | nil => rfl
  | cons e rest ih =>
      obtain ⟨k, v⟩ := e
      rw [List.map_cons, List.mem_cons, not_or] at h
      have hne : k ≠ key := fun e => h.1 e.symm
      rw [place, if_neg hne, ih h.2]
      rfl

theorem entries_insert_of_notMem {c : Catalog κ α} {key : κ} (h : key ∉ c.keys) (value : α) :
    (c.insert key value).entries = c.entries ++ [(key, value)] :=
  place_of_notMem h value

/-- A list of entries with distinct keys is the list of the entries of its catalog. -/
theorem entries_foldl_insert {c : Catalog κ α} {pairs : List (κ × α)}
    (h : (c.keys ++ pairs.map Prod.fst).Nodup) :
    (pairs.foldl (fun c p => c.insert p.1 p.2) c).entries = c.entries ++ pairs := by
  induction pairs generalizing c with
  | nil => exact (List.append_nil _).symm
  | cons p rest ih =>
      have hnew : p.1 ∉ c.keys := by
        intro hmem
        exact (List.nodup_append.1 h).2.2 p.1 hmem p.1 List.mem_cons_self rfl
      have hentries := entries_insert_of_notMem hnew p.2
      have hkeys : (c.insert p.1 p.2).keys = c.keys ++ [p.1] := by
        rw [keys_insert, if_neg hnew]
      rw [List.foldl_cons, ih, hentries, List.append_assoc]
      · rfl
      · rw [hkeys, List.append_assoc]
        exact h

theorem entries_ofList {pairs : List (κ × α)} (h : (pairs.map Prod.fst).Nodup) :
    (ofList pairs).entries = pairs :=
  entries_foldl_insert h

theorem mem_keys_iff {c : Catalog κ α} {key : κ} :
    key ∈ c.keys ↔ ∃ value, c.get? key = some value := by
  simp only [keys, List.mem_map, get?_eq_some_iff]
  constructor
  · rintro ⟨e, he, rfl⟩
    exact ⟨e.2, he⟩
  · rintro ⟨value, he⟩
    exact ⟨_, he, rfl⟩

theorem mem_keys_insert {c : Catalog κ α} {key k : κ} {value : α} :
    k ∈ (c.insert key value).keys ↔ k ∈ c.keys ∨ k = key := by
  rw [keys_insert]
  split
  · rename_i h
    exact ⟨.inl, fun hk => hk.elim id fun heq => heq ▸ h⟩
  · rw [List.mem_append, List.mem_singleton]

theorem lookup_filter (key k : κ) (l : List (κ × α)) :
    lookup k (l.filter (·.1 ≠ key)) = if key = k then none else lookup k l := by
  induction l with
  | nil => simp [lookup]
  | cons e rest ih =>
      obtain ⟨k', v⟩ := e
      by_cases h : k' = key
      · subst h
        by_cases hk : k' = k
        · subst hk
          simpa using ih
        · simpa [lookup, hk] using ih
      · by_cases hk : k' = k
        · subst hk
          simp [lookup, h, Ne.symm h]
        · simpa [lookup, h, hk] using ih

theorem get?_erase (c : Catalog κ α) (key k : κ) :
    (c.erase key).get? k = if key = k then none else c.get? k :=
  lookup_filter key k c.entries

/-! ## Catalogs of pairs -/

theorem ofList_concat (front : List (κ × α)) (e : κ × α) :
    ofList (front ++ [e]) = (ofList front).insert e.1 e.2 := by
  rw [ofList, List.foldl_concat]
  rfl

theorem keys_ofList (pairs : List (κ × α)) :
    (ofList pairs).keys = (pairs.map Prod.fst).eraseDups := by
  induction pairs using List.reverseRecOn with
  | nil => rfl
  | append_singleton front e ih =>
      rw [ofList_concat, keys_insert, ih, List.map_append, List.eraseDups_append]
      by_cases hmem : e.1 ∈ front.map Prod.fst
      · rw [if_pos (List.mem_eraseDups.2 hmem)]
        simp [List.removeAll, hmem]
      · rw [if_neg (mt List.mem_eraseDups.1 hmem)]
        simp [List.removeAll, hmem, List.eraseDups_cons]

/-- In the catalog of pairs, a key has its last value there. -/
theorem get?_ofList (pairs : List (κ × α)) (key : κ) :
    (ofList pairs).get? key = pairs.reverse.lookup key := by
  induction pairs using List.reverseRecOn with
  | nil => rfl
  | append_singleton front e ih =>
      rw [ofList_concat, get?_insert, List.reverse_concat, ih, List.lookup_cons]
      by_cases hkey : e.1 = key
      · simp [hkey]
      · rw [if_neg hkey, beq_false_of_ne (Ne.symm hkey)]

theorem entries_eq_filterMap (c : Catalog κ α) :
    c.entries = c.keys.filterMap fun key => (c.get? key).map (key, ·) := by
  have hsome : ∀ e ∈ c.entries, (c.get? e.1).map (e.1, ·) = some e := by
    intro e he
    rw [get?_eq_some_iff.2 he, Option.map_some]
  rw [keys, List.filterMap_map]
  calc c.entries = c.entries.filterMap some := List.filterMap_some.symm
    _ = c.entries.filterMap ((fun key => (c.get? key).map (key, ·)) ∘ Prod.fst) :=
        List.filterMap_congr fun e he => (hsome e he).symm

theorem entries_ofList_eq_deduplicate (pairs : List (κ × α)) :
    (ofList pairs).entries = deduplicate pairs := by
  rw [entries_eq_filterMap, keys_ofList, deduplicate]
  simp only [get?_ofList]

/-- Catalogs are known by the order of their keys and by the values of these. -/
theorem ext_get? {c d : Catalog κ α} (hkeys : c.keys = d.keys)
    (hget : ∀ key, c.get? key = d.get? key) : c = d := by
  apply ext
  rw [entries_eq_filterMap c, entries_eq_filterMap d, hkeys]
  simp only [hget]

end Catalog

section Deduplicate

variable {κ α : Type} [DecidableEq κ] {pairs : List (κ × α)}

theorem map_fst_deduplicate (pairs : List (κ × α)) :
    (deduplicate pairs).map Prod.fst = (pairs.map Prod.fst).eraseDups := by
  rw [← Catalog.entries_ofList_eq_deduplicate]
  exact Catalog.keys_ofList pairs

theorem mem_deduplicate_iff {key : κ} {value : α} :
    (key, value) ∈ deduplicate pairs ↔ pairs.reverse.lookup key = some value := by
  rw [← Catalog.entries_ofList_eq_deduplicate, ← Catalog.get?_eq_some_iff, Catalog.get?_ofList]

/-- Every pair that is left was given. -/
theorem mem_of_mem_deduplicate {e : κ × α} (h : e ∈ deduplicate pairs) : e ∈ pairs := by
  obtain ⟨front, back, hsplit, -⟩ := List.lookup_eq_some_iff.1 (mem_deduplicate_iff.1 h)
  rw [← List.mem_reverse, hsplit]
  exact List.mem_append_right _ List.mem_cons_self

/-- Pairs with distinct keys stay as they are. -/
theorem deduplicate_of_nodup (h : (pairs.map Prod.fst).Nodup) : deduplicate pairs = pairs := by
  rw [← Catalog.entries_ofList_eq_deduplicate, Catalog.entries_ofList h]

theorem deduplicate_deduplicate (pairs : List (κ × α)) :
    deduplicate (deduplicate pairs) = deduplicate pairs := by
  rw [← Catalog.entries_ofList_eq_deduplicate pairs]
  exact deduplicate_of_nodup (Catalog.ofList pairs).nodup

end Deduplicate

end PathTemplate
