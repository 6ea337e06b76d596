/-! # Catalogs

A catalog keeps values under distinct keys in the order in which the keys came first. Giving a
key again changes its value and not its place. -/

namespace PathTemplate

variable {κ α : Type}

/-- Entries with distinct keys, in order. -/
structure Catalog (κ α : Type) where
  entries : List (κ × α)
  nodup : (entries.map Prod.fst).Nodup

namespace Catalog

instance [DecidableEq κ] [DecidableEq α] : DecidableEq (Catalog κ α) := fun c d =>
  if h : c.entries = d.entries then
    .isTrue (by cases c; cases d; simp_all)
  else .isFalse fun e => h (e ▸ rfl)

/-- A catalog is determined by its entries. -/
@[ext] theorem ext {c d : Catalog κ α} (h : c.entries = d.entries) : c = d := by
  cases c; cases d; simp_all

/-- The catalog without entries. -/
def empty : Catalog κ α := ⟨[], .nil⟩

instance : Inhabited (Catalog κ α) := ⟨empty⟩
instance : EmptyCollection (Catalog κ α) := ⟨empty⟩

/-- The keys, in order. -/
def keys (c : Catalog κ α) : List κ := c.entries.map Prod.fst

/-- The values, in the order of their keys. -/
def values (c : Catalog κ α) : List α := c.entries.map Prod.snd

def size (c : Catalog κ α) : Nat := c.entries.length

def isEmpty (c : Catalog κ α) : Bool := c.entries.isEmpty

variable [DecidableEq κ]

/-- The value of a key among entries. -/
def lookup (key : κ) : List (κ × α) → Option α
  | [] => none
  | (k, v) :: rest => if k = key then some v else lookup key rest

/-- Entries in which a key has a new value, in its old place or else at the end. -/
def place (key : κ) (value : α) : List (κ × α) → List (κ × α)
  | [] => [(key, value)]
  | (k, v) :: rest => if k = key then (k, value) :: rest else (k, v) :: place key value rest

/-- Placing a key keeps the keys, or adds it at the end. -/
theorem map_fst_place (key : κ) (value : α) (l : List (κ × α)) :
    (place key value l).map Prod.fst =
      if key ∈ l.map Prod.fst then l.map Prod.fst else l.map Prod.fst ++ [key] := by
  induction l with
  | nil => simp [place]
  | cons e rest ih =>
    obtain ⟨k, v⟩ := e
    by_cases h : k = key
    · simp [place, h]
    · have hk : key ≠ k := fun e => h e.symm
      simp only [place, h, if_false, List.map_cons, ih, List.mem_cons, hk, false_or]
      split <;> simp

theorem lookup_place (key k : κ) (value : α) (l : List (κ × α)) :
    lookup k (place key value l) = if key = k then some value else lookup k l := by
  induction l with
  | nil => simp [place, lookup]
  | cons e rest ih =>
    obtain ⟨k', v⟩ := e
    by_cases h : k' = key
    · subst h
      by_cases hk : k' = k <;> simp [place, lookup, hk]
    · by_cases hk : k' = k
      · subst hk
        have hne : key ≠ k' := fun e => h e.symm
        simp [place, lookup, h, hne]
      · simp [place, lookup, h, hk, ih]

/-- The value of a key. -/
def get? (c : Catalog κ α) (key : κ) : Option α := lookup key c.entries

def contains (c : Catalog κ α) (key : κ) : Bool := (c.get? key).isSome

/-- Give a key a value. -/
def insert (c : Catalog κ α) (key : κ) (value : α) : Catalog κ α where
  entries := place key value c.entries
  nodup := by
    rw [map_fst_place]
    split
    · exact c.nodup
    · rename_i h
      exact List.nodup_append.2 ⟨c.nodup, by simp, by
        intro a ha b hb
        simp only [List.mem_singleton] at hb
        exact fun e => h (by rw [← hb, ← e]; exact ha)⟩

/-- Take a key away. -/
def erase (c : Catalog κ α) (key : κ) : Catalog κ α where
  entries := c.entries.filter (·.1 ≠ key)
  nodup := c.nodup.sublist (List.filter_sublist.map _)

/-- The catalog of a list of pairs: a repeated key keeps its first place and has its last
value. -/
def ofList (pairs : List (κ × α)) : Catalog κ α :=
  pairs.foldl (fun c p => c.insert p.1 p.2) empty

theorem get?_insert (c : Catalog κ α) (key k : κ) (value : α) :
    (c.insert key value).get? k = if key = k then some value else c.get? k :=
  lookup_place key k value c.entries

theorem keys_insert (c : Catalog κ α) (key : κ) (value : α) :
    (c.insert key value).keys = if key ∈ c.keys then c.keys else c.keys ++ [key] :=
  map_fst_place key value c.entries

theorem get?_empty (k : κ) : (empty : Catalog κ α).get? k = none := rfl

end Catalog

end PathTemplate
