/-! # Names and fields

A set of names and a map from names to texts, both kept in the order of the names. Two of them
are equal exactly when they have the same members. -/

namespace PathTemplate

/-- A finite set of names. -/
structure Names where
  toList : List String
  sorted : toList.Pairwise (· < ·)

namespace Names

instance : DecidableEq Names := fun a b =>
  if h : a.toList = b.toList then .isTrue (by cases a; cases b; simp_all)
  else .isFalse fun e => h (e ▸ rfl)

@[ext] theorem ext {a b : Names} (h : a.toList = b.toList) : a = b := by
  cases a; cases b; simp_all

instance : Membership String Names := ⟨fun s name => name ∈ s.toList⟩

def empty : Names := ⟨[], .nil⟩

/-- A name put into its place, unless it is there already. -/
def place (name : String) : List String → List String
  | [] => [name]
  | n :: rest =>
    if name < n then name :: n :: rest
    else if name = n then n :: rest
    else n :: place name rest

theorem mem_place {name n : String} {l : List String} :
    n ∈ place name l ↔ n = name ∨ n ∈ l := by
  induction l with
  | nil => simp [place]
  | cons m rest ih =>
    rw [place]
    split
    · simp
    · split
      · rename_i h; subst h; simp
      · simp only [List.mem_cons, ih]; grind

theorem pairwise_place (name : String) {l : List String} (h : l.Pairwise (· < ·)) :
    (place name l).Pairwise (· < ·) := by
  induction l with
  | nil => simp [place]
  | cons m rest ih =>
    obtain ⟨hm, hr⟩ := List.pairwise_cons.1 h
    rw [place]
    split
    · rename_i hlt
      refine List.pairwise_cons.2 ⟨fun n hn => ?_, h⟩
      rcases List.mem_cons.1 hn with rfl | hn
      · exact hlt
      · exact String.lt_trans hlt (hm n hn)
    · split
      · exact h
      · rename_i hge hne
        refine List.pairwise_cons.2 ⟨fun n hn => ?_, ih hr⟩
        rcases mem_place.1 hn with rfl | hn
        · exact String.not_le.1 fun hle => hne (String.le_antisymm hle (String.not_lt.1 hge))
        · exact hm n hn

def insert (s : Names) (name : String) : Names :=
  ⟨place name s.toList, pairwise_place name s.sorted⟩

theorem mem_insert {s : Names} {name n : String} : n ∈ s.insert name ↔ n = name ∨ n ∈ s :=
  mem_place

/-- The set of the names in a list. -/
def ofList (names : List String) : Names :=
  names.foldl insert empty

def size (s : Names) : Nat := s.toList.length

def contains (s : Names) (name : String) : Bool := s.toList.contains name

end Names

/-- A finite map from names to texts. -/
structure Fields where
  entries : List (String × String)
  sorted : entries.Pairwise (fun a b => a.1 < b.1)

namespace Fields

instance : DecidableEq Fields := fun a b =>
  if h : a.entries = b.entries then .isTrue (by cases a; cases b; simp_all)
  else .isFalse fun e => h (e ▸ rfl)

@[ext] theorem ext {a b : Fields} (h : a.entries = b.entries) : a = b := by
  cases a; cases b; simp_all

def empty : Fields := ⟨[], .nil⟩

def isEmpty (f : Fields) : Bool := f.entries.isEmpty

def size (f : Fields) : Nat := f.entries.length

/-- A name with its text put into its place, in which it replaces an older text. -/
def place (name text : String) : List (String × String) → List (String × String)
  | [] => [(name, text)]
  | (n, t) :: rest =>
    if name < n then (name, text) :: (n, t) :: rest
    else if name = n then (name, text) :: rest
    else (n, t) :: place name text rest

theorem map_fst_place (name text : String) (l : List (String × String)) :
    (place name text l).map Prod.fst = Names.place name (l.map Prod.fst) := by
  induction l with
  | nil => rfl
  | cons e rest ih =>
    obtain ⟨n, t⟩ := e
    simp only [place, Names.place, List.map_cons]
    split
    · simp
    · split
      · rename_i h; simp [h]
      · simp [ih]

/-- Give a name a text. -/
def insert (f : Fields) (name text : String) : Fields where
  entries := place name text f.entries
  sorted := by
    have h := Names.pairwise_place name (List.pairwise_map.2 f.sorted)
    rw [← map_fst_place name text] at h
    exact List.pairwise_map.1 h

/-- The text of a name. -/
def get? (f : Fields) (name : String) : Option String :=
  f.entries.lookup name

/-- The fields of a list of pairs, in which the last text of a name counts. -/
def ofList (pairs : List (String × String)) : Fields :=
  pairs.foldl (fun f p => f.insert p.1 p.2) empty

/-- The names that have a text. -/
def keys (f : Fields) : Names :=
  ⟨f.entries.map Prod.fst, List.pairwise_map.2 f.sorted⟩

theorem keys_insert (f : Fields) (name text : String) :
    (f.insert name text).keys = f.keys.insert name :=
  Names.ext (map_fst_place name text f.entries)

theorem get?_insert (f : Fields) (name text n : String) :
    (f.insert name text).get? n = if n = name then some text else f.get? n := by
  obtain ⟨l, hl⟩ := f
  simp only [get?, insert]
  clear hl
  induction l with
  | nil =>
    by_cases h : n = name
    · simp [place, h]
    · have hb : (n == name) = false := by simpa using h
      simp [place, List.lookup_cons, h, hb]
  | cons e rest ih =>
    obtain ⟨m, t⟩ := e
    rw [place]
    split
    · by_cases h : n = name
      · simp [h]
      · have hb : (n == name) = false := by simpa using h
        simp [List.lookup_cons, h, hb]
    · split
      · rename_i hm; subst hm
        by_cases h : n = name
        · simp [h]
        · have hb : (n == name) = false := by simpa using h
          simp [List.lookup_cons, h, hb]
      · rename_i hne
        by_cases h : n = m
        · subst h
          have : n ≠ name := fun e => hne e.symm
          simp [this]
        · have hb : (n == m) = false := by simpa using h
          simp only [List.lookup_cons, hb, ih]

end Fields

end PathTemplate
