import PathTemplate.Proofs.PatternSet.Grammar

/-!
# Reading members and items

A name is found exactly if members are written there, and their values stand
between the colon and the members behind. What stands there is left to others.
-/

namespace PathTemplate.PatternSet

open Json (IsBlank PartAt Stops colon skipBlanks stringBody)

variable {first : Bool} {text rest behind t : List Char}

/-! ## Members -/

section Members

variable {name : String} {members : List (String × List Char)}

theorem nextName_eq_none_iff :
    nextName first text = .ok (none, rest) ↔ skipBlanks text = '}' :: rest := by
  constructor
  · intro h
    rw [nextName] at h
    split at h
    · cases h
    · rename_i hskip
      cases h
      exact hskip
    · dsimp only at h
      split at h
      · obtain ⟨r, -, h⟩ := exists_of_bind_eq_ok h
        cases h
      · cases h
      · cases h
  · intro hskip
    rw [nextName, hskip]
    rfl

theorem nextName_eq_some_iff :
    nextName first text = .ok (some name, rest) ↔
      ∃ start tail s, name = String.ofList s ∧ PartAt first text start ∧
        skipBlanks start = '"' :: tail ∧ stringBody .read tail = .ok (s, rest) := by
  constructor
  · intro h
    rw [nextName] at h
    split at h
    · cases h
    · cases h
    · rename_i c tail _ hskip
      dsimp only at h
      split at h
      · rename_i name' hname
        obtain ⟨⟨s, behind⟩, hs, h⟩ := exists_of_bind_eq_ok h
        cases h
        cases first with
        | true =>
            cases hname
            exact ⟨text, tail, s, rfl, rfl, hskip, hs⟩
        | false =>
            obtain ⟨rfl, hquote⟩ : c = ',' ∧ skipBlanks tail = '"' :: name' := by
              simpa [Option.ite_none_right_eq_some] using hname
            exact ⟨tail, name', s, rfl, hskip, hquote, hs⟩
      · cases h
      · cases h
  · rintro ⟨start, tail, s, rfl, hstart, hquote, hs⟩
    cases first with
    | true =>
        obtain rfl : start = text := hstart
        rw [nextName, hquote]
        simp [hs, bind, Except.bind, pure, Except.pure]
    | false =>
        have hstart : skipBlanks text = ',' :: start := hstart
        rw [nextName, hstart]
        simp [hquote, hs, bind, Except.bind, pure, Except.pure]

theorem membersText_nil (h : nextName first text = .ok (none, rest)) :
    ∃ t, text = t ++ rest ∧ MembersText first [] t :=
  Json.exists_of_skipBlanks .blank (nextName_eq_none_iff.1 h) .nil

theorem membersText_cons {name : String} {v u : List Char}
    (h : nextName first text = .ok (some name, behind))
    (hcolon : colon behind = .ok (v ++ (u ++ rest))) (hu : MembersText false members u) :
    ∃ t, text = t ++ rest ∧ MembersText first ((name, v) :: members) t := by
  obtain ⟨start, tail, s, rfl, hstart, hquote, hs⟩ := nextName_eq_some_iff.1 h
  obtain ⟨n, rfl, hn⟩ := Json.stringText_of_stringBody hs
  obtain ⟨b, hb, rfl⟩ := Json.colon_eq_ok_iff.1 hcolon
  have hquote' : skipBlanks start = '"' :: (n ++ '"' :: (b ++ ':' :: (v ++ u))) ++ rest := by
    rw [hquote]
    simp only [List.cons_append, List.append_assoc]
  have hmember : MembersText true ((String.ofList s, v) :: members) _ := .member hn hb hu
  obtain ⟨w, rfl, hw⟩ := Json.exists_of_skipBlanks .blank hquote' hmember
  cases first with
  | true =>
      obtain rfl : w ++ rest = text := hstart
      exact ⟨w, rfl, hw⟩
  | false =>
      have hskip : skipBlanks text = ',' :: w ++ rest := hstart
      exact Json.exists_of_skipBlanks .blank hskip (.another hw)

theorem nextName_blank {c : Char} (hc : IsBlank c) (text : List Char) :
    nextName first (c :: text) = nextName first text := by
  rw [nextName, nextName, Json.skipBlanks_blank hc]

theorem nextName_comma (h : nextName true text = .ok (some name, rest)) :
    nextName false (',' :: text) = .ok (some name, rest) := by
  obtain ⟨start, tail, s, hname, hstart, hquote, hs⟩ := nextName_eq_some_iff.1 h
  obtain rfl : start = text := hstart
  exact nextName_eq_some_iff.2 ⟨start, tail, s, hname, rfl, hquote, hs⟩

theorem nextName_of_nil (h : MembersText first [] t) (rest : List Char) :
    nextName first (t ++ rest) = .ok (none, rest) := by
  generalize hnil : ([] : List (String × List Char)) = members at h
  induction h with
  | blank hc _ ih => rw [List.cons_append, nextName_blank hc, ih hnil]
  | nil => exact nextName_eq_none_iff.2 rfl
  | member _ _ _ _ => cases hnil
  | another _ _ => cases hnil

theorem nextName_of_cons {v : List Char} (h : MembersText first ((name, v) :: members) t)
    (rest : List Char) :
    ∃ behind u, nextName first (t ++ rest) = .ok (some name, behind) ∧
      colon behind = .ok (v ++ (u ++ rest)) ∧ MembersText false members u := by
  generalize hcons : (name, v) :: members = all at h
  induction h with
  | blank hc _ ih =>
      rw [List.cons_append, nextName_blank hc]
      exact ih hcons
  | nil => cases hcons
  | @member members s n b v u hname hb hu _ =>
      cases hcons
      refine ⟨b ++ ':' :: (v ++ (u ++ rest)), u, ?_, Json.colon_eq_ok_iff.2 ⟨b, hb, rfl⟩, hu⟩
      have hs := Json.stringBody_append hname (b ++ ':' :: (v ++ (u ++ rest)))
      simp only [List.cons_append, List.append_assoc]
      exact nextName_eq_some_iff.2 ⟨_, _, s, rfl, rfl, rfl, hs⟩
  | another _ ih =>
      obtain ⟨behind, u, hnext, hread⟩ := ih hcons
      exact ⟨behind, u, nextName_comma hnext, hread⟩

theorem MembersText.stops (h : MembersText false members t) (rest : List Char) :
    Stops (t ++ rest) := by
  cases h with
  | blank hc _ => exact Json.stops_cons (.inl hc) _
  | nil | another _ => exact Json.stops_cons (by decide) _

theorem MembersText.length_lt (h : MembersText first members t) : members.length < t.length := by
  induction h with
  | blank _ _ ih => exact Nat.lt_succ_of_lt ih
  | nil => exact Nat.zero_lt_one
  | member _ _ _ ih =>
      simp only [List.length_cons, List.length_append]
      omega
  | another _ ih => exact Nat.lt_succ_of_lt ih

end Members

/-! ## Items -/

section Items

variable {items : List (List Char)}

theorem anotherItem_eq_false_iff :
    anotherItem first text = .ok (false, behind) ↔
      ∃ tail, skipBlanks text = ']' :: tail ∧ behind = ']' :: tail := by
  constructor
  · intro h
    rw [anotherItem] at h
    split at h
    · cases h
    · rename_i tail hskip
      cases h
      exact ⟨tail, hskip, rfl⟩
    · split at h
      · cases h
      · split at h
        · split at h <;> cases h
        · cases h
  · rintro ⟨tail, hskip, rfl⟩
    rw [anotherItem, hskip]
    rfl

theorem anotherItem_eq_true_iff :
    anotherItem first text = .ok (true, behind) ↔
      ∃ start c tail, PartAt first text start ∧ skipBlanks start = c :: tail ∧ c ≠ ']' ∧
        behind = c :: tail := by
  constructor
  · intro h
    rw [anotherItem] at h
    split at h
    · cases h
    · cases h
    · rename_i c tail hclose hskip
      cases first with
      | true =>
          cases h
          exact ⟨text, c, tail, rfl, hskip, hclose, rfl⟩
      | false =>
          rw [if_neg Bool.false_ne_true] at h
          split at h
          · rename_i hcomma
            subst hcomma
            split at h
            · cases h
            · cases h
            · rename_i hempty hend
              cases h
              obtain ⟨d, tail', hskip'⟩ := List.exists_cons_of_ne_nil hempty
              refine ⟨tail, d, tail', hskip, hskip', ?_, hskip'⟩
              rintro rfl
              exact hend tail' hskip'
          · cases h
  · rintro ⟨start, c, tail, hstart, hskip, hclose, rfl⟩
    cases first with
    | true =>
        obtain rfl : start = text := hstart
        rw [anotherItem, hskip]
        simp
    | false =>
        have hstart : skipBlanks text = ',' :: start := hstart
        rw [anotherItem, hstart]
        simp [hskip, hclose]

theorem itemsText_nil (h : skipBlanks text = ']' :: rest) :
    ∃ t, text = t ++ rest ∧ ItemsText first [] t :=
  Json.exists_of_skipBlanks .blank h .nil

theorem itemsText_cons {v u : List Char}
    (h : anotherItem first text = .ok (true, v ++ (u ++ rest))) (hu : ItemsText false items u) :
    ∃ t, text = t ++ rest ∧ ItemsText first (v :: items) t := by
  obtain ⟨start, c, tail, hstart, hskip, -, hbehind⟩ := anotherItem_eq_true_iff.1 h
  have hstart' : skipBlanks start = v ++ u ++ rest := by
    rw [hskip, ← hbehind, List.append_assoc]
  have hitem : ItemsText true (v :: items) _ := .item hu
  obtain ⟨w, rfl, hw⟩ := Json.exists_of_skipBlanks .blank hstart' hitem
  cases first with
  | true =>
      obtain rfl : w ++ rest = text := hstart
      exact ⟨w, rfl, hw⟩
  | false =>
      have hskip : skipBlanks text = ',' :: w ++ rest := hstart
      exact Json.exists_of_skipBlanks .blank hskip (.another hw)

theorem skipBlanks_of_nil (h : ItemsText first [] t) (rest : List Char) :
    skipBlanks (t ++ rest) = ']' :: rest := by
  generalize hnil : ([] : List (List Char)) = items at h
  induction h with
  | blank hc _ ih => rw [List.cons_append, Json.skipBlanks_blank hc, ih hnil]
  | nil => rfl
  | item _ _ => cases hnil
  | another _ _ => cases hnil

/-- A text that does not start with the end of an array. -/
def Begins (t : List Char) : Prop := ∃ c tail, skipBlanks t = c :: tail ∧ c ≠ ']'

theorem ItemsText.stops (h : ItemsText false items t) (rest : List Char) :
    Stops (t ++ rest) := by
  cases h with
  | blank hc _ => exact Json.stops_cons (.inl hc) _
  | nil | another _ => exact Json.stops_cons (by decide) _

theorem anotherItem_blank {c : Char} (hc : IsBlank c) (text : List Char) :
    anotherItem first (c :: text) = anotherItem first text := by
  rw [anotherItem, anotherItem, Json.skipBlanks_blank hc]

theorem anotherItem_of_cons {v : List Char} (h : ItemsText first (v :: items) t) (hv : Begins v)
    (rest : List Char) :
    ∃ u, anotherItem first (t ++ rest) = .ok (true, skipBlanks (v ++ (u ++ rest))) ∧
      ItemsText false items u := by
  obtain ⟨c, tail, hskip, hclose⟩ := hv
  generalize hcons : v :: items = all at h
  induction h with
  | blank hc _ ih =>
      rw [List.cons_append, anotherItem_blank hc]
      exact ih hcons
  | nil => cases hcons
  | @item items v u hu _ =>
      cases hcons
      have hstart := Json.skipBlanks_append_of_cons hskip (u ++ rest)
      refine ⟨u, ?_, hu⟩
      rw [List.append_assoc]
      exact anotherItem_eq_true_iff.2 ⟨_, c, _, rfl, hstart, hclose, hstart⟩
  | another _ ih =>
      obtain ⟨u, hread, hu⟩ := ih hcons
      obtain ⟨start, d, tail', hstart, hread⟩ := anotherItem_eq_true_iff.1 hread
      cases hstart
      exact ⟨u, anotherItem_eq_true_iff.2 ⟨_, d, tail', rfl, hread⟩, hu⟩

end Items

end PathTemplate.PatternSet
