import Mathlib.Data.List.Perm.Basic
import PathTemplate.Proofs.Outcome
import PathTemplate.Regex.Reading

/-!
# Groups are told apart

While an expression is read, every group that captures gets a number that no
group before it has, and a name is refused if a group has it already. In the
tree that comes out, numbers and names therefore tell the groups apart.
-/

namespace PathTemplate.Regex

/-- The number and the name that parentheses capture under, if they do. -/
def GroupKind.captures : GroupKind → List (Nat × Option String)
  | capture index name => [(index, name)]
  | plain _ => []

namespace Expr

mutual

/-- The groups that capture, from left to right. -/
def captures : Expr → List (Nat × Option String)
  | repetition _ _ _ body => body.captures
  | group kind body => kind.captures ++ body.captures
  | alternation branches => capturesAll branches
  | concat parts => capturesAll parts
  | _ => []

/-- The groups that capture in a list of expressions. -/
def capturesAll : List Expr → List (Nat × Option String)
  | [] => []
  | e :: rest => e.captures ++ capturesAll rest

end

theorem capturesAll_append (es es' : List Expr) :
    capturesAll (es ++ es') = capturesAll es ++ capturesAll es' := by
  induction es with
  | nil => rfl
  | cons e rest ih => rw [List.cons_append, capturesAll, capturesAll, ih, List.append_assoc]

theorem capturesAll_reverse (es : List Expr) :
    (capturesAll es.reverse).Perm (capturesAll es) := by
  induction es with
  | nil => exact .refl _
  | cons e rest ih =>
      rw [List.reverse_cons, capturesAll_append, capturesAll, capturesAll, capturesAll,
        List.append_nil]
      exact List.perm_append_comm.trans (ih.append_left _)

/-- A group among expressions is one of their groups. -/
theorem mem_capturesAll_of_mem {index : Nat} {name : Option String} {body : Expr} {es : List Expr}
    (h : .group (.capture index name) body ∈ es) : (index, name) ∈ capturesAll es := by
  induction es with
  | nil => cases h
  | cons e rest ih =>
      rw [capturesAll, List.mem_append]
      rcases List.mem_cons.1 h with rfl | h
      · rw [captures]
        exact .inl List.mem_cons_self
      · exact .inr (ih h)

theorem captures_ofParts (es : List Expr) : (ofParts es).captures = capturesAll es := by
  match es with
  | [] => rfl
  | [e] => rw [ofParts, capturesAll, capturesAll, List.append_nil]
  | _ :: _ :: _ => rfl

/-- The name and the number of a group that has both. -/
def named? (g : Nat × Option String) : Option (String × Nat) :=
  g.2.map (·, g.1)

mutual

/-- The names of groups are those of the groups that capture under a name. -/
theorem groupNames_eq (e : Expr) : e.groupNames = e.captures.filterMap named? := by
  match e with
  | empty | flags _ | char _ | dot | place _ | charClass _ => rfl
  | repetition _ _ _ body => exact groupNames_eq body
  | group (.capture index none) body =>
      rw [groupNames, captures, GroupKind.captures, groupNames_eq body]
      · rfl
      · intro _ _ h
        cases h
  | group (.capture index (some name)) body =>
      rw [groupNames, captures, GroupKind.captures, groupNames_eq body]
      rfl
  | group (.plain change) body =>
      rw [groupNames, captures, GroupKind.captures, groupNames_eq body]
      · rfl
      · intro _ _ h
        cases h
  | alternation branches => exact groupNamesAll_eq branches
  | concat parts => exact groupNamesAll_eq parts

theorem groupNamesAll_eq (es : List Expr) :
    groupNamesAll es = (capturesAll es).filterMap named? := by
  match es with
  | [] => rfl
  | e :: rest =>
      rw [groupNamesAll, capturesAll, List.filterMap_append, groupNames_eq e,
        groupNamesAll_eq rest]

end

end Expr

/-! ## What has been found -/

/-- The groups of the parts that have been read. -/
def Level.found (l : Level) : List (Nat × Option String) :=
  Expr.capturesAll l.parts ++ Expr.capturesAll l.branches

/-- A group that is open and the groups around it. -/
def OpenGroup.found (g : OpenGroup) : List (Nat × Option String) :=
  g.kind.captures ++ g.around.found

/-- All groups that have been found, with those that are open. -/
def Reading.found (r : Reading) : List (Nat × Option String) :=
  r.level.found ++ r.opened.flatMap OpenGroup.found

namespace Level

theorem found_push (l : Level) (e : Expr) : (l.push e).found = e.captures ++ l.found := by
  rw [found, found, push, Expr.capturesAll, List.append_assoc]

theorem found_branch (l : Level) : l.branch.found.Perm l.found := by
  rw [found, found, branch, Expr.capturesAll, Expr.capturesAll, Expr.captures_ofParts,
    List.nil_append]
  exact (Expr.capturesAll_reverse _).append_right _

/-- A level that is closed keeps its groups. -/
theorem captures_close (l : Level) : l.close.captures.Perm l.found := by
  unfold close
  split
  · rename_i hbranches
    rw [Expr.captures_ofParts, found, hbranches, Expr.capturesAll, List.append_nil]
    exact Expr.capturesAll_reverse _
  · rw [Expr.captures]
    refine (Expr.capturesAll_reverse _).trans ?_
    exact found_branch l

end Level

/-- Numbers count from one and no group is given the number or the name of another one. -/
structure WellNumbered (groups : List (Nat × Option String)) : Prop where
  pos : ∀ g ∈ groups, 0 < g.1
  numbers : (groups.map Prod.fst).Nodup
  names : (groups.filterMap Prod.snd).Nodup

theorem WellNumbered.perm {groups groups' : List (Nat × Option String)} (h : WellNumbered groups)
    (hperm : groups'.Perm groups) : WellNumbered groups' where
  pos g hg := h.pos g (hperm.mem_iff.1 hg)
  numbers := (hperm.map Prod.fst).nodup_iff.2 h.numbers
  names := (hperm.filterMap Prod.snd).nodup_iff.2 h.names

namespace Reading

/-- The groups that have been found are told apart, their numbers have been counted and their
names are known. -/
structure Counted (r : Reading) : Prop where
  numbered : WellNumbered r.found
  counted : ∀ g ∈ r.found, g.1 ≤ r.captures
  known : ∀ name ∈ r.found.filterMap Prod.snd, name ∈ r.names

/-- What a step does to the groups that have been found: nothing, or there is one more under the
next number, whose name is new. -/
inductive Finds (r r' : Reading) : Prop
  | nothing (found : r'.found.Perm r.found) (captures : r'.captures = r.captures)
      (names : r'.names = r.names)
  | group (name : Option String) (new : ∀ n, name = some n → n ∉ r.names)
      (found : r'.found.Perm ((r.captures + 1, name) :: r.found))
      (captures : r'.captures = r.captures + 1) (names : r'.names = name.toList ++ r.names)

theorem Counted.of_finds {r r' : Reading} (hr : r.Counted) (h : Finds r r') : r'.Counted := by
  cases h with
  | nothing found captures names =>
      refine ⟨hr.numbered.perm found, fun g hg => ?_, fun n hn => ?_⟩
      · rw [captures]
        exact hr.counted g (found.mem_iff.1 hg)
      · rw [names]
        exact hr.known n ((found.filterMap Prod.snd).mem_iff.1 hn)
  | group name new found captures names =>
      have hnumber : r.captures + 1 ∉ r.found.map Prod.fst := by
        intro hmem
        obtain ⟨g, hg, heq⟩ := List.mem_map.1 hmem
        have := hr.counted g hg
        omega
      refine ⟨WellNumbered.perm ⟨?_, ?_, ?_⟩ found, fun g hg => ?_, fun n hn => ?_⟩
      · intro g hg
        rcases List.mem_cons.1 hg with rfl | hg
        · exact Nat.succ_pos _
        · exact hr.numbered.pos g hg
      · exact List.nodup_cons.2 ⟨hnumber, hr.numbered.numbers⟩
      · cases name with
        | none => exact hr.numbered.names
        | some n =>
            exact List.nodup_cons.2 ⟨fun hn => new n rfl (hr.known n hn), hr.numbered.names⟩
      · rw [captures]
        rcases List.mem_cons.1 (found.mem_iff.1 hg) with rfl | hg
        · exact Nat.le_refl _
        · exact Nat.le_succ_of_le (hr.counted g hg)
      · rw [names, List.mem_append]
        have hn := (found.filterMap Prod.snd).mem_iff.1 hn
        cases name with
        | none => exact .inr (hr.known n hn)
        | some m =>
            rcases List.mem_cons.1 hn with rfl | hn
            · exact .inl List.mem_cons_self
            · exact .inr (hr.known n hn)

theorem finds_push {r : Reading} {e : Expr} (rest : List Char) (he : e.captures = []) :
    Finds r (r.push e rest) := by
  refine .nothing ?_ rfl rfl
  rw [found, push, Level.found_push, he]
  exact .refl _

/-! ## Groups begin and end -/

/-- A group that captures gets the number it is offered. -/
theorem index_of_opening {verbose : Bool} {next index : Nat} {name : Option String}
    {text rest : List Char}
    (h : opening verbose next text = .ok (.group (.capture index name), rest)) :
    index = next := by
  unfold opening at h
  split at h
  case h_5 =>
    obtain ⟨p, -, h⟩ := exists_of_bind_eq_ok h
    cases h
    rfl
  case h_6 =>
    obtain ⟨p, -, h⟩ := exists_of_bind_eq_ok h
    cases h
    rfl
  case h_8 =>
    obtain ⟨p, -, h⟩ := exists_of_bind_eq_ok h
    split at h
    · cases h
    · split at h <;> cases h
  case h_9 =>
    cases h
    rfl
  all_goals cases h

theorem finds_of_begin {r r' : Reading} {text : List Char} (h : r.begin text = .ok r') :
    Finds r r' := by
  obtain ⟨⟨o, rest⟩, ho, h⟩ := exists_of_bind_eq_ok h
  cases o with
  | flags change =>
      cases h
      have hfound : (r.level.push (.flags change)).found = r.level.found :=
        Level.found_push r.level (.flags change)
      exact .nothing (.append_right _ (.of_eq hfound)) rfl rfl
  | group kind =>
      cases kind with
      | plain change =>
          cases h
          exact .nothing (.refl _) rfl rfl
      | capture index name =>
          have hindex := index_of_opening ho
          subst hindex
          cases name with
          | none =>
              cases h
              exact .group none (fun n hn => nomatch hn) List.perm_middle rfl rfl
          | some n =>
              simp only at h
              split at h
              · cases h
              · rename_i hnew
                cases h
                refine .group (some n) (fun m hm => ?_) ?_ rfl rfl
                · cases hm
                  simpa using hnew
                · exact List.perm_middle

theorem finds_of_finish {r r' : Reading} {rest : List Char} (h : r.finish rest = .ok r') :
    Finds r r' := by
  unfold finish at h
  split at h
  · cases h
  · rename_i g outer hopened
    cases h
    refine .nothing ?_ rfl rfl
    rw [found, found, Level.found_push, Expr.captures, hopened, List.flatMap_cons,
      OpenGroup.found, ← List.append_assoc, ← List.append_assoc]
    refine List.Perm.append_right _ (List.Perm.append_right _ ?_)
    exact List.perm_append_comm.trans (r.level.captures_close.append_right _)

theorem finds_of_repetition {r r' : Reading} {min : Nat} {max : Option Nat} {greedy : Bool}
    {rest : List Char} (h : r.repetition min max greedy rest = .ok r') : Finds r r' := by
  unfold repetition at h
  split at h
  · cases h
  · cases h
  · cases h
  · rename_i e parts _ _ hparts
    cases h
    refine .nothing ?_ rfl rfl
    rw [found, found, Level.found, Level.found, hparts]
    exact .refl _

theorem captures_escape (e : Escape) : e.expr.captures = [] := by
  cases e <;> rfl

theorem finds_of_step {r r' : Reading} {c : Char} {rest : List Char}
    (h : step r c rest = .ok r') : Finds r r' := by
  unfold step at h
  split at h
  case h_1 => exact finds_of_begin h
  case h_2 => exact finds_of_finish h
  case h_3 =>
    cases h
    exact .nothing (r.level.found_branch.append_right _) rfl rfl
  case h_4 =>
    obtain ⟨p, -, h⟩ := exists_of_bind_eq_ok h
    cases h
    exact finds_push p.2 rfl
  case h_5 => exact finds_of_repetition h
  case h_6 => exact finds_of_repetition h
  case h_7 => exact finds_of_repetition h
  case h_8 =>
    obtain ⟨p, -, h⟩ := exists_of_bind_eq_ok h
    exact finds_of_repetition h
  case h_9 =>
    obtain ⟨p, -, h⟩ := exists_of_bind_eq_ok h
    cases h
    exact finds_push p.2 (captures_escape p.1)
  all_goals
    cases h
    exact finds_push rest rfl

/-- The groups of an expression that has been read are told apart. -/
theorem wellNumbered_of_run {fuel : Nat} {r : Reading} {e : Expr} (hr : r.Counted)
    (h : run fuel r = .ok e) : WellNumbered e.captures := by
  induction fuel generalizing r with
  | zero => cases h
  | succ fuel ih =>
      rw [run] at h
      split at h
      · split at h
        · rename_i hopened
          cases h
          refine hr.numbered.perm ?_
          rw [found, List.isEmpty_iff.1 hopened, List.flatMap_nil, List.append_nil]
          exact r.level.captures_close
        · cases h
      · split at h
        · cases h
        · rename_i hstep
          exact ih (hr.of_finds (finds_of_step hstep)) h

end Reading

/-- An expression that is not nested too deep is what the reader makes of the whole text. -/
theorem run_of_readExpr {text : List Char} {e : Expr} (h : readExpr text = .ok e) :
    Reading.run (text.length + 1) { rest := text } = .ok e := by
  obtain ⟨e', hrun, h⟩ := exists_of_bind_eq_ok h
  split at h
  · cases h
    exact hrun
  · cases h

theorem wellNumbered_of_readExpr {text : List Char} {e : Expr} (h : readExpr text = .ok e) :
    WellNumbered e.captures := by
  have hstart : Reading.Counted { rest := text } := by
    refine ⟨⟨?_, List.nodup_nil, List.nodup_nil⟩, ?_, ?_⟩
    · rintro g ⟨⟩
    · rintro g ⟨⟩
    · rintro name ⟨⟩
  exact Reading.wellNumbered_of_run hstart (run_of_readExpr h)

end PathTemplate.Regex
