import PathTemplate.Regex.Search

/-!
# Searches follow expressions

A search that succeeds has followed one thread from a start to acceptance. What
such a thread does inside the code of an expression is a run of the expression:
it goes over the text part by part and remembers the places of groups. The
expression is left only behind its code, so a concatenation is run one part
after the other.
-/

namespace PathTemplate.Regex

/-! ## Threads -/

/-- A thread is accepted after a number of steps, with the trail it has then. -/
inductive Leads (program : Array Instr) (text : Array Char) : Nat → Thread → Trail → Prop
  | accept {t : Thread} (h : program[t.instr]? = some .accept) : Leads program text 0 t t.trail
  | step {n : Nat} {t t' : Thread} {i : Instr} {out : Trail} (hi : program[t.instr]? = some i)
      (ht : t' ∈ next text t i) (h : Leads program text n t' out) :
      Leads program text (n + 1) t out

/-- What a search returns is the trail of one of its threads. -/
theorem leads_of_follow {program : Array Instr} {text : Array Char} {fuel : Nat}
    {threads : List Thread} {seen : Std.HashSet (Nat × Nat)} {out : Trail}
    (h : follow program text fuel threads seen = some out) :
    ∃ t ∈ threads, ∃ n, Leads program text n t out := by
  induction fuel generalizing threads seen with
  | zero =>
      rw [follow] at h
      cases h
  | succ fuel ih =>
      cases threads with
      | nil =>
          rw [follow] at h
          · cases h
          · intro e
            cases e
      | cons t rest =>
          have later : (∃ t' ∈ rest, ∃ n, Leads program text n t' out) →
              ∃ t' ∈ t :: rest, ∃ n, Leads program text n t' out := by
            rintro ⟨t', ht', hn⟩
            exact ⟨t', List.mem_cons_of_mem _ ht', hn⟩
          rw [follow] at h
          split at h
          · exact later (ih h)
          · split at h
            · exact later (ih h)
            · rename_i haccept
              cases h
              exact ⟨t, List.mem_cons_self, 0, .accept haccept⟩
            · rename_i i _ hi
              obtain ⟨t', ht', n, hn⟩ := ih h
              rcases List.mem_append.1 ht' with hnext | hrest
              · exact ⟨t, List.mem_cons_self, n + 1, .step hi hnext hn⟩
              · exact later ⟨t', hrest, n, hn⟩

namespace Leads

variable {program : Array Instr} {text : Array Char} {n at_ p : Nat} {tr out : Trail}

/-- At any other instruction a thread goes on. -/
theorem exists_next {i : Instr} (h : Leads program text n ⟨at_, p, tr⟩ out)
    (hi : program[at_]? = some i) (hne : i ≠ .accept) :
    ∃ m t, n = m + 1 ∧ t ∈ next text ⟨at_, p, tr⟩ i ∧ Leads program text m t out := by
  cases h with
  | accept haccept =>
      rw [hi] at haccept
      exact absurd (Option.some.inj haccept) hne
  | step hi' ht h' =>
      rw [hi] at hi'
      cases hi'
      exact ⟨_, _, rfl, ht, h'⟩

theorem one {k : CharClass} (h : Leads program text n ⟨at_, p, tr⟩ out)
    (hi : program[at_]? = some (.one k)) :
    ∃ m c, n = m + 1 ∧ text[p]? = some c ∧ k.has c = true ∧
      Leads program text m ⟨at_ + 1, p + 1, tr⟩ out := by
  obtain ⟨m, t, rfl, ht, h'⟩ := h.exists_next hi Instr.noConfusion
  simp only [next] at ht
  split at ht
  · rename_i c hc
    split at ht
    · rename_i hk
      rw [List.mem_singleton] at ht
      subst ht
      exact ⟨m, c, rfl, hc, hk, h'⟩
    · cases ht
  · cases ht

theorem assert {a : Assertion} (h : Leads program text n ⟨at_, p, tr⟩ out)
    (hi : program[at_]? = some (.assert a)) :
    ∃ m, n = m + 1 ∧ a.holds (before? text p) text[p]? = true ∧
      Leads program text m ⟨at_ + 1, p, tr⟩ out := by
  obtain ⟨m, t, rfl, ht, h'⟩ := h.exists_next hi Instr.noConfusion
  simp only [next] at ht
  split at ht
  · rename_i ha
    rw [List.mem_singleton] at ht
    subst ht
    exact ⟨m, rfl, ha, h'⟩
  · cases ht

theorem mark {slot : Nat} (h : Leads program text n ⟨at_, p, tr⟩ out)
    (hi : program[at_]? = some (.mark slot)) :
    ∃ m, n = m + 1 ∧ Leads program text m ⟨at_ + 1, p, (slot, p) :: tr⟩ out := by
  obtain ⟨m, t, rfl, ht, h'⟩ := h.exists_next hi Instr.noConfusion
  rw [next, List.mem_singleton] at ht
  subst ht
  exact ⟨m, rfl, h'⟩

theorem jump {target : Nat} (h : Leads program text n ⟨at_, p, tr⟩ out)
    (hi : program[at_]? = some (.jump target)) :
    ∃ m, n = m + 1 ∧ Leads program text m ⟨target, p, tr⟩ out := by
  obtain ⟨m, t, rfl, ht, h'⟩ := h.exists_next hi Instr.noConfusion
  rw [next, List.mem_singleton] at ht
  subst ht
  exact ⟨m, rfl, h'⟩

theorem split {first second : Nat} (h : Leads program text n ⟨at_, p, tr⟩ out)
    (hi : program[at_]? = some (.split first second)) :
    ∃ m, n = m + 1 ∧ (Leads program text m ⟨first, p, tr⟩ out ∨
      Leads program text m ⟨second, p, tr⟩ out) := by
  obtain ⟨m, t, rfl, ht, h'⟩ := h.exists_next hi Instr.noConfusion
  rw [next, List.mem_cons, List.mem_singleton] at ht
  rcases ht with rfl | rfl
  · exact ⟨m, rfl, .inl h'⟩
  · exact ⟨m, rfl, .inr h'⟩

/-- Either way of a choice may be the one that is tried first. -/
theorem choose {greedy : Bool} {more done : Nat} (h : Leads program text n ⟨at_, p, tr⟩ out)
    (hi : program[at_]? = some (.choose greedy more done)) :
    ∃ m, n = m + 1 ∧ (Leads program text m ⟨more, p, tr⟩ out ∨
      Leads program text m ⟨done, p, tr⟩ out) := by
  cases greedy with
  | true => exact h.split hi
  | false =>
      obtain ⟨m, hm, h'⟩ := h.split hi
      exact ⟨m, hm, h'.symm⟩

end Leads

/-! ## Runs -/

/-- An expression is run from a place to another one, and remembers places on the way. -/
inductive Runs (text : Array Char) : Core → Nat → Trail → Nat → Trail → Prop
  | empty {p : Nat} {tr : Trail} : Runs text .empty p tr p tr
  | one {k : CharClass} {c : Char} {p : Nat} {tr : Trail} (hc : text[p]? = some c)
      (hk : k.has c = true) : Runs text (.one k) p tr (p + 1) tr
  | assert {a : Assertion} {p : Nat} {tr : Trail}
      (h : a.holds (before? text p) text[p]? = true) : Runs text (.assert a) p tr p tr
  | cat {first second : Core} {p q s : Nat} {tr tr₁ tr₂ : Trail}
      (h₁ : Runs text first p tr q tr₁) (h₂ : Runs text second q tr₁ s tr₂) :
      Runs text (.cat first second) p tr s tr₂
  | altFirst {first second : Core} {p q : Nat} {tr tr' : Trail}
      (h : Runs text first p tr q tr') : Runs text (.alt first second) p tr q tr'
  | altSecond {first second : Core} {p q : Nat} {tr tr' : Trail}
      (h : Runs text second p tr q tr') : Runs text (.alt first second) p tr q tr'
  | timesZero {body : Core} {p : Nat} {tr : Trail} : Runs text (.times 0 body) p tr p tr
  | timesSucc {n : Nat} {body : Core} {p q s : Nat} {tr tr₁ tr₂ : Trail}
      (h₁ : Runs text body p tr q tr₁) (h₂ : Runs text (.times n body) q tr₁ s tr₂) :
      Runs text (.times (n + 1) body) p tr s tr₂
  | upToStop {n : Nat} {greedy : Bool} {body : Core} {p : Nat} {tr : Trail} :
      Runs text (.upTo n greedy body) p tr p tr
  | upToMore {n : Nat} {greedy : Bool} {body : Core} {p q s : Nat} {tr tr₁ tr₂ : Trail}
      (h₁ : Runs text body p tr q tr₁) (h₂ : Runs text (.upTo n greedy body) q tr₁ s tr₂) :
      Runs text (.upTo (n + 1) greedy body) p tr s tr₂
  | plusLast {greedy : Bool} {body : Core} {p q : Nat} {tr tr' : Trail}
      (h : Runs text body p tr q tr') : Runs text (.plus greedy body) p tr q tr'
  | plusMore {greedy : Bool} {body : Core} {p q s : Nat} {tr tr₁ tr₂ : Trail}
      (h₁ : Runs text body p tr q tr₁) (h₂ : Runs text (.plus greedy body) q tr₁ s tr₂) :
      Runs text (.plus greedy body) p tr s tr₂
  | capture {index : Nat} {body : Core} {p q : Nat} {tr tr' : Trail}
      (h : Runs text body p ((startSlot index, p) :: tr) q tr') :
      Runs text (.capture index body) p tr q ((endSlot index, q) :: tr')

/-! ## Code -/

namespace Core

/-- A choice takes an instruction in front of its first branch and one in front of the second. -/
theorem add_size_alt (at_ : Nat) (first second : Core) :
    at_ + (alt first second).size = at_ + 2 + first.size + second.size := by
  rw [size]
  omega

theorem add_size_capture (at_ index : Nat) (body : Core) :
    at_ + (capture index body).size = at_ + 1 + body.size + 1 := by
  rw [size]
  omega

/-- One turn more takes a choice and the body. -/
theorem add_size_upTo (at_ n : Nat) (body : Core) :
    at_ + (n + 1) * (body.size + 1) = at_ + 1 + body.size + n * (body.size + 1) := by
  rw [Nat.succ_mul]
  omega

end Core

/-- A program has code from a position on. -/
def Holds (program : Array Instr) (at_ : Nat) (code : List Instr) : Prop :=
  ∀ k i, code[k]? = some i → program[at_ + k]? = some i

namespace Holds

variable {program : Array Instr} {at_ : Nat} {code more : List Instr} {i : Instr}

theorem left (h : Holds program at_ (code ++ more)) : Holds program at_ code := by
  intro k i hk
  apply h k i
  rw [List.getElem?_append_left (List.getElem?_eq_some_iff.1 hk).1]
  exact hk

theorem right (h : Holds program at_ (code ++ more)) :
    Holds program (at_ + code.length) more := by
  intro k i hk
  rw [Nat.add_assoc]
  apply h (code.length + k) i
  rw [List.getElem?_append_right (Nat.le_add_right _ _), Nat.add_sub_cancel_left]
  exact hk

/-- What stands behind the code of an expression. -/
theorem behind {e : Core} {a : Nat} (h : Holds program at_ (e.code a ++ more)) :
    Holds program (at_ + e.size) more := by
  rw [← Core.length_code e a]
  exact h.right

theorem head (h : Holds program at_ (i :: code)) : program[at_]? = some i :=
  h 0 i rfl

theorem tail (h : Holds program at_ (i :: code)) : Holds program (at_ + 1) code := by
  intro k j hk
  rw [Nat.add_assoc, Nat.add_comm 1 k]
  exact h (k + 1) j hk

end Holds

/-- The threads of a program pass through code from its first instruction to the place behind
its last one, as runs of an expression. -/
def Passes (program : Array Instr) (text : Array Char) (e : Core) (at_ behind : Nat) : Prop :=
  ∀ n p tr out, Leads program text n ⟨at_, p, tr⟩ out →
    ∃ m ≤ n, ∃ q tr', Runs text e p tr q tr' ∧ Leads program text m ⟨behind, q, tr'⟩ out

variable {program : Array Instr} {text : Array Char}

theorem Passes.leads {e : Core} {at_ behind n p : Nat} {tr out : Trail}
    (h : Passes program text e at_ behind) (hleads : Leads program text n ⟨at_, p, tr⟩ out) :
    ∃ m ≤ n, ∃ q tr', Runs text e p tr q tr' ∧ Leads program text m ⟨behind, q, tr'⟩ out :=
  h n p tr out hleads

theorem passes_times {body : Core} {n : Nat} {at_ : Nat}
    (hbody : ∀ a, Holds program a (body.code a) → Passes program text body a (a + body.size))
    (h : Holds program at_ (Core.copies body.code body.size n at_)) :
    Passes program text (.times n body) at_ (at_ + n * body.size) := by
  induction n generalizing at_ with
  | zero =>
      intro n p tr out hleads
      rw [Nat.zero_mul, Nat.add_zero]
      exact ⟨n, Nat.le_refl _, p, tr, .timesZero, hleads⟩
  | succ n ih =>
      intro k p tr out hleads
      rw [Core.copies] at h
      obtain ⟨m₁, hm₁, q, tr₁, hrun₁, hleads₁⟩ := (hbody at_ h.left).leads hleads
      obtain ⟨m₂, hm₂, s, tr₂, hrun₂, hleads₂⟩ := (ih h.behind).leads hleads₁
      refine ⟨m₂, Nat.le_trans hm₂ hm₁, s, tr₂, .timesSucc hrun₁ hrun₂, ?_⟩
      rw [Nat.succ_mul, Nat.add_comm (n * body.size), ← Nat.add_assoc]
      exact hleads₂

theorem passes_upTo {body : Core} {greedy : Bool} {n stop : Nat} {at_ : Nat}
    (hbody : ∀ a, Holds program a (body.code a) → Passes program text body a (a + body.size))
    (hstop : stop = at_ + n * (body.size + 1))
    (h : Holds program at_ (Core.optionals body.code body.size greedy stop n at_)) :
    Passes program text (.upTo n greedy body) at_ stop := by
  induction n generalizing at_ with
  | zero =>
      intro n p tr out hleads
      rw [Nat.zero_mul, Nat.add_zero] at hstop
      exact ⟨n, Nat.le_refl _, p, tr, .upToStop, hstop ▸ hleads⟩
  | succ n ih =>
      intro k p tr out hleads
      rw [Core.optionals] at h
      obtain ⟨m, rfl, hleads' | hleads'⟩ := hleads.choose h.head
      · obtain ⟨m₁, hm₁, q, tr₁, hrun₁, hleads₁⟩ := (hbody _ h.tail.left).leads hleads'
        have hstop' := hstop.trans (Core.add_size_upTo at_ n body)
        obtain ⟨m₂, hm₂, s, tr₂, hrun₂, hleads₂⟩ := (ih hstop' h.tail.behind).leads hleads₁
        exact ⟨m₂, by omega, s, tr₂, .upToMore hrun₁ hrun₂, hleads₂⟩
      · exact ⟨m, Nat.le_succ m, p, tr, .upToStop, hleads'⟩

/-- The loop is left for good in the end, since every turn takes steps away. -/
theorem passes_plus {body : Core} {greedy : Bool} {at_ : Nat}
    (hbody : Passes program text body at_ (at_ + body.size))
    (hi : program[at_ + body.size]? = some (.choose greedy at_ (at_ + body.size + 1))) :
    Passes program text (.plus greedy body) at_ (at_ + body.size + 1) := by
  intro n p tr out hleads
  induction n using Nat.strongRecOn generalizing p tr with
  | ind n ih =>
      obtain ⟨m₁, hm₁, q, tr₁, hrun₁, hleads₁⟩ := hbody.leads hleads
      obtain ⟨m, rfl, hleads' | hleads'⟩ := hleads₁.choose hi
      · obtain ⟨m₂, hm₂, s, tr₂, hrun₂, hleads₂⟩ := ih m (by omega) _ _ hleads'
        exact ⟨m₂, by omega, s, tr₂, .plusMore hrun₁ hrun₂, hleads₂⟩
      · exact ⟨m, by omega, q, tr₁, .plusLast hrun₁, hleads'⟩

/-- Whatever passes through the code of an expression runs the expression. -/
theorem passes_code (e : Core) {at_ : Nat} (h : Holds program at_ (e.code at_)) :
    Passes program text e at_ (at_ + e.size) := by
  induction e generalizing at_ with
  | empty =>
      intro n p tr out hleads
      exact ⟨n, Nat.le_refl _, p, tr, .empty, hleads⟩
  | one k =>
      intro n p tr out hleads
      obtain ⟨m, c, rfl, hc, hk, hleads'⟩ := hleads.one h.head
      exact ⟨m, Nat.le_succ m, p + 1, tr, .one hc hk, hleads'⟩
  | assert a =>
      intro n p tr out hleads
      obtain ⟨m, rfl, ha, hleads'⟩ := hleads.assert h.head
      exact ⟨m, Nat.le_succ m, p, tr, .assert ha, hleads'⟩
  | cat first second ih₁ ih₂ =>
      intro n p tr out hleads
      rw [Core.code] at h
      obtain ⟨m₁, hm₁, q, tr₁, hrun₁, hleads₁⟩ := (ih₁ h.left).leads hleads
      obtain ⟨m₂, hm₂, s, tr₂, hrun₂, hleads₂⟩ := (ih₂ h.behind).leads hleads₁
      refine ⟨m₂, Nat.le_trans hm₂ hm₁, s, tr₂, .cat hrun₁ hrun₂, ?_⟩
      rw [Core.size, ← Nat.add_assoc]
      exact hleads₂
  | alt first second ih₁ ih₂ =>
      intro n p tr out hleads
      rw [Core.code] at h
      have hfirst := h.tail.left
      have hjump := h.tail.behind
      rw [Core.add_size_alt]
      obtain ⟨m, rfl, hleads' | hleads'⟩ := hleads.split h.head
      · obtain ⟨m₁, hm₁, q, tr₁, hrun₁, hleads₁⟩ := (ih₁ hfirst).leads hleads'
        obtain ⟨m₂, rfl, hleads₂⟩ := hleads₁.jump hjump.head
        exact ⟨m₂, by omega, q, tr₁, .altFirst hrun₁, hleads₂⟩
      · have hsecond := hjump.tail
        have hat : at_ + 1 + first.size + 1 = at_ + 2 + first.size := by omega
        rw [hat] at hsecond
        obtain ⟨m₁, hm₁, q, tr₁, hrun₁, hleads₁⟩ := (ih₂ hsecond).leads hleads'
        exact ⟨m₁, by omega, q, tr₁, .altSecond hrun₁, hleads₁⟩
  | times n body ih => exact passes_times (fun _ => ih) h
  | upTo n greedy body ih => exact passes_upTo (fun _ => ih) rfl h
  | plus greedy body ih =>
      rw [Core.code] at h
      exact passes_plus (ih h.left) h.behind.head
  | capture index body ih =>
      intro n p tr out hleads
      rw [Core.code] at h
      obtain ⟨m, rfl, hleads'⟩ := hleads.mark h.head
      obtain ⟨m₁, hm₁, q, tr₁, hrun₁, hleads₁⟩ := (ih h.tail.left).leads hleads'
      obtain ⟨m₂, rfl, hleads₂⟩ := hleads₁.mark h.tail.behind.head
      refine ⟨m₂, by omega, q, (endSlot index, q) :: tr₁, .capture hrun₁, ?_⟩
      rw [Core.add_size_capture]
      exact hleads₂

/-- A program begins with the code of the whole match, behind which everything is accepted. -/
theorem holds_program (e : Core) :
    Holds e.program 0 ((Core.capture 0 e).code 0 ++ [.accept]) := by
  intro k i hk
  rw [Core.program, Nat.zero_add, List.getElem?_toArray]
  exact hk

/-- A match is a run of the whole expression from some place of the text on. -/
theorem runs_of_search {e : Core} {out : Trail} (h : search e.program text = some out) :
    ∃ p ≤ text.size, ∃ q, Runs text (.capture 0 e) p [] q out := by
  obtain ⟨t, ht, n, hleads⟩ := leads_of_follow h
  obtain ⟨p, hp, rfl⟩ := List.mem_map.1 ht
  have hcode := holds_program e
  obtain ⟨m, -, q, tr, hrun, hleads'⟩ := (passes_code _ hcode.left).leads hleads
  refine ⟨p, Nat.lt_succ_iff.1 (List.mem_range.1 hp), q, ?_⟩
  have haccept := hcode.behind.head
  cases hleads' with
  | accept _ => exact hrun
  | step hi ht' _ =>
      rw [haccept] at hi
      cases hi
      cases ht'

end PathTemplate.Regex
