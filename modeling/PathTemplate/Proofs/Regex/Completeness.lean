import Mathlib.Data.Finset.Prod
import PathTemplate.Proofs.Regex.Parts

/-!
# Searches are complete

A search that finds nothing has tried everything that its threads lead to: the
pairs of instructions and places that it has been at are closed under the steps
of the program, and none of them accepts. The fuel of a search is enough for
this, as every pair is followed once only. A run of an expression leads through
its code, so a search finds nothing only if there is no run.
-/

namespace PathTemplate.Regex

/-! ## What a search has tried -/

/-- An instruction of the program and a place of the text. -/
def Thread.site (t : Thread) : Nat × Nat := (t.instr, t.place)

/-- Where a thread goes on does not depend on its trail. -/
theorem map_site_next {text : Array Char} {t u : Thread} (hsite : t.site = u.site) (i : Instr) :
    (next text t i).map Thread.site = (next text u i).map Thread.site := by
  obtain ⟨hinstr, hplace⟩ := Prod.mk.inj hsite
  cases i with
  | one k =>
      simp only [next, hinstr, hplace]
      cases text[u.place]? with
      | none => rfl
      | some c => by_cases hk : k.has c <;> simp [hk, Thread.site]
  | assert a =>
      simp only [next, hinstr, hplace]
      by_cases ha : a.holds (before? text u.place) text[u.place]? <;> simp [ha, Thread.site]
  | mark _ | jump _ | split _ _ | accept => simp [next, Thread.site, hinstr, hplace]

theorem site_of_mem_next {text : Array Char} {t t' u : Thread} {i : Instr} (hsite : t.site = u.site)
    (h : t' ∈ next text t i) : ∃ u' ∈ next text u i, u'.site = t'.site := by
  have hmem := List.mem_map_of_mem (f := Thread.site) h
  rw [map_site_next hsite] at hmem
  exact List.mem_map.1 hmem

/-- Nothing is accepted at a site, and from there threads go on within a set of sites. -/
def GoesOnIn (program : Array Instr) (text : Array Char) (sites : Set (Nat × Nat))
    (t : Thread) : Prop :=
  ∀ i, program[t.instr]? = some i → i ≠ .accept ∧ ∀ t' ∈ next text t i, t'.site ∈ sites

/-- From sites that are left for each other only, no thread is accepted. -/
theorem not_leads_of_closed {program : Array Instr} {text : Array Char} {sites : Set (Nat × Nat)}
    (hclosed : ∀ t : Thread, t.site ∈ sites → GoesOnIn program text sites t) {n : Nat} {t : Thread}
    {out : Trail} (ht : t.site ∈ sites) : ¬ Leads program text n t out := by
  intro h
  induction h with
  | accept haccept => exact (hclosed _ ht _ haccept).1 rfl
  | step hi hnext _ ih => exact ih ((hclosed _ ht _ hi).2 _ hnext)

/-! ## Fuel -/

/-- The sites of a program in a text at which a search has not been. -/
def unseen (program : Array Instr) (text : Array Char) (seen : Std.HashSet (Nat × Nat)) :
    Finset (Nat × Nat) :=
  (Finset.range program.size ×ˢ Finset.range (text.size + 1)).filter (!seen.contains ·)

theorem unseen_insert (program : Array Instr) (text : Array Char) (seen : Std.HashSet (Nat × Nat))
    (site : Nat × Nat) :
    unseen program text (seen.insert site) = (unseen program text seen).erase site := by
  ext site'
  simp only [unseen, Finset.mem_filter, Finset.mem_erase, Std.HashSet.contains_insert]
  by_cases h : site = site'
  · simp [h]
  · simp [h, Ne.symm h]

theorem card_unseen_insert {program : Array Instr} {text : Array Char}
    {seen : Std.HashSet (Nat × Nat)} {t : Thread} (hnew : ¬ seen.contains t.site = true)
    (hinstr : t.instr < program.size) (hplace : t.place ≤ text.size) :
    (unseen program text (seen.insert t.site)).card + 1 = (unseen program text seen).card := by
  rw [unseen_insert]
  refine Finset.card_erase_add_one ?_
  simp only [unseen, Finset.mem_filter, Finset.mem_product, Finset.mem_range, Thread.site]
  refine ⟨⟨hinstr, Nat.lt_succ_of_le hplace⟩, ?_⟩
  simpa [Thread.site] using hnew

theorem length_next (text : Array Char) (t : Thread) (i : Instr) : (next text t i).length ≤ 2 := by
  cases i with
  | one k =>
      rw [next]
      split
      · split <;> simp
      · simp
  | assert a =>
      rw [next]
      split <;> simp
  | mark _ | jump _ | split _ _ | accept => simp [next]

/-- A thread does not leave the text. -/
theorem place_le_of_mem_next {text : Array Char} {t t' : Thread} {i : Instr}
    (ht : t.place ≤ text.size) (h : t' ∈ next text t i) : t'.place ≤ text.size := by
  cases i with
  | one k =>
      simp only [next] at h
      split at h
      · rename_i c hc
        split at h
        · rw [List.mem_singleton] at h
          subst h
          exact (Array.getElem?_eq_some_iff.1 hc).1
        · cases h
      · cases h
  | assert a =>
      simp only [next] at h
      split at h
      · rw [List.mem_singleton] at h
        subst h
        exact ht
      · cases h
  | mark slot =>
      rw [next, List.mem_singleton] at h
      subst h
      exact ht
  | jump target =>
      rw [next, List.mem_singleton] at h
      subst h
      exact ht
  | split first second =>
      rw [next, List.mem_cons, List.mem_singleton] at h
      rcases h with rfl | rfl
      · exact ht
      · exact ht
  | accept => cases h

/-! ## Sites that are left for each other only -/

/-- A set of sites has those at which a search has been and those of its threads, and from its other
sites the search stays in it. -/
structure Covers (program : Array Instr) (text : Array Char) (sites : Set (Nat × Nat))
    (threads : List Thread) (seen : Std.HashSet (Nat × Nat)) : Prop where
  visited : ∀ site, seen.contains site = true → site ∈ sites
  pending : ∀ t ∈ threads, t.site ∈ sites
  closed : ∀ t : Thread, t.site ∈ sites → ¬ seen.contains t.site = true →
    GoesOnIn program text sites t

section

variable {program : Array Instr} {text : Array Char} {sites : Set (Nat × Nat)}
  {threads : List Thread} {seen : Std.HashSet (Nat × Nat)} {t : Thread}

theorem covers_nil (program : Array Instr) (text : Array Char) (seen : Std.HashSet (Nat × Nat)) :
    Covers program text {site | seen.contains site = true} [] seen where
  visited _ hsite := hsite
  pending t ht := by cases ht
  closed t ht hnew := absurd ht hnew

theorem Covers.cons_of_seen (h : Covers program text sites threads seen)
    (hseen : seen.contains t.site = true) : Covers program text sites (t :: threads) seen where
  visited := h.visited
  pending := List.forall_mem_cons.2 ⟨h.visited _ hseen, h.pending⟩
  closed := h.closed

/-- A thread that has left the program goes nowhere. -/
theorem Covers.cons_of_outside (h : Covers program text sites threads seen)
    (hnone : program[t.instr]? = none) :
    Covers program text (insert t.site sites) (t :: threads) seen where
  visited site hsite := .inr (h.visited site hsite)
  pending := List.forall_mem_cons.2 ⟨.inl rfl, fun t' ht' => .inr (h.pending t' ht')⟩
  closed t' ht' hnew i hi := by
    rcases ht' with heq | ht'
    · rw [(Prod.mk.inj heq).1, hnone] at hi
      cases hi
    · obtain ⟨hne, hnext⟩ := h.closed t' ht' hnew i hi
      exact ⟨hne, fun t'' ht'' => .inr (hnext t'' ht'')⟩

/-- A thread that goes on was at a new site, from which all threads go on like it. -/
theorem Covers.cons_of_step {i : Instr} (hi : program[t.instr]? = some i) (hne : i ≠ .accept)
    (h : Covers program text sites (next text t i ++ threads) (seen.insert t.site)) :
    Covers program text sites (t :: threads) seen where
  visited site hsite := h.visited site (by rw [Std.HashSet.contains_insert, hsite, Bool.or_true])
  pending := by
    refine List.forall_mem_cons.2 ⟨h.visited _ ?_, fun t' ht' =>
      h.pending t' (List.mem_append_right _ ht')⟩
    rw [Std.HashSet.contains_insert, beq_self_eq_true, Bool.true_or]
  closed t' ht' hnew := by
    by_cases heq : t'.site = t.site
    · intro j hj
      rw [(Prod.mk.inj heq).1, hi] at hj
      cases hj
      refine ⟨hne, fun t'' ht'' => ?_⟩
      obtain ⟨u, hu, hsite⟩ := site_of_mem_next heq ht''
      rw [← hsite]
      exact h.pending u (List.mem_append_left _ hu)
    · refine h.closed t' ht' ?_
      rw [Std.HashSet.contains_insert, Bool.or_eq_true, not_or]
      exact ⟨fun hbeq => heq (beq_iff_eq.1 hbeq).symm, hnew⟩

/-- A search with enough fuel that finds nothing has been at sites that are left for each other
only, those of its threads among them. -/
theorem exists_covers_of_follow {fuel : Nat} (hplaces : ∀ t ∈ threads, t.place ≤ text.size)
    (hfuel : 2 * (unseen program text seen).card + threads.length < fuel)
    (h : follow program text fuel threads seen = none) :
    ∃ sites, Covers program text sites threads seen := by
  induction fuel generalizing threads seen with
  | zero => omega
  | succ fuel ih =>
      cases threads with
      | nil => exact ⟨_, covers_nil program text seen⟩
      | cons t rest =>
          obtain ⟨ht, hrest⟩ := List.forall_mem_cons.1 hplaces
          rw [List.length_cons] at hfuel
          rw [follow] at h
          split at h
          · rename_i hseen
            obtain ⟨sites, hcovers⟩ := ih hrest (by omega) h
            exact ⟨sites, hcovers.cons_of_seen hseen⟩
          · rename_i hnew
            split at h
            · rename_i hnone
              obtain ⟨sites, hcovers⟩ := ih hrest (by omega) h
              exact ⟨_, hcovers.cons_of_outside hnone⟩
            · cases h
            · rename_i i hne hi
              have hplaces' : ∀ t' ∈ next text t i ++ rest, t'.place ≤ text.size :=
                List.forall_mem_append.2 ⟨fun t' ht' => place_le_of_mem_next ht ht', hrest⟩
              -- the site is paid for by what the search has not seen yet
              have hfuel' : 2 * (unseen program text (seen.insert t.site)).card +
                  (next text t i ++ rest).length < fuel := by
                have hinstr : t.instr < program.size := (Array.getElem?_eq_some_iff.1 hi).1
                have hcard := card_unseen_insert hnew hinstr ht
                have hlength := length_next text t i
                rw [List.length_append]
                omega
              obtain ⟨sites, hcovers⟩ := ih hplaces' hfuel' h
              exact ⟨sites, .cons_of_step hi hne hcovers⟩

end

/-- The fuel of a search is enough: if one of its threads leads to acceptance, something is
found. -/
theorem search_ne_none {program : Array Instr} {text : Array Char} {p n : Nat} {out : Trail}
    (hp : p ≤ text.size) (h : Leads program text n ⟨0, p, []⟩ out) :
    search program text ≠ none := by
  intro hnone
  have hplaces : ∀ t ∈ starts text, t.place ≤ text.size := by
    intro t ht
    obtain ⟨place, hplace, rfl⟩ := List.mem_map.1 ht
    exact Nat.lt_succ_iff.1 (List.mem_range.1 hplace)
  have hfuel : 2 * (unseen program text ∅).card + (starts text).length <
      fuelFor program text := by
    have hcard : (unseen program text ∅).card ≤ program.size * (text.size + 1) := by
      refine (Finset.card_filter_le _ _).trans ?_
      rw [Finset.card_product, Finset.card_range, Finset.card_range]
    rw [starts, List.length_map, List.length_range, fuelFor, Nat.add_mul, Nat.mul_assoc,
      Nat.one_mul]
    omega
  obtain ⟨sites, hcovers⟩ := exists_covers_of_follow hplaces hfuel hnone
  have hmem : (⟨0, p, []⟩ : Thread) ∈ starts text :=
    List.mem_map.2 ⟨p, List.mem_range.2 (Nat.lt_succ_of_le hp), rfl⟩
  refine not_leads_of_closed (fun t ht => hcovers.closed t ht ?_) (hcovers.pending _ hmem) h
  simp

/-! ## Runs lead through code -/

variable {program : Array Instr} {text : Array Char}

/-- A thread in front of a choice leads where one of its ways leads. -/
theorem leads_of_choose {greedy : Bool} {at_ more done n p : Nat} {tr out : Trail}
    (hi : program[at_]? = some (.choose greedy more done))
    (h : Leads program text n ⟨more, p, tr⟩ out ∨ Leads program text n ⟨done, p, tr⟩ out) :
    Leads program text (n + 1) ⟨at_, p, tr⟩ out := by
  cases greedy with
  | true =>
      rcases h with h | h
      · exact .step hi List.mem_cons_self h
      · exact .step hi (List.mem_cons_of_mem _ List.mem_cons_self) h
  | false =>
      rcases h with h | h
      · exact .step hi (List.mem_cons_of_mem _ List.mem_cons_self) h
      · exact .step hi List.mem_cons_self h

/-- What is accepted behind the code of an expression is accepted in front of it, if there is a run
in between. -/
theorem exists_leads_of_runs {e : Core} {p q : Nat} {tr tr' out : Trail}
    (hrun : Runs text e p tr q tr') {at_ n : Nat} (hcode : Holds program at_ (e.code at_))
    (h : Leads program text n ⟨at_ + e.size, q, tr'⟩ out) :
    ∃ m, Leads program text m ⟨at_, p, tr⟩ out := by
  induction hrun generalizing at_ n with
  | empty => exact ⟨n, h⟩
  | one hc hk =>
      refine ⟨n + 1, .step hcode.head ?_ h⟩
      simp [next, hc, hk, Core.size]
  | assert ha =>
      refine ⟨n + 1, .step hcode.head ?_ h⟩
      simp [next, ha, Core.size]
  | cat _ _ ih₁ ih₂ =>
      rw [Core.code] at hcode
      rw [Core.size, ← Nat.add_assoc] at h
      obtain ⟨m₁, h₁⟩ := ih₂ hcode.behind h
      exact ih₁ hcode.left h₁
  | @altFirst first second p q tr tr' _ ih =>
      rw [Core.code] at hcode
      rw [Core.add_size_alt] at h
      have hjump : Leads program text (n + 1) ⟨at_ + 1 + first.size, q, tr'⟩ out :=
        .step hcode.tail.behind.head (List.mem_singleton_self _) h
      obtain ⟨m, hm⟩ := ih hcode.tail.left hjump
      exact ⟨m + 1, .step hcode.head List.mem_cons_self hm⟩
  | @altSecond first second p q tr tr' _ ih =>
      rw [Core.code] at hcode
      have hsecond := hcode.tail.behind.tail
      have hat : at_ + 1 + first.size + 1 = at_ + 2 + first.size := by omega
      rw [hat] at hsecond
      rw [Core.add_size_alt] at h
      obtain ⟨m, hm⟩ := ih hsecond h
      exact ⟨m + 1, .step hcode.head (List.mem_cons_of_mem _ List.mem_cons_self) hm⟩
  | timesZero =>
      rw [Core.size, Nat.zero_mul, Nat.add_zero] at h
      exact ⟨n, h⟩
  | @timesSucc k body p q s tr tr₁ tr₂ _ _ ih₁ ih₂ =>
      rw [Core.code, Core.copies] at hcode
      have hend : at_ + (Core.times (k + 1) body).size =
          at_ + body.size + (Core.times k body).size := by
        rw [Core.size, Core.size, Nat.succ_mul]
        omega
      rw [hend] at h
      obtain ⟨m₁, h₁⟩ := ih₂ hcode.behind h
      exact ih₁ hcode.left h₁
  | @upToStop k greedy body p tr =>
      cases k with
      | zero =>
          rw [Core.size, Nat.zero_mul, Nat.add_zero] at h
          exact ⟨n, h⟩
      | succ k =>
          rw [Core.code, Core.optionals] at hcode
          exact ⟨n + 1, leads_of_choose hcode.head (.inr h)⟩
  | @upToMore k greedy body p q s tr tr₁ tr₂ _ _ ih₁ ih₂ =>
      rw [Core.code, Core.optionals] at hcode
      rw [Core.add_size_upTo] at hcode
      rw [Core.size, Core.add_size_upTo] at h
      obtain ⟨m₁, h₁⟩ := ih₂ hcode.tail.behind h
      obtain ⟨m₂, h₂⟩ := ih₁ hcode.tail.left h₁
      exact ⟨m₂ + 1, leads_of_choose hcode.head (.inl h₂)⟩
  | @plusLast greedy body p q tr tr' _ ih =>
      rw [Core.code] at hcode
      have hchoose : Leads program text (n + 1) ⟨at_ + body.size, q, tr'⟩ out :=
        leads_of_choose hcode.behind.head (.inr h)
      exact ih hcode.left hchoose
  | @plusMore greedy body p q s tr tr₁ tr₂ _ _ ih₁ ih₂ =>
      obtain ⟨m₁, h₁⟩ := ih₂ hcode h
      rw [Core.code] at hcode
      have hchoose : Leads program text (m₁ + 1) ⟨at_ + body.size, q, tr₁⟩ out :=
        leads_of_choose hcode.behind.head (.inl h₁)
      exact ih₁ hcode.left hchoose
  | @capture index body p q tr tr' _ ih =>
      rw [Core.code] at hcode
      rw [Core.add_size_capture] at h
      have hmark : Leads program text (n + 1) ⟨at_ + 1 + body.size, q, tr'⟩ out :=
        .step hcode.tail.behind.head (List.mem_singleton_self _) h
      obtain ⟨m, hm⟩ := ih hcode.tail.left hmark
      exact ⟨m + 1, .step hcode.head (List.mem_singleton_self _) hm⟩

/-- A search finds something exactly if there is a run of the whole expression. -/
theorem search_ne_none_iff {e : Core} :
    search e.program text ≠ none ↔
      ∃ p ≤ text.size, ∃ q out, Runs text (.capture 0 e) p [] q out := by
  refine ⟨fun h => ?_, fun ⟨p, hp, q, out, hrun⟩ => ?_⟩
  · obtain ⟨out, hout⟩ := Option.ne_none_iff_exists'.1 h
    obtain ⟨p, hp, q, hrun⟩ := runs_of_search hout
    exact ⟨p, hp, q, out, hrun⟩
  · have hcode := holds_program e
    obtain ⟨n, hleads⟩ := exists_leads_of_runs hrun hcode.left (.accept hcode.behind.head)
    exact search_ne_none hp hleads

/-- Parts that can be run from some place of a text on have a match there or before. -/
theorem find?_ne_none_of_runsParts {r : Regex} {parts : List Expr} {f : Flags} {path : String}
    {p q : Nat} {tr : Trail} (hm : meaning {} (.concat parts) = .ok (r.core, f))
    (hp : p ≤ path.toList.toArray.size)
    (h : RunsParts path.toList.toArray parts p [(startSlot 0, p)] q tr) : r.find? path ≠ none := by
  obtain ⟨⟨cores, f'⟩, hparts, hm⟩ := exists_of_bind_eq_ok hm
  have hcore : Core.catAll cores = r.core := congrArg Prod.fst (Except.ok.inj hm)
  obtain ⟨cores', f'', hparts', hruns⟩ := h
  cases hparts.symm.trans hparts'
  have hrun := runs_catAll hruns
  rw [hcore] at hrun
  rw [find?, ne_eq, Option.map_eq_none_iff, r.program_eq]
  exact search_ne_none_iff.2 ⟨p, hp, q, _, .capture hrun⟩

end PathTemplate.Regex
