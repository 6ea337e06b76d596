import Mathlib.Data.List.Forall2
import PathTemplate.Proofs.Resolver.Faithful
import PathTemplate.Proofs.Resolver.Templates

/-!
# Answers do not depend on the cache

A session starts with an empty cache, so its cache is faithful after every run,
and the answers of the run are those of single calls on a resolver that
remembers nothing.
-/

namespace PathTemplate

/-- A performed operation answered what the templates answer, on the same resolver. -/
structure Performed.Agrees (p : Performed) (r : Resolver) (op : Operation) : Prop where
  resolver : p.session.resolver = r
  cache : p.session.cache.Faithful r
  answer : ∀ a, r.plainAnswer? op = some a → p.answer = a

namespace Session

/-- The session behind operations that are performed one after the other. -/
def final (s : Session) (ops : List Operation) : Session :=
  ops.foldl (fun s op => (s.perform op).session) s

@[simp] theorem final_nil (s : Session) : s.final [] = s := rfl

@[simp] theorem final_cons (s : Session) (op : Operation) (ops : List Operation) :
    s.final (op :: ops) = (s.perform op).session.final ops := rfl

variable {s : Session} {r : Resolver}

theorem after_agrees {α : Type} {t : Traced α} {plain : α} (hr : s.resolver = r)
    (ht : t.Agrees r plain) {wrap : α → Answer} {op : Operation}
    (hop : r.plainAnswer? op = some (wrap plain)) : (s.after wrap t).Agrees r op where
  resolver := hr
  cache := ht.cache
  answer a ha := by
    rw [hop] at ha
    exact (congrArg wrap ht.answer).trans (Option.some.inj ha)

/-- One step: an operation on a faithful session answers what the templates answer. -/
theorem perform_agrees (hr : s.resolver = r) (h : s.cache.Faithful r) (op : Operation) :
    (s.perform op).Agrees r op := by
  subst hr
  cases op with
  | resolveFirst path => exact after_agrees rfl (Resolver.resolveFirst_agrees h path) rfl
  | resolveOne path label =>
      exact after_agrees rfl (Resolver.resolveOne_agrees h path label) rfl
  | resolveAll path => exact after_agrees rfl (Resolver.resolveAll_agrees h path) rfl
  | formatFirst fields => exact after_agrees rfl (Resolver.formatFirst_agrees h fields) rfl
  | formatOne fields label =>
      exact after_agrees rfl (Resolver.formatOne_agrees h fields label) rfl
  | formatAll fields => exact after_agrees rfl (Resolver.formatAll_agrees h fields) rfl
  | clearCache =>
      exact ⟨rfl, Cache.faithful_of_empty _ _, fun a ha => by cases ha⟩
  | setCacheEnabled enabled =>
      exact ⟨rfl, h.setEnabled enabled, fun a ha => by cases ha⟩
  | describe label => exact ⟨rfl, h, fun a ha => by cases ha⟩
  | overview => exact ⟨rfl, h, fun a ha => by cases ha⟩

theorem start_faithful (r : Resolver) : (start r).cache.Faithful r :=
  Cache.faithful_of_empty r r.options.cacheEnabled

/-- A run keeps the resolver, and its cache stays faithful. -/
theorem final_faithful (hr : s.resolver = r) (h : s.cache.Faithful r) (ops : List Operation) :
    (s.final ops).resolver = r ∧ (s.final ops).cache.Faithful r := by
  induction ops generalizing s with
  | nil => exact ⟨hr, h⟩
  | cons op ops ih =>
      have step := perform_agrees hr h op
      exact ih step.resolver step.cache

/-- The session behind any run from the start. -/
theorem final_start_faithful (r : Resolver) (ops : List Operation) :
    ((start r).final ops).resolver = r ∧ ((start r).final ops).cache.Faithful r :=
  final_faithful rfl (start_faithful r) ops

/-- All answers of a run are those of the templates. -/
theorem run_agrees (hr : s.resolver = r) (h : s.cache.Faithful r) (ops : List Operation) :
    List.Forall₂ (fun op p => p.Agrees r op) ops (s.run ops) := by
  induction ops generalizing s with
  | nil => exact .nil
  | cons op ops ih =>
      have step := perform_agrees hr h op
      exact .cons step (ih step.resolver step.cache)

end Session

namespace Resolver

theorem firstOf_cacheEnabled (r : Resolver) (enabled : Bool) (path : String)
    (entries : List (String × Template)) :
    firstOf ⟨r.templates, { r.options with cacheEnabled := enabled }⟩ path entries =
      r.firstOf path entries := by
  induction entries with
  | nil => rfl
  | cons e rest ih => simp only [firstOf, ih, extract]

theorem allOf_cacheEnabled (r : Resolver) (enabled : Bool) (path : String)
    (entries : List (String × Template)) (found : Catalog String Fields) :
    allOf ⟨r.templates, { r.options with cacheEnabled := enabled }⟩ path entries found =
      r.allOf path entries found := by
  induction entries generalizing found with
  | nil => rfl
  | cons e rest ih => simp only [allOf, ih, extract]

/-- What the templates answer does not depend on whether answers are remembered. -/
theorem plainAnswer?_cacheEnabled (r : Resolver) (enabled : Bool) (op : Operation) :
    plainAnswer? ⟨r.templates, { r.options with cacheEnabled := enabled }⟩ op =
      r.plainAnswer? op := by
  cases op with
  | resolveFirst path => simp only [plainAnswer?, findFirst, firstOf_cacheEnabled]
  | resolveAll path => simp only [plainAnswer?, findAll, allOf_cacheEnabled]
  | _ => rfl

theorem exists_plainAnswer? (r : Resolver) {op : Operation} (h : op.isQuestion) :
    ∃ a, r.plainAnswer? op = some a := by
  cases op <;> simp_all [Operation.isQuestion, plainAnswer?]

end Resolver

/-- Every answer of a run that resolves or formats is the answer that the same call alone gives
on a new resolver of the same templates and options that remembers nothing. -/
theorem Session.answers_eq_uncached {pairs : List (String × String)} {options : Options}
    {r : Resolver} (h : Resolver.build pairs options = .ok r) (ops : List Operation) :
    ∃ uncached, Resolver.build pairs { options with cacheEnabled := false } = .ok uncached ∧
      List.Forall₂ (fun op p => op.isQuestion → p.answer = ((start uncached).perform op).answer)
        ops ((start r).run ops) := by
  obtain ⟨c, hc, rfl⟩ := Resolver.build_eq_ok_iff.1 h
  refine ⟨⟨c.templates, { options with cacheEnabled := false }⟩, ?_, ?_⟩
  · rw [Resolver.build_eq_ok_iff]
    have hcompile := Resolver.compileAll_checked_enabled options options.checkDuplicates false {}
      pairs
    exact ⟨c, hcompile.trans hc, rfl⟩
  · refine (run_agrees rfl (start_faithful _) ops).imp fun op p hp hq => ?_
    obtain ⟨a, ha⟩ := Resolver.exists_plainAnswer? ⟨c.templates, options⟩ hq
    have alone := perform_agrees rfl
      (start_faithful ⟨c.templates, { options with cacheEnabled := false }⟩) op
    rw [hp.answer a ha]
    exact (alone.answer a ((Resolver.plainAnswer?_cacheEnabled _ false op).trans ha)).symm

/-- Answers from the cache, a mismatch and a cache that is turned off in between. -/
theorem Session.answers_of_twice :
    Resolver.build [("twice", Template.twice.pattern)] {} = .ok (Resolver.twice true) ∧
      ∃ uncached,
        Resolver.build [("twice", Template.twice.pattern)] { cacheEnabled := false } =
          .ok uncached ∧
        List.Forall₂
          (fun op p => op.isQuestion → p.answer = ((start uncached).perform op).answer)
          [.resolveOne "x/x" "twice", .resolveOne "x/x" "twice", .resolveAll "x/y",
            .setCacheEnabled false, .resolveFirst "x/x"]
          ((start (Resolver.twice true)).run
            [.resolveOne "x/x" "twice", .resolveOne "x/x" "twice", .resolveAll "x/y",
              .setCacheEnabled false, .resolveFirst "x/x"]) :=
  ⟨Resolver.build_twice true, answers_eq_uncached (Resolver.build_twice true) _⟩

end PathTemplate
