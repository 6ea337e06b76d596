import PathTemplate.Proofs.Registry.History
import PathTemplate.Proofs.Resolver.CacheTransparency

/-!
# Sessions of a registry stand alone

A registry only binds identifiers. What it is told to do changes no session, and
an operation changes the cache of the session that its identifier is bound to
and nothing else. So a session goes through the operations that are performed on
it, under whatever identifiers, as if it were alone, and tells the same. The
steps of an initialiser count as steps of the run, to any depth.
-/

namespace PathTemplate

namespace Session

theorem resolver_perform (s : Session) (op : Operation) :
    (s.perform op).session.resolver = s.resolver := by
  cases op <;> rfl

theorem resolver_final (s : Session) (ops : List Operation) :
    (s.final ops).resolver = s.resolver := by
  induction ops generalizing s with
  | nil => rfl
  | cons op ops ih => rw [final_cons, ih, resolver_perform]

theorem final_append (s : Session) (ops ops' : List Operation) :
    s.final (ops ++ ops') = (s.final ops).final ops' :=
  List.foldl_append

theorem run_append (s : Session) (ops ops' : List Operation) :
    s.run (ops ++ ops') = s.run ops ++ (s.final ops).run ops' := by
  induction ops generalizing s with
  | nil => rfl
  | cons op ops ih => rw [List.cons_append, run, run, ih, final_cons, List.cons_append]

end Session

/-- An operation on the session with a number, and what was told of it. -/
structure Access where
  number : Nat
  op : Operation
  told : Performed

namespace RegistryStep

variable {ε : Type}

/-- A step only binds identifiers or asks about them. -/
def isAboutBindings : RegistryStep ε → Bool
  | register _ _ | registerAgain _ _ | lookup _ | remove _ | contains _ | ids => true
  | getOrRegister _ _ _ | operate _ _ => false

mutual

/-- The sessions that a step hands over, and those of the steps inside of it. -/
def handed : RegistryStep ε → List Session
  | register _ made => made.result.toOption.toList
  | getOrRegister _ inside made => handedAll inside ++ made.result.toOption.toList
  | _ => []

/-- The sessions that steps hand over. -/
def handedAll : List (RegistryStep ε) → List Session
  | [] => []
  | step :: rest => step.handed ++ handedAll rest

end

end RegistryStep

namespace Registry

section Accesses

variable {ε : Type}

mutual

/-- The operations that a step performed on sessions, from what it reported. The session is the
one that the identifier is bound to at that moment. -/
def accessesOfStep (r : Registry) : RegistryStep ε → RegistryReport ε → List Access
  | .operate id op, .mk (.operated (some p)) _ events =>
    (r.get? id).toList.map (⟨·, op, p.answer, p.session, events⟩)
  | .getOrRegister _ inside _, .mk (.got _ (some reports)) _ _ => r.accesses inside reports
  | _, _ => []

/-- The operations that steps performed on sessions, in order. -/
def accesses (r : Registry) :
    List (RegistryStep ε) → List (RegistryReport ε) → List Access
  | step :: rest, report :: reports =>
    r.accessesOfStep step report ++ (r.runStep step).1.accesses rest reports
  | _, _ => []

end

end Accesses

/-- Every session of the first registry is the same in the second one. -/
def Keeps (r r' : Registry) : Prop :=
  ∀ (n : Nat) (s : Session), r.sessions[n]? = some s → r'.sessions[n]? = some s

end Registry

/-- What becomes of a session while operations are performed on it. It was there before or is one
of the new ones, and the operations are the only ones that it has seen. -/
inductive Lives (new : List Session) : Option Session → Option Session → List Access → Prop
  | absent : Lives new none none []
  | kept {s : Session} {l : List Access} (told : l.map Access.told = s.run (l.map Access.op)) :
      Lives new (some s) (some (s.final (l.map Access.op))) l
  | made {s : Session} {l : List Access} (hnew : s ∈ new)
      (told : l.map Access.told = s.run (l.map Access.op)) :
      Lives new none (some (s.final (l.map Access.op))) l

namespace Lives

variable {new new' : List Session}

theorem same (new : List Session) (s : Option Session) : Lives new s s [] := by
  cases s with
  | none => exact .absent
  | some s => exact kept (s := s) (l := []) rfl

theorem mono {before after : Option Session} {l : List Access} (h : Lives new before after l)
    (hnew : new ⊆ new') : Lives new' before after l := by
  cases h with
  | absent => exact .absent
  | kept told => exact .kept told
  | made hmem told => exact .made (hnew hmem) told

theorem trans {before between after : Option Session} {l l' : List Access}
    (h : Lives new before between l) (h' : Lives new' between after l') :
    Lives (new ++ new') before after (l ++ l') := by
  cases h with
  | absent => exact h'.mono (List.subset_append_right new new')
  | kept told =>
      cases h' with
      | kept told' =>
          rw [← Session.final_append, ← List.map_append]
          apply kept
          rw [List.map_append, List.map_append, told, told', Session.run_append]
  | made hmem told =>
      cases h' with
      | kept told' =>
          rw [← Session.final_append, ← List.map_append]
          apply made (List.mem_append_left new' hmem)
          rw [List.map_append, List.map_append, told, told', Session.run_append]

/-- A session that was there keeps its resolver. -/
theorem exists_of_some {s : Session} {after : Option Session} {l : List Access}
    (h : Lives new (some s) after l) :
    ∃ s', after = some s' ∧ s'.resolver = s.resolver ∧ s' = s.final (l.map Access.op) ∧
      l.map Access.told = s.run (l.map Access.op) := by
  cases h with
  | kept told => exact ⟨_, rfl, s.resolver_final _, rfl, told⟩

end Lives

namespace Registry

variable {ε : Type} {r : Registry} {id : String} {n : Nat}

/-! ## Steps -/

/-- A new session goes behind all others. -/
theorem getElem?_bindNew (r : Registry) (id : String) (s : Session) (n : Nat) :
    (r.bindNew id s).1.sessions[n]? = if n = r.sessions.size then some s else r.sessions[n]? :=
  Array.getElem?_push

theorem lives_bindNew (r : Registry) (id : String) (s : Session) (n : Nat) :
    Lives [s] r.sessions[n]? (r.bindNew id s).1.sessions[n]? [] := by
  rw [getElem?_bindNew]
  split
  · rename_i hn
    rw [hn, Array.getElem?_size]
    exact .made (l := []) List.mem_cons_self rfl
  · exact .same _ _

theorem lives_register (r : Registry) (id : String) (made : Made ε) (n : Nat) :
    Lives made.result.toOption.toList r.sessions[n]? (r.register id made).1.sessions[n]? [] := by
  unfold register
  cases made.result with
  | error fault => exact .same _ _
  | ok s => exact lives_bindNew r id s n

theorem lives_initialise (r : Registry) (id : String) (made : Made ε)
    (inside : List (RegistryReport ε)) (n : Nat) :
    Lives made.result.toOption.toList r.sessions[n]?
      (r.initialise id made inside).1.sessions[n]? [] := by
  unfold initialise
  cases made.result with
  | error fault => exact .same _ _
  | ok s =>
      cases r.get? id with
      | some number => exact .same _ _
      | none => exact lives_bindNew r id s n

theorem exists_report_initialise (r : Registry) (id : String) (made : Made ε)
    (inside : List (RegistryReport ε)) :
    ∃ result size events,
      (r.initialise id made inside).2 = .mk (.got result (some inside)) size events := by
  unfold initialise
  cases made.result with
  | error fault => exact ⟨_, _, _, rfl⟩
  | ok s => cases r.get? id <;> exact ⟨_, _, _, rfl⟩

/-- An operation reaches the session that its identifier is bound to. -/
theorem operate_of_session {s : Session} (hid : r.get? id = some n) (hs : r.sessions[n]? = some s)
    (op : Operation) :
    r.operate (ε := ε) id op =
      ({ r with sessions := r.sessions.setIfInBounds n (s.perform op).session },
        .mk (.operated (some (s.perform op))) r.size (s.perform op).events) := by
  simp only [operate, lookup, hid, perform, hs, report]
  rfl

theorem operate_of_unbound (hid : r.get? id = none) (op : Operation) :
    r.operate (ε := ε) id op = (r, .mk (.operated none) r.size [.unknownId id]) := by
  simp only [operate, lookup, hid, report]

theorem operate_of_no_session (hid : r.get? id = some n) (hs : r.sessions[n]? = none)
    (op : Operation) :
    r.operate (ε := ε) id op = (r, .mk (.operated none) r.size []) := by
  simp only [operate, lookup, hid, perform, hs, report]
  rfl

theorem getElem?_operate {s : Session} (hid : r.get? id = some n) (hs : r.sessions[n]? = some s)
    (op : Operation) (m : Nat) :
    (r.operate (ε := ε) id op).1.sessions[m]? =
      if m = n then some (s.perform op).session else r.sessions[m]? := by
  have hn : n < r.sessions.size := (Array.getElem?_eq_some_iff.1 hs).1
  rw [operate_of_session hid hs, Array.getElem?_setIfInBounds]
  by_cases hm : m = n
  · simp [hm, hn]
  · simp [hm, Ne.symm hm]

theorem lives_operate (r : Registry) (id : String) (op : Operation) (m : Nat) :
    Lives [] r.sessions[m]? (r.operate (ε := ε) id op).1.sessions[m]?
      ((r.accessesOfStep (ε := ε) (.operate id op) (r.operate id op).2).filter
        (·.number = m)) := by
  cases hid : r.get? id with
  | none =>
      rw [operate_of_unbound hid]
      exact .same _ _
  | some n =>
      cases hs : r.sessions[n]? with
      | none =>
          rw [operate_of_no_session hid hs]
          exact .same _ _
      | some s =>
          rw [getElem?_operate hid hs, operate_of_session hid hs, accessesOfStep, hid]
          by_cases hm : m = n
          · subst hm
            rw [hs, if_pos rfl]
            simp only [Option.toList_some, List.map_cons, List.map_nil, decide_true,
              List.filter_cons_of_pos, List.filter_nil]
            exact Lives.kept (s := s) (l := [⟨m, op, s.perform op⟩]) rfl
          · rw [if_neg hm]
            simp only [Option.toList_some, List.map_cons, List.map_nil, Ne.symm hm, decide_false,
              Bool.false_eq_true, not_false_eq_true, List.filter_cons_of_neg, List.filter_nil]
            exact .same _ _

/-- The steps of an initialiser are a run, and behind it at most one session is new. -/
theorem lives_getOrRegister {inside : List (RegistryStep ε)} {new : List Session}
    (hinside : Lives new r.sessions[n]? (r.runSteps inside).1.sessions[n]?
      ((r.accesses inside (r.runSteps inside).2).filter (·.number = n)))
    (id : String) (made : Made ε) :
    Lives (new ++ made.result.toOption.toList) r.sessions[n]?
      (r.runStep (.getOrRegister id inside made)).1.sessions[n]?
      ((r.accessesOfStep (.getOrRegister id inside made)
        (r.runStep (.getOrRegister id inside made)).2).filter (·.number = n)) := by
  cases hid : r.get? id with
  | some number =>
      rw [runStep, hid]
      exact .same _ _
  | none =>
      have hstep : r.runStep (.getOrRegister id inside made) =
          (r.runSteps inside).1.initialise id made (r.runSteps inside).2 := by
        rw [runStep, hid]
      obtain ⟨result, size, events, hreport⟩ :=
        exists_report_initialise (r.runSteps inside).1 id made (r.runSteps inside).2
      have hinitialise := lives_initialise (r.runSteps inside).1 id made (r.runSteps inside).2 n
      have hlives := hinside.trans hinitialise
      rw [List.append_nil] at hlives
      rw [hstep, hreport, accessesOfStep]
      exact hlives

/-! ## Runs -/

mutual

/-- Every session lives through a step alone. -/
theorem lives_runStep (step : RegistryStep ε) (r : Registry) (n : Nat) :
    Lives step.handed r.sessions[n]? (r.runStep step).1.sessions[n]?
      ((r.accessesOfStep step (r.runStep step).2).filter (·.number = n)) := by
  cases step with
  | register id made =>
      simp only [runStep, accessesOfStep, List.filter_nil, RegistryStep.handed]
      exact lives_register r id made n
  | registerAgain id number =>
      simp only [runStep, accessesOfStep, List.filter_nil]
      exact .same _ _
  | getOrRegister id inside made =>
      rw [RegistryStep.handed]
      exact lives_getOrRegister (lives_runSteps inside r n) id made
  | lookup id =>
      simp only [runStep, accessesOfStep, List.filter_nil]
      exact .same _ _
  | remove id =>
      simp only [runStep, accessesOfStep, List.filter_nil]
      exact .same _ _
  | contains id =>
      simp only [runStep, accessesOfStep, List.filter_nil]
      exact .same _ _
  | ids =>
      simp only [runStep, accessesOfStep, List.filter_nil]
      exact .same _ _
  | operate id op =>
      rw [runStep]
      exact lives_operate r id op n

/-- Every session lives through a run alone. -/
theorem lives_runSteps (steps : List (RegistryStep ε)) (r : Registry) (n : Nat) :
    Lives (RegistryStep.handedAll steps) r.sessions[n]? (r.runSteps steps).1.sessions[n]?
      ((r.accesses steps (r.runSteps steps).2).filter (·.number = n)) := by
  cases steps with
  | nil =>
      rw [runSteps]
      exact .same _ _
  | cons step rest =>
      rw [runSteps, accesses, List.filter_append, RegistryStep.handedAll]
      exact (lives_runStep step r n).trans (lives_runSteps rest _ n)

end

/-- A step that brings no operation changes no session. -/
theorem keeps_of_accesses_nil {step : RegistryStep ε}
    (h : ∀ report, r.accessesOfStep step report = []) : r.Keeps (r.runStep step).1 := by
  intro n s hs
  have hlives := lives_runStep step r n
  rw [hs, h, List.filter_nil] at hlives
  obtain ⟨s', hs', -, rfl, -⟩ := hlives.exists_of_some
  exact hs'

theorem keeps_initialise (r : Registry) (id : String) (made : Made ε)
    (inside : List (RegistryReport ε)) : r.Keeps (r.initialise id made inside).1 := by
  intro n s hs
  have hlives := lives_initialise r id made inside n
  rw [hs] at hlives
  obtain ⟨s', hs', -, rfl, -⟩ := hlives.exists_of_some
  exact hs'

/-- What steps that are about bindings do to sessions: nothing. An initialiser changes what its
own steps change. -/
theorem keeps_runStep (r : Registry) {step : RegistryStep ε} (h : step.isAboutBindings = true) :
    r.Keeps (r.runStep step).1 := by
  apply keeps_of_accesses_nil
  intro report
  cases step with
  | getOrRegister id inside made => cases h
  | operate id op => cases h
  | _ => rw [accessesOfStep] <;> simp

theorem operate_congr {other : String} (hid : r.get? id = some n) (hother : r.get? other = some n)
    (op : Operation) : r.operate (ε := ε) other op = r.operate id op := by
  simp only [operate, lookup, hid, hother]

theorem operate_of_bind_eq_none (h : ((r.get? id).bind fun n => r.sessions[n]?) = none)
    (op : Operation) : (r.operate (ε := ε) id op).1 = r := by
  cases hid : r.get? id with
  | none => rw [operate_of_unbound hid]
  | some n =>
      rw [hid, Option.bind_some] at h
      rw [operate_of_no_session hid h]

/-- Sessions stand alone, whatever has been done with the registry before. Steps about bindings
change none of them, and getting a session changes only what the steps of the initialiser change.
An operation changes the cache of the session that its identifier is bound to, under whatever other
identifiers that is known, and reports what the session alone would. So while steps run, each
session, one of those that were there or were handed over, goes through the operations that reach
it, answers them, logs and remembers as if there were nothing else. -/
theorem sessions_stand_alone {ε : Type} (r : Registry) :
    (∀ step : RegistryStep ε, step.isAboutBindings = true → r.Keeps (r.runStep step).1) ∧
    (∀ id (inside : List (RegistryStep ε)) made,
      let r' := (r.runStep (.getOrRegister id inside made)).1
      (∀ n, r.get? id = some n → r' = r) ∧
      (r.get? id = none → (r.runSteps inside).1.Keeps r')) ∧
    (∀ id op,
      let after : Registry × RegistryReport ε := r.runStep (.operate id op)
      (((r.get? id).bind fun n => r.sessions[n]?) = none → after.1 = r) ∧
      ∀ n s, r.get? id = some n → r.sessions[n]? = some s →
        (s.perform op).session.resolver = s.resolver ∧
        after.1.bindings = r.bindings ∧
        (∀ m : Nat, after.1.sessions[m]? =
          if m = n then some (s.perform op).session else r.sessions[m]?) ∧
        after.2 = .mk (.operated (some (s.perform op))) r.size (s.perform op).events ∧
        ∀ other, r.get? other = some n → r.runStep (.operate other op) = after) ∧
    ∀ (steps : List (RegistryStep ε)) (n : Nat),
      let ran := r.runSteps steps
      Lives (RegistryStep.handedAll steps) r.sessions[n]? ran.1.sessions[n]?
        ((r.accesses steps ran.2).filter (·.number = n)) := by
  refine ⟨fun step => r.keeps_runStep, ?_, ?_, fun steps n => lives_runSteps steps r n⟩
  · intro id inside made
    dsimp only
    constructor
    · intro n hid
      rw [runStep, hid]
      rfl
    · intro hid
      rw [runStep, hid]
      exact keeps_initialise _ id made _
  · intro id op
    dsimp only
    rw [runStep]
    refine ⟨fun hnone => operate_of_bind_eq_none hnone op, fun n s hid hs => ?_⟩
    refine ⟨s.resolver_perform op, ?_, getElem?_operate hid hs op, ?_, fun other hother => ?_⟩
    · rw [operate_of_session hid hs]
    · rw [operate_of_session hid hs]
    · rw [runStep]
      exact operate_congr hid hother op

/-- Two sessions of the same template, of which the first one is known under two identifiers. -/
def twins : Registry where
  sessions := #[.start (.twice true), .start (.twice true)]
  bindings := ((Catalog.empty.insert "x" 0).insert "y" 1).insert "z" 0

theorem runSteps_twins :
    (runSteps {} [.register "x" (.build [("twice", Template.twice.pattern)] {}),
      .register "y" (.build [("twice", Template.twice.pattern)] {}),
      .registerAgain "z" 0]).1 = twins := by
  have hmade : (Made.build [("twice", Template.twice.pattern)] {}).result =
      .ok (.start (.twice true)) :=
    (Made.result_build _ _).trans (congrArg _ (Resolver.build_twice true))
  simp only [runSteps, runStep, register, hmade]
  rfl

/-- What is asked through one identifier of the first session is remembered under the other one,
also after that was removed and bound again, and the second session knows nothing of it. -/
theorem twins_stand_alone :
    let start := Session.start (.twice true)
    let question : Operation := .resolveOne "x/x" "twice"
    let steps : List (RegistryStep CompileError) := [.operate "z" question, .remove "x", .registerAgain "x" 0,
      .operate "x" question, .operate "y" question]
    let ran := twins.runSteps steps
    (runSteps {} [.register "x" (.build [("twice", Template.twice.pattern)] {}),
      .register "y" (.build [("twice", Template.twice.pattern)] {}),
      .registerAgain "z" 0]).1 = twins ∧
    (RegistryStep.remove (ε := CompileError) "x").isAboutBindings = true ∧
    (twins.runStep (ε := CompileError) (.remove "x")).1.sessions[0]? = some start ∧
    twins.get? "z" = some 0 ∧ twins.get? "x" = some 0 ∧ twins.sessions[0]? = some start ∧
    twins.runStep (ε := CompileError) (.operate "x" question) =
      twins.runStep (.operate "z" question) ∧
    ran.1.sessions[0]? = some (start.final [question, question]) ∧
    ((twins.accesses steps ran.2).filter (·.number = 0)).map Access.told =
      start.run [question, question] ∧
    ran.1.sessions[1]? = some (start.final [question]) ∧
    ((twins.accesses steps ran.2).filter (·.number = 1)).map Access.told =
      start.run [question] := by
  intro start question steps ran
  obtain ⟨hbindings, -, hoperate, hlives⟩ := sessions_stand_alone (ε := CompileError) twins
  have hz : twins.get? "z" = some 0 := by decide
  have hx : twins.get? "x" = some 0 := by decide
  have hfirst : twins.sessions[0]? = some start := rfl
  have hsecond : twins.sessions[1]? = some start := rfl
  have hops : ((twins.accesses steps ran.2).filter (·.number = 0)).map Access.op =
      [question, question] := rfl
  have hops' : ((twins.accesses steps ran.2).filter (·.number = 1)).map Access.op =
      [question] := rfl
  have hlife := hlives steps 0
  have hlife' := hlives steps 1
  rw [hfirst] at hlife
  rw [hsecond] at hlife'
  obtain ⟨s, hs, -, hfinal, htold⟩ := hlife.exists_of_some
  obtain ⟨s', hs', -, hfinal', htold'⟩ := hlife'.exists_of_some
  rw [hops] at hfinal htold
  rw [hops'] at hfinal' htold'
  obtain ⟨-, -, -, -, hsame⟩ := (hoperate "z" question).2 0 start hz hfirst
  exact ⟨runSteps_twins, rfl, hbindings (.remove "x") rfl 0 start hfirst, hz, hx, hfirst,
    hsame "x" hx, hs.trans (congrArg some hfinal), htold, hs'.trans (congrArg some hfinal'),
    htold'⟩

end Registry

end PathTemplate
