import PathTemplate.Proofs.Catalog
import PathTemplate.Proofs.Fields
import PathTemplate.Proofs.Lists
import PathTemplate.Registry.Run

/-!
# What a registry remembers

The bindings of a registry are told from the history of its changes: an identifier
is bound to the session that was bound to it last and not removed since. The rules
of the steps are given as a relation between moments of a run. An initialiser runs
steps between two moments of the step that brings it, so the rules hold for the
steps inside of others as well, to any depth, whatever it makes or fails with.
-/

namespace PathTemplate

/-- A change of the bindings of a registry. -/
inductive Change
  | bound (id : String) (number : Nat)
  | removed (id : String)

namespace Change

/-- The identifier whose binding is changed. -/
def id : Change → String
  | bound id _ => id
  | removed id => id

end Change

/-- A session was bound to an identifier, and later changes are about others. -/
def BoundLast (history : List Change) (id : String) (number : Nat) : Prop :=
  ∃ earlier later, history = earlier ++ .bound id number :: later ∧
    ∀ change ∈ later, change.id ≠ id

theorem not_boundLast_nil (id : String) (number : Nat) : ¬ BoundLast [] id number := by
  rintro ⟨earlier, later, h, -⟩
  simp at h

/-- The last change counts if it is about the identifier, and else those before it. -/
theorem boundLast_concat {history : List Change} {change : Change} {id : String} {number : Nat} :
    BoundLast (history ++ [change]) id number ↔
      change = .bound id number ∨ change.id ≠ id ∧ BoundLast history id number := by
  have hsplit : ∀ history, BoundLast history id number ↔ ∃ earlier x later,
      history = earlier ++ x :: later ∧ (∀ other ∈ later, other.id ≠ id) ∧
        x = Change.bound id number := by
    intro history
    constructor
    · rintro ⟨earlier, later, h, hlater⟩
      exact ⟨earlier, _, later, h, hlater, rfl⟩
    · rintro ⟨earlier, _, later, h, hlater, rfl⟩
      exact ⟨earlier, later, h, hlater⟩
  rw [hsplit, hsplit]
  exact exists_split_concat_iff

namespace Registry

variable {r : Registry} {history : List Change} {id : String} {number : Nat}

theorem lookup_fst (r : Registry) (id : String) : (r.lookup id).1 = r.get? id := by
  unfold lookup
  cases r.get? id with
  | none => rfl
  | some number => rfl

theorem contains_iff : r.contains id = true ↔ ∃ number, r.get? id = some number :=
  Option.isSome_iff_exists

theorem mem_ids_iff : id ∈ r.ids ↔ ∃ number, r.get? id = some number :=
  Names.mem_ofList.trans Catalog.mem_keys_iff

/-- A registry has as many bindings as identifiers. -/
theorem size_eq_length_ids (r : Registry) : r.size = r.ids.toList.length := by
  have hperm : r.bindings.keys.Perm r.ids.toList := by
    refine (List.perm_ext_iff_of_nodup r.bindings.nodup ?_).2 fun id => Names.mem_ofList.symm
    exact r.ids.sorted.imp fun {a b} h => (String.ne_of_lt h)
  rw [← hperm.length_eq, Catalog.keys, List.length_map]
  rfl

end Registry

/-- A registry at a moment of a run, with the changes up to it. -/
structure Moment where
  registry : Registry
  history : List Change

namespace Moment

/-- The registry is what the history says, whoever asks it: an identifier is bound to the session
that was bound last and not removed since, or else to none. -/
structure Sound (m : Moment) : Prop where
  lookup : ∀ id number, (m.registry.lookup id).1 = some number ↔ BoundLast m.history id number
  contains : ∀ id, m.registry.contains id = true ↔ ∃ number, BoundLast m.history id number
  ids : ∀ id, id ∈ m.registry.ids ↔ ∃ number, BoundLast m.history id number
  size : m.registry.size = m.registry.ids.toList.length

/-- All questions are answered from the bindings. -/
theorem sound_of_get? {m : Moment}
    (h : ∀ id number, m.registry.get? id = some number ↔ BoundLast m.history id number) :
    m.Sound where
  lookup id number := by rw [Registry.lookup_fst, h]
  contains id := by simp only [Registry.contains_iff, h]
  ids id := by simp only [Registry.mem_ids_iff, h]
  size := m.registry.size_eq_length_ids

theorem get?_iff {m : Moment} (h : m.Sound) {id : String} {number : Nat} :
    m.registry.get? id = some number ↔ BoundLast m.history id number := by
  rw [← Registry.lookup_fst, h.lookup]

theorem sound_start : Sound ⟨{}, []⟩ :=
  sound_of_get? fun id number =>
    iff_of_false (by rw [Registry.get?, Catalog.get?_empty]; simp) (not_boundLast_nil id number)

/-- Binding an identifier is the last change of it, whatever happens to the sessions. -/
theorem Sound.insert {m : Moment} (h : m.Sound) (sessions : Array Session) (id : String)
    (number : Nat) :
    Sound ⟨⟨sessions, m.registry.bindings.insert id number⟩,
      m.history ++ [.bound id number]⟩ := by
  refine sound_of_get? fun other n => ?_
  have hget : m.registry.bindings.get? other = some n ↔ BoundLast m.history other n := get?_iff h
  rw [Registry.get?, Catalog.get?_insert, boundLast_concat]
  by_cases heq : id = other
  · simp [heq, Change.id]
  · simp [heq, Change.id, hget]

theorem Sound.erase {m : Moment} (h : m.Sound) (id : String) :
    Sound ⟨{ m.registry with bindings := m.registry.bindings.erase id },
      m.history ++ [.removed id]⟩ := by
  refine sound_of_get? fun other n => ?_
  have hget : m.registry.bindings.get? other = some n ↔ BoundLast m.history other n := get?_iff h
  rw [Registry.get?, Catalog.get?_erase, boundLast_concat]
  by_cases heq : id = other
  · simp [heq, Change.id]
  · simp [heq, Change.id, hget]

/-- The history is about the bindings only. -/
theorem Sound.of_bindings {m : Moment} (h : m.Sound) {r : Registry}
    (hr : r.bindings = m.registry.bindings) : Sound ⟨r, m.history⟩ :=
  sound_of_get? fun id number => by rw [Registry.get?, hr]; exact get?_iff h

/-! ## The rules -/

mutual

/-- The rules of the steps: what a step at a moment is answered, and the moment after it. -/
inductive Step {ε : Type} : Moment → RegistryStep ε → RegistryReport ε → Moment → Prop
  /-- Without a session nothing is registered. -/
  | notMade {m : Moment} {id : String} {made : Made ε} {fault : ε} {events : List Event}
      (hmade : made.result = .error fault) :
      Step m (.register id made) (.mk (.registered (.error fault) none) m.registry.size events) m
  /-- Registering tells the session that a lookup would have found, and binds the new one. -/
  | registered {m m' : Moment} {id : String} {made : Made ε} {s : Session} {number : Nat}
      {events : List Event} (hmade : made.result = .ok s)
      (hnew : m.registry.sessions[number]? = none)
      (hsession : m'.registry.sessions[number]? = some s)
      (hbound : (m'.registry.lookup id).1 = some number)
      (hhistory : m'.history = m.history ++ [.bound id number]) :
      Step m (.register id made)
        (.mk (.registered (.ok number) (m.registry.lookup id).1) m'.registry.size events) m'
  /-- So does registering a session once more. -/
  | registeredAgain {m m' : Moment} {id : String} {number : Nat} {events : List Event}
      (hbound : (m'.registry.lookup id).1 = some number)
      (hhistory : m'.history = m.history ++ [.bound id number]) :
      Step m (.registerAgain id number)
        (.mk (.registeredAgain (m.registry.lookup id).1) m'.registry.size events) m'
  /-- The session of a bound identifier is got. No initialiser runs and nothing changes. -/
  | gotBound {m : Moment} {id : String} {inside : List (RegistryStep ε)} {made : Made ε}
      {number : Nat} {events : List Event} (hbound : (m.registry.lookup id).1 = some number) :
      Step m (.getOrRegister id inside made)
        (.mk (.got (.ok number) none) m.registry.size events) m
  /-- If the initialiser fails, its steps have been run once, and that is all. -/
  | initialiserFailed {m m' : Moment} {id : String} {inside : List (RegistryStep ε)} {made : Made ε}
      {reports : List (RegistryReport ε)} {fault : ε} {events : List Event}
      (hfree : (m.registry.lookup id).1 = none) (hinside : Run m inside reports m')
      (hmade : made.result = .error fault) :
      Step m (.getOrRegister id inside made)
        (.mk (.got (.error fault) (some reports)) m'.registry.size events) m'
  /-- What the steps of the initialiser left bound is kept, and the new session is dropped. -/
  | kept {m m' : Moment} {id : String} {inside : List (RegistryStep ε)} {made : Made ε}
      {reports : List (RegistryReport ε)} {s : Session} {number : Nat} {events : List Event}
      (hfree : (m.registry.lookup id).1 = none) (hinside : Run m inside reports m')
      (hmade : made.result = .ok s) (hbound : (m'.registry.lookup id).1 = some number) :
      Step m (.getOrRegister id inside made)
        (.mk (.got (.ok number) (some reports)) m'.registry.size events) m'
  /-- If they left nothing bound, the new session is bound, and no binding is replaced. -/
  | created {m m' m'' : Moment} {id : String} {inside : List (RegistryStep ε)} {made : Made ε}
      {reports : List (RegistryReport ε)} {s : Session} {number : Nat} {events : List Event}
      (hfree : (m.registry.lookup id).1 = none) (hinside : Run m inside reports m')
      (hmade : made.result = .ok s) (hunbound : (m'.registry.lookup id).1 = none)
      (hnew : m'.registry.sessions[number]? = none)
      (hsession : m''.registry.sessions[number]? = some s)
      (hbound : (m''.registry.lookup id).1 = some number)
      (hkept : ∀ other n, (m'.registry.lookup other).1 = some n →
        (m''.registry.lookup other).1 = some n)
      (hhistory : m''.history = m'.history ++ [.bound id number]) :
      Step m (.getOrRegister id inside made)
        (.mk (.got (.ok number) (some reports)) m''.registry.size events) m''
  | found {m : Moment} {id : String} {events : List Event} :
      Step m (.lookup id) (.mk (.found (m.registry.lookup id).1) m.registry.size events) m
  /-- Removing tells the session that a lookup would have found. -/
  | removed {m m' : Moment} {id : String} {events : List Event}
      (hunbound : (m'.registry.lookup id).1 = none)
      (hhistory : m'.history = m.history ++ [.removed id]) :
      Step m (.remove id) (.mk (.removed (m.registry.lookup id).1) m'.registry.size events) m'
  | contained {m : Moment} {id : String} {events : List Event} :
      Step m (.contains id) (.mk (.contained (m.registry.contains id)) m.registry.size events) m
  | ids {m : Moment} {events : List Event} :
      Step m .ids (.mk (.ids m.registry.ids) m.registry.size events) m
  /-- What is asked of a session changes no binding. -/
  | operated {m m' : Moment} {id : String} {op : Operation} {performed : Option Performed}
      {events : List Event} (hbindings : m'.registry.bindings = m.registry.bindings)
      (hhistory : m'.history = m.history) :
      Step m (.operate id op) (.mk (.operated performed) m'.registry.size events) m'

/-- Steps one after the other. At every moment the registry is what the history says. -/
inductive Run {ε : Type} : Moment → List (RegistryStep ε) → List (RegistryReport ε) → Moment → Prop
  | nil {m : Moment} (hsound : m.Sound) : Run m [] [] m
  | cons {m m' m'' : Moment} {step : RegistryStep ε} {steps : List (RegistryStep ε)}
      {report : RegistryReport ε} {reports : List (RegistryReport ε)} (hsound : m.Sound)
      (first : Step m step report m') (rest : Run m' steps reports m'') :
      Run m (step :: steps) (report :: reports) m''

end

/-! ## Following the rules -/

variable {ε : Type}

/-- A step was answered by the rules, and the registry is again what the history says. -/
def Obeys (m : Moment) (step : RegistryStep ε) (result : Registry × RegistryReport ε) : Prop :=
  ∃ history, Step m step result.2 ⟨result.1, history⟩ ∧ Sound ⟨result.1, history⟩

variable {m : Moment}

theorem obeys_of_same {step : RegistryStep ε} {report : RegistryReport ε} (h : m.Sound)
    (hstep : Step m step report m) : Obeys m step (m.registry, report) :=
  ⟨m.history, hstep, h⟩

theorem lookup_insert (sessions : Array Session) (bindings : Catalog String Nat) (id : String)
    (number : Nat) (other : String) :
    (Registry.lookup ⟨sessions, bindings.insert id number⟩ other).1 =
      if id = other then some number else bindings.get? other := by
  rw [Registry.lookup_fst, Registry.get?, Catalog.get?_insert]

theorem obeys_register (h : m.Sound) (id : String) (made : Made ε) :
    Obeys m (.register id made) (m.registry.register id made) := by
  unfold Registry.register
  cases hmade : made.result with
  | error fault => exact obeys_of_same h (.notMade hmade)
  | ok s =>
      have hsound := h.insert (m.registry.sessions.push s) id m.registry.sessions.size
      refine ⟨_, ?_, hsound⟩
      simp only [Registry.bindNew, Registry.add, Registry.bind, Registry.report]
      have hprevious : Registry.get? ⟨m.registry.sessions.push s, m.registry.bindings⟩ id =
          (m.registry.lookup id).1 :=
        (Registry.lookup_fst m.registry id).symm
      rw [hprevious]
      refine @Step.registered _ m ⟨_, _⟩ _ _ _ _ _ hmade ?_ ?_ ?_ rfl
      · exact Array.getElem?_size
      · exact Array.getElem?_push_size
      · rw [lookup_insert, if_pos rfl]

theorem obeys_registerAgain (h : m.Sound) (id : String) (number : Nat) :
    Obeys (ε := ε) m (.registerAgain id number)
      (m.registry.runStep (.registerAgain id number)) := by
  rw [Registry.runStep]
  refine ⟨_, ?_, h.insert m.registry.sessions id number⟩
  simp only [Registry.bind, Registry.report]
  rw [← Registry.lookup_fst]
  refine @Step.registeredAgain _ m ⟨_, _⟩ _ _ _ ?_ rfl
  rw [lookup_insert, if_pos rfl]

theorem obeys_remove (h : m.Sound) (id : String) :
    Obeys (ε := ε) m (.remove id) (m.registry.runStep (.remove id)) := by
  rw [Registry.runStep]
  refine ⟨_, ?_, h.erase id⟩
  simp only [Registry.remove, Registry.report]
  rw [← Registry.lookup_fst]
  refine @Step.removed _ m ⟨_, _⟩ _ _ ?_ rfl
  rw [Registry.lookup_fst, Registry.get?, Catalog.get?_erase, if_pos rfl]

theorem bindings_operate (r : Registry) (id : String) (op : Operation) :
    (r.operate (ε := ε) id op).1.bindings = r.bindings := by
  unfold Registry.operate
  split
  · rfl
  · simp only [Registry.perform, Registry.report]
    split
    · rfl
    · rfl

theorem exists_report_operate (r : Registry) (id : String) (op : Operation) :
    ∃ performed events,
      (r.operate (ε := ε) id op).2 =
        .mk (.operated performed) (r.operate (ε := ε) id op).1.size events := by
  unfold Registry.operate
  split
  · exact ⟨_, _, rfl⟩
  · exact ⟨_, _, rfl⟩

theorem obeys_operate (h : m.Sound) (id : String) (op : Operation) :
    Obeys (ε := ε) m (.operate id op) (m.registry.operate id op) := by
  have hbindings := bindings_operate (ε := ε) m.registry id op
  obtain ⟨performed, events, hreport⟩ := exists_report_operate m.registry id op
  refine ⟨m.history, ?_, h.of_bindings hbindings⟩
  rw [hreport]
  exact @Step.operated _ m ⟨_, _⟩ _ _ _ _ hbindings rfl

/-- The initialiser's steps have been run, and the identifier was not bound before them. -/
theorem obeys_initialise {m' : Moment} {id : String} {inside : List (RegistryStep ε)}
    {reports : List (RegistryReport ε)} (hfree : (m.registry.lookup id).1 = none)
    (hinside : Run m inside reports m') (h : m'.Sound) (made : Made ε) :
    Obeys m (.getOrRegister id inside made) (m'.registry.initialise id made reports) := by
  unfold Registry.initialise
  cases hmade : made.result with
  | error fault => exact ⟨_, .initialiserFailed hfree hinside hmade, h⟩
  | ok s =>
      cases hget : m'.registry.get? id with
      | some number =>
          refine ⟨_, .kept hfree hinside hmade ?_, h⟩
          rw [Registry.lookup_fst, hget]
      | none =>
          have hsound := h.insert (m'.registry.sessions.push s) id m'.registry.sessions.size
          refine ⟨_, ?_, hsound⟩
          simp only [Registry.bindNew, Registry.add, Registry.bind, Registry.report]
          refine @Step.created _ m m' ⟨_, _⟩ _ _ _ _ _ _ _ hfree hinside hmade ?_ ?_ ?_ ?_ ?_ rfl
          · rw [Registry.lookup_fst, hget]
          · exact Array.getElem?_size
          · exact Array.getElem?_push_size
          · rw [lookup_insert, if_pos rfl]
          · intro other n hother
            rw [Registry.lookup_fst] at hother
            rw [lookup_insert, if_neg]
            · exact hother
            · rintro rfl
              rw [hget] at hother
              cases hother

mutual

/-- Every step follows the rules. -/
theorem obeys_runStep (step : RegistryStep ε) {m : Moment} (h : m.Sound) :
    Obeys m step (m.registry.runStep step) := by
  cases step with
  | register id made =>
      rw [Registry.runStep]
      exact obeys_register h id made
  | registerAgain id number => exact obeys_registerAgain h id number
  | getOrRegister id inside made =>
      rw [Registry.runStep]
      cases hget : m.registry.get? id with
      | some number =>
          refine obeys_of_same h (.gotBound ?_)
          rw [Registry.lookup_fst, hget]
      | none =>
          obtain ⟨history, hinside, hsound⟩ := exists_run inside h
          refine obeys_initialise ?_ hinside hsound made
          rw [Registry.lookup_fst, hget]
  | lookup id =>
      rw [Registry.runStep]
      exact obeys_of_same h .found
  | remove id => exact obeys_remove h id
  | contains id =>
      rw [Registry.runStep]
      exact obeys_of_same h .contained
  | ids =>
      rw [Registry.runStep]
      exact obeys_of_same h .ids
  | operate id op =>
      rw [Registry.runStep]
      exact obeys_operate h id op

/-- Every run follows the rules. -/
theorem exists_run (steps : List (RegistryStep ε)) {m : Moment} (h : m.Sound) :
    ∃ history, Run m steps (m.registry.runSteps steps).2
      ⟨(m.registry.runSteps steps).1, history⟩ ∧
      Sound ⟨(m.registry.runSteps steps).1, history⟩ := by
  cases steps with
  | nil =>
      rw [Registry.runSteps]
      exact ⟨m.history, .nil h, h⟩
  | cons step rest =>
      rw [Registry.runSteps]
      obtain ⟨history, hstep, hsound⟩ := obeys_runStep step h
      obtain ⟨history', hrest, hsound'⟩ := exists_run rest hsound
      exact ⟨history', .cons h hstep hrest, hsound'⟩

end

end Moment

/-- However steps are nested, they follow the rules from the empty registry on: at every moment an
identifier is bound to the session that was bound to it last and not removed since, and getting a
session never replaces one that an initialiser's own steps have bound. What sessions are made and
what faults there are in making them does not matter. -/
theorem Registry.runSteps_follows_history {ε : Type} (steps : List (RegistryStep ε)) :
    ∃ history,
      Moment.Run ⟨{}, []⟩ steps (runSteps {} steps).2 ⟨(runSteps {} steps).1, history⟩ := by
  obtain ⟨history, hrun, -⟩ := Moment.exists_run steps Moment.sound_start
  exact ⟨history, hrun⟩

end PathTemplate
