import PathTemplate.Registry.Basic

/-! # Running steps on a registry

A registry is handed sessions that were made outside of it, or told why there is none. A step may
bring steps of its own, which run before the session for an identifier is handed over. They see and
change the same registry, to any depth. -/

namespace PathTemplate

/-- A session that was made for a registry, which may have been asked before, or why there is none,
and what was reported while it was made. -/
structure Made (ε : Type) where
  result : Except ε Session
  events : List Event := []

/-- A new session of a resolver of templates under labels. -/
def Made.build (pairs : List (String × String)) (options : Options) : Made CompileError :=
  match Resolver.buildTraced pairs options with
  | .error e => { result := .error e }
  | .ok (resolver, built) => ⟨.ok (.start resolver), built⟩

/-- What is made of templates under labels is a new session of the resolver that is built. -/
theorem Made.result_build (pairs : List (String × String)) (options : Options) :
    (build pairs options).result = (Resolver.build pairs options).map .start := by
  rw [build, Resolver.build]
  cases Resolver.buildTraced pairs options with
  | error fault => rfl
  | ok built => rfl

/-- What can be done with a registry. Sessions are made with faults in `ε`. -/
inductive RegistryStep (ε : Type)
  /-- Bind an identifier to a session that was made. -/
  | register (id : String) (made : Made ε)
  /-- Bind an identifier to a session that has been bound before. -/
  | registerAgain (id : String) (number : Nat)
  /-- Ask for the session of an identifier, and if there is none, run steps and bind the session
  that was made, unless the steps have bound the identifier. -/
  | getOrRegister (id : String) (inside : List (RegistryStep ε)) (made : Made ε)
  | lookup (id : String)
  | remove (id : String)
  | contains (id : String)
  | ids
  /-- Perform an operation on the session of an identifier. -/
  | operate (id : String) (op : Operation)

mutual

/-- What a step answers. -/
inductive RegistryAnswer (ε : Type)
  | registered (new : Except ε Nat) (previous : Option Nat)
  | registeredAgain (previous : Option Nat)
  /-- The session, and the reports of the steps inside if they were run. -/
  | got (result : Except ε Nat) (inside : Option (List (RegistryReport ε)))
  | found (number : Option Nat)
  | removed (number : Option Nat)
  | contained (answer : Bool)
  | ids (ids : Names)
  | operated (performed : Option Performed)

/-- An answer with the number of identifiers that are bound then, and what was reported since the
answer before it. -/
inductive RegistryReport (ε : Type)
  | mk (answer : RegistryAnswer ε) (size : Nat) (events : List Event)

end

namespace Registry

variable {ε : Type}

/-- An answer given in a registry. -/
def report (r : Registry) (answer : RegistryAnswer ε) (events : List Event) :
    Registry × RegistryReport ε :=
  (r, .mk answer r.size events)

/-- Bind an identifier to a session that is new to the table. -/
def bindNew (r : Registry) (id : String) (s : Session) :
    Registry × Nat × Option Nat × List Event :=
  let (r, number) := r.add s
  let (r, previous, events) := r.bind id number
  (r, number, previous, events)

/-- Bind an identifier to a session that was made. -/
def register (r : Registry) (id : String) (made : Made ε) : Registry × RegistryReport ε :=
  match made.result with
  | .error e => r.report (.registered (.error e) none) made.events
  | .ok s =>
    let (r, number, previous, events) := r.bindNew id s
    r.report (.registered (.ok number) previous) (made.events ++ events)

/-- Bind an identifier that was not bound to what its initialiser made, unless it is bound by
now. The steps of the initialiser have been run. -/
def initialise (r : Registry) (id : String) (made : Made ε)
    (inside : List (RegistryReport ε)) : Registry × RegistryReport ε :=
  match made.result with
  | .error e => r.report (.got (.error e) (some inside)) made.events
  | .ok s =>
    match r.get? id with
    | some number => r.report (.got (.ok number) (some inside)) made.events
    | none =>
      let (r, number, _, events) := r.bindNew id s
      r.report (.got (.ok number) (some inside)) (made.events ++ events)

/-- Perform an operation on the session of an identifier. -/
def operate (r : Registry) (id : String) (op : Operation) : Registry × RegistryReport ε :=
  match r.lookup id with
  | (none, events) => r.report (.operated none) events
  | (some number, events) =>
    let (r, performed) := r.perform number op
    r.report (.operated performed)
      (events ++ (performed.map Performed.events).getD [])

mutual

/-- Run one step. -/
def runStep (r : Registry) : RegistryStep ε → Registry × RegistryReport ε
  | .register id made => r.register id made
  | .registerAgain id number =>
    let (r, previous, events) := r.bind id number
    r.report (.registeredAgain previous) events
  | .getOrRegister id inside made =>
    match r.get? id with
    | some number => r.report (.got (.ok number) none) []
    | none =>
      let (r, reports) := r.runSteps inside
      r.initialise id made reports
  | .lookup id =>
    let (number, events) := r.lookup id
    r.report (.found number) events
  | .remove id =>
    let (r, number) := r.remove id
    r.report (.removed number) []
  | .contains id => r.report (.contained (r.contains id)) []
  | .ids => r.report (.ids r.ids) []
  | .operate id op => r.operate id op

/-- Run steps one after the other. -/
def runSteps (r : Registry) : List (RegistryStep ε) → Registry × List (RegistryReport ε)
  | [] => (r, [])
  | step :: rest =>
    let (r, report) := r.runStep step
    let (r, reports) := r.runSteps rest
    (r, report :: reports)

end

end Registry

end PathTemplate
