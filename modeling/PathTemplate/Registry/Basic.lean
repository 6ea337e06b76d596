import PathTemplate.Resolver.Session

/-! # Registries

A registry binds identifiers to resolver sessions. Sessions that have been bound are kept in a
table and known by their number in it, so that one session can be bound to several identifiers,
and stays what it is while it is bound to none. -/

namespace PathTemplate

/-- Bindings of identifiers to the numbers of sessions. -/
structure Registry where
  sessions : Array Session := #[]
  bindings : Catalog String Nat := .empty

namespace Registry

/-- How many identifiers are bound. -/
def size (r : Registry) : Nat := r.bindings.size

def isEmpty (r : Registry) : Bool := r.bindings.isEmpty

/-- The number of the session that an identifier is bound to. -/
def get? (r : Registry) (id : String) : Option Nat := r.bindings.get? id

def contains (r : Registry) (id : String) : Bool := r.bindings.contains id

/-- The bound identifiers. -/
def ids (r : Registry) : Names := Names.ofList r.bindings.keys

/-- The labels of a session's resolver. -/
def labelsOf (r : Registry) (number : Nat) : List String :=
  match r.sessions[number]? with
  | some s => s.resolver.labels
  | none => []

/-- Take a session into the table. It is bound to nothing yet. -/
def add (r : Registry) (s : Session) : Registry × Nat :=
  ({ r with sessions := r.sessions.push s }, r.sessions.size)

/-- Bind an identifier to a session of the table, and tell what it was bound to before. -/
def bind (r : Registry) (id : String) (number : Nat) : Registry × Option Nat × List Event :=
  let previous := r.get? id
  let event : Event := match previous with
    | some _ => .replaced id (r.labelsOf number)
    | none => .registered id (r.labelsOf number)
  ({ r with bindings := r.bindings.insert id number }, previous, [event])

/-- Ask for the session of an identifier. -/
def lookup (r : Registry) (id : String) : Option Nat × List Event :=
  match r.get? id with
  | some number => (some number, [])
  | none => (none, [.unknownId id])

/-- Unbind an identifier, and tell what it was bound to. -/
def remove (r : Registry) (id : String) : Registry × Option Nat :=
  ({ r with bindings := r.bindings.erase id }, r.get? id)

/-- Perform an operation on a session of the table. -/
def perform (r : Registry) (number : Nat) (op : Operation) :
    Registry × Option Performed :=
  match r.sessions[number]? with
  | some s =>
    let p := s.perform op
    ({ r with sessions := r.sessions.setIfInBounds number p.session }, some p)
  | none => (r, none)

end Registry

end PathTemplate
