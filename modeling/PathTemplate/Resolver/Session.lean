import PathTemplate.Resolver.Basic

/-! # Sessions

A session is a resolver together with the answers it remembers. Operations are performed on it
one after the other; only its cache changes. -/

namespace PathTemplate

/-- What can be asked of a session. -/
inductive Operation
  | resolveFirst (path : String)
  | resolveOne (path label : String)
  | resolveAll (path : String)
  | formatFirst (fields : Fields)
  | formatOne (fields : Fields) (label : String)
  | formatAll (fields : Fields)
  | clearCache
  | setCacheEnabled (enabled : Bool)
  /-- The template under a label. -/
  | describe (label : String)
  /-- The resolver itself. -/
  | overview

/-- What an operation answers. -/
inductive Answer
  | resolvedFirst (result : Except Mismatch Resolved)
  | resolvedOne (result : Except Mismatch (Option Fields))
  | resolvedAll (result : Except Mismatch (Catalog String Fields))
  | formattedFirst (result : Formatted)
  | formattedOne (result : Option String)
  | formattedAll (result : Catalog String String)
  | done
  | description (template : Option Template)
  | overview (resolver : Resolver) (cache : Cache)

/-- A resolver and the answers it remembers. -/
structure Session where
  resolver : Resolver
  cache : Cache

/-- An answer with the session behind it and what was reported on the way. -/
structure Performed where
  answer : Answer
  session : Session
  events : List Event

namespace Session

/-- A session in which nothing has been asked. -/
def start (r : Resolver) : Session := ⟨r, r.freshCache⟩

/-- An answer of the resolver as the answer of an operation. -/
def after {α : Type} (s : Session) (wrap : α → Answer) (t : Traced α) : Performed :=
  ⟨wrap t.answer, ⟨s.resolver, t.cache⟩, t.events⟩

/-- Perform one operation. -/
def perform (s : Session) : Operation → Performed
  | .resolveFirst path => s.after .resolvedFirst (s.resolver.resolveFirst s.cache path)
  | .resolveOne path label => s.after .resolvedOne (s.resolver.resolveOne s.cache path label)
  | .resolveAll path => s.after .resolvedAll (s.resolver.resolveAll s.cache path)
  | .formatFirst fields => s.after .formattedFirst (s.resolver.formatFirst s.cache fields)
  | .formatOne fields label => s.after .formattedOne (s.resolver.formatOne s.cache fields label)
  | .formatAll fields => s.after .formattedAll (s.resolver.formatAll s.cache fields)
  | .clearCache => s.after (fun _ => .done) (Resolver.clearCache s.cache)
  | .setCacheEnabled enabled =>
    s.after (fun _ => .done) (Resolver.setCacheEnabled s.cache enabled)
  | .describe label => ⟨.description (s.resolver.template? label), s, []⟩
  | .overview => ⟨.overview s.resolver s.cache, s, []⟩

/-- Perform operations one after the other. -/
def run (s : Session) : List Operation → List Performed
  | [] => []
  | op :: rest =>
    let p := s.perform op
    p :: p.session.run rest

end Session

end PathTemplate
