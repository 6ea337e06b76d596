import PathTemplate.Resolver.Outcome

/-! # Remembered answers

A resolver remembers the answers to each of its three questions by what was asked. Faults are not
remembered, and nothing is while the cache is off. -/

namespace PathTemplate

/-- A question about a path. -/
inductive Question
  /-- What does the first template say that matches? -/
  | first (path : String)
  /-- What does the template with a label say? -/
  | one (path label : String)
  /-- What does every template say that matches? -/
  | all (path : String)
  deriving DecidableEq

/-- Answers by question. -/
structure Cache where
  enabled : Bool
  first : Catalog String Resolved := .empty
  one : Catalog (String × String) (Option Fields) := .empty
  all : Catalog String (Catalog String Fields) := .empty
  deriving DecidableEq

namespace Cache

/-- How many answers are remembered. -/
def size (c : Cache) : Nat := c.first.size + c.one.size + c.all.size

/-- Forget everything. -/
def clear (c : Cache) : Cache := { enabled := c.enabled }

/-- Turn the cache on or off. Turning it off forgets everything. -/
def setEnabled (c : Cache) (enabled : Bool) : Cache :=
  if enabled then { c with enabled := true } else { enabled := false }

def first? (c : Cache) (path : String) : Option Resolved :=
  if c.enabled then c.first.get? path else none

def one? (c : Cache) (path label : String) : Option (Option Fields) :=
  if c.enabled then c.one.get? (path, label) else none

def all? (c : Cache) (path : String) : Option (Catalog String Fields) :=
  if c.enabled then c.all.get? path else none

def storeFirst (c : Cache) (path : String) (answer : Resolved) : Cache :=
  if c.enabled then { c with first := c.first.insert path answer } else c

def storeOne (c : Cache) (path label : String) (answer : Option Fields) : Cache :=
  if c.enabled then { c with one := c.one.insert (path, label) answer } else c

def storeAll (c : Cache) (path : String) (answer : Catalog String Fields) : Cache :=
  if c.enabled then { c with all := c.all.insert path answer } else c

end Cache

end PathTemplate
