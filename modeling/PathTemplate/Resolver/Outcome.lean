import PathTemplate.Catalog
import PathTemplate.Fields
import PathTemplate.Json.Writer
import PathTemplate.Text.Quoted

/-! # Outcomes

What asking all templates for the first answer comes to. Finding nothing is an ordinary
outcome. -/

namespace PathTemplate

/-- The first answer with the label of the template that gave it, or none. -/
inductive Outcome (α : Type)
  | found (label : String) (value : α)
  | notFound
  deriving DecidableEq

namespace Outcome

variable {α : Type}

def isFound : Outcome α → Bool
  | found _ _ => true
  | notFound => false

def label? : Outcome α → Option String
  | found label _ => some label
  | notFound => none

def value? : Outcome α → Option α
  | found _ value => some value
  | notFound => none

/-- The outcome of an answer, if there is one. -/
def ofOption : Option (String × α) → Outcome α
  | some (label, value) => found label value
  | none => notFound

end Outcome

/-- The fields found in a path. -/
abbrev Resolved := Outcome Fields

/-- The path made of fields. -/
abbrev Formatted := Outcome String

/-- Fields as a JSON object. -/
def Fields.json (f : Fields) : Json :=
  .object (f.entries.map fun e => (e.1, .string e.2))

/-- Names as a JSON array. -/
def Names.json (s : Names) : Json :=
  .array (s.toList.map .string)

/-- An outcome as JSON, with the value under a name of its own. -/
def Outcome.jsonWith {α : Type} (name : String) (value : α → Json) : Outcome α → Json
  | found label v =>
    .object [("status", .string "found"), ("label", .string label), (name, value v)]
  | notFound => .object [("status", .string "not_found")]

def Resolved.json (o : Resolved) : Json := o.jsonWith "fields" Fields.json

def Formatted.json (o : Formatted) : Json := o.jsonWith "path" Json.string

/-- What both kinds of outcomes display where nothing was found. -/
def notFoundText : String := "<not found>"

def Resolved.display : Resolved → String
  | .found label fields =>
    label ++ ": " ++ Quoted.braced (fields.entries.map fun e => e.1 ++ ": " ++ Quoted.text e.2)
  | .notFound => notFoundText

def Formatted.display : Formatted → String
  | .found label path => label ++ ": " ++ path
  | .notFound => notFoundText

end PathTemplate
