/-! # JSON values -/

namespace PathTemplate

/-- A JSON value. A number is kept as it is written, and the members of an object in the order
in which they are written. -/
inductive Json
  | null
  | bool (value : Bool)
  | number (literal : String)
  | string (value : String)
  | array (items : List Json)
  | object (members : List (String × Json))

namespace Json

instance : Inhabited Json := ⟨null⟩

/-- The text of a string value. -/
def string? : Json → Option String
  | string value => some value
  | _ => none

end Json

end PathTemplate
