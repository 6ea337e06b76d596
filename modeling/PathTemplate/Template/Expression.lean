import PathTemplate.Options
import PathTemplate.Template.Segment
import PathTemplate.Unicode.Character

/-! # The expression of a template

Literal text goes into the expression as it is. Every occurrence of a placeholder becomes a group
of its own, named by the placeholder and the number of the occurrence. -/

namespace PathTemplate

/-- A group of the expression and the placeholder whose value it holds. -/
structure Binding where
  group : String
  placeholder : String
  deriving DecidableEq

/-- Why segments have no expression. -/
inductive SegmentFault
  | invalidName (name : String)
  | emptyConstraint (name : String)
  deriving DecidableEq

namespace Segment

/-- A name starts with a letter or an underscore; digits may follow as well. -/
def isValidName (name : String) : Bool :=
  match name.toList with
  | [] => false
  | c :: rest =>
    (c = '_' || Character.isAlphabetic c) &&
      rest.all fun c => c = '_' || Character.isAlphanumeric c

/-- What a placeholder without constraint matches: anything but slashes. -/
def defaultConstraint : String := "[^/]*"

/-- A number of at least three digits. -/
def threeDigits (n : Nat) : String :=
  let digits := Nat.toDigits 10 n
  String.ofList (List.replicate (3 - digits.length) '0' ++ digits)

/-- The name of the group for the occurrence of a placeholder with a number. -/
def groupName (name : String) (occurrence : Nat) : String :=
  name ++ threeDigits occurrence

/-- The group of a placeholder around what it may match. -/
def groupText (group body : String) : String :=
  "(?P<" ++ group ++ ">" ++ body ++ ")"

/-- The expression of segments and its groups. `seen` holds the names of the placeholders
before. -/
def expressionFrom (seen : List String) :
    List Segment → Except SegmentFault (String × List Binding)
  | [] => .ok ("", [])
  | literal text :: rest =>
    match expressionFrom seen rest with
    | .error fault => .error fault
    | .ok (e, bindings) => .ok (text ++ e, bindings)
  | placeholder name constraint :: rest =>
    if !isValidName name then .error (.invalidName name)
    else if constraint = some "" then .error (.emptyConstraint name)
    else
      let group := groupName name (seen.count name + 1)
      match expressionFrom (name :: seen) rest with
      | .error fault => .error fault
      | .ok (e, bindings) =>
        .ok (groupText group (constraint.getD defaultConstraint) ++ e, ⟨group, name⟩ :: bindings)

/-- The expression of a template between its anchors, and its groups. -/
def expression (options : Options) (segments : List Segment) :
    Except SegmentFault (String × List Binding) :=
  match expressionFrom [] segments with
  | .error fault => .error fault
  | .ok (e, bindings) =>
    .ok ((if options.anchorStart then "^" else "") ++ e ++
      (if options.anchorEnd then "$" else ""), bindings)

/-- The format string of a template: its segments without constraints. -/
def formatSource (segments : List Segment) : String :=
  String.ofList (segments.flatMap fun
    | literal text => text.toList
    | placeholder name _ => write (placeholder name none))

end Segment

end PathTemplate
