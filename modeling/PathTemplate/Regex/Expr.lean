import PathTemplate.Regex.Fault

/-! # Regular expressions as they are written

The tree of an expression keeps what was written: flags stand where they were given, and names
of properties are not looked up. -/

namespace PathTemplate.Regex

/-- The set that a letter such as `d` in `\d` stands for. -/
inductive Shorthand
  | digit
  | blank
  | word
  deriving DecidableEq

/-- A set that is named inside a class, as in `[[:alpha:]]`. -/
inductive Posix
  | alnum | alpha | ascii | blank | cntrl | digit | graph | lower | print | punct | space | upper
  | word | xdigit
  deriving DecidableEq

/-- How a property of characters is asked for. -/
inductive PropertyQuery
  | name (name : String)
  | value (property value : String)
  deriving DecidableEq

/-- An operation on two classes. -/
inductive ClassOp
  | intersection
  | difference
  | symmetricDifference
  deriving DecidableEq

/-- A character as it is written: by itself or an escape, or by two hexadecimal digits, which
stand for a byte where Unicode is off. -/
structure WrittenChar where
  char : Char
  byHexByte : Bool := false
  deriving DecidableEq

/-- A class of characters as it is written. -/
inductive ClassExpr
  | empty
  | char (c : WrittenChar)
  | range (first last : WrittenChar)
  | posix (set : Posix) (negated : Bool)
  | shorthand (set : Shorthand) (negated : Bool)
  | property (query : PropertyQuery) (negated : Bool)
  | brackets (negated : Bool) (body : ClassExpr)
  | union (members : List ClassExpr)
  | op (kind : ClassOp) (left right : ClassExpr)

/-- A place in the text that a written assertion asks for. -/
inductive Place
  | lineStart
  | lineEnd
  | textStart
  | textEnd
  | wordBoundary
  | noWordBoundary
  | wordStart
  | wordEnd
  | wordStartHalf
  | wordEndHalf
  deriving DecidableEq

/-- Flags that are turned on or off, and `none` where a flag stays as it is. -/
structure FlagChange where
  anyCase : Option Bool := none
  multiLine : Option Bool := none
  dotNewline : Option Bool := none
  swapGreed : Option Bool := none
  unicode : Option Bool := none
  carriageReturn : Option Bool := none
  verbose : Option Bool := none
  deriving DecidableEq

/-- What parentheses do. -/
inductive GroupKind
  /-- Remember the matched text under a number and perhaps a name. -/
  | capture (index : Nat) (name : Option String)
  /-- Only group, under changed flags. -/
  | plain (flags : FlagChange)
  deriving DecidableEq

/-- A regular expression as it is written. -/
inductive Expr
  | empty
  | flags (change : FlagChange)
  | char (c : WrittenChar)
  | dot
  | place (p : Place)
  | charClass (k : ClassExpr)
  | repetition (min : Nat) (max : Option Nat) (greedy : Bool) (body : Expr)
  | group (kind : GroupKind) (body : Expr)
  | alternation (branches : List Expr)
  | concat (parts : List Expr)

namespace ClassExpr

mutual

/-- How deep brackets, unions and operations nest in a class. -/
def depth : ClassExpr → Nat
  | brackets _ body => body.depth + 1
  | union members => depthAll members + 1
  | op _ left right => max left.depth right.depth + 1
  | _ => 0

/-- The greatest depth in a list of classes. -/
def depthAll : List ClassExpr → Nat
  | [] => 0
  | k :: rest => max k.depth (depthAll rest)

end

/-- Members as one class: none, a single one, or their union. -/
def ofMembers : List ClassExpr → ClassExpr
  | [] => empty
  | [k] => k
  | members => union members

end ClassExpr

namespace Expr

mutual

/-- How deep an expression nests. -/
def depth : Expr → Nat
  | charClass k => k.depth
  | repetition _ _ _ body => body.depth + 1
  | group _ body => body.depth + 1
  | alternation branches => depthAll branches + 1
  | concat parts => depthAll parts + 1
  | _ => 0

/-- The greatest depth in a list of expressions. -/
def depthAll : List Expr → Nat
  | [] => 0
  | e :: rest => max e.depth (depthAll rest)

end

mutual

/-- The names of groups and their numbers, from left to right. -/
def groupNames : Expr → List (String × Nat)
  | repetition _ _ _ body => body.groupNames
  | group (.capture index (some name)) body => (name, index) :: body.groupNames
  | group _ body => body.groupNames
  | alternation branches => groupNamesAll branches
  | concat parts => groupNamesAll parts
  | _ => []

/-- The names of groups in a list of expressions. -/
def groupNamesAll : List Expr → List (String × Nat)
  | [] => []
  | e :: rest => e.groupNames ++ groupNamesAll rest

end

/-- Parts as one expression: nothing, a single one, or their concatenation. -/
def ofParts : List Expr → Expr
  | [] => empty
  | [e] => e
  | parts => concat parts

end Expr

end PathTemplate.Regex
