import PathTemplate.Regex.Basic
import PathTemplate.Template.Expression
import PathTemplate.Template.Format
import PathTemplate.Text.Quoted

/-! # Templates

A template is compiled into an expression, which finds the values of its placeholders in a path,
and a format string, which puts values into a path. Both have the same placeholders. -/

namespace PathTemplate

/-- A compiled template. -/
structure Template where
  label : String
  /-- The template as it was given. -/
  pattern : String
  regex : Regex
  bindings : List Binding
  format : Format
  /-- The names of the placeholders. -/
  keys : Names

/-- Why a template cannot be compiled. -/
inductive CompileFault
  | segment (fault : SegmentFault)
  | format (source : String) (fault : FormatFault)
  /-- The expression and the format string have different placeholders. -/
  | keysDiffer (inExpression inFormat : Names)
  | regex (fault : Regex.Fault)
  deriving DecidableEq

/-- The fault of one template. -/
structure CompileError where
  label : String
  pattern : String
  fault : CompileFault
  deriving DecidableEq

/-- Two occurrences of a placeholder have different values. -/
structure Mismatch where
  placeholder : String
  first : String
  second : String
  deriving DecidableEq

def CompileFault.message : CompileFault → String
  | segment (.invalidName name) =>
    "占位符名称 " ++ Quoted.text name ++
      " 包含非法字符，只允许字母、数字和下划线，且不能以数字开头"
  | segment (.emptyConstraint name) =>
    "占位符 " ++ Quoted.text name ++ " 的约束表达式为空"
  | format source fault => fault.message source
  | keysDiffer inExpression inFormat =>
    "占位符集合不一致：正则路径 " ++ Quoted.names inExpression ++ "，格式串路径 " ++
      Quoted.names inFormat
  | regex fault => "正则编译失败：" ++ fault.message

def CompileError.message (e : CompileError) : String :=
  "模板编译失败 [" ++ e.label ++ "] \"" ++ e.pattern ++ "\"：" ++ e.fault.message

def Mismatch.message (m : Mismatch) : String :=
  "占位符 " ++ Quoted.text m.placeholder ++ " 提取值不一致：" ++ Quoted.text m.first ++ " 与 " ++
    Quoted.text m.second

namespace Template

/-- Compile a template, or tell its first fault: one of its segments, of its format string,
placeholders that only one of the two sides has, or a fault of the expression. -/
def compileFault (label pattern : String) (options : Options) : Except CompileFault Template := do
  let segments := Segment.scan pattern
  let (expression, bindings) ← (Segment.expression options segments).mapError .segment
  let source := Segment.formatSource segments
  let format ← (Format.parse source).mapError (.format source)
  let keys := Names.ofList (Segment.names segments)
  if keys ≠ format.fieldNames then
    throw (.keysDiffer keys format.fieldNames)
  let regex ← (Regex.compile expression).mapError .regex
  return { label, pattern, regex, bindings, format, keys }

/-- Compile a template. -/
def compile (label pattern : String) (options : Options) : Except CompileError Template :=
  (compileFault label pattern options).mapError (⟨label, pattern, ·⟩)

/-- Give placeholders their values from left to right. A later value replaces an earlier one,
and if duplicates are checked it has to be equal to it. -/
def gather (check : Bool) : (values : List (String × String)) → Fields → Except Mismatch Fields
  | [], fields => .ok fields
  | (name, value) :: rest, fields =>
    match fields.get? name with
    | some old =>
      if check ∧ old ≠ value then .error ⟨name, old, value⟩
      else gather check rest (fields.insert name value)
    | none => gather check rest (fields.insert name value)

/-- The values that a match gives to placeholders, in the order of the groups that took part. -/
def values (t : Template) (m : Regex.Match) : List (String × String) :=
  t.bindings.filterMap fun b => (t.regex.named? m b.group).map (b.placeholder, ·)

/-- The fields of a path that the template matches. Nothing matches the empty path, and a match
without fields is none. -/
def extract (t : Template) (path : String) (check : Bool) : Except Mismatch (Option Fields) :=
  if path = "" then .ok none
  else
    match t.regex.find? path with
    | none => .ok none
    | some m =>
      match gather check (t.values m) Fields.empty with
      | .error mismatch => .error mismatch
      | .ok fields => .ok (if fields.isEmpty then none else some fields)

/-- Whether there are as many values as placeholders, and each of them is for a placeholder. -/
def accepts (t : Template) (fields : Fields) : Bool :=
  fields.size = t.keys.size && fields.keys.toList.all t.keys.contains

/-- The path with the given values, if they are those of the placeholders. -/
def render (t : Template) (fields : Fields) : Option String :=
  if t.accepts fields then t.format.fill fields else none

end Template

end PathTemplate
