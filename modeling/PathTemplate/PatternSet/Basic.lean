import PathTemplate.Json.Writer
import PathTemplate.Resolver.Basic

/-! # Pattern sets

A pattern set is the configuration of a resolver: options, and values under labels, of which all
have to be texts. -/

namespace PathTemplate

/-- Options and the values under labels, in order. -/
structure PatternSet where
  options : Options := {}
  patterns : Catalog String Json

/-- Why a pattern set is no configuration. -/
inductive InvalidSet
  | empty
  /-- The value of a label is no text. -/
  | notText (label : String)
  deriving DecidableEq

def InvalidSet.message : InvalidSet → String
  | empty => "配置无效：patterns 不能为空"
  | notText label => "配置无效：模板 " ++ Quoted.text label ++ " 必须是字符串"

/-- Why no resolver can be made of a pattern set. -/
inductive BuildError
  | invalid (e : InvalidSet)
  | compile (e : CompileError)
  deriving DecidableEq

def BuildError.message : BuildError → String
  | invalid e => e.message
  | compile e => e.message

/-- Options as JSON. -/
def Options.json (o : Options) : Json :=
  .object (Options.Key.all.map fun k => (k.name, .bool (o.get k)))

namespace PatternSet

/-- The first label whose value is no text. -/
def notText? : List (String × Json) → Option String
  | [] => none
  | (label, value) :: rest => if value.string?.isNone then some label else notText? rest

/-- A pattern set has a label, and all of its values are texts. -/
def validate (p : PatternSet) : Except InvalidSet Unit :=
  if p.patterns.isEmpty then .error .empty
  else
    match notText? p.patterns.entries with
    | some label => .error (.notText label)
    | none => .ok ()

/-- The labels whose values are texts, with these. -/
def pairs (p : PatternSet) : List (String × String) :=
  p.patterns.entries.filterMap fun e => e.2.string?.map (e.1, ·)

/-- Make a resolver. -/
def build (p : PatternSet) : Except BuildError Resolver :=
  match p.validate with
  | .error e => .error (.invalid e)
  | .ok () => (Resolver.build p.pairs p.options).mapError .compile

/-- A pattern set as JSON. -/
def json (p : PatternSet) : Json :=
  .object [("options", p.options.json), ("patterns", .object p.patterns.entries)]

end PatternSet

end PathTemplate
