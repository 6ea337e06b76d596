import PathTemplate.Resolver.Cache
import PathTemplate.Template.Basic

/-! # Events

What resolvers and registries report while they work. An event says what happened; its level and
its message say how it is reported. -/

namespace PathTemplate

/-- Something worth reporting. -/
inductive Event
  /-- Templates were compiled. The groups of replaced templates count as well. -/
  | compiled (templates groups : Nat)
  | built (templates : Nat)
  | remembered (question : Question)
  | cacheCleared
  | unknownLabel (label : String)
  /-- A path that a template rendered is not resolved to the same fields. -/
  | notReturned (path label : String) (found : Except Mismatch (Option Fields))
  /-- A resolver with these labels was bound to an identifier, for the first time or in place of
  another one. -/
  | registered (id : String) (labels : List String)
  | replaced (id : String) (labels : List String)
  | unknownId (id : String)

/-- How a resolver is displayed. -/
def displayLabels (labels : List String) : String :=
  "[resolva.Resolver] Pattern labels: " ++ Quoted.list (labels.map Quoted.text)

namespace Event

/-- How important an event is. -/
inductive Level
  | debug
  | info
  deriving DecidableEq

def Level.name : Level → String
  | debug => "DEBUG"
  | info => "INFO"

def level : Event → Level
  | compiled _ _ | remembered _ | cacheCleared | notReturned _ _ _ => .debug
  | built _ | unknownLabel _ | registered _ _ | replaced _ _ | unknownId _ => .info

/-- A question as it was asked. -/
def questionText : Question → String
  | .first path => "resolve_first(" ++ Quoted.text path ++ ")"
  | .one path label => "resolve_one(" ++ Quoted.text path ++ ", " ++ Quoted.text label ++ ")"
  | .all path => "resolve_all(" ++ Quoted.text path ++ ")"

/-- What a path was resolved to. -/
def foundText : Except Mismatch (Option Fields) → String
  | .error mismatch => mismatch.message
  | .ok none => "解析结果 None"
  | .ok (some fields) => "解析结果 Some(" ++ Quoted.pairs fields.entries ++ ")"

def message : Event → String
  | compiled templates groups =>
    "模板编译完成，共" ++ toString templates ++ "条模板、" ++ toString groups ++ "个捕获组"
  | built templates => "解析器初始化完成，模板数：" ++ toString templates
  | remembered question => "缓存命中 " ++ questionText question
  | cacheCleared => "解析缓存已清空"
  | unknownLabel label => "格式化请求的标签 " ++ Quoted.text label ++ " 不存在"
  | notReturned path label found =>
    "回匹配校验失败 \"" ++ path ++ "\" (" ++ label ++ ")：" ++ foundText found
  | registered id labels => "解析器 \"" ++ id ++ "\" 注册完成：" ++ displayLabels labels
  | replaced id labels => "解析器 \"" ++ id ++ "\" 已存在，将被覆盖为：" ++ displayLabels labels
  | unknownId id => "未找到标识为 \"" ++ id ++ "\" 的解析器"

/-- An event as a line of a log. -/
def line (e : Event) : String := e.level.name ++ " " ++ e.message

end Event

end PathTemplate
