import PathTemplate.CommandLine.Arguments
import PathTemplate.PatternSet.Reader

/-! # Running a command

A command loads the pattern set, makes a resolver and asks it one question. The answer is printed
as JSON; a fault is reported with its causes. -/

namespace PathTemplate.CommandLine

/-- What a run leaves: its exit code and what it prints. -/
structure Exit where
  code : Nat
  output : String := ""
  report : String := ""
  deriving DecidableEq

/-- A fault with its causes, the nearest first. -/
structure Report where
  message : String
  causes : List String := []

/-- A cause with its further lines as deep as its first one. -/
def indented (first next : String) (cause : String) : String :=
  "\n" ++ first ++ String.intercalate ("\n" ++ next) (cause.splitOn "\n")

/-- The text of a report. Several causes are numbered. -/
def Report.text (r : Report) : String :=
  let causes := match r.causes with
    | [] => []
    | [cause] => ["\n\nCaused by:", indented "    " "    " cause]
    | causes =>
      "\n\nCaused by:" :: causes.mapIdx fun i cause =>
        let number := toString i
        let blanks := String.ofList (List.replicate (5 - number.length) ' ')
        indented (blanks ++ number ++ ": ") "       " cause
  "Error: " ++ r.message ++ String.join causes ++ "\n"

/-- The report that a pattern set cannot be loaded from a file. Faults of the file and of JSON
have a cause of their own. -/
def loadReport (path : String) (e : LoadError) : Report where
  message := "加载模板集配置失败：" ++ path
  causes := match e with
    | .file fault => [e.message, fault.message]
    | .json fault => [e.message, fault.name]
    | .invalid _ => [e.message]

/-- The report that no resolver can be made. -/
def buildReport (e : BuildError) : Report where
  message := "模板集编译失败"
  causes := [e.message]

/-- A value that may be missing. -/
def optional {α : Type} (json : α → Json) : Option α → Json
  | some a => json a
  | none => .null

/-- The answer to `resolve`, from a resolver that has not been asked anything. -/
def resolve (r : Resolver) (path : String) : Scope → Except Mismatch Json
  | .first => (r.resolveFirst r.freshCache path).answer.map Resolved.json
  | .one label => (r.resolveOne r.freshCache path label).answer.map (optional Fields.json)
  | .all =>
    (r.resolveAll r.freshCache path).answer.map fun found =>
      .object (found.entries.map fun e => (e.1, e.2.json))

/-- The answer to `format`, from a resolver that has not been asked anything. -/
def format (r : Resolver) (fields : Fields) : Scope → Json
  | .first => Formatted.json (r.formatFirst r.freshCache fields).answer
  | .one label => optional Json.string (r.formatOne r.freshCache fields label).answer
  | .all =>
    .object ((r.formatAll r.freshCache fields).answer.entries.map fun e => (e.1, .string e.2))

/-- What a template was compiled to. -/
def templateJson (label : String) (t : Template) : Json :=
  .object [("label", .string label), ("pattern", .string t.pattern),
    ("regex", .string t.regex.source), ("format", .string t.format.source), ("keys", t.keys.json)]

/-- The answer to `inspect`. -/
def inspect (r : Resolver) : Json :=
  .object [("options", r.options.json),
    ("patterns", .array (r.templates.entries.map fun e => templateJson e.1 e.2))]

/-- The answer of a resolver to a command. The last value of a field counts. -/
def answer (r : Resolver) : Command → Except Mismatch Json
  | .resolve path scope => resolve r path scope
  | .format fields scope => .ok (format r (Fields.ofList fields) scope)
  | .inspect => .ok (inspect r)

/-- Do what an invocation asks for. -/
def invoke (i : Invocation) (file : Except FileFault ByteArray) : Except Report Json :=
  match PatternSet.loadFile file with
  | .error e => .error (loadReport i.config e)
  | .ok set =>
    match set.build with
    | .error e => .error (buildReport e)
    | .ok r => (answer r i.command).mapError fun m => { message := m.message }

/-- What `--version` prints. -/
def versionText : String := "resolva 0.1.0\n"

/-- What `--help` prints. -/
def helpText : String :=
  "Usage: resolva [OPTIONS] <COMMAND>\n\n" ++
  "Commands:\n" ++
  "  resolve [--label L | --all] INPUT\n" ++
  "  format [--label L | --all] KEY=VALUE...\n" ++
  "  inspect\n\n" ++
  "Options:\n" ++
  "  -c, --config FILE\n" ++
  "  -v, --verbose\n" ++
  "  -h, --help\n" ++
  "  -V, --version\n"

/-- Run a command line. `file` gives the bytes of a file by its name. -/
def run (file : String → Except FileFault ByteArray) (arguments : List String) : Exit :=
  match parse arguments with
  | .error .misuse => { code := 2, report := helpText }
  | .error .help => { code := 0, output := helpText }
  | .error .version => { code := 0, output := versionText }
  | .ok i =>
    match invoke i (file i.config) with
    | .error r => { code := 1, report := r.text }
    | .ok j => { code := 0, output := j.pretty ++ "\n" }

end PathTemplate.CommandLine
