/-! # Arguments of the command line

The command line is read in two levels, first the arguments before the name of a command and then
those of the command. Options may stand in any order and between other arguments. An option has a
long form, `--label L` or `--label=L`, and a short one, `-l L`, `-lL` or `-l=L`, and short flags
may be joined, as in `-va`. -/

namespace PathTemplate.CommandLine

/-- An option of some level. -/
inductive Opt
  | config
  | verbose
  | label
  | all
  | help
  | version
  deriving DecidableEq

namespace Opt

def long : Opt → String
  | config => "config"
  | verbose => "verbose"
  | label => "label"
  | all => "all"
  | help => "help"
  | version => "version"

def short : Opt → Char
  | config => 'c'
  | verbose => 'v'
  | label => 'l'
  | all => 'a'
  | help => 'h'
  | version => 'V'

/-- Whether an option has a value behind it. -/
def takesValue : Opt → Bool
  | config | label => true
  | _ => false

end Opt

/-- Why reading arguments ends early. -/
inductive Stop
  /-- The arguments are not what the command line takes. -/
  | misuse
  | help
  | version
  deriving DecidableEq

/-- What has been given on one level, with the other arguments in reverse. -/
structure Given where
  config : Option String := none
  verbose : Bool := false
  label : Option String := none
  all : Bool := false
  others : List String := []

namespace Given

/-- Take an option that has no value. It may be given once. -/
def flag (g : Given) : Opt → Except Stop Given
  | .verbose => if g.verbose then .error .misuse else .ok { g with verbose := true }
  | .all => if g.all then .error .misuse else .ok { g with all := true }
  | .help => .error .help
  | .version => .error .version
  | .config | .label => .error .misuse

/-- Take an option with its value. It may be given once, and a file has a name. -/
def valued (g : Given) (o : Opt) (value : String) : Except Stop Given :=
  match o with
  | .config =>
    if g.config.isSome ∨ value = "" then .error .misuse
    else .ok { g with config := some value }
  | .label => if g.label.isSome then .error .misuse else .ok { g with label := some value }
  | _ => .error .misuse

end Given

/-- What an argument that looks like options leaves to be done: nothing, or to take the next
argument as the value of an option. -/
abbrev Taken := Except Stop (Given × Option Opt)

/-- Take an argument behind two dashes. -/
def takeLong (known : List Opt) (g : Given) (text : List Char) : Taken :=
  let name := String.ofList (text.takeWhile (· ≠ '='))
  match known.find? (·.long = name), text.dropWhile (· ≠ '=') with
  | none, _ => .error .misuse
  | some o, [] => if o.takesValue then .ok (g, some o) else (g.flag o).map (·, none)
  | some o, _ :: value => (g.valued o (String.ofList value)).map (·, none)

/-- Take the letters behind one dash. The first option with a value has the rest of the letters as
its value, without an equals sign in front, or else the next argument. -/
def takeShort (known : List Opt) (g : Given) : List Char → Taken
  | [] => .ok (g, none)
  | c :: rest =>
    match known.find? (·.short = c) with
    | none => .error .misuse
    | some o =>
      if o.takesValue then
        match rest with
        | [] => .ok (g, some o)
        | '=' :: value => (g.valued o (String.ofList value)).map (·, none)
        | value => (g.valued o (String.ofList value)).map (·, none)
      else
        match g.flag o with
        | .error stop => .error stop
        | .ok g => takeShort known g rest

/-- What one level of arguments looks like. -/
structure Level where
  known : List Opt
  /-- Whether an argument ends the level, as the name of a command does. -/
  ends : String → Bool
  /-- Whether another argument is taken behind those that are given. -/
  takes : (others : List String) → String → Bool

/-- Read the arguments of a level, and return those behind its end. `waiting` is an option that
waits for its value, and `plain` says that nothing is an option any more. -/
def readLevel (level : Level) (g : Given) (waiting : Option Opt) (plain : Bool) :
    List String → Except Stop (Given × List String)
  | [] => if waiting.isSome then .error .misuse else .ok (g, [])
  | argument :: rest =>
    if plain then
      if level.takes g.others argument then
        readLevel level { g with others := argument :: g.others } none true rest
      else .error .misuse
    else
      match waiting, argument.toList with
      | some _, '-' :: _ :: _ => .error .misuse
      | some o, _ =>
        match g.valued o argument with
        | .error stop => .error stop
        | .ok g => readLevel level g none false rest
      | none, ['-', '-'] => readLevel level g none true rest
      | none, '-' :: '-' :: text =>
        match takeLong level.known g text with
        | .error stop => .error stop
        | .ok (g, waiting) => readLevel level g waiting false rest
      | none, '-' :: c :: text =>
        match takeShort level.known g (c :: text) with
        | .error stop => .error stop
        | .ok (g, waiting) => readLevel level g waiting false rest
      | none, _ =>
        if level.ends argument then .ok (g, argument :: rest)
        else if level.takes g.others argument then
          readLevel level { g with others := argument :: g.others } none false rest
        else .error .misuse

/-! ## Commands -/

/-- Which templates a command asks. -/
inductive Scope
  | first
  | one (label : String)
  | all
  deriving DecidableEq

/-- What the command line is asked to do. -/
inductive Command
  | resolve (path : String) (scope : Scope)
  | format (fields : List (String × String)) (scope : Scope)
  | inspect
  deriving DecidableEq

/-- A command and the file that has the pattern set. -/
structure Invocation where
  config : String
  verbose : Bool
  command : Command
  deriving DecidableEq

/-- The file of the pattern set if none is given. -/
def defaultConfig : String := "resolva.json"

/-- A name and a value on either side of the first equals sign. -/
def field? (argument : String) : Option (String × String) :=
  match argument.toList.dropWhile (· ≠ '=') with
  | [] => none
  | _ :: value =>
    some (String.ofList (argument.toList.takeWhile (· ≠ '=')), String.ofList value)

/-- The names of the commands. -/
def commandNames : List String := ["resolve", "format", "inspect"]

/-- The arguments before a command. -/
def topLevel : Level where
  known := [.config, .verbose, .help, .version]
  ends argument := (commandNames.contains argument) || argument = "help"
  takes _ _ := false

/-- The arguments of `resolve`: one path. -/
def resolveLevel : Level where
  known := [.label, .all, .config, .verbose, .help]
  ends _ := false
  takes others _ := others.isEmpty

/-- The arguments of `format`: fields. -/
def formatLevel : Level where
  known := [.label, .all, .config, .verbose, .help]
  ends _ := false
  takes _ argument := (field? argument).isSome

/-- The arguments of `inspect`: none. -/
def inspectLevel : Level where
  known := [.config, .verbose, .help]
  ends _ := false
  takes _ _ := false

/-- The templates that are asked for. One label and all of them exclude each other. -/
def scope (g : Given) : Except Stop Scope :=
  match g.label, g.all with
  | some _, true => .error .misuse
  | some label, false => .ok (.one label)
  | none, true => .ok .all
  | none, false => .ok .first

/-- Read the arguments of a command. -/
def readCommand (name : String) (arguments : List String) : Except Stop (Given × Command) :=
  match name with
  | "resolve" => do
    let (g, _) ← readLevel resolveLevel {} none false arguments
    match g.others with
    | [path] => return (g, .resolve path (← scope g))
    | _ => throw .misuse
  | "format" => do
    let (g, _) ← readLevel formatLevel {} none false arguments
    match g.others.reverse.filterMap field? with
    | [] => throw .misuse
    | fields => return (g, .format fields (← scope g))
  | "inspect" => do
    let (g, _) ← readLevel inspectLevel {} none false arguments
    return (g, .inspect)
  | "help" =>
    match arguments with
    | [] => .error .help
    | [topic] =>
      if commandNames.contains topic ∨ topic = "help" then .error .help else .error .misuse
    | _ => .error .misuse
  | _ => .error .misuse

/-- Read the command line. What is given with the command goes before what is given in front of
it. -/
def parse (arguments : List String) : Except Stop Invocation := do
  let (top, rest) ← readLevel topLevel {} none false arguments
  match rest with
  | [] => throw .misuse
  | name :: arguments =>
    let (g, command) ← readCommand name arguments
    return { config := (g.config.or top.config).getD defaultConfig,
             verbose := g.verbose || top.verbose, command }

end PathTemplate.CommandLine
