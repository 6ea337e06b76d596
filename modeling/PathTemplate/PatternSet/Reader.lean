import PathTemplate.Json.Reader
import PathTemplate.PatternSet.Basic

/-! # Reading pattern sets

A pattern set is read from JSON from left to right, so that the first fault is reported. Options
that are not given are on. An object may have members of other names, which are skipped, but none
of its own twice. Both the set and its options may be written as arrays of their members in
order. -/

namespace PathTemplate

/-- Why a file has no text. -/
inductive FileFault
  | missing
  | notText
  | other (description : String)
  deriving DecidableEq

def FileFault.message : FileFault → String
  | missing => "No such file or directory (os error 2)"
  | notText => "stream did not contain valid UTF-8"
  | other description => description

/-- Why no pattern set can be loaded. -/
inductive LoadError
  | file (fault : FileFault)
  | json (fault : Json.Fault)
  | invalid (e : InvalidSet)
  deriving DecidableEq

/-- The kind of a fault of JSON. -/
def Json.Fault.name : Json.Fault → String
  | malformed => "syntax"
  | mismatched => "data"
  | truncated => "eof"

def LoadError.message : LoadError → String
  | file fault => "IO操作失败：" ++ fault.message
  | json fault => "JSON解析失败：" ++ fault.name
  | invalid e => e.message

namespace PatternSet

open Json (Fault Mode Reader skipBlanks expect stringBody numeral colon readValue readMembers)

/-- The fault of a value that is not of the kind that is asked for. What cannot be told apart by
its first character is read to its end. -/
def wrongKind (text : List Char) : Fault :=
  let faultOf {α : Type} : Except Fault α → Fault
    | .ok _ => .mismatched
    | .error fault => fault
  match text with
  | 'n' :: rest => faultOf (expect ['u', 'l', 'l'] rest)
  | 't' :: rest => faultOf (expect ['r', 'u', 'e'] rest)
  | 'f' :: rest => faultOf (expect ['a', 'l', 's', 'e'] rest)
  | '"' :: rest => faultOf (stringBody .read rest)
  | '[' :: _ | '{' :: _ => .mismatched
  | c :: _ => if c = '-' ∨ c.isDigit then faultOf (numeral .read text) else .malformed
  | [] => .truncated

/-- Read a truth value. -/
def readBool : Reader Bool := fun text =>
  match skipBlanks text with
  | 't' :: rest => (expect ['r', 'u', 'e'] rest).map (true, ·)
  | 'f' :: rest => (expect ['a', 'l', 's', 'e'] rest).map (false, ·)
  | text => .error (wrongKind text)

/-- Whether another item follows in an array, and the text before it or before the end. -/
def anotherItem (first : Bool) (text : List Char) : Except Fault (Bool × List Char) :=
  match skipBlanks text with
  | [] => .error .truncated
  | ']' :: rest => .ok (false, ']' :: rest)
  | c :: rest =>
    if first then .ok (true, c :: rest)
    else if c = ',' then
      match skipBlanks rest with
      | [] => .error .truncated
      | ']' :: _ => .error .malformed
      | rest => .ok (true, rest)
    else .error .malformed

/-- The text behind the end of an array. -/
def arrayEnd (text : List Char) : Except Fault (List Char) :=
  match skipBlanks text with
  | [] => .error .truncated
  | ']' :: rest => .ok rest
  | _ => .error .malformed

/-- The name of the next member of an object, or none at its end, and the text behind it. -/
def nextName (first : Bool) (text : List Char) : Except Fault (Option String × List Char) :=
  match skipBlanks text with
  | [] => .error .truncated
  | '}' :: rest => .ok (none, rest)
  | c :: rest =>
    let next := if first then some (c :: rest)
      else if c = ',' then some (skipBlanks rest) else none
    match next with
    | some ('"' :: rest) => do
      let (name, rest) ← stringBody .read rest
      return (some (String.ofList name), rest)
    | some [] => .error .truncated
    | _ => .error .malformed

/-- Skip the value of a member. -/
def skipMember (text : List Char) : Except Fault (List Char) := do
  let text ← colon text
  return (← readValue .skip (Json.fuelFor text) 0 text).2

/-! ## Options -/

/-- Read options as an array, which may end after any of them. -/
def optionItems (first : Bool) : (keys : List Options.Key) → Options → Reader Options
  | [], o, text => .ok (o, text)
  | k :: keys, o, text => do
    let (more, rest) ← anotherItem first text
    if more then
      let (value, rest) ← readBool rest
      optionItems false keys (o.set value k) rest
    else return (o, rest)

/-- Read options as an object, given the ones that it has had. -/
def optionMembers : (fuel : Nat) → (first : Bool) → (given : List Options.Key) → Options →
    Reader Options
  | 0, _, _, _, _ => .error .malformed
  | fuel + 1, first, given, o, text => do
    let (name, rest) ← nextName first text
    match name with
    | none => return (o, rest)
    | some name =>
      match Options.Key.ofName? name with
      | none => optionMembers fuel false given o (← skipMember rest)
      | some k =>
        if given.contains k then throw .mismatched
        else
          let (value, rest) ← readBool (← colon rest)
          optionMembers fuel false (k :: given) (o.set value k) rest

/-- Read options. -/
def readOptions : Reader Options := fun text =>
  match skipBlanks text with
  | [] => .error .truncated
  | '[' :: rest => do
    let (o, rest) ← optionItems true Options.Key.all {} rest
    return (o, ← arrayEnd rest)
  | '{' :: rest => optionMembers (rest.length + 1) true [] {} rest
  | text => .error (wrongKind text)

/-! ## The set -/

/-- Read values under labels. A repeated label keeps its place and takes the last value. -/
def readPatterns : Reader (Catalog String Json) := fun text =>
  match skipBlanks text with
  | [] => .error .truncated
  | '{' :: rest => do
    let (l, rest) ← readMembers .read (Json.fuelFor rest) (Json.depthLimit - 2) true rest
    return (Catalog.ofList l, rest)
  | text => .error (wrongKind text)

/-- Read a set as an array of its options and patterns. -/
def setItems (text : List Char) : Except Fault (PatternSet × List Char) := do
  let (more, rest) ← anotherItem true text
  if more then
    let (options, rest) ← readOptions rest
    let (more, rest) ← anotherItem false rest
    if more then
      let (patterns, rest) ← readPatterns rest
      return (⟨options, patterns⟩, ← arrayEnd rest)
    else throw .mismatched
  else throw .mismatched

/-- Read a set as an object, given what it has had. -/
def setMembers : (fuel : Nat) → (first : Bool) → Option Options → Option (Catalog String Json) →
    Reader PatternSet
  | 0, _, _, _, _ => .error .malformed
  | fuel + 1, first, options, patterns, text => do
    let (name, rest) ← nextName first text
    match name, options, patterns with
    | none, options, some patterns => return (⟨options.getD {}, patterns⟩, rest)
    | none, _, none => throw .mismatched
    | some "options", none, patterns =>
      let (o, rest) ← readOptions (← colon rest)
      setMembers fuel false (some o) patterns rest
    | some "patterns", options, none =>
      let (p, rest) ← readPatterns (← colon rest)
      setMembers fuel false options (some p) rest
    | some "options", some _, _ => throw .mismatched
    | some "patterns", _, some _ => throw .mismatched
    | some _, options, patterns => setMembers fuel false options patterns (← skipMember rest)

/-- Read a set, of which nobody has asked whether it is valid. -/
def readSet : Reader PatternSet := fun text =>
  match skipBlanks text with
  | [] => .error .truncated
  | '[' :: rest => setItems rest
  | '{' :: rest => setMembers (rest.length + 1) true none none rest
  | text => .error (wrongKind text)

/-- Read a text that is one set. -/
def parse (text : String) : Except Fault PatternSet := do
  let (p, rest) ← readSet text.toList
  if skipBlanks rest = [] then return p else throw .malformed

/-- Load a pattern set from a text. -/
def load (text : String) : Except LoadError PatternSet :=
  match parse text with
  | .error fault => .error (.json fault)
  | .ok p =>
    match p.validate with
    | .error e => .error (.invalid e)
    | .ok () => .ok p

/-- Load a pattern set from the bytes of a file. -/
def loadFile (file : Except FileFault ByteArray) : Except LoadError PatternSet :=
  match file with
  | .error fault => .error (.file fault)
  | .ok bytes =>
    match String.fromUTF8? bytes with
    | none => .error (.file .notText)
    | some text => load text

end PatternSet

end PathTemplate
