import PathTemplate.Regex.Escape

/-! # What stands behind an opening parenthesis

A group captures under the next number, captures under a name as well, only groups, or is no
group at all but a change of flags. -/

namespace PathTemplate.Regex

/-- Whether a character may stand in the name of a group. -/
def isGroupNameChar (first : Bool) (c : Char) : Bool :=
  if first then c = '_' || Character.isAlphabetic c
  else c = '_' || c = '.' || c = '[' || c = ']' || Character.isAlphanumeric c

/-- Whether a text is the name of a group. -/
def isGroupName (name : List Char) : Bool :=
  match name with
  | [] => false
  | c :: rest => isGroupNameChar true c && rest.all (isGroupNameChar false)

/-- Read the name of a group up to and with the angle bracket behind it. -/
def groupName (text : List Char) : Except Fault (String × List Char) :=
  match text.span (· ≠ '>') with
  | (name, '>' :: rest) =>
    if isGroupName name then .ok (String.ofList name, rest)
    else .error (.groupName (String.ofList name))
  | (name, _) => .error (.groupName (String.ofList name))

/-- Turn one flag on or off, unless it is given already. -/
def setFlag (change : FlagChange) (value : Bool) (flag : Char) : Except Fault FlagChange :=
  let once (old : Option Bool) (new : FlagChange) : Except Fault FlagChange :=
    if old.isSome then .error .flagRepeated else .ok new
  match flag with
  | 'i' => once change.anyCase { change with anyCase := some value }
  | 'm' => once change.multiLine { change with multiLine := some value }
  | 's' => once change.dotNewline { change with dotNewline := some value }
  | 'U' => once change.swapGreed { change with swapGreed := some value }
  | 'u' => once change.unicode { change with unicode := some value }
  | 'R' => once change.carriageReturn { change with carriageReturn := some value }
  | 'x' => once change.verbose { change with verbose := some value }
  | _ => .error (.flagUnknown flag)

/-- Flags as they are read: the change so far, whether they are being turned on, and whether
the last character was one of them. -/
structure FlagReading where
  change : FlagChange := {}
  value : Bool := true
  complete : Bool := true

/-- Read flags up to the colon or parenthesis behind them. -/
def readFlags (f : FlagReading) : List Char → Except Fault (FlagChange × List Char)
  | [] => .error .flagsUnfinished
  | c :: rest =>
    if c = ':' ∨ c = ')' then
      if f.complete then .ok (f.change, c :: rest) else .error .flagsUnfinished
    else if c = '-' then
      if f.value then readFlags { f with value := false, complete := false } rest
      else .error .flagRepeated
    else
      match setFlag f.change f.value c with
      | .error fault => .error fault
      | .ok change => readFlags { f with change := change, complete := true } rest

/-- What an opening parenthesis begins. -/
inductive Opening
  | group (kind : GroupKind)
  | flags (change : FlagChange)

/-- Read what stands behind an opening parenthesis. `index` is the number of the next group that
captures. -/
def opening (verbose : Bool) (index : Nat) (text : List Char) :
    Except Fault (Opening × List Char) :=
  match skip verbose text with
  | '?' :: '=' :: _ | '?' :: '!' :: _ => .error .lookAround
  | '?' :: '<' :: '=' :: _ | '?' :: '<' :: '!' :: _ => .error .lookAround
  | '?' :: 'P' :: '<' :: rest | '?' :: '<' :: rest => do
    let (name, rest) ← groupName rest
    return (.group (.capture index (some name)), rest)
  | ['?'] => .error .groupUnclosed
  | '?' :: rest => do
    match ← readFlags {} rest with
    | (change, ':' :: rest) => return (.group (.plain change), rest)
    | (change, rest) =>
      if change = {} then .error .repetitionOfNothing else return (.flags change, rest.tail)
  | rest => .ok (.group (.capture index none), rest)

end PathTemplate.Regex
