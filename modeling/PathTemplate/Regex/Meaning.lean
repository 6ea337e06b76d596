import PathTemplate.Regex.Core
import PathTemplate.Regex.Expr
import PathTemplate.Unicode.Property

/-! # What an expression means under its flags

Flags hold from where they stand to the end of their group, in the alternatives that follow as
well. Without Unicode a class is a set of bytes, and one that has bytes outside of ASCII could
match a part of a character, which is refused. -/

namespace PathTemplate.Regex

/-- The flags in force. -/
structure Flags where
  anyCase : Bool := false
  multiLine : Bool := false
  dotNewline : Bool := false
  swapGreed : Bool := false
  unicode : Bool := true
  carriageReturn : Bool := false

/-- The flags after a change. -/
def Flags.change (f : Flags) (c : FlagChange) : Flags where
  anyCase := c.anyCase.getD f.anyCase
  multiLine := c.multiLine.getD f.multiLine
  dotNewline := c.dotNewline.getD f.dotNewline
  swapGreed := c.swapGreed.getD f.swapGreed
  unicode := c.unicode.getD f.unicode
  carriageReturn := c.carriageReturn.getD f.carriageReturn

/-! ## Classes -/

/-- The members of a set that is named inside a class. -/
def Posix.charClass : Posix → CharClass
  | alnum => .unionAll [.between '0' '9', .between 'A' 'Z', .between 'a' 'z']
  | alpha => .unionAll [.between 'A' 'Z', .between 'a' 'z']
  | ascii => .range 0 0x7F
  | blank => .unionAll [.single '\t', .single ' ']
  | cntrl => .unionAll [.range 0 0x1F, .range 0x7F 0x7F]
  | digit => .between '0' '9'
  | graph => .between '!' '~'
  | lower => .between 'a' 'z'
  | print => .between ' ' '~'
  | punct => .unionAll [.between '!' '/', .between ':' '@', .between '[' '\x60',
      .between '\x7b' '~']
  | space => .asciiBlank
  | upper => .between 'A' 'Z'
  | word => .asciiWord
  | xdigit => .unionAll [.between '0' '9', .between 'A' 'F', .between 'a' 'f']

/-- The members of a shorthand. -/
def Shorthand.charClass (unicode : Bool) : Shorthand → CharClass
  | digit => if unicode then .digit else .asciiDigit
  | blank => if unicode then .blank else .asciiBlank
  | word => if unicode then .word else .asciiWord

/-- The members of a set that a name stands for. -/
def namedClass : Unicode.NamedSet → CharClass
  | .any => .any
  | .assigned => .compl (.listed Unicode.unassigned.members)
  | .ascii => .range 0 0x7F
  | .oneOf tables => .unionAll (tables.map fun t => .listed t.members)

/-- The members of a property that is asked for. -/
def PropertyQuery.charClass? : PropertyQuery → Option CharClass
  | name n => (Unicode.setNamed? n).map namedClass
  | value p v => (Unicode.setValued? p v).map namedClass

/-- A class closed under letter case if the flags say so. -/
def Flags.fold (f : Flags) (k : CharClass) : CharClass :=
  if f.anyCase then (if f.unicode then .anyCase k else .anyAsciiCase k) else k

/-- A class or what does not belong to it. Without Unicode the latter has bytes outside of
ASCII. -/
def Flags.negate (f : Flags) (negated : Bool) (k : CharClass) : Except Fault CharClass :=
  if negated then (if f.unicode then .ok (.compl k) else .error .bytesOutsideText) else .ok k

/-- The code point of a character in a class. Without Unicode it has to be one byte. -/
def Flags.memberCode (f : Flags) (c : WrittenChar) : Except Fault Nat :=
  if f.unicode ∨ Character.isAscii c.char then .ok c.char.toNat
  else .error .bytesOutsideText

/-- The members of a property, which only Unicode has. -/
def Flags.propertyClass (f : Flags) (query : PropertyQuery) (negated : Bool) :
    Except Fault CharClass :=
  if f.unicode then
    match query.charClass? with
    | none => .error .propertyUnknown
    | some k => f.negate negated (f.fold k)
  else .error .propertyWithoutUnicode

mutual

/-- The members of a written class. Letter case is worked in before a negation. -/
def classMeaning (f : Flags) : ClassExpr → Except Fault CharClass
  | .empty => .ok .empty
  | .char c => return .range (← f.memberCode c) (← f.memberCode c)
  | .range first last => return .range (← f.memberCode first) (← f.memberCode last)
  | .posix set negated => f.negate negated (f.fold set.charClass)
  | .shorthand set negated => f.negate negated (set.charClass f.unicode)
  | .property query negated => f.propertyClass query negated
  | .brackets negated body => do f.negate negated (f.fold (← classMeaning f body))
  | .union members => return .unionAll (← classMeanings f members)
  | .op kind left right => do
    let left := f.fold (← classMeaning f left)
    let right := f.fold (← classMeaning f right)
    return match kind with
      | .intersection => .inter left right
      | .difference => .diff left right
      | .symmetricDifference => .symmDiff left right

/-- The members of each written class. -/
def classMeanings (f : Flags) : List ClassExpr → Except Fault (List CharClass)
  | [] => .ok []
  | k :: rest => return (← classMeaning f k) :: (← classMeanings f rest)

end

/-! ## Expressions -/

/-- A character by itself, or in any case if the flags say so. A byte outside of ASCII is no
character. -/
def Flags.charMeaning (f : Flags) (c : WrittenChar) : Except Fault Core :=
  if !f.unicode && c.byHexByte && !Character.isAscii c.char then .error .bytesOutsideText
  else .ok (.one (f.fold (.single c.char)))

/-- Every character, or every one that does not end a line. -/
def Flags.dotMeaning (f : Flags) : Except Fault Core :=
  if !f.unicode then .error .bytesOutsideText
  else if f.dotNewline then .ok (.one .any)
  else if f.carriageReturn then .ok (.one (.compl (.union (.single '\r') (.single '\n'))))
  else .ok (.one (.compl (.single '\n')))

/-- What a written place asks for. -/
def Flags.placeMeaning (f : Flags) : Place → Assertion
  | .textStart => .textStart
  | .textEnd => .textEnd
  | .lineStart =>
    if !f.multiLine then .textStart else if f.carriageReturn then .anyLineStart else .lineStart
  | .lineEnd =>
    if !f.multiLine then .textEnd else if f.carriageReturn then .anyLineEnd else .lineEnd
  | .wordBoundary => .wordBoundary !f.unicode
  | .noWordBoundary => .noWordBoundary !f.unicode
  | .wordStart => .wordStart !f.unicode
  | .wordEnd => .wordEnd !f.unicode
  | .wordStartHalf => .wordStartHalf !f.unicode
  | .wordEndHalf => .wordEndHalf !f.unicode

mutual

/-- The meaning of an expression under flags, and the flags behind it. -/
def meaning (f : Flags) : Expr → Except Fault (Core × Flags)
  | .empty => .ok (.empty, f)
  | .flags change => .ok (.empty, f.change change)
  | .char c => return (← f.charMeaning c, f)
  | .dot => return (← f.dotMeaning, f)
  | .place p => .ok (.assert (f.placeMeaning p), f)
  | .charClass k => return (.one (← classMeaning f k), f)
  | .repetition min max greedy body => do
    let (e, f) ← meaning f body
    return (.repetition min max (greedy != f.swapGreed) e, f)
  | .group (.capture index _) body => do
    let (e, _) ← meaning f body
    return (.capture index e, f)
  | .group (.plain change) body => do
    let (e, _) ← meaning (f.change change) body
    return (e, f)
  | .alternation branches => do
    let (es, f) ← meanings f branches
    return (.altAll es, f)
  | .concat parts => do
    let (es, f) ← meanings f parts
    return (.catAll es, f)

/-- The meanings of expressions one after the other. -/
def meanings (f : Flags) : List Expr → Except Fault (List Core × Flags)
  | [] => .ok ([], f)
  | e :: rest => do
    let (e, f) ← meaning f e
    let (es, f) ← meanings f rest
    return (e :: es, f)

end

end PathTemplate.Regex
