import PathTemplate.Fields

/-! # Format strings

A format string is text in which `{name}` stands for the value of a field. A brace that is text
is written twice. -/

namespace PathTemplate

/-- A piece of a format string. -/
inductive FormatToken
  | literal (text : String)
  | field (name : String)
  deriving DecidableEq

/-- Why a text is no format string. -/
inductive FormatFault
  /-- An opening brace stands in the name of a field. -/
  | openInField
  /-- A field is not closed. -/
  | unclosed
  /-- A closing brace stands alone. -/
  | loneClose
  deriving DecidableEq

/-- The message of a fault in a source. -/
def FormatFault.message (source : String) : FormatFault → String
  | openInField => "字段名中出现意外的 '\x7b'：" ++ source
  | unclosed => "格式串中存在未闭合的 '\x7b'：" ++ source
  | loneClose => "格式串中存在单独的 '\x7d'：" ++ source

namespace FormatToken

/-- The name of a field. -/
def name? : FormatToken → Option String
  | literal _ => none
  | field name => some name

/-- Text with every brace written twice. -/
def doubleBraces (text : List Char) : List Char :=
  text.flatMap fun c => if c = '{' ∨ c = '}' then [c, c] else [c]

/-- A token as it stands in a format string. -/
def write : FormatToken → List Char
  | literal text => doubleBraces text.toList
  | field name => '{' :: name.toList ++ ['}']

/-- The name of a field up to its closing brace, and the text behind that. -/
def fieldName : List Char → Except FormatFault (List Char × List Char)
  | [] => .error .unclosed
  | c :: rest =>
    if c = '}' then .ok ([], rest)
    else if c = '{' then .error .openInField
    else
      match fieldName rest with
      | .error fault => .error fault
      | .ok (name, rest) => .ok (c :: name, rest)

theorem length_of_fieldName {text name rest : List Char} (h : fieldName text = .ok (name, rest)) :
    rest.length < text.length := by
  induction text generalizing name with
  | nil => simp [fieldName] at h
  | cons c text ih =>
    rw [fieldName] at h
    split at h
    · simp only [Except.ok.injEq, Prod.mk.injEq] at h
      simp [h.2]
    · split at h
      · simp at h
      · split at h
        · simp at h
        · rename_i hr
          simp only [Except.ok.injEq, Prod.mk.injEq] at h
          have := ih (h.2 ▸ hr)
          rw [List.length_cons]
          omega

/-- A literal in front of tokens, unless it is empty. The literal is given backwards. -/
def consLiteral (backwards : List Char) (tokens : List FormatToken) : List FormatToken :=
  if backwards.isEmpty then tokens
  else literal (String.ofList backwards.reverse) :: tokens

/-- The tokens of a text behind literal text, which is given backwards. -/
def parseFrom (backwards : List Char) (text : List Char) :
    Except FormatFault (List FormatToken) :=
  match text with
  | [] => .ok (consLiteral backwards [])
  | '{' :: '{' :: rest => parseFrom ('{' :: backwards) rest
  | '}' :: '}' :: rest => parseFrom ('}' :: backwards) rest
  | c :: rest =>
    if c = '{' then
      match _h : fieldName rest with
      | .error fault => .error fault
      | .ok (name, rest') =>
        match parseFrom [] rest' with
        | .error fault => .error fault
        | .ok tokens => .ok (consLiteral backwards (field (String.ofList name) :: tokens))
    else if c = '}' then .error .loneClose
    else parseFrom (c :: backwards) rest
termination_by text.length
decreasing_by
  · simp only [List.length_cons]; omega
  · simp only [List.length_cons]; omega
  · have := length_of_fieldName _h
    simp only [List.length_cons]
    omega
  · simp

end FormatToken

/-- A format string and its tokens. -/
structure Format where
  source : String
  tokens : List FormatToken
  deriving DecidableEq

namespace Format

/-- Read a format string. -/
def parse (source : String) : Except FormatFault Format :=
  match FormatToken.parseFrom [] source.toList with
  | .ok tokens => .ok ⟨source, tokens⟩
  | .error fault => .error fault

/-- The names of the fields. -/
def fieldNames (f : Format) : Names :=
  Names.ofList (f.tokens.filterMap FormatToken.name?)

/-- The text that a token stands for. -/
def fillToken (fields : Fields) : FormatToken → Option String
  | .literal text => some text
  | .field name => fields.get? name

/-- The text that tokens stand for, if every field has a value. -/
def fillTokens (fields : Fields) : List FormatToken → Option String
  | [] => some ""
  | t :: rest =>
    match fillToken fields t, fillTokens fields rest with
    | some a, some b => some (a ++ b)
    | _, _ => none

/-- The format string with values in place of the fields, if every field has one. -/
def fill (f : Format) (fields : Fields) : Option String :=
  fillTokens fields f.tokens

end Format

end PathTemplate
