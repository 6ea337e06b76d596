/-! # Templates as segments

A template is literal text with placeholders, `{name}` or `{name:constraint}`. A brace inside a
constraint has a backslash before it. A brace that begins no placeholder is literal text. -/

namespace PathTemplate

/-- A piece of a template. -/
inductive Segment
  | literal (text : String)
  /-- A placeholder and what it may match, with the backslashes of its braces taken away. -/
  | placeholder (name : String) (constraint : Option String)
  deriving DecidableEq

namespace Segment

/-- The name of a placeholder. -/
def name? : Segment → Option String
  | literal _ => none
  | placeholder name _ => some name

/-- The names of placeholders in order, repeated ones as well. -/
def names (segments : List Segment) : List String :=
  segments.filterMap name?

/-! ## Writing -/

/-- A constraint as it stands in a template. -/
def escapeConstraint : List Char → List Char
  | [] => []
  | c :: rest =>
    if c = '{' ∨ c = '}' then '\\' :: c :: escapeConstraint rest else c :: escapeConstraint rest

/-- A segment as it stands in a template. -/
def write : Segment → List Char
  | literal text => text.toList
  | placeholder name none => '{' :: name.toList ++ ['}']
  | placeholder name (some constraint) =>
    '{' :: name.toList ++ ':' :: escapeConstraint constraint.toList ++ ['}']

/-! ## Scanning -/

/-- Whether a character ends the name of a placeholder. -/
def endsName (c : Char) : Bool := c = ':' || c = '}'

/-- The constraint up to the first closing brace without a backslash, and the text behind that
brace. -/
def constraint? : List Char → Option (List Char × List Char)
  | [] => none
  | '}' :: rest => some ([], rest)
  | '\\' :: '{' :: rest => (constraint? rest).map fun p => ('{' :: p.1, p.2)
  | '\\' :: '}' :: rest => (constraint? rest).map fun p => ('}' :: p.1, p.2)
  | c :: rest => (constraint? rest).map fun p => (c :: p.1, p.2)

/-- The placeholder that begins behind an opening brace, and the text behind it. -/
def placeholder? (text : List Char) : Option (Segment × List Char) :=
  let name := text.takeWhile (!endsName ·)
  if name.isEmpty then none
  else
    match text.dropWhile (!endsName ·) with
    | '}' :: rest => some (placeholder (String.ofList name) none, rest)
    | ':' :: rest =>
      (constraint? rest).map fun p =>
        (placeholder (String.ofList name) (some (String.ofList p.1)), p.2)
    | _ => none

theorem length_of_constraint? {text constraint rest : List Char}
    (h : constraint? text = some (constraint, rest)) : rest.length < text.length := by
  fun_induction constraint? text generalizing constraint with
  | case1 => simp at h
  | case2 rest' => simp at h; simp [h]
  | case3 rest' ih | case4 rest' ih | case5 c rest' _ _ _ ih =>
    simp only [Option.map_eq_some_iff, Prod.mk.injEq, Prod.exists] at h
    obtain ⟨a, b, hab, _, rfl⟩ := h
    have := ih hab
    simp only [List.length_cons]
    omega

/-- A placeholder takes text away. -/
theorem length_of_placeholder? {text rest : List Char} {segment : Segment}
    (h : placeholder? text = some (segment, rest)) : rest.length < text.length := by
  have hle := (List.dropWhile_suffix (!endsName ·) (l := text)).length_le
  unfold placeholder? at h
  dsimp only at h
  split at h
  · simp at h
  · split at h
    · rename_i heq
      simp only [Option.some.injEq, Prod.mk.injEq] at h
      rw [heq, List.length_cons] at hle
      rw [← h.2]
      omega
    · rename_i heq
      simp only [Option.map_eq_some_iff, Prod.mk.injEq, Prod.exists] at h
      obtain ⟨a, b, hab, _, rfl⟩ := h
      have := length_of_constraint? hab
      rw [heq, List.length_cons] at hle
      omega
    · simp at h

/-- A literal in front of segments, unless it is empty. The literal is given backwards. -/
def consLiteral (backwards : List Char) (segments : List Segment) : List Segment :=
  if backwards.isEmpty then segments
  else literal (String.ofList backwards.reverse) :: segments

/-- The segments of a text behind literal text, which is given backwards. -/
def scanFrom (backwards : List Char) (text : List Char) : List Segment :=
  match text with
  | [] => consLiteral backwards []
  | c :: rest =>
    if c = '{' then
      match _h : placeholder? rest with
      | some (segment, rest') => consLiteral backwards (segment :: scanFrom [] rest')
      | none => scanFrom (c :: backwards) rest
    else scanFrom (c :: backwards) rest
termination_by text.length
decreasing_by
  · have := length_of_placeholder? _h
    simp only [List.length_cons]
    omega
  · simp
  · simp

/-- The segments of a template. -/
def scan (pattern : String) : List Segment :=
  scanFrom [] pattern.toList

end Segment

end PathTemplate
