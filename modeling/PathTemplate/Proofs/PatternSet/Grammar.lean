import PathTemplate.PatternSet.Reader
import PathTemplate.Proofs.Json.Grammar

/-!
# How pattern sets are written

A set is an object with its options and its patterns, or an array of the two.
Options are an object of those that are given, or an array of the first ones.
Members of other names may hold any value and mean nothing. What a document
says does not depend on the order of the members of the set and of its options.
-/

namespace PathTemplate.PatternSet

open Json (IsBlank Blank StringText Spells)

/-! ## Parts of objects and arrays -/

/-- The members of an object up to its end: the name of each, and the text of its value. -/
inductive MembersText : (first : Bool) → (members : List (String × List Char)) →
    (t : List Char) → Prop
  | blank {first : Bool} {members : List (String × List Char)} {c : Char} {t : List Char}
      (hc : IsBlank c) (h : MembersText first members t) : MembersText first members (c :: t)
  | nil {first : Bool} : MembersText first [] ['}']
  | member {members : List (String × List Char)} {s n b v u : List Char}
      (hname : StringText .read s n) (hb : Blank b) (h : MembersText false members u) :
      MembersText true ((String.ofList s, v) :: members)
        ('"' :: (n ++ '"' :: (b ++ ':' :: (v ++ u))))
  | another {m : String × List Char} {members : List (String × List Char)} {t : List Char}
      (h : MembersText true (m :: members) t) : MembersText false (m :: members) (',' :: t)

/-- The items of an array up to its end. -/
inductive ItemsText : (first : Bool) → (items : List (List Char)) → (t : List Char) → Prop
  | blank {first : Bool} {items : List (List Char)} {c : Char} {t : List Char}
      (hc : IsBlank c) (h : ItemsText first items t) : ItemsText first items (c :: t)
  | nil {first : Bool} : ItemsText first [] [']']
  | item {items : List (List Char)} {v u : List Char} (h : ItemsText false items u) :
      ItemsText true (v :: items) (v ++ u)
  | another {v : List Char} {items : List (List Char)} {t : List Char}
      (h : ItemsText true (v :: items) t) : ItemsText false (v :: items) (',' :: t)

/-- Any value of JSON, nested to any depth, since the depth of what is skipped is not looked at. -/
def IsJson (t : List Char) : Prop := ∃ j, Spells .skip 0 (.value j) t

/-- How a truth value is written. -/
def TruthText (value : Bool) (t : List Char) : Prop :=
  ∃ b, Blank b ∧ t = b ++ if value then ['t', 'r', 'u', 'e'] else ['f', 'a', 'l', 's', 'e']

/-! ## Options -/

/-- The options that members give. -/
def givenKeys (members : List (String × List Char)) : List Options.Key :=
  members.filterMap fun m => Options.Key.ofName? m.1

/-- A member gives the value of an option, or means nothing. -/
def Says (o : Options) (m : String × List Char) : Prop :=
  match Options.Key.ofName? m.1 with
  | some k => TruthText (o.get k) m.2
  | none => IsJson m.2

/-- Members turn options into others: none is given twice, or again, and those that are not given
stay as they are. -/
structure Turns (given : List Options.Key) (o o' : Options)
    (members : List (String × List Char)) : Prop where
  agree : ∀ m ∈ members, Says o' m
  nodup : (givenKeys members).Nodup
  fresh : ∀ k ∈ givenKeys members, k ∉ given
  others : ∀ k, k ∉ givenKeys members → o'.get k = o.get k

/-- Items turn options into others, one after the other. -/
def TurnsInOrder : (keys : List Options.Key) → (o o' : Options) → List (List Char) → Prop
  | _, o, o', [] => o' = o
  | [], _, _, _ :: _ => False
  | k :: keys, o, o', v :: items =>
    ∃ value, TruthText value v ∧ TurnsInOrder keys (o.set value k) o' items

/-- How options are written. All that are not given are on. -/
inductive OptionsText (o : Options) : (t : List Char) → Prop
  | object {b t : List Char} {members : List (String × List Char)} (hb : Blank b)
      (h : MembersText true members t) (hmembers : Turns [] {} o members) :
      OptionsText o (b ++ '{' :: t)
  | array {b t : List Char} {items : List (List Char)} (hb : Blank b)
      (h : ItemsText true items t) (hitems : TurnsInOrder Options.Key.all {} o items) :
      OptionsText o (b ++ '[' :: t)

/-! ## Sets -/

/-- Values under labels, as they stand in an object. -/
def PatternsText (patterns : List (String × Json)) (t : List Char) : Prop :=
  ∃ b u, Blank b ∧ t = b ++ '{' :: u ∧
    Spells .read (Json.depthLimit - 2) (.members true patterns) u

/-- The texts that stand under a name. -/
def valuesOf (name : String) (members : List (String × List Char)) : List (List Char) :=
  members.filterMap fun m => if m.1 = name then some m.2 else none

/-- The members of a set: options, which may be left out, patterns, and members that mean
nothing. -/
structure SetMembers (o : Options) (patterns : List (String × Json))
    (members : List (String × List Char)) : Prop where
  options : (valuesOf "options" members = [] ∧ o = {}) ∨
    ∃ v, valuesOf "options" members = [v] ∧ OptionsText o v
  patterns : ∃ v, valuesOf "patterns" members = [v] ∧ PatternsText patterns v
  others : ∀ m ∈ members, m.1 ≠ "options" → m.1 ≠ "patterns" → IsJson m.2

/-- How a set is written. -/
inductive SetText (o : Options) (patterns : List (String × Json)) : (t : List Char) → Prop
  | object {b t : List Char} {members : List (String × List Char)} (hb : Blank b)
      (h : MembersText true members t) (hmembers : SetMembers o patterns members) :
      SetText o patterns (b ++ '{' :: t)
  | array {b t v w : List Char} (hb : Blank b) (h : ItemsText true [v, w] t)
      (hoptions : OptionsText o v) (hpatterns : PatternsText patterns w) :
      SetText o patterns (b ++ '[' :: t)

/-- A document that is one set, in which these values stand under labels. -/
def Document (text : String) (o : Options) (patterns : List (String × Json)) : Prop :=
  ∃ t b, text.toList = t ++ b ∧ SetText o patterns t ∧ Blank b

end PathTemplate.PatternSet
