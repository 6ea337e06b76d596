import PathTemplate.Unicode.Age
import PathTemplate.Unicode.Binary
import PathTemplate.Unicode.Category
import PathTemplate.Unicode.Script
import PathTemplate.Unicode.ScriptExtension
import PathTemplate.Unicode.Segmentation

/-! # Properties by name

A name of a property or of a value is compared without case, blanks, dashes, underscores and a
leading `is`. -/

namespace PathTemplate.Unicode

/-- A set of code points that a name stands for. -/
inductive NamedSet
  /-- Every code point. -/
  | any
  /-- Every code point that has a character. -/
  | assigned
  /-- The first 128 code points. -/
  | ascii
  /-- The members of one of the tables. -/
  | oneOf (tables : List Listing)

/-- The characters of a name that count, in lower case. -/
def significant (name : List Char) : List Char :=
  (name.filter fun c => c.toNat < 0x80 ∧ c ≠ ' ' ∧ c ≠ '_' ∧ c ≠ '-').map Char.toLower

/-- A name as it is compared. Behind `is` the letter `c` alone names a property of its own. -/
def looseName (name : String) : String :=
  match name.toList with
  | i :: s :: rest =>
    if i.toLower = 'i' ∧ s.toLower = 's' then
      if significant rest = ['c'] then "isc" else String.ofList (significant rest)
    else String.ofList (significant (i :: s :: rest))
  | short => String.ofList (significant short)

/-- The table that has a name. -/
def tableNamed? (tables : List Listing) (name : String) : Option Listing :=
  tables.find? (·.names.contains name)

/-- A group of general categories under its names. -/
structure CategoryGroup where
  names : List String
  tables : List Listing

def categoryGroups : List CategoryGroup := [
  ⟨["lc", "casedletter"], [uppercaseLetter, lowercaseLetter, titlecaseLetter]⟩,
  ⟨["l", "letter"],
    [uppercaseLetter, lowercaseLetter, titlecaseLetter, modifierLetter, otherLetter]⟩,
  ⟨["m", "mark", "combiningmark"], [nonspacingMark, spacingMark, enclosingMark]⟩,
  ⟨["n", "number"], [decimalNumber, letterNumber, otherNumber]⟩,
  ⟨["p", "punctuation", "punct"],
    [connectorPunctuation, dashPunctuation, openPunctuation, closePunctuation,
      initialPunctuation, finalPunctuation, otherPunctuation]⟩,
  ⟨["s", "symbol"], [mathSymbol, currencySymbol, modifierSymbol, otherSymbol]⟩,
  ⟨["z", "separator"], [spaceSeparator, lineSeparator, paragraphSeparator]⟩,
  ⟨["c", "other"], [control, format, privateUse, unassigned]⟩]

/-- The general category or group of categories with a name. -/
def category? (name : String) : Option NamedSet :=
  match name with
  | "any" => some .any
  | "assigned" => some .assigned
  | "ascii" => some .ascii
  | _ =>
    match tableNamed? categories name with
    | some t => some (.oneOf [t])
    | none => (categoryGroups.find? (·.names.contains name)).map fun g => .oneOf g.tables

/-- Names of properties that do not just hold or not hold. Where such a property is asked for by
its name alone, the name is not tried as a category or script. -/
def valuedProperties : List String :=
  ["age", "ccc", "canonicalcombiningclass", "dm", "decompositionmapping", "dt",
    "decompositiontype", "ea", "eastasianwidth", "gc", "generalcategory", "gcb",
    "graphemeclusterbreak", "hst", "hangulsyllabletype", "lb", "linebreak", "na", "name", "nt",
    "numerictype", "nv", "numericvalue", "sb", "sentencebreak", "script", "scx",
    "scriptextensions", "wb", "wordbreak", "blk", "block", "bc", "bidiclass"]

/-- The set of a property, category or script that is given by its name alone. The names `cf`,
`sc` and `lc` are categories first. -/
def setNamed? (given : String) : Option NamedSet :=
  let name := looseName given
  let property := if ["cf", "sc", "lc"].contains name then none
    else tableNamed? binaryProperties name
  match property with
  | some t => some (.oneOf [t])
  | none =>
    if valuedProperties.contains name then none
    else match category? name with
      | some s => some s
      | none => (tableNamed? scripts name).map fun t => .oneOf [t]

/-- The set of a property's value. All other properties with values are refused whatever the
value is. -/
def setValued? (property value : String) : Option NamedSet :=
  let value := looseName value
  let among (tables : List Listing) : Option NamedSet :=
    (tableNamed? tables value).map fun t => .oneOf [t]
  match looseName property with
  | "gc" | "generalcategory" => category? value
  | "age" => (agesThrough? value).map .oneOf
  | "sc" | "script" => among scripts
  | "scx" | "scriptextensions" => among scriptExtensions
  | "gcb" | "graphemeclusterbreak" => among graphemeBreaks
  | "wb" | "wordbreak" => among wordBreaks
  | "sb" | "sentencebreak" => among sentenceBreaks
  | _ => none

end PathTemplate.Unicode
