import PathTemplate.Event

/-! # Resolvers

A resolver has templates under labels, in order. It resolves a path into fields by the first
template that matches, by one template or by all, and formats fields into a path likewise. What
it formats it resolves again, and only a path that returns the same fields counts.

The questions are answered twice in this module: from the templates alone (`findFirst`,
`findOne`, `findAll`), and with a cache, which goes in and comes out with every answer. -/

namespace PathTemplate

/-- Templates under their labels, and the options they were compiled with. -/
structure Resolver where
  templates : Catalog String Template
  options : Options

/-- An answer with the cache behind it and what was reported on the way. -/
structure Traced (α : Type) where
  answer : α
  cache : Cache
  events : List Event := []

namespace Resolver

/-! ## Construction -/

/-- Templates that have been compiled, and how many groups they have, those of replaced templates
as well. -/
structure Compiled where
  templates : Catalog String Template := .empty
  groups : Nat := 0

/-- Compile templates in order behind others. The first one that cannot be compiled ends it, and
of a repeated label the last template counts, in the place of the first. -/
def compileAll (options : Options) (done : Compiled) :
    (pairs : List (String × String)) → Except CompileError Compiled
  | [] => .ok done
  | (label, pattern) :: rest =>
    match Template.compile label pattern options with
    | .error e => .error e
    | .ok t =>
      compileAll options ⟨done.templates.insert label t, done.groups + t.bindings.length⟩ rest

/-- Make a resolver of templates under labels, and tell what is reported on the way. A fault is
not reported. -/
def buildTraced (pairs : List (String × String)) (options : Options) :
    Except CompileError (Resolver × List Event) :=
  match compileAll options {} pairs with
  | .error e => .error e
  | .ok c =>
    .ok (⟨c.templates, options⟩,
      [.compiled c.templates.size c.groups, .built c.templates.size])

/-- Make a resolver of templates under labels. -/
def build (pairs : List (String × String)) (options : Options) : Except CompileError Resolver :=
  (buildTraced pairs options).map Prod.fst

/-- The cache of a resolver that has not been asked anything. -/
def freshCache (r : Resolver) : Cache := { enabled := r.options.cacheEnabled }

/-! ## What a resolver has -/

def size (r : Resolver) : Nat := r.templates.size

def isEmpty (r : Resolver) : Bool := r.templates.isEmpty

/-- The labels, in order. -/
def labels (r : Resolver) : List String := r.templates.keys

/-- The template under a label. -/
def template? (r : Resolver) (label : String) : Option Template := r.templates.get? label

/-- The labels with their templates as they were given. -/
def patterns (r : Resolver) : List (String × String) :=
  r.templates.entries.map fun e => (e.1, e.2.pattern)

def display (r : Resolver) : String := displayLabels r.labels

/-- Everything about a resolver and how many answers it remembers. -/
def debug (r : Resolver) (c : Cache) : String :=
  let option (k : Options.Key) := k.name ++ ": " ++ toString (r.options.get k)
  "Resolver \x7b patterns: " ++ Quoted.pairs r.patterns ++
    ", options: ResolverOptions \x7b " ++
    String.intercalate ", " (Options.Key.all.map option) ++
    " \x7d, cache_len: " ++ toString c.size ++ " \x7d"

/-! ## Resolving -/

/-- The fields that a template finds in a path. -/
def extract (r : Resolver) (t : Template) (path : String) : Except Mismatch (Option Fields) :=
  t.extract path r.options.checkDuplicates

/-- The answer of the first template that matches. -/
def firstOf (r : Resolver) (path : String) : List (String × Template) → Except Mismatch Resolved
  | [] => .ok .notFound
  | (label, t) :: rest =>
    match r.extract t path with
    | .error m => .error m
    | .ok (some fields) => .ok (.found label fields)
    | .ok none => firstOf r path rest

/-- The answers of all templates that match. -/
def allOf (r : Resolver) (path : String) :
    List (String × Template) → Catalog String Fields → Except Mismatch (Catalog String Fields)
  | [], found => .ok found
  | (label, t) :: rest, found =>
    match r.extract t path with
    | .error m => .error m
    | .ok (some fields) => allOf r path rest (found.insert label fields)
    | .ok none => allOf r path rest found

/-- The answer of the first template that matches a path. -/
def findFirst (r : Resolver) (path : String) : Except Mismatch Resolved :=
  if path = "" then .ok .notFound else r.firstOf path r.templates.entries

/-- The answer of the template under a label, if there is one and it matches. -/
def findOne (r : Resolver) (path label : String) : Except Mismatch (Option Fields) :=
  if path = "" then .ok none
  else
    match r.template? label with
    | none => .ok none
    | some t => r.extract t path

/-- The answers of all templates that match a path, in order. -/
def findAll (r : Resolver) (path : String) : Except Mismatch (Catalog String Fields) :=
  if path = "" then .ok .empty else r.allOf path r.templates.entries .empty

/-- Answer from the cache or else remember the answer. The empty path is not looked up. -/
def resolveFirst (r : Resolver) (c : Cache) (path : String) : Traced (Except Mismatch Resolved) :=
  if path = "" then ⟨.ok .notFound, c, []⟩
  else
    match c.first? path with
    | some answer => ⟨.ok answer, c, [.remembered (.first path)]⟩
    | none =>
      match r.findFirst path with
      | .error m => ⟨.error m, c, []⟩
      | .ok answer => ⟨.ok answer, c.storeFirst path answer, []⟩

/-- Answer from the cache or else remember the answer. Neither the empty path nor an unknown
label is looked up. -/
def resolveOne (r : Resolver) (c : Cache) (path label : String) :
    Traced (Except Mismatch (Option Fields)) :=
  if path = "" ∨ r.template? label = none then ⟨.ok none, c, []⟩
  else
    match c.one? path label with
    | some answer => ⟨.ok answer, c, [.remembered (.one path label)]⟩
    | none =>
      match r.findOne path label with
      | .error m => ⟨.error m, c, []⟩
      | .ok answer => ⟨.ok answer, c.storeOne path label answer, []⟩

/-- Answer from the cache or else remember the answer. The empty path is not looked up. -/
def resolveAll (r : Resolver) (c : Cache) (path : String) :
    Traced (Except Mismatch (Catalog String Fields)) :=
  if path = "" then ⟨.ok .empty, c, []⟩
  else
    match c.all? path with
    | some answer => ⟨.ok answer, c, [.remembered (.all path)]⟩
    | none =>
      match r.findAll path with
      | .error m => ⟨.error m, c, []⟩
      | .ok answer => ⟨.ok answer, c.storeAll path answer, []⟩

/-! ## Formatting -/

/-- The path of a template for fields, if the template resolves that path to the same fields
again. -/
def formatWith (r : Resolver) (c : Cache) (t : Template) (fields : Fields) :
    Traced (Option String) :=
  match t.render fields with
  | none => ⟨none, c, []⟩
  | some path =>
    let again := r.resolveOne c path t.label
    if again.answer.toOption = some (some fields) then ⟨some path, again.cache, again.events⟩
    else ⟨none, again.cache, again.events ++ [.notReturned path t.label again.answer]⟩

/-- The path of the first template that has one. -/
def firstFormat (r : Resolver) (fields : Fields) (c : Cache) : List Template → Traced Formatted
  | [] => ⟨.notFound, c, []⟩
  | t :: rest =>
    let tried := r.formatWith c t fields
    match tried.answer with
    | some path => ⟨.found t.label path, tried.cache, tried.events⟩
    | none =>
      let later := firstFormat r fields tried.cache rest
      ⟨later.answer, later.cache, tried.events ++ later.events⟩

/-- The paths of all templates that have one. -/
def allFormats (r : Resolver) (fields : Fields) (c : Cache) :
    List Template → Traced (List (String × String))
  | [] => ⟨[], c, []⟩
  | t :: rest =>
    let tried := r.formatWith c t fields
    let later := allFormats r fields tried.cache rest
    ⟨(tried.answer.toList.map (t.label, ·)) ++ later.answer, later.cache,
      tried.events ++ later.events⟩

/-- The path of the first template that has one for the fields. No fields have no path. -/
def formatFirst (r : Resolver) (c : Cache) (fields : Fields) : Traced Formatted :=
  if fields.isEmpty then ⟨.notFound, c, []⟩ else r.firstFormat fields c r.templates.values

/-- The path of the template under a label. -/
def formatOne (r : Resolver) (c : Cache) (fields : Fields) (label : String) :
    Traced (Option String) :=
  if fields.isEmpty then ⟨none, c, []⟩
  else
    match r.template? label with
    | none => ⟨none, c, [.unknownLabel label]⟩
    | some t => r.formatWith c t fields

/-- The paths of all templates that have one for the fields, under their labels. -/
def formatAll (r : Resolver) (c : Cache) (fields : Fields) : Traced (Catalog String String) :=
  if fields.isEmpty then ⟨.empty, c, []⟩
  else
    let all := r.allFormats fields c r.templates.values
    ⟨Catalog.ofList all.answer, all.cache, all.events⟩

/-! ## The cache -/

/-- Forget all answers. -/
def clearCache (c : Cache) : Traced Unit := ⟨(), c.clear, [.cacheCleared]⟩

/-- Turn the cache on or off. Turning it off clears it as well. -/
def setCacheEnabled (c : Cache) (enabled : Bool) : Traced Unit :=
  ⟨(), c.setEnabled enabled, if enabled then [] else [.cacheCleared]⟩

end Resolver

end PathTemplate
