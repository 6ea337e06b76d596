import PathTemplate.Proofs.Catalog
import PathTemplate.Resolver.Session

/-!
# Faithful caches

A cache is faithful to a resolver if every answer in it is the one that the
templates give. Every operation that starts from a faithful cache answers what
the templates answer and leaves a faithful cache behind.
-/

namespace PathTemplate

/-- Every remembered answer is the one that the templates give. -/
structure Cache.Faithful (c : Cache) (r : Resolver) : Prop where
  first : ∀ path answer, c.first.get? path = some answer → r.findFirst path = .ok answer
  one : ∀ path label answer, c.one.get? (path, label) = some answer →
    r.findOne path label = .ok answer
  all : ∀ path answer, c.all.get? path = some answer → r.findAll path = .ok answer

namespace Cache

variable {c : Cache} {r : Resolver}

/-- A cache without entries says nothing wrong, whether it is on or off. -/
theorem faithful_of_empty (r : Resolver) (enabled : Bool) :
    Faithful { enabled := enabled } r where
  first := by intro path answer h; cases h
  one := by intro path label answer h; cases h
  all := by intro path answer h; cases h

theorem Faithful.setEnabled (h : c.Faithful r) (enabled : Bool) :
    (c.setEnabled enabled).Faithful r := by
  cases enabled with
  | true => exact ⟨h.first, h.one, h.all⟩
  | false => exact faithful_of_empty r false

theorem Faithful.storeFirst (h : c.Faithful r) {path : String} {answer : Resolved}
    (ha : r.findFirst path = .ok answer) : (c.storeFirst path answer).Faithful r := by
  unfold Cache.storeFirst
  split
  · exact ⟨Catalog.forall_get?_insert h.first ha, h.one, h.all⟩
  · exact h

theorem Faithful.storeOne (h : c.Faithful r) {path label : String} {answer : Option Fields}
    (ha : r.findOne path label = .ok answer) : (c.storeOne path label answer).Faithful r := by
  unfold Cache.storeOne
  split
  · have hone : ∀ k a, (c.one.insert (path, label) answer).get? k = some a →
        r.findOne k.1 k.2 = .ok a :=
      Catalog.forall_get?_insert (fun k a hk => h.one k.1 k.2 a hk) ha
    exact ⟨h.first, fun p l a hp => hone (p, l) a hp, h.all⟩
  · exact h

theorem Faithful.storeAll (h : c.Faithful r) {path : String} {answer : Catalog String Fields}
    (ha : r.findAll path = .ok answer) : (c.storeAll path answer).Faithful r := by
  unfold Cache.storeAll
  split
  · exact ⟨h.first, h.one, Catalog.forall_get?_insert h.all ha⟩
  · exact h

/-- A hit in a faithful cache is the answer of the templates. -/
theorem Faithful.first?_eq_some (h : c.Faithful r) {path : String} {answer : Resolved}
    (hit : c.first? path = some answer) : r.findFirst path = .ok answer := by
  unfold Cache.first? at hit
  split at hit
  · exact h.first path answer hit
  · cases hit

theorem Faithful.one?_eq_some (h : c.Faithful r) {path label : String} {answer : Option Fields}
    (hit : c.one? path label = some answer) : r.findOne path label = .ok answer := by
  unfold Cache.one? at hit
  split at hit
  · exact h.one path label answer hit
  · cases hit

theorem Faithful.all?_eq_some (h : c.Faithful r) {path : String} {answer : Catalog String Fields}
    (hit : c.all? path = some answer) : r.findAll path = .ok answer := by
  unfold Cache.all? at hit
  split at hit
  · exact h.all path answer hit
  · cases hit

end Cache

/-! ## What the templates answer -/

namespace Resolver

/-- The path of a template for fields, if the templates resolve it to the same fields again. -/
def pathOf (r : Resolver) (t : Template) (fields : Fields) : Option String :=
  match t.render fields with
  | none => none
  | some path =>
    if (r.findOne path t.label).toOption = some (some fields) then some path else none

/-- The labels and paths of templates that have a path for fields, in order. -/
def pathsOf (r : Resolver) (fields : Fields) (templates : List Template) :
    List (String × String) :=
  templates.filterMap fun t => (r.pathOf t fields).map (t.label, ·)

/-- The first path that the templates have for fields. -/
def plainFirst (r : Resolver) (fields : Fields) : Formatted :=
  if fields.isEmpty then .notFound
  else Outcome.ofOption (r.pathsOf fields r.templates.values).head?

/-- The path that the template under a label has for fields. -/
def plainOne (r : Resolver) (fields : Fields) (label : String) : Option String :=
  if fields.isEmpty then none else (r.template? label).bind (r.pathOf · fields)

/-- All paths that the templates have for fields, under their labels. -/
def plainAll (r : Resolver) (fields : Fields) : Catalog String String :=
  if fields.isEmpty then .empty else Catalog.ofList (r.pathsOf fields r.templates.values)

end Resolver

/-- Whether an operation resolves or formats. -/
def Operation.isQuestion : Operation → Bool
  | resolveFirst _ | resolveOne _ _ | resolveAll _ => true
  | formatFirst _ | formatOne _ _ | formatAll _ => true
  | clearCache | setCacheEnabled _ | describe _ | overview => false

/-- What the templates answer to an operation that resolves or formats. -/
def Resolver.plainAnswer? (r : Resolver) : Operation → Option Answer
  | .resolveFirst path => some (.resolvedFirst (r.findFirst path))
  | .resolveOne path label => some (.resolvedOne (r.findOne path label))
  | .resolveAll path => some (.resolvedAll (r.findAll path))
  | .formatFirst fields => some (.formattedFirst (r.plainFirst fields))
  | .formatOne fields label => some (.formattedOne (r.plainOne fields label))
  | .formatAll fields => some (.formattedAll (r.plainAll fields))
  | .clearCache | .setCacheEnabled _ | .describe _ | .overview => none

/-! ## What a cache answers -/

/-- An answer is the plain one, and the cache behind it is faithful. -/
structure Traced.Agrees {α : Type} (t : Traced α) (r : Resolver) (plain : α) : Prop where
  answer : t.answer = plain
  cache : t.cache.Faithful r

namespace Resolver

variable {r : Resolver} {c : Cache}

theorem resolveFirst_agrees (h : c.Faithful r) (path : String) :
    (r.resolveFirst c path).Agrees r (r.findFirst path) := by
  unfold resolveFirst
  split
  · rename_i hempty
    exact ⟨by simp [findFirst, hempty], h⟩
  · split
    · rename_i answer hit
      exact ⟨(h.first?_eq_some hit).symm, h⟩
    · split
      · rename_i m hm
        exact ⟨hm.symm, h⟩
      · rename_i answer ha
        exact ⟨ha.symm, h.storeFirst ha⟩

theorem resolveOne_agrees (h : c.Faithful r) (path label : String) :
    (r.resolveOne c path label).Agrees r (r.findOne path label) := by
  unfold resolveOne
  split
  · rename_i hnone
    refine ⟨?_, h⟩
    rcases hnone with hempty | hlabel
    · simp [findOne, hempty]
    · simp [findOne, hlabel]
  · split
    · rename_i answer hit
      exact ⟨(h.one?_eq_some hit).symm, h⟩
    · split
      · rename_i m hm
        exact ⟨hm.symm, h⟩
      · rename_i answer ha
        exact ⟨ha.symm, h.storeOne ha⟩

theorem resolveAll_agrees (h : c.Faithful r) (path : String) :
    (r.resolveAll c path).Agrees r (r.findAll path) := by
  unfold resolveAll
  split
  · rename_i hempty
    exact ⟨by simp [findAll, hempty], h⟩
  · split
    · rename_i answer hit
      exact ⟨(h.all?_eq_some hit).symm, h⟩
    · split
      · rename_i m hm
        exact ⟨hm.symm, h⟩
      · rename_i answer ha
        exact ⟨ha.symm, h.storeAll ha⟩

/-- The second match goes through the cache, under the label that the template carries. -/
theorem formatWith_agrees (h : c.Faithful r) (t : Template) (fields : Fields) :
    (r.formatWith c t fields).Agrees r (r.pathOf t fields) := by
  unfold formatWith pathOf
  cases t.render fields with
  | none => exact ⟨rfl, h⟩
  | some path =>
      have again := resolveOne_agrees h path t.label
      simp only [again.answer]
      split
      · exact ⟨rfl, again.cache⟩
      · exact ⟨rfl, again.cache⟩

theorem firstFormat_agrees (h : c.Faithful r) (fields : Fields) (templates : List Template) :
    (r.firstFormat fields c templates).Agrees r
      (Outcome.ofOption (r.pathsOf fields templates).head?) := by
  induction templates generalizing c with
  | nil => exact ⟨rfl, h⟩
  | cons t rest ih =>
      have tried := formatWith_agrees h t fields
      simp only [firstFormat, tried.answer, pathsOf, List.filterMap_cons]
      cases r.pathOf t fields with
      | some path => exact ⟨rfl, tried.cache⟩
      | none =>
          have later := ih tried.cache
          exact ⟨later.answer, later.cache⟩

theorem allFormats_agrees (h : c.Faithful r) (fields : Fields) (templates : List Template) :
    (r.allFormats fields c templates).Agrees r (r.pathsOf fields templates) := by
  induction templates generalizing c with
  | nil => exact ⟨rfl, h⟩
  | cons t rest ih =>
      have tried := formatWith_agrees h t fields
      have later := ih tried.cache
      refine ⟨?_, later.cache⟩
      simp only [allFormats, tried.answer, later.answer, pathsOf, List.filterMap_cons]
      cases r.pathOf t fields with
      | some path => rfl
      | none => rfl

theorem formatFirst_agrees (h : c.Faithful r) (fields : Fields) :
    (r.formatFirst c fields).Agrees r (r.plainFirst fields) := by
  unfold formatFirst plainFirst
  split
  · exact ⟨rfl, h⟩
  · exact firstFormat_agrees h fields r.templates.values

theorem formatOne_agrees (h : c.Faithful r) (fields : Fields) (label : String) :
    (r.formatOne c fields label).Agrees r (r.plainOne fields label) := by
  unfold formatOne plainOne
  split
  · exact ⟨rfl, h⟩
  · cases r.template? label with
    | none => exact ⟨rfl, h⟩
    | some t => exact formatWith_agrees h t fields

theorem formatAll_agrees (h : c.Faithful r) (fields : Fields) :
    (r.formatAll c fields).Agrees r (r.plainAll fields) := by
  unfold formatAll plainAll
  split
  · exact ⟨rfl, h⟩
  · have all := allFormats_agrees h fields r.templates.values
    exact ⟨congrArg Catalog.ofList all.answer, all.cache⟩

end Resolver

end PathTemplate
