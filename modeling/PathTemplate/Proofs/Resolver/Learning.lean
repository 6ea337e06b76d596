import PathTemplate.Proofs.Resolver.RoundTrip

/-!
# What a cache learns

A cache holds the questions whose answers it remembers. An operation asks
questions, the resolving ones their own and the formatting ones what the
templates say about the paths that they render. A cache that is on holds
afterwards what it held before and those of the questions that are kept, and a
question is reported as remembered if the cache held it before.
-/

namespace PathTemplate

/-- The operation that asks this question and no other. -/
def Question.operation : Question → Operation
  | first path => .resolveFirst path
  | one path label => .resolveOne path label
  | all path => .resolveAll path

namespace Answer

/-- Whether the question was answered with a mismatch. -/
def isFault : Answer → Bool
  | resolvedFirst (.error _) | resolvedOne (.error _) | resolvedAll (.error _) => true
  | _ => false

theorem isFault_resolvedFirst {found : Except Mismatch Resolved} :
    (resolvedFirst found).isFault = true ↔ ∃ m, found = .error m := by
  cases found <;> simp [isFault]

theorem isFault_resolvedOne {found : Except Mismatch (Option Fields)} :
    (resolvedOne found).isFault = true ↔ ∃ m, found = .error m := by
  cases found <;> simp [isFault]

theorem isFault_resolvedAll {found : Except Mismatch (Catalog String Fields)} :
    (resolvedAll found).isFault = true ↔ ∃ m, found = .error m := by
  cases found <;> simp [isFault]

end Answer

/-- Only a question is answered with a mismatch. -/
theorem Session.question_of_isFault {s : Session} {op : Operation}
    (h : (s.perform op).answer.isFault = true) : ∃ q : Question, op = q.operation := by
  cases op with
  | resolveFirst path => exact ⟨.first path, rfl⟩
  | resolveOne path label => exact ⟨.one path label, rfl⟩
  | resolveAll path => exact ⟨.all path, rfl⟩
  | _ => cases h

namespace Resolver

/-- Whether a question is looked up at all. The empty path and unknown labels are not. -/
def Knows (r : Resolver) : Question → Prop
  | .first path | .all path => path ≠ ""
  | .one path label => path ≠ "" ∧ label ∈ r.labels

/-- Whether the answer to a question is to be remembered: it is looked up, and the templates
answer it without a mismatch. -/
def Keeps (r : Resolver) (q : Question) : Prop :=
  r.Knows q ∧ ∃ a, r.plainAnswer? q.operation = some a ∧ a.isFault = false

theorem keeps_iff {r : Resolver} {q : Question} {a : Answer}
    (h : r.plainAnswer? q.operation = some a) : r.Keeps q ↔ r.Knows q ∧ a.isFault = false := by
  simp [Keeps, h]

theorem mem_labels_iff {r : Resolver} {label : String} :
    label ∈ r.labels ↔ r.template? label ≠ none :=
  Catalog.mem_keys_iff.trans Option.ne_none_iff_exists'.symm

end Resolver

namespace Cache

variable {c : Cache} {r : Resolver} {q : Question} {path label : String}

/-- The questions whose answers are remembered. -/
def questions (c : Cache) : List Question :=
  c.first.keys.map .first ++ c.one.keys.map (fun k => .one k.1 k.2) ++ c.all.keys.map .all

theorem first_mem_questions : .first path ∈ c.questions ↔ path ∈ c.first.keys := by
  simp [questions]

theorem one_mem_questions : .one path label ∈ c.questions ↔ (path, label) ∈ c.one.keys := by
  simp [questions]

theorem all_mem_questions : .all path ∈ c.questions ↔ path ∈ c.all.keys := by
  simp [questions]

/-- No question is held twice. -/
theorem nodup_questions (c : Cache) : c.questions.Nodup := by
  have hfirst : (c.first.keys.map Question.first).Nodup :=
    c.first.nodup.map fun a b h => Question.first.inj h
  have hone : (c.one.keys.map fun k => Question.one k.1 k.2).Nodup :=
    c.one.nodup.map fun a b h => Prod.ext_iff.2 (Question.one.inj h)
  have hall : (c.all.keys.map Question.all).Nodup :=
    c.all.nodup.map fun a b h => Question.all.inj h
  have hkinds : ∀ a ∈ c.first.keys.map Question.first,
      ∀ b ∈ c.one.keys.map (fun k => Question.one k.1 k.2), a ≠ b := by
    grind
  refine List.nodup_append.2 ⟨List.nodup_append.2 ⟨hfirst, hone, hkinds⟩, hall, ?_⟩
  grind

theorem length_questions (c : Cache) : c.questions.length = c.size := by
  simp [questions, size, Catalog.size, Catalog.keys, Nat.add_assoc]

/-! ## Single questions -/

theorem first?_isSome :
    (c.first? path).isSome = true ↔ c.enabled = true ∧ .first path ∈ c.questions := by
  rw [first_mem_questions, Catalog.mem_keys_iff, first?]
  cases c.enabled <;> simp [Option.isSome_iff_exists]

theorem one?_isSome :
    (c.one? path label).isSome = true ↔ c.enabled = true ∧ .one path label ∈ c.questions := by
  rw [one_mem_questions, Catalog.mem_keys_iff, one?]
  cases c.enabled <;> simp [Option.isSome_iff_exists]

theorem all?_isSome :
    (c.all? path).isSome = true ↔ c.enabled = true ∧ .all path ∈ c.questions := by
  rw [all_mem_questions, Catalog.mem_keys_iff, all?]
  cases c.enabled <;> simp [Option.isSome_iff_exists]

/-- A cache after an answer was stored: it holds the question as well if it is on. -/
structure Stored (c c' : Cache) (q : Question) : Prop where
  enabled : c'.enabled = c.enabled
  questions : ∀ q', q' ∈ c'.questions ↔ q' ∈ c.questions ∨ c.enabled = true ∧ q' = q

theorem stored_of_off (hoff : ¬ c.enabled = true) : c.Stored c q :=
  ⟨rfl, fun q' => by simp [hoff]⟩

theorem storeFirst_stored (c : Cache) (path : String) (answer : Resolved) :
    c.Stored (c.storeFirst path answer) (.first path) := by
  unfold storeFirst
  split
  · rename_i hon
    refine ⟨rfl, fun q => ?_⟩
    cases q <;> simp [questions, Catalog.mem_keys_insert, hon]
  · rename_i hoff
    exact stored_of_off hoff

theorem storeOne_stored (c : Cache) (path label : String) (answer : Option Fields) :
    c.Stored (c.storeOne path label answer) (.one path label) := by
  unfold storeOne
  split
  · rename_i hon
    refine ⟨rfl, fun q => ?_⟩
    cases q <;> simp [questions, Catalog.mem_keys_insert, hon, eq_comm]
  · rename_i hoff
    exact stored_of_off hoff

theorem storeAll_stored (c : Cache) (path : String) (answer : Catalog String Fields) :
    c.Stored (c.storeAll path answer) (.all path) := by
  unfold storeAll
  split
  · rename_i hon
    refine ⟨rfl, fun q => ?_⟩
    cases q <;> simp [questions, Catalog.mem_keys_insert, hon]
  · rename_i hoff
    exact stored_of_off hoff

/-! ## What an answer leaves behind -/

/-- A cache holds only questions that are kept, and none while it is off. -/
structure Tidy (c : Cache) (r : Resolver) : Prop where
  kept : ∀ q ∈ c.questions, r.Keeps q
  off : c.enabled = false → c.questions = []

theorem tidy_of_empty (r : Resolver) (enabled : Bool) : Tidy { enabled := enabled } r where
  kept q hq := by cases hq
  off _ := rfl

theorem Tidy.setEnabled (h : c.Tidy r) (enabled : Bool) : (c.setEnabled enabled).Tidy r := by
  cases enabled with
  | true => exact ⟨h.kept, fun hoff => by cases hoff⟩
  | false => exact tidy_of_empty r false

/-- From one cache to another by asking questions: if it is on, those that are kept are held as
well, and those that were held before are reported. -/
structure Learns (c : Cache) (r : Resolver) (asked : Question → Prop) (c' : Cache)
    (events : List Event) : Prop where
  enabled : c'.enabled = c.enabled
  questions : ∀ q, q ∈ c'.questions ↔
    q ∈ c.questions ∨ c.enabled = true ∧ asked q ∧ r.Keeps q
  hits : ∀ q, Event.remembered q ∈ events ↔ asked q ∧ q ∈ c.questions

/-- A cache stays the same if it holds what is asked and kept. -/
theorem learns_of_same {asked : Question → Prop} {events : List Event}
    (hasked : ∀ q, asked q → r.Keeps q → q ∈ c.questions)
    (hhits : ∀ q, Event.remembered q ∈ events ↔ asked q ∧ q ∈ c.questions) :
    c.Learns r asked c events where
  enabled := rfl
  questions q := ⟨.inl, fun h => h.elim id fun h => hasked q h.2.1 h.2.2⟩
  hits := hhits

theorem learns_nothing (c : Cache) (r : Resolver) {events : List Event}
    (h : ∀ q, Event.remembered q ∉ events) : c.Learns r (fun _ => False) c events :=
  learns_of_same (fun _ => False.elim) fun q => iff_of_false (h q) And.left

namespace Learns

variable {asked asked' : Question → Prop} {c' c'' : Cache} {events events' : List Event}

theorem tidy (h : c.Learns r asked c' events) (ht : c.Tidy r) : c'.Tidy r where
  kept q hq := by
    rcases (h.questions q).1 hq with hold | ⟨-, -, hkeeps⟩
    · exact ht.kept q hold
    · exact hkeeps
  off hoff := by
    rw [h.enabled] at hoff
    refine List.eq_nil_iff_forall_not_mem.2 fun q hq => ?_
    rcases (h.questions q).1 hq with hold | ⟨hon, -⟩
    · rw [ht.off hoff] at hold
      cases hold
    · rw [hoff] at hon
      cases hon

theorem congr (h : c.Learns r asked c' events) (hasked : ∀ q, asked' q ↔ asked q) :
    c.Learns r asked' c' events where
  enabled := h.enabled
  questions q := by rw [h.questions, hasked]
  hits q := by rw [h.hits, hasked]

/-- What is asked afterwards is learnt as well. If it is something else, the cache held of it what
it had held before. -/
theorem append (h : c.Learns r asked c' events) (h' : c'.Learns r asked' c'' events')
    (hother : ∀ q, asked q → ¬ asked' q) :
    c.Learns r (fun q => asked q ∨ asked' q) c'' (events ++ events') where
  enabled := h'.enabled.trans h.enabled
  questions q := by
    rw [h'.questions, h.questions, h.enabled]
    tauto
  hits q := by
    rw [List.mem_append, h.hits, h'.hits, h.questions]
    have hne := hother q
    tauto

/-- Reports about other things do not count. -/
theorem report (h : c.Learns r asked c' events) {e : Event} (he : ∀ q, e ≠ .remembered q) :
    c.Learns r asked c' (events ++ [e]) where
  enabled := h.enabled
  questions := h.questions
  hits q := by
    rw [List.mem_append, List.mem_singleton, h.hits]
    simp [(he q).symm]

end Learns

/-- Answer from what is remembered or else remember the answer. What is skipped is not looked
up. -/
def ask {α : Type} (c : Cache) (q : Question) (skipped : Prop) [Decidable skipped] (nothing : α)
    (hit : Option α) (found : Except Mismatch α) (store : α → Cache) :
    Traced (Except Mismatch α) :=
  if skipped then ⟨.ok nothing, c, []⟩
  else
    match hit with
    | some answer => ⟨.ok answer, c, [.remembered q]⟩
    | none =>
      match found with
      | .error m => ⟨.error m, c, []⟩
      | .ok answer => ⟨.ok answer, store answer, []⟩

section Ask

variable {α : Type} {skipped : Prop} [Decidable skipped] {nothing : α} {hit : Option α}
  {found : Except Mismatch α} {store : α → Cache}

/-- A mismatch is not remembered. -/
theorem ask_error {m : Mismatch}
    (h : (c.ask q skipped nothing hit found store).answer = .error m) :
    (c.ask q skipped nothing hit found store).cache = c := by
  unfold ask at h ⊢
  by_cases hs : skipped
  · rw [if_pos hs]
  · rw [if_neg hs] at h ⊢
    cases hit with
    | some answer => rfl
    | none =>
        cases found with
        | error m' => rfl
        | ok answer => cases h

/-- If the cache is on, it holds the question afterwards, unless the question is skipped or answered
with a mismatch. -/
theorem ask_learns (ht : c.Tidy r) (hskipped : skipped ↔ ¬ r.Knows q)
    (hhit : hit.isSome = true ↔ c.enabled = true ∧ q ∈ c.questions)
    (hkeeps : r.Keeps q ↔ r.Knows q ∧ ∃ answer, found = .ok answer)
    (hstore : ∀ answer, c.Stored (store answer) q) :
    c.Learns r (· = q) (c.ask q skipped nothing hit found store).cache
      (c.ask q skipped nothing hit found store).events := by
  -- While the cache does not hold the question, it is not reported.
  have hsilent : q ∉ c.questions → ∀ q', Event.remembered q' ∈ ([] : List Event) ↔
      q' = q ∧ q' ∈ c.questions := by
    intro hnew q'
    simp only [List.not_mem_nil, false_iff]
    rintro ⟨rfl, h⟩
    exact hnew h
  unfold ask
  by_cases hs : skipped
  · have hnot : ¬ r.Keeps q := fun h => hskipped.1 hs h.1
    rw [if_pos hs]
    exact learns_of_same (fun q' heq h => absurd (heq ▸ h) hnot)
      (hsilent fun h => hnot (ht.kept q h))
  · have hknows : r.Knows q := not_not.1 fun h => hs (hskipped.2 h)
    rw [if_neg hs]
    cases hit with
    | some answer =>
        obtain ⟨-, hheld⟩ := hhit.1 rfl
        refine learns_of_same (fun q' heq _ => heq ▸ hheld) fun q' => ?_
        rw [List.mem_singleton, Event.remembered.injEq]
        exact ⟨fun heq => ⟨heq, heq ▸ hheld⟩, And.left⟩
    | none =>
        have hnew : q ∉ c.questions := by
          intro h
          cases hon : c.enabled with
          | true => exact absurd (hhit.2 ⟨hon, h⟩) Bool.false_ne_true
          | false => exact List.not_mem_nil (ht.off hon ▸ h)
        cases found with
        | error m =>
            refine learns_of_same (fun q' heq h => ?_) (hsilent hnew)
            obtain ⟨-, answer, hanswer⟩ := hkeeps.1 (heq ▸ h)
            cases hanswer
        | ok answer =>
            refine ⟨(hstore answer).enabled, fun q' => ?_, hsilent hnew⟩
            have hkept : q' = q → r.Keeps q' := fun heq => heq ▸ hkeeps.2 ⟨hknows, answer, rfl⟩
            rw [(hstore answer).questions, and_iff_left_of_imp hkept]

end Ask

end Cache

/-! ## What the operations of a resolver leave behind -/

namespace Resolver

variable {r : Resolver} {c : Cache}

/-! The three questions are asked in one way, and differ in what is skipped, where the answer is
remembered and what the templates are asked. -/

theorem resolveFirst_eq_ask (r : Resolver) (c : Cache) (path : String) :
    r.resolveFirst c path = c.ask (.first path) (path = "") .notFound (c.first? path)
      (r.findFirst path) (c.storeFirst path) := by
  unfold resolveFirst Cache.ask
  cases c.first? path <;> cases r.findFirst path <;> rfl

theorem resolveOne_eq_ask (r : Resolver) (c : Cache) (path label : String) :
    r.resolveOne c path label = c.ask (.one path label) (path = "" ∨ r.template? label = none) none
      (c.one? path label) (r.findOne path label) (c.storeOne path label) := by
  unfold resolveOne Cache.ask
  cases c.one? path label <;> cases r.findOne path label <;> rfl

theorem resolveAll_eq_ask (r : Resolver) (c : Cache) (path : String) :
    r.resolveAll c path = c.ask (.all path) (path = "") .empty (c.all? path) (r.findAll path)
      (c.storeAll path) := by
  unfold resolveAll Cache.ask
  cases c.all? path <;> cases r.findAll path <;> rfl

theorem resolveFirst_error {path : String} {m : Mismatch}
    (h : (r.resolveFirst c path).answer = .error m) : (r.resolveFirst c path).cache = c := by
  rw [resolveFirst_eq_ask] at h ⊢
  exact Cache.ask_error h

theorem resolveOne_error {path label : String} {m : Mismatch}
    (h : (r.resolveOne c path label).answer = .error m) :
    (r.resolveOne c path label).cache = c := by
  rw [resolveOne_eq_ask] at h ⊢
  exact Cache.ask_error h

theorem resolveAll_error {path : String} {m : Mismatch}
    (h : (r.resolveAll c path).answer = .error m) : (r.resolveAll c path).cache = c := by
  rw [resolveAll_eq_ask] at h ⊢
  exact Cache.ask_error h

theorem resolveFirst_learns (ht : c.Tidy r) (path : String) :
    c.Learns r (· = .first path) (r.resolveFirst c path).cache (r.resolveFirst c path).events := by
  have hkeeps : r.Keeps (.first path) ↔
      r.Knows (.first path) ∧ ∃ answer, r.findFirst path = .ok answer := by
    rw [keeps_iff rfl]
    cases r.findFirst path <;> simp [Answer.isFault]
  rw [resolveFirst_eq_ask]
  exact Cache.ask_learns ht (by simp [Knows]) Cache.first?_isSome hkeeps
    (c.storeFirst_stored path)

theorem resolveOne_learns (ht : c.Tidy r) (path label : String) :
    c.Learns r (· = .one path label) (r.resolveOne c path label).cache
      (r.resolveOne c path label).events := by
  have hkeeps : r.Keeps (.one path label) ↔
      r.Knows (.one path label) ∧ ∃ answer, r.findOne path label = .ok answer := by
    rw [keeps_iff rfl]
    cases r.findOne path label <;> simp [Answer.isFault]
  have hskipped : path = "" ∨ r.template? label = none ↔ ¬ r.Knows (.one path label) := by
    rw [Knows, mem_labels_iff]
    tauto
  rw [resolveOne_eq_ask]
  exact Cache.ask_learns ht hskipped Cache.one?_isSome hkeeps (c.storeOne_stored path label)

theorem resolveAll_learns (ht : c.Tidy r) (path : String) :
    c.Learns r (· = .all path) (r.resolveAll c path).cache (r.resolveAll c path).events := by
  have hkeeps : r.Keeps (.all path) ↔
      r.Knows (.all path) ∧ ∃ answer, r.findAll path = .ok answer := by
    rw [keeps_iff rfl]
    cases r.findAll path <;> simp [Answer.isFault]
  rw [resolveAll_eq_ask]
  exact Cache.ask_learns ht (by simp [Knows]) Cache.all?_isSome hkeeps (c.storeAll_stored path)

end Resolver

/-- The question that a template asks about the path that it makes of fields. -/
def Template.Tries (t : Template) (fields : Fields) (q : Question) : Prop :=
  ∃ path, t.render fields = some path ∧ q = .one path t.label

/-- Templates with different labels ask different questions. -/
theorem Template.label_eq_of_tries {t u : Template} {fields : Fields} {q : Question}
    (ht : t.Tries fields q) (hu : u.Tries fields q) : t.label = u.label := by
  obtain ⟨path, -, rfl⟩ := ht
  obtain ⟨path', -, heq⟩ := hu
  exact (Question.one.inj heq).2

namespace Resolver

variable {r : Resolver} {c : Cache} {fields : Fields} {q : Question}

theorem formatWith_learns (ht : c.Tidy r) (t : Template) (fields : Fields) :
    c.Learns r (t.Tries fields) (r.formatWith c t fields).cache
      (r.formatWith c t fields).events := by
  unfold formatWith
  cases hrender : t.render fields with
  | none =>
      have hnone : ∀ q, t.Tries fields q ↔ False := by simp [Template.Tries, hrender]
      exact (Cache.learns_nothing c r fun q => List.not_mem_nil).congr hnone
  | some path =>
      have hone : ∀ q, t.Tries fields q ↔ q = .one path t.label := by
        simp [Template.Tries, hrender]
      have again := (resolveOne_learns ht path t.label).congr hone
      simp only
      split
      · exact again
      · exact again.report fun q => by simp

/-- The questions of the templates up to the first one that has a path for the fields. -/
def TriesFirst (r : Resolver) (fields : Fields) (templates : List Template) (q : Question) : Prop :=
  ∃ front t back, templates = front ++ t :: back ∧ (∀ u ∈ front, r.pathOf u fields = none) ∧
    t.Tries fields q

theorem triesFirst_cons {t : Template} {rest : List Template} :
    r.TriesFirst fields (t :: rest) q ↔
      t.Tries fields q ∨ r.pathOf t fields = none ∧ r.TriesFirst fields rest q := by
  constructor
  · rintro ⟨front, u, back, hsplit, hfront, hu⟩
    rcases List.cons_eq_append_iff.1 hsplit with ⟨rfl, heq⟩ | ⟨front, rfl, rfl⟩
    · obtain ⟨rfl, -⟩ := List.cons.inj heq
      exact .inl hu
    · rw [List.forall_mem_cons] at hfront
      exact .inr ⟨hfront.1, front, u, back, rfl, hfront.2, hu⟩
  · rintro (ht | ⟨hnone, front, u, back, rfl, hfront, hu⟩)
    · exact ⟨[], t, rest, rfl, by simp, ht⟩
    · exact ⟨t :: front, u, back, rfl, List.forall_mem_cons.2 ⟨hnone, hfront⟩, hu⟩

theorem firstFormat_learns (hc : c.Faithful r) (ht : c.Tidy r) (fields : Fields)
    {templates : List Template} (hn : (templates.map Template.label).Nodup) :
    c.Learns r (r.TriesFirst fields templates) (r.firstFormat fields c templates).cache
      (r.firstFormat fields c templates).events := by
  induction templates generalizing c with
  | nil =>
      have hnone : ∀ q, r.TriesFirst fields [] q ↔ False := by simp [TriesFirst]
      exact (Cache.learns_nothing c r fun q => List.not_mem_nil).congr hnone
  | cons t rest ih =>
      rw [List.map_cons, List.nodup_cons] at hn
      have tried := formatWith_learns ht t fields
      have agrees := formatWith_agrees hc t fields
      simp only [firstFormat, agrees.answer]
      cases hpath : r.pathOf t fields with
      | some path =>
          exact tried.congr fun q => by simp [triesFirst_cons, hpath]
      | none =>
          have later := ih agrees.cache (tried.tidy ht) hn.2
          refine (tried.append later fun q hq hrest => ?_).congr fun q => by
            simp [triesFirst_cons, hpath]
          obtain ⟨front, u, back, rfl, -, hu⟩ := hrest
          exact hn.1 (Template.label_eq_of_tries hq hu ▸ List.mem_map_of_mem (by simp))

theorem allFormats_learns (ht : c.Tidy r) (fields : Fields) {templates : List Template}
    (hn : (templates.map Template.label).Nodup) :
    c.Learns r (fun q => ∃ t ∈ templates, t.Tries fields q) (r.allFormats fields c templates).cache
      (r.allFormats fields c templates).events := by
  induction templates generalizing c with
  | nil =>
      have hnone : ∀ q, (∃ t ∈ ([] : List Template), t.Tries fields q) ↔ False := by simp
      exact (Cache.learns_nothing c r fun q => List.not_mem_nil).congr hnone
  | cons t rest ih =>
      rw [List.map_cons, List.nodup_cons] at hn
      have tried := formatWith_learns ht t fields
      have later := ih (tried.tidy ht) hn.2
      refine (tried.append later fun q hq hrest => ?_).congr fun q => by simp
      obtain ⟨u, hmem, hu⟩ := hrest
      exact hn.1 (Template.label_eq_of_tries hq hu ▸ List.mem_map_of_mem hmem)

theorem formatFirst_learns (hc : c.Faithful r) (ht : c.Tidy r)
    (hn : (r.templates.values.map Template.label).Nodup) (fields : Fields) :
    c.Learns r (fun q => fields.isEmpty = false ∧ r.TriesFirst fields r.templates.values q)
      (r.formatFirst c fields).cache (r.formatFirst c fields).events := by
  unfold formatFirst
  cases hempty : fields.isEmpty with
  | true => exact (Cache.learns_nothing c r fun q => List.not_mem_nil).congr fun q => by simp
  | false => exact (firstFormat_learns hc ht fields hn).congr fun q => by simp

theorem formatOne_learns (ht : c.Tidy r) (fields : Fields) (label : String) :
    c.Learns r (fun q => fields.isEmpty = false ∧
        ∃ t, r.template? label = some t ∧ t.Tries fields q)
      (r.formatOne c fields label).cache (r.formatOne c fields label).events := by
  unfold formatOne
  cases hempty : fields.isEmpty with
  | true => exact (Cache.learns_nothing c r fun q => List.not_mem_nil).congr fun q => by simp
  | false =>
      cases htemplate : r.template? label with
      | none => exact (Cache.learns_nothing c r fun q => by simp).congr fun q => by simp
      | some t => exact (formatWith_learns ht t fields).congr fun q => by simp

theorem formatAll_learns (ht : c.Tidy r) (hn : (r.templates.values.map Template.label).Nodup)
    (fields : Fields) :
    c.Learns r (fun q => fields.isEmpty = false ∧ ∃ t ∈ r.templates.values, t.Tries fields q)
      (r.formatAll c fields).cache (r.formatAll c fields).events := by
  unfold formatAll
  cases hempty : fields.isEmpty with
  | true => exact (Cache.learns_nothing c r fun q => List.not_mem_nil).congr fun q => by simp
  | false => exact (allFormats_learns ht fields hn).congr fun q => by simp

end Resolver

end PathTemplate
