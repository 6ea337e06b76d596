import PathTemplate.Proofs.Lists
import PathTemplate.Proofs.Resolver.Learning

/-!
# What a session remembers

The questions that a session holds answers to are told from its operations: they
are those that were asked while the cache was on and since it was last emptied,
if they are looked up and answered without a mismatch. Formatting asks as well,
about every path that it renders, and it renders no more than it has to.
-/

namespace PathTemplate

/-- Whether an operation empties the cache. -/
def Operation.empties : Operation → Bool
  | clearCache | setCacheEnabled false => true
  | _ => false

namespace Session

/-- Fields that are not empty have the names of the template under a label, and it makes a path of
them. -/
def Renders (s : Session) (fields : Fields) (label path : String) : Prop :=
  fields.isEmpty = false ∧ ∃ t, s.resolver.template? label = some t ∧ fields.keys = t.keys ∧
    t.format.fill fields = some path

/-- The questions that an operation asks of a session. Resolving asks the question itself.
Formatting asks the template under each label that it tries about the path that the template
makes, and the first format is tried under no label behind one that has a path. -/
inductive Asks (s : Session) : Operation → Question → Prop
  | resolveFirst (path : String) : Asks s (.resolveFirst path) (.first path)
  | resolveOne (path label : String) : Asks s (.resolveOne path label) (.one path label)
  | resolveAll (path : String) : Asks s (.resolveAll path) (.all path)
  | formatFirst {fields : Fields} {front back : List String} {label path : String}
      (hlabels : s.resolver.labels = front ++ label :: back)
      (hfront : ∀ earlier ∈ front,
        (s.perform (.formatOne fields earlier)).answer = .formattedOne none)
      (hpath : s.Renders fields label path) : Asks s (.formatFirst fields) (.one path label)
  | formatOne {fields : Fields} {label path : String} (hpath : s.Renders fields label path) :
      Asks s (.formatOne fields label) (.one path label)
  | formatAll {fields : Fields} {label path : String} (hpath : s.Renders fields label path) :
      Asks s (.formatAll fields) (.one path label)

/-- An operation asks a question whose answer is remembered: the cache is on, the question is
looked up, and the session answers it without a mismatch. -/
def AsksToKeep (s : Session) (op : Operation) (q : Question) : Prop :=
  s.cache.enabled = true ∧ s.Asks op q ∧ s.resolver.Knows q ∧
    (s.perform q.operation).answer.isFault = false

/-- One of the operations performed on a session asked a question whose answer is remembered, and
no later one emptied the cache. -/
def AskedSinceEmptied (s : Session) (ops : List Operation) (q : Question) : Prop :=
  ∃ earlier op later, ops = earlier ++ op :: later ∧ (∀ other ∈ later, other.empties = false) ∧
    (s.final earlier).AsksToKeep op q

theorem not_askedSinceEmptied_nil (s : Session) (q : Question) : ¬ s.AskedSinceEmptied [] q := by
  rintro ⟨earlier, op, later, h, -⟩
  simp at h

/-- The last operation asks the question, or it leaves what was asked before. -/
theorem askedSinceEmptied_concat {s : Session} {ops : List Operation} {op : Operation}
    {q : Question} :
    s.AskedSinceEmptied (ops ++ [op]) q ↔
      (s.final ops).AsksToKeep op q ∨ op.empties = false ∧ s.AskedSinceEmptied ops q :=
  exists_split_concat_iff

/-! ## One operation -/

/-- A session whose cache is right and holds nothing that it should not. -/
structure Orderly (s : Session) : Prop where
  labelled : s.resolver.Labelled
  faithful : s.cache.Faithful s.resolver
  tidy : s.cache.Tidy s.resolver

variable {s : Session} {fields : Fields} {label : String} {q : Question}

/-- The operation of a question asks it and nothing else. -/
theorem asks_operation_iff (asked : Question) : s.Asks asked.operation q ↔ q = asked := by
  constructor
  · intro hasks
    cases asked with
    | first path =>
        cases hasks
        rfl
    | one path label =>
        cases hasks
        rfl
    | all path =>
        cases hasks
        rfl
  · rintro rfl
    cases q with
    | first path => exact .resolveFirst path
    | one path label => exact .resolveOne path label
    | all path => exact .resolveAll path

/-- To ask about a path that is rendered is what the template under the label does. -/
theorem exists_renders_iff (h : s.resolver.Labelled) :
    (∃ path, s.Renders fields label path ∧ q = .one path label) ↔
      fields.isEmpty = false ∧ ∃ t, s.resolver.template? label = some t ∧ t.Tries fields q := by
  simp only [Renders, Template.Tries, Template.render_eq_some_iff]
  constructor
  · rintro ⟨path, ⟨hempty, t, ht, hpath⟩, rfl⟩
    exact ⟨hempty, t, ht, path, hpath, by rw [h label t ht]⟩
  · rintro ⟨hempty, t, ht, path, hpath, rfl⟩
    exact ⟨path, ⟨hempty, t, ht, hpath⟩, by rw [h label t ht]⟩

theorem asks_formatOne_iff (h : s.resolver.Labelled) :
    s.Asks (.formatOne fields label) q ↔
      fields.isEmpty = false ∧ ∃ t, s.resolver.template? label = some t ∧ t.Tries fields q := by
  rw [← exists_renders_iff h]
  constructor
  · intro hasks
    cases hasks with
    | formatOne hpath => exact ⟨_, hpath, rfl⟩
  · rintro ⟨path, hpath, rfl⟩
    exact .formatOne hpath

theorem asks_formatAll_iff (h : s.resolver.Labelled) :
    s.Asks (.formatAll fields) q ↔
      fields.isEmpty = false ∧ ∃ t ∈ s.resolver.templates.values, t.Tries fields q := by
  constructor
  · intro hasks
    cases hasks with
    | @formatAll _ label path hpath =>
        obtain ⟨hempty, t, ht, htries⟩ := (exists_renders_iff h).1 ⟨path, hpath, rfl⟩
        refine ⟨hempty, t, h.mem_values_iff.2 ?_, htries⟩
        rwa [h label t ht]
  · rintro ⟨hempty, t, ht, htries⟩
    obtain ⟨path, hpath, rfl⟩ :=
      (exists_renders_iff h).2 ⟨hempty, t, h.mem_values_iff.1 ht, htries⟩
    exact .formatAll hpath

/-- Whether a label has a path for fields is told by its template. -/
theorem formatOne_eq_none_iff (h : s.Orderly) (hempty : fields.isEmpty = false) {t : Template}
    (ht : t ∈ s.resolver.templates.values) :
    (s.perform (.formatOne fields t.label)).answer = .formattedOne none ↔
      s.resolver.pathOf t fields = none := by
  rw [formatOne_answer rfl h.faithful, Answer.formattedOne.injEq, Resolver.plainOne,
    h.labelled.mem_values_iff.1 ht]
  simp [hempty]

/-- The labels tried for the first format are those of the templates tried for it. -/
theorem asks_formatFirst_iff (h : s.Orderly) :
    s.Asks (.formatFirst fields) q ↔
      fields.isEmpty = false ∧ s.resolver.TriesFirst fields s.resolver.templates.values q := by
  have hlabels := h.labelled.map_label
  constructor
  · intro hasks
    cases hasks with
    | formatFirst hsplit hfront hpath =>
        obtain ⟨hempty, t, ht, htries⟩ :=
          (exists_renders_iff h.labelled).1 ⟨_, hpath, rfl⟩
        -- A split of the labels is one of the templates, which carry them in the same order.
        rw [hsplit] at hlabels
        obtain ⟨before, others, hvalues, rfl, hothers⟩ := List.map_eq_append_iff.1 hlabels
        obtain ⟨u, after, rfl, rfl, rfl⟩ := List.map_eq_cons_iff.1 hothers
        have hmem : u ∈ s.resolver.templates.values := by simp [hvalues]
        obtain rfl := Option.some.inj (ht.symm.trans (h.labelled.mem_values_iff.1 hmem))
        refine ⟨hempty, before, t, after, hvalues, fun v hv => ?_, htries⟩
        have hmem : v ∈ s.resolver.templates.values := by simp [hvalues, hv]
        exact (formatOne_eq_none_iff h hempty hmem).1 (hfront _ (List.mem_map_of_mem hv))
  · rintro ⟨hempty, before, t, after, hvalues, hbefore, htries⟩
    have hmem : t ∈ s.resolver.templates.values := by simp [hvalues]
    obtain ⟨path, hpath, rfl⟩ := (exists_renders_iff h.labelled).2
      ⟨hempty, t, h.labelled.mem_values_iff.1 hmem, htries⟩
    rw [hvalues, List.map_append, List.map_cons] at hlabels
    refine .formatFirst hlabels.symm (fun earlier hearlier => ?_) hpath
    obtain ⟨v, hv, rfl⟩ := List.mem_map.1 hearlier
    have hmem : v ∈ s.resolver.templates.values := by simp [hvalues, hv]
    exact (formatOne_eq_none_iff h hempty hmem).2 (hbefore v hv)

/-- One step: the cache learns what a resolving or formatting operation asks. -/
theorem perform_learns (h : s.Orderly) {op : Operation} (hop : op.isQuestion = true) :
    s.cache.Learns s.resolver (s.Asks op) (s.perform op).session.cache (s.perform op).events := by
  -- The templates tried by one operation ask different questions, so none is a hit of another.
  have hlabels : (s.resolver.templates.values.map Template.label).Nodup :=
    h.labelled.map_label ▸ s.resolver.templates.nodup
  cases op with
  | resolveFirst path =>
      exact (Resolver.resolveFirst_learns h.tidy path).congr fun q =>
        asks_operation_iff (.first path)
  | resolveOne path label =>
      exact (Resolver.resolveOne_learns h.tidy path label).congr fun q =>
        asks_operation_iff (.one path label)
  | resolveAll path =>
      exact (Resolver.resolveAll_learns h.tidy path).congr fun q =>
        asks_operation_iff (.all path)
  | formatFirst fields =>
      exact (Resolver.formatFirst_learns h.faithful h.tidy hlabels fields).congr fun q =>
        asks_formatFirst_iff h
  | formatOne fields label =>
      exact (Resolver.formatOne_learns h.tidy fields label).congr fun q =>
        asks_formatOne_iff h.labelled
  | formatAll fields =>
      exact (Resolver.formatAll_learns h.tidy hlabels fields).congr fun q =>
        asks_formatAll_iff h.labelled
  | clearCache => cases hop
  | setCacheEnabled enabled => cases hop
  | describe label => cases hop
  | overview => cases hop

theorem not_asks_of_not_isQuestion {op : Operation} (hop : op.isQuestion = false) :
    ¬ s.Asks op q := by
  intro h
  cases h <;> cases hop

theorem Orderly.perform (h : s.Orderly) (op : Operation) : (s.perform op).session.Orderly := by
  have step := perform_agrees rfl h.faithful op
  refine ⟨step.resolver ▸ h.labelled, step.resolver ▸ step.cache, step.resolver ▸ ?_⟩
  cases hop : op.isQuestion with
  | true => exact (perform_learns h hop).tidy h.tidy
  | false =>
      cases op with
      | clearCache => exact Cache.tidy_of_empty s.resolver s.cache.enabled
      | setCacheEnabled enabled => exact h.tidy.setEnabled enabled
      | describe label => exact h.tidy
      | overview => exact h.tidy
      | _ => cases hop

theorem keeps_iff_perform (h : s.Orderly) :
    s.resolver.Keeps q ↔
      s.resolver.Knows q ∧ (s.perform q.operation).answer.isFault = false := by
  have hop : q.operation.isQuestion = true := by cases q <;> rfl
  obtain ⟨a, ha⟩ := Resolver.exists_plainAnswer? s.resolver hop
  rw [Resolver.keeps_iff ha, (perform_agrees rfl h.faithful _).answer a ha]

/-- Operations that neither resolve nor format empty the cache or leave it, and report no
question. -/
theorem perform_of_not_isQuestion (s : Session) {op : Operation} (hop : op.isQuestion = false) :
    (s.perform op).session.cache.questions = (if op.empties then [] else s.cache.questions) ∧
      ∀ q, Event.remembered q ∉ (s.perform op).events := by
  cases op with
  | clearCache => exact ⟨rfl, by simp [Session.perform, after, Resolver.clearCache]⟩
  | setCacheEnabled enabled =>
      cases enabled with
      | false => exact ⟨rfl, by simp [Session.perform, after, Resolver.setCacheEnabled]⟩
      | true => exact ⟨rfl, by simp [Session.perform, after, Resolver.setCacheEnabled]⟩
  | describe label => exact ⟨rfl, fun q => List.not_mem_nil⟩
  | overview => exact ⟨rfl, fun q => List.not_mem_nil⟩
  | _ => cases hop

/-- One step: the cache holds what the operation asks to be remembered, and what it held if the
operation does not empty it. -/
theorem mem_questions_perform (h : s.Orderly) (op : Operation) :
    q ∈ (s.perform op).session.cache.questions ↔
      s.AsksToKeep op q ∨ op.empties = false ∧ q ∈ s.cache.questions := by
  unfold AsksToKeep
  rw [← keeps_iff_perform h]
  cases hop : op.isQuestion with
  | true =>
      have hkeeps : op.empties = false := by
        cases op <;> first | rfl | cases hop
      rw [(perform_learns h hop).questions]
      simp only [hkeeps, true_and, or_comm]
  | false =>
      rw [(s.perform_of_not_isQuestion hop).1]
      cases op.empties <;> simp [not_asks_of_not_isQuestion hop]

/-- What is reported as remembered was asked and was held before. -/
theorem remembered_mem_events_iff (h : s.Orderly) (op : Operation) :
    Event.remembered q ∈ (s.perform op).events ↔ s.Asks op q ∧ q ∈ s.cache.questions := by
  cases hop : op.isQuestion with
  | true => exact (perform_learns h hop).hits q
  | false =>
      exact iff_of_false ((s.perform_of_not_isQuestion hop).2 q) fun hasks =>
        not_asks_of_not_isQuestion hop hasks.1

/-- A question that is answered with a mismatch leaves the session as it is. -/
theorem session_of_isFault (s : Session) (q : Question)
    (h : (s.perform q.operation).answer.isFault = true) :
    (s.perform q.operation).session = s := by
  have hsession : ∀ c, c = s.cache → (⟨s.resolver, c⟩ : Session) = s := by
    rintro c rfl
    rfl
  cases q with
  | first path =>
      obtain ⟨m, hm⟩ := Answer.isFault_resolvedFirst.1 h
      exact hsession _ (Resolver.resolveFirst_error hm)
  | one path label =>
      obtain ⟨m, hm⟩ := Answer.isFault_resolvedOne.1 h
      exact hsession _ (Resolver.resolveOne_error hm)
  | all path =>
      obtain ⟨m, hm⟩ := Answer.isFault_resolvedAll.1 h
      exact hsession _ (Resolver.resolveAll_error hm)

/-! ## Runs -/

theorem final_concat (s : Session) (ops : List Operation) (op : Operation) :
    s.final (ops ++ [op]) = ((s.final ops).perform op).session := by
  simp [final]

theorem Orderly.final (h : s.Orderly) (ops : List Operation) : (s.final ops).Orderly := by
  induction ops generalizing s with
  | nil => exact h
  | cons op ops ih => exact ih (h.perform op)

theorem orderly_start {pairs : List (String × String)} {options : Options} {r : Resolver}
    (h : Resolver.build pairs options = .ok r) : (start r).Orderly where
  labelled := Resolver.labelled_of_build h
  faithful := start_faithful r
  tidy := Cache.tidy_of_empty r r.options.cacheEnabled

/-- Run: a cache that was empty holds what was asked since it was last emptied. -/
theorem mem_questions_final (h : s.Orderly) (hempty : s.cache.questions = [])
    (ops : List Operation) (q : Question) :
    q ∈ (s.final ops).cache.questions ↔ s.AskedSinceEmptied ops q := by
  -- From the back, as the last operation may have emptied what all others left.
  induction ops using List.reverseRecOn with
  | nil => exact iff_of_false (by simp [hempty]) (s.not_askedSinceEmptied_nil q)
  | append_singleton ops op ih =>
      rw [final_concat, mem_questions_perform (h.final ops), askedSinceEmptied_concat, ih]

/-- After any run, the cache holds exactly the questions that were asked while it was on and since
it was last emptied, that are looked up and were answered without a mismatch, each of them once.
Its size is the number of the questions of each kind, and it is empty while it is off. A question
that is answered with a mismatch changes nothing, and any operation reports exactly those of its
questions as remembered that the cache held. -/
theorem cache_holds_what_was_asked {pairs : List (String × String)} {options : Options}
    {r : Resolver} (h : Resolver.build pairs options = .ok r) (ops : List Operation) :
    let s := (start r).final ops
    (∀ q, q ∈ s.cache.questions ↔ (start r).AskedSinceEmptied ops q) ∧
    s.cache.questions.Nodup ∧ s.cache.questions.length = s.cache.size ∧
    s.cache.size = s.cache.first.keys.length + s.cache.one.keys.length + s.cache.all.keys.length ∧
    (s.cache.enabled = false → s.cache.size = 0) ∧
    (∀ q : Question, (s.perform q.operation).answer.isFault = true →
      (s.perform q.operation).session = s) ∧
    ∀ op q, Event.remembered q ∈ (s.perform op).events ↔ s.Asks op q ∧ q ∈ s.cache.questions := by
  intro s
  have hs : s.Orderly := (orderly_start h).final ops
  refine ⟨mem_questions_final (orderly_start h) rfl ops, s.cache.nodup_questions,
    s.cache.length_questions, ?_, ?_, s.session_of_isFault, fun op q =>
    remembered_mem_events_iff hs op⟩
  · simp [Cache.size, Catalog.size, Catalog.keys]
  · intro hoff
    rw [← Cache.length_questions, hs.tidy.off hoff, List.length_nil]

/-- A mismatch is not held, and neither is what was asked before the cache was emptied. -/
theorem cache_of_twice :
    Resolver.build [("twice", Template.twice.pattern)] {} = .ok (Resolver.twice true) ∧
      let ops := [.resolveFirst "x/x", .clearCache, .resolveOne "x/y" "twice",
        .formatAll (Fields.ofList [("a", "x")])]
      ((start (Resolver.twice true)).final ops).cache.questions = [.one "x/x" "twice"] ∧
        (start (Resolver.twice true)).AskedSinceEmptied ops (.one "x/x" "twice") ∧
        ¬ (start (Resolver.twice true)).AskedSinceEmptied ops (.first "x/x") := by
  refine ⟨Resolver.build_twice true, ?_⟩
  intro ops
  have hquestions :
      ((start (Resolver.twice true)).final ops).cache.questions = [.one "x/x" "twice"] := by
    cbv
  obtain ⟨hheld, -⟩ := cache_holds_what_was_asked (Resolver.build_twice true) ops
  simp only [hquestions, List.mem_singleton] at hheld
  refine ⟨hquestions, (hheld _).1 rfl, fun h => ?_⟩
  cases (hheld _).2 h

end Session

end PathTemplate
