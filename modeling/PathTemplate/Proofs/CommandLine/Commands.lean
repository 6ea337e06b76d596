import PathTemplate.Proofs.CommandLine.Words

/-!
# What a command line asks for

A command line says words in front of the name of a command and words behind it.
What has been given after a level was read is told by its words, so an accepted
command line asks for what its words say.
-/

namespace PathTemplate.CommandLine

/-- A command without what it is asked. -/
inductive Verb
  | resolve
  | format
  | inspect

namespace Verb

def name : Verb → String
  | resolve => "resolve"
  | format => "format"
  | inspect => "inspect"

def level : Verb → Level
  | resolve => resolveLevel
  | format => formatLevel
  | inspect => inspectLevel

end Verb

/-- The command that has been given. -/
def Verb.command (g : Given) : Verb → Except Stop Command
  | resolve =>
    match g.others with
    | [path] => (scope g).map (.resolve path)
    | _ => .error .misuse
  | format =>
    match g.others.reverse.filterMap field? with
    | [] => .error .misuse
    | fields => (scope g).map (.format fields)
  | inspect => .ok .inspect

/-- A command line names a command and says words behind it. -/
def Asks (v : Verb) (arguments : List String) (words : List Word) : Prop :=
  ∃ top behind, Spells topLevel arguments top (v.name :: behind) ∧ Spells v.level behind words []

def Word.operand? : Word → Option String
  | operand argument => some argument
  | _ => none

/-- The operands among words, in order. -/
def operands (words : List Word) : List String := words.filterMap Word.operand?

/-- Words ask for the templates of a scope. -/
def Scope.AskedBy (words : List Word) : Scope → Prop
  | one label => .value .label label ∈ words
  | all => .flag .all ∈ words
  | first => (∀ label, .value .label label ∉ words) ∧ .flag .all ∉ words

/-- The options that ask for a scope. -/
def Scope.options : Scope → List String
  | one label => ["--label=" ++ label]
  | all => ["--all"]
  | first => []

/-- What these options say. -/
def Scope.words : Scope → List Word
  | one label => [.value .label label]
  | all => [.flag .all]
  | first => []

/-- The command line that asks to format fields, each of which is an argument. -/
def formatLine (config : String) (s : Scope) (given : List String) : List String :=
  ["--config=" ++ config, "format"] ++ s.options ++ given

variable {level : Level} {g g₁ g' : Given} {words words' : List Word} {w : Word}
  {arguments : List String} {i : Invocation}

/-! ## What is given by words -/

theorem operands_append (words words' : List Word) :
    operands (words ++ words') = operands words ++ operands words' :=
  List.filterMap_append

/-- What has been given after words, and what was given before. -/
structure Given.Grows (g : Given) (words : List Word) (g' : Given) : Prop where
  label : ∀ label, g'.label = some label ↔ g.label = some label ∨ .value .label label ∈ words
  all : g'.all = true ↔ g.all = true ∨ .flag .all ∈ words
  others : g'.others = (operands words).reverse ++ g.others

theorem Given.Grows.refl (g : Given) : g.Grows [] g where
  label label := by simp
  all := by simp
  others := rfl

theorem Given.Grows.trans (h : g.Grows words g₁) (h' : g₁.Grows words' g') :
    g.Grows (words ++ words') g' where
  label label := by rw [h'.label, h.label, List.mem_append, or_assoc]
  all := by rw [h'.all, h.all, List.mem_append, or_assoc]
  others := by
    rw [h'.others, h.others, operands_append, List.reverse_append, List.append_assoc]

theorem grows_of_take (h : level.take g w = .ok g') : g.Grows [w] g' := by
  cases w with
  | flag o =>
      rw [Level.take] at h
      cases o with
      | verbose =>
          rw [Given.flag] at h
          split at h
          · cases h
          · cases h
            exact ⟨by simp, by simp, rfl⟩
      | all =>
          rw [Given.flag] at h
          split at h
          · cases h
          · cases h
            exact ⟨by simp, by simp, rfl⟩
      | _ => cases h
  | value o text =>
      rw [Level.take] at h
      cases o with
      | config =>
          rw [Given.valued] at h
          split at h
          · cases h
          · cases h
            exact ⟨by simp, by simp, rfl⟩
      | label =>
          rw [Given.valued] at h
          split at h
          · cases h
          · rename_i hnone
            cases h
            rw [Option.not_isSome_iff_eq_none] at hnone
            exact ⟨fun label => by simp [hnone, eq_comm], by simp, rfl⟩
      | _ => cases h
  | operand argument =>
      rw [Level.take] at h
      split at h
      · cases h
        exact ⟨by simp, by simp, rfl⟩
      · cases h

theorem grows_of_foldlM (h : words.foldlM level.take g = .ok g') : g.Grows words g' := by
  induction words generalizing g with
  | nil =>
      cases h
      exact .refl _
  | cons w rest ih =>
      rw [List.foldlM_cons] at h
      obtain ⟨g₁, hw, hrest⟩ := exists_of_bind_eq_ok h
      exact (grows_of_take hw).trans (ih hrest)

/-- The scope of what has been given is the one that the words ask for. -/
theorem askedBy_iff (h : ({} : Given).Grows words g) {s : Scope} (hs : scope g = .ok s)
    (s' : Scope) : s'.AskedBy words ↔ s' = s := by
  have hlabel : ∀ label, .value .label label ∈ words ↔ g.label = some label := by
    intro label
    rw [h.label]
    simp
  have hall : .flag .all ∈ words ↔ g.all = true := by
    rw [h.all]
    simp
  cases hl : g.label with
  | none =>
      cases ha : g.all with
      | false =>
          simp only [scope, hl, ha] at hs
          cases hs
          cases s' with
          | _ => simp [Scope.AskedBy, hlabel, hall, hl, ha]
      | true =>
          simp only [scope, hl, ha] at hs
          cases hs
          cases s' with
          | _ => simp [Scope.AskedBy, hlabel, hall, hl, ha]
  | some label =>
      cases ha : g.all with
      | false =>
          simp only [scope, hl, ha] at hs
          cases hs
          cases s' with
          | _ => simp [Scope.AskedBy, hlabel, hall, hl, ha, eq_comm]
      | true =>
          simp only [scope, hl, ha] at hs
          cases hs

/-! ## What an accepted command line asks for -/

theorem readCommand_name (v : Verb) (arguments : List String) :
    readCommand v.name arguments =
      readLevel v.level {} none false arguments >>= fun p => (v.command p.1).map (p.1, ·) := by
  cases v with
  | resolve =>
      change readLevel resolveLevel {} none false arguments >>= _ =
        readLevel resolveLevel {} none false arguments >>= _
      congr 1
      funext p
      dsimp only [Verb.command]
      rcases p.1.others with _ | ⟨path, _ | ⟨path', rest⟩⟩
      · rfl
      · cases scope p.1 with
        | error stop => rfl
        | ok s => rfl
      · rfl
  | format =>
      change readLevel formatLevel {} none false arguments >>= _ =
        readLevel formatLevel {} none false arguments >>= _
      congr 1
      funext p
      dsimp only [Verb.command]
      cases p.1.others.reverse.filterMap field? with
      | nil => rfl
      | cons f rest =>
          cases scope p.1 with
          | error stop => rfl
          | ok s => rfl
  | inspect => rfl

/-- A command line that names a command is taken word by word. -/
theorem parse_of_spells {v : Verb} {top : List Word} {behind : List String}
    (htop : Spells topLevel arguments top (v.name :: behind))
    (hwords : Spells v.level behind words []) :
    parse arguments = do
      let before ← top.foldlM topLevel.take {}
      let g ← words.foldlM v.level.take {}
      let command ← v.command g
      return { config := (g.config.or before.config).getD defaultConfig,
               verbose := g.verbose || before.verbose, command } := by
  rw [parse, readLevel_of_spells htop]
  cases top.foldlM topLevel.take {} with
  | error stop => rfl
  | ok before =>
      simp only [Except.map, bind, Except.bind, readCommand_name, readLevel_of_spells hwords]
      cases words.foldlM v.level.take {} with
      | error stop => rfl
      | ok g =>
          simp only []
          cases v.command g with
          | error stop => rfl
          | ok command => rfl

/-- Only the name of a command is followed by arguments that are read. -/
theorem exists_verb {name : String} {behind : List String} {r : Given × Command}
    (h : readCommand name behind = .ok r) : ∃ v : Verb, v.name = name := by
  unfold readCommand at h
  split at h
  · exact ⟨.resolve, rfl⟩
  · exact ⟨.format, rfl⟩
  · exact ⟨.inspect, rfl⟩
  · split at h
    · cases h
    · split at h
      · cases h
      · cases h
    · cases h
  · cases h

theorem ends_level (v : Verb) (argument : String) : v.level.ends argument = false := by
  cases v with
  | _ => rfl

/-- Nothing ends the arguments of a command. -/
theorem eq_nil_of_spells {v : Verb} {behind : List String}
    (h : Spells v.level arguments words behind) : behind = [] := by
  induction h with
  | nil => rfl
  | ends hdash hends =>
      rw [ends_level] at hends
      cases hends
  | plain => rfl
  | operand _ _ _ ih => exact ih
  | options _ _ ih => exact ih
  | waits _ _ _ ih => exact ih

theorem exists_asks (h : parse arguments = .ok i) : ∃ v words, Asks v arguments words := by
  obtain ⟨⟨before, rest⟩, hbefore, h⟩ := exists_of_bind_eq_ok h
  obtain ⟨top, htop, -⟩ := readLevel_eq_ok_iff.1 hbefore
  cases rest with
  | nil => cases h
  | cons name behind =>
      obtain ⟨q, hq, -⟩ := exists_of_bind_eq_ok h
      obtain ⟨v, rfl⟩ := exists_verb hq
      rw [readCommand_name] at hq
      obtain ⟨⟨g, rest⟩, hg, -⟩ := exists_of_bind_eq_ok hq
      obtain ⟨words, hwords, -⟩ := readLevel_eq_ok_iff.1 hg
      obtain rfl := eq_nil_of_spells hwords
      exact ⟨v, words, top, behind, htop, hwords⟩

/-- The command is the one that has been given by the words behind its name. -/
theorem command_of_asks (h : parse arguments = .ok i) {v : Verb} (ha : Asks v arguments words) :
    ∃ g, words.foldlM v.level.take {} = .ok g ∧ v.command g = .ok i.command := by
  obtain ⟨top, behind, htop, hwords⟩ := ha
  rw [parse_of_spells htop hwords] at h
  obtain ⟨before, -, h⟩ := exists_of_bind_eq_ok h
  obtain ⟨g, hg, h⟩ := exists_of_bind_eq_ok h
  obtain ⟨command, hcommand, h⟩ := exists_of_bind_eq_ok h
  cases h
  exact ⟨g, hg, hcommand⟩

theorem resolve_of_asks (h : parse arguments = .ok i) (ha : Asks .resolve arguments words) :
    ∃ path s, operands words = [path] ∧ i.command = .resolve path s ∧
      ∀ s' : Scope, s'.AskedBy words ↔ s' = s := by
  obtain ⟨g, hg, hcommand⟩ := command_of_asks h ha
  have hgrows := grows_of_foldlM hg
  rw [Verb.command] at hcommand
  split at hcommand
  · rename_i path hothers
    obtain ⟨s, hs, hcommand⟩ := map_eq_ok_iff.1 hcommand
    rw [hgrows.others, List.append_nil, List.reverse_eq_iff] at hothers
    exact ⟨path, s, hothers, hcommand.symm, askedBy_iff hgrows hs⟩
  · cases hcommand

theorem format_of_asks (h : parse arguments = .ok i) (ha : Asks .format arguments words) :
    ∃ s, i.command = .format ((operands words).filterMap field?) s ∧
      ∀ s' : Scope, s'.AskedBy words ↔ s' = s := by
  obtain ⟨g, hg, hcommand⟩ := command_of_asks h ha
  have hgrows := grows_of_foldlM hg
  rw [Verb.command, hgrows.others, List.append_nil, List.reverse_reverse] at hcommand
  split at hcommand
  · cases hcommand
  · obtain ⟨s, hs, hcommand⟩ := map_eq_ok_iff.1 hcommand
    exact ⟨s, hcommand.symm, askedBy_iff hgrows hs⟩

/-! ## Accepted command lines -/

theorem spells_operands (v : Verb) (h : ∀ argument ∈ arguments, ¬ IsDashed argument) :
    Spells v.level arguments (arguments.map .operand) [] := by
  induction arguments with
  | nil => exact .nil
  | cons argument rest ih =>
      obtain ⟨hargument, hrest⟩ := List.forall_mem_cons.1 h
      exact .operand hargument (ends_level v argument) (ih hrest)

theorem says_longValue {known : List Opt} {o : Opt} (ho : o ∈ known)
    (hvalue : o.takesValue = true) (text : String) :
    Says known ("--" ++ o.long ++ "=" ++ text) [.value o text] none := by
  have hword : SaysLong known (o.long.toList ++ '=' :: text.toList)
      [.value o (String.ofList text.toList)] none := .value ho hvalue
  rw [String.ofList_toList] at hword
  exact .long (by simp) hword

theorem spells_scope (s : Scope) {behind : List String}
    (h : Spells formatLevel arguments words behind) :
    Spells formatLevel (s.options ++ arguments) (s.words ++ words) behind := by
  cases s with
  | first => exact h
  | one label => exact .options (says_longValue (o := .label) (by decide) rfl label) h
  | all => exact .options (.long rfl (.flag (o := .all) (by decide) rfl)) h

theorem spells_formatLine (config : String) (s : Scope) (given : List String) :
    Spells topLevel (formatLine config s given) [.value .config config]
      ("format" :: (s.options ++ given)) := by
  have hconfig : Says topLevel.known ("--config=" ++ config) [.value .config config] none :=
    says_longValue (o := .config) (by decide) rfl config
  have hname : ¬ IsDashed "format" := by
    rintro ⟨c, text, hformat⟩
    cases hformat
  exact .options hconfig (.ends hname rfl)

/-- A scope is what is given by its words. -/
theorem foldlM_take_scope (s : Scope) :
    ∃ g, s.words.foldlM formatLevel.take {} = .ok g ∧ g.config = none ∧ g.verbose = false ∧
      g.others = [] ∧ ∀ l, scope { g with others := l } = .ok s := by
  cases s with
  | first => exact ⟨{}, rfl, rfl, rfl, rfl, fun _ => rfl⟩
  | one label => exact ⟨{ label := some label }, rfl, rfl, rfl, rfl, fun _ => rfl⟩
  | all => exact ⟨{ all := true }, rfl, rfl, rfl, rfl, fun _ => rfl⟩

theorem foldlM_take_operands (h : ∀ argument ∈ arguments, (field? argument).isSome) (g : Given) :
    (arguments.map .operand).foldlM formatLevel.take g =
      .ok { g with others := arguments.reverse ++ g.others } := by
  induction arguments generalizing g with
  | nil => rfl
  | cons argument rest ih =>
      obtain ⟨hargument, hrest⟩ := List.forall_mem_cons.1 h
      have htake : formatLevel.take g (.operand argument) =
          .ok { g with others := argument :: g.others } := if_pos hargument
      rw [List.map_cons, List.foldlM_cons, htake, List.reverse_cons, List.append_assoc]
      exact ih hrest _

/-- Fields can be given for every scope. -/
theorem parse_formatLine {config : String} (hconfig : config ≠ "") (s : Scope)
    {given : List String} (hgiven : Spells formatLevel given (arguments.map .operand) [])
    (hne : arguments ≠ []) (h : ∀ argument ∈ arguments, (field? argument).isSome) :
    parse (formatLine config s given) =
      .ok { config, verbose := false, command := .format (arguments.filterMap field?) s } := by
  have hbefore : [Word.value .config config].foldlM topLevel.take {} =
      .ok { config := some config } := by
    rw [foldlM_take_singleton]
    exact if_neg (by simp [hconfig])
  obtain ⟨g, hg, hnone, hverbose, hothers, hscope⟩ := foldlM_take_scope s
  have hwords : (s.words ++ arguments.map Word.operand).foldlM formatLevel.take {} =
      .ok { g with others := arguments.reverse } := by
    rw [List.foldlM_append, hg]
    refine (foldlM_take_operands h g).trans ?_
    rw [hothers, List.append_nil]
  have hcommand : Verb.format.command { g with others := arguments.reverse } =
      .ok (.format (arguments.filterMap field?) s) := by
    obtain ⟨argument, rest, rfl⟩ := List.exists_cons_of_ne_nil hne
    obtain ⟨f, hf⟩ := Option.isSome_iff_exists.1 (h argument List.mem_cons_self)
    dsimp only [Verb.command]
    rw [List.reverse_reverse, List.filterMap_cons_some hf, hscope]
    rfl
  rw [parse_of_spells (v := .format) (spells_formatLine config s given) (spells_scope s hgiven),
    hbefore]
  simp only [Verb.level, hwords, hcommand, bind, Except.bind]
  rw [hnone, hverbose]
  rfl

end PathTemplate.CommandLine
