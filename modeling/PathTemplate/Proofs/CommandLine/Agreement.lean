import PathTemplate.CommandLine.Run
import PathTemplate.Proofs.CommandLine.Commands
import PathTemplate.Proofs.CommandLine.Fields
import PathTemplate.Proofs.PatternSet.RoundTrip
import PathTemplate.Proofs.Resolver.Templates

/-!
# The answers that are printed

A command line that is accepted prints what the resolver of its pattern set
answers, or fails without printing anything. It fails exactly if there is no such
resolver or the path has a mismatch.
-/

namespace PathTemplate.CommandLine

/-- A run that succeeds prints a JSON value. -/
def Prints (e : Exit) (j : Json) : Prop := e.code = 0 ∧ e.output = j.pretty ++ "\n"

/-- A run that fails prints nothing. -/
def Fails (e : Exit) : Prop := e.code = 1 ∧ e.output = ""

/-- A run prints an answer, or it fails as the answer does. -/
def Tells {α : Type} (json : α → Json) (e : Exit) : Except Mismatch α → Prop
  | .ok a => Prints e (json a)
  | .error _ => Fails e

/-- A resolver is made of the pattern set in a text. -/
def Makes (text : String) (r : Resolver) : Prop :=
  ∃ p, PatternSet.load text = .ok p ∧ p.build = .ok r

/-- A run tells what the resolver answers to a path. -/
def TellsResolved (r : Resolver) (path : String) (e : Exit) : Scope → Prop
  | .one label => Tells (optional Fields.json) e (r.resolveOne r.freshCache path label).answer
  | .all =>
    Tells (fun found => .object (found.entries.map fun f => (f.1, f.2.json))) e
      (r.resolveAll r.freshCache path).answer
  | .first => Tells Resolved.json e (r.resolveFirst r.freshCache path).answer

/-- A run prints what the resolver answers to fields. -/
def PrintsFormatted (r : Resolver) (fields : Fields) (e : Exit) : Scope → Prop
  | .one label =>
    Prints e (optional Json.string (r.formatOne r.freshCache fields label).answer)
  | .all =>
    Prints e (.object
      ((r.formatAll r.freshCache fields).answer.entries.map fun f => (f.1, .string f.2)))
  | .first => Prints e (Formatted.json (r.formatFirst r.freshCache fields).answer)

variable {file : String → Except FileFault ByteArray} {text config path : String}
  {arguments given : List String} {words : List Word} {i : Invocation} {r : Resolver} {e : Exit}
  {fields : Fields} {s : Scope}

/-! ## Runs of an accepted command line -/

theorem tells_map {α : Type} {json : α → Json} {x : Except Mismatch α} :
    Tells id e (x.map json) ↔ Tells json e x := by
  cases x with
  | error m => exact Iff.rfl
  | ok a => exact Iff.rfl

theorem tells_resolve (h : Tells id e (resolve r path s)) : TellsResolved r path e s := by
  cases s with
  | _ => exact tells_map.1 h

theorem prints_format (h : Prints e (format r fields s)) : PrintsFormatted r fields e s := by
  cases s with
  | _ => exact h

theorem loadFile_toUTF8 (text : String) :
    PatternSet.loadFile (.ok text.toUTF8) = PatternSet.load text := by
  have htext : String.fromUTF8? text.toUTF8 = some text := dif_pos text.isValidUTF8
  simp only [PatternSet.loadFile, htext]

theorem fails_of_not_makes (hparse : parse arguments = .ok i)
    (hfile : file i.config = .ok text.toUTF8) (h : ∀ r, ¬ Makes text r) :
    Fails (run file arguments) := by
  cases hload : PatternSet.load text with
  | error fault =>
      simp only [run, hparse, invoke, hfile, loadFile_toUTF8, hload]
      exact ⟨rfl, rfl⟩
  | ok p =>
      cases hbuild : p.build with
      | error fault =>
          simp only [run, hparse, invoke, hfile, loadFile_toUTF8, hload, hbuild]
          exact ⟨rfl, rfl⟩
      | ok r => exact absurd ⟨p, hload, hbuild⟩ (h r)

theorem tells_run (hparse : parse arguments = .ok i) (hfile : file i.config = .ok text.toUTF8)
    (hr : Makes text r) : Tells id (run file arguments) (answer r i.command) := by
  obtain ⟨p, hload, hbuild⟩ := hr
  simp only [run, hparse, invoke, hfile, loadFile_toUTF8, hload, hbuild]
  cases answer r i.command with
  | error m => exact ⟨rfl, rfl⟩
  | ok j => exact ⟨rfl, rfl⟩

theorem tellsResolved_run (hparse : parse arguments = .ok i)
    (hfile : file i.config = .ok text.toUTF8) (hr : Makes text r)
    (hcommand : i.command = .resolve path s) : TellsResolved r path (run file arguments) s := by
  have htells := tells_run hparse hfile hr
  rw [hcommand] at htells
  exact tells_resolve htells

/-- The fields are those that the arguments give last. -/
theorem printsFormatted_run (hparse : parse arguments = .ok i)
    (hfile : file i.config = .ok text.toUTF8) (hr : Makes text r)
    (hcommand : i.command = .format (given.filterMap field?) s) (hfields : LastGiven given fields) :
    PrintsFormatted r fields (run file arguments) s := by
  have htells := tells_run hparse hfile hr
  rw [hcommand] at htells
  rw [eq_of_lastGiven hfields (lastGiven_ofList given)]
  exact prints_format htells

/-- Fields that are given by their arguments are formatted. -/
theorem printsFormatted_formatLine (hfile : file config = .ok text.toUTF8) (hr : Makes text r)
    (hconfig : config ≠ "") (hne : fields.isEmpty = false) (hgives : Gives arguments fields)
    (hgiven : Spells formatLevel given (arguments.map .operand) []) (s : Scope) :
    PrintsFormatted r fields (run file (formatLine config s given)) s :=
  printsFormatted_run
    (parse_formatLine hconfig s hgiven (hgives.ne_nil hne) hgives.isSome_field?) hfile hr rfl
    hgives.lastGiven

/-- A command line that is accepted fails without printing anything if no resolver is made of the
pattern set. Otherwise it asks the resolver for exactly one scope. A path is resolved, with the
answer printed or a mismatch told by failing, and the fields that the operands give last are
formatted. Fields whose names have no equals sign can be given in any order and behind any others
for the same names, after two dashes or if no argument looks like options. -/
theorem run_agrees_with_resolver (file : String → Except FileFault ByteArray) (text : String) :
    (∀ arguments i, parse arguments = .ok i → file i.config = .ok text.toUTF8 →
      ((∀ r, ¬ Makes text r) → Fails (run file arguments)) ∧
      (∃ v words, Asks v arguments words) ∧
      ∀ r words, Makes text r →
        (Asks .resolve arguments words →
          ∃ path s, operands words = [path] ∧ (∀ s' : Scope, s'.AskedBy words ↔ s' = s) ∧
            TellsResolved r path (run file arguments) s) ∧
        (Asks .format arguments words →
          ∃ s, (∀ s' : Scope, s'.AskedBy words ↔ s' = s) ∧
            (∃ fields, LastGiven (operands words) fields) ∧
            ∀ fields, LastGiven (operands words) fields ∨ Gives (operands words) fields →
              PrintsFormatted r fields (run file arguments) s)) ∧
    ∀ r config fields arguments s, Makes text r → config ≠ "" → file config = .ok text.toUTF8 →
      fields.isEmpty = false → Gives arguments fields →
      PrintsFormatted r fields (run file (formatLine config s ("--" :: arguments))) s ∧
      ((∀ argument ∈ arguments, ¬ IsDashed argument) →
        PrintsFormatted r fields (run file (formatLine config s arguments)) s) := by
  constructor
  · intro arguments i hparse hfile
    refine ⟨fails_of_not_makes hparse hfile, exists_asks hparse, fun r words hr => ⟨?_, ?_⟩⟩
    · intro hasks
      obtain ⟨path, s, hpath, hcommand, hscope⟩ := resolve_of_asks hparse hasks
      exact ⟨path, s, hpath, hscope, tellsResolved_run hparse hfile hr hcommand⟩
    · intro hasks
      obtain ⟨s, hcommand, hscope⟩ := format_of_asks hparse hasks
      refine ⟨s, hscope, ⟨_, lastGiven_ofList (operands words)⟩, ?_⟩
      rintro fields (hlast | hgives)
      · exact printsFormatted_run hparse hfile hr hcommand hlast
      · exact printsFormatted_run hparse hfile hr hcommand hgives.lastGiven
  · intro r config fields arguments s hr hconfig hfile hne hgives
    constructor
    · exact printsFormatted_formatLine hfile hr hconfig hne hgives .plain s
    · intro hdash
      exact printsFormatted_formatLine hfile hr hconfig hne hgives (spells_operands .format hdash) s

/-- A pattern set with one template. -/
def twiceText : String :=
  String.ofList (PatternSet.objectText
    [("patterns", (Json.object [("twice", .string Template.twice.pattern)]).compactChars)])

theorem makes_twice : Makes twiceText (Resolver.twice true) := by
  let p : PatternSet := { patterns := .ofList [("twice", .string Template.twice.pattern)] }
  have htexts : ∀ e ∈ p.patterns.entries, PatternSet.IsText e.2 := by
    intro e he
    obtain rfl := List.mem_singleton.1 he
    exact ⟨_, rfl⟩
  have hmembers : PatternSet.SetMembers p.options p.patterns.entries
      [("patterns", (Json.object p.patterns.entries).compactChars)] :=
    PatternSet.setMembers_patterns (PatternSet.patternsText_texts htexts) (List.forall_mem_nil _)
  refine ⟨p, PatternSet.load_objectText (List.cons_ne_nil _ _) htexts hmembers, ?_⟩
  have hbuild : p.build =
      (Resolver.build [("twice", Template.twice.pattern)] {}).mapError .compile := rfl
  rw [hbuild, Resolver.build_twice true]
  rfl

theorem gives_twice : Gives ["a=x=y", "a=ab"] (Fields.ofList [("a", "ab")]) where
  names := by decide
  split := by
    refine ⟨["a=x=y"], [("a", "ab")], rfl, .refl _, ?_⟩
    intro a ha
    obtain rfl := List.mem_singleton.1 ha
    exact ⟨"a", List.mem_cons_self, "x=y", rfl, by decide⟩

/-- An empty file fails, and so does a path with a mismatch. The last argument for a name is
formatted. -/
theorem run_of_twice :
    Fails (run (fun _ => .ok "".toUTF8) ["inspect"]) ∧
    Fails (run (fun _ => .ok twiceText.toUTF8) ["resolve", "-c", "set.json", "--all", "x/y"]) ∧
    (run (fun _ => .ok twiceText.toUTF8)
      ["format", "a=x=y", "-ltwice", "a=ab"]).output = "\"ab/ab\"\n" ∧
    ∀ s, PrintsFormatted (Resolver.twice true) (Fields.ofList [("a", "ab")])
      (run (fun _ => .ok twiceText.toUTF8) (formatLine "set.json" s ["a=x=y", "a=ab"])) s := by
  obtain ⟨hnone, -⟩ := run_agrees_with_resolver (fun _ => .ok "".toUTF8) ""
  obtain ⟨hruns, hlines⟩ :=
    run_agrees_with_resolver (fun _ => .ok twiceText.toUTF8) twiceText
  have hplain : ∀ argument ∈ ["resolve", "format", "set.json", "x/y", "a=x=y", "a=ab"],
      ¬ IsDashed argument := by
    have hhead : ∀ argument ∈ ["resolve", "format", "set.json", "x/y", "a=x=y", "a=ab"],
        argument.toList.head? ≠ some '-' := by
      decide
    rintro argument hargument ⟨c, text, hdash⟩
    refine hhead argument hargument ?_
    rw [hdash, List.head?_cons]
  refine ⟨?_, ?_, ?_, ?_⟩
  · refine (hnone ["inspect"] _ rfl rfl).1 ?_
    rintro r ⟨p, hload, -⟩
    cases hload
  · have hasks : Asks .resolve ["resolve", "-c", "set.json", "--all", "x/y"]
        [.value .config "set.json", .flag .all, .operand "x/y"] := by
      refine ⟨[], _, .ends (hplain _ (by simp)) rfl, ?_⟩
      have hconfig : Says resolveLevel.known "-c" [] (some .config) :=
        .short rfl (List.cons_ne_nil _ _) (.waits (o := .config) (by decide) rfl)
      have hall : Says resolveLevel.known "--all" [.flag .all] none :=
        .long rfl (.flag (o := .all) (by decide) rfl)
      exact .waits hconfig (hplain _ (by simp))
        (.options hall (.operand (hplain _ (by simp)) rfl .nil))
    obtain ⟨path, s, hpath, hscope, htells⟩ :=
      ((hruns _ _ rfl rfl).2.2 _ _ makes_twice).1 hasks
    cases hpath
    obtain rfl := (hscope .all).1 (by simp [Scope.AskedBy])
    have hmismatch : ((Resolver.twice true).resolveAll (Resolver.twice true).freshCache
        "x/y").answer = .error ⟨"a", "x", "y"⟩ := by
      cbv
    rw [TellsResolved, hmismatch] at htells
    exact htells
  · have hasks : Asks .format ["format", "a=x=y", "-ltwice", "a=ab"]
        [.operand "a=x=y", .value .label "twice", .operand "a=ab"] := by
      refine ⟨[], _, .ends (hplain _ (by simp)) rfl, .operand (hplain _ (by simp)) rfl ?_⟩
      have hlabel : Says formatLevel.known "-ltwice" [.value .label "twice"] none :=
        .short rfl (List.cons_ne_nil _ _) (.value (o := .label) (by decide) rfl (by decide))
      exact .options hlabel (.operand (hplain _ (by simp)) rfl .nil)
    obtain ⟨s, hscope, -, hprints⟩ := ((hruns _ _ rfl rfl).2.2 _ _ makes_twice).2 hasks
    obtain rfl := (hscope (.one "twice")).1 (by simp [Scope.AskedBy])
    have hpath : ((Resolver.twice true).formatOne (Resolver.twice true).freshCache
        (Fields.ofList [("a", "ab")]) "twice").answer = some "ab/ab" := by
      cbv
    have hprinted := hprints _ (.inr gives_twice)
    rw [PrintsFormatted, hpath] at hprinted
    exact hprinted.2
  · intro s
    refine (hlines _ _ _ _ s makes_twice (by decide) rfl rfl gives_twice).2 ?_
    intro argument hargument
    exact hplain argument
      (List.mem_append_right ["resolve", "format", "set.json", "x/y"] hargument)

end PathTemplate.CommandLine
