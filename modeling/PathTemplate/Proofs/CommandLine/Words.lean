import Mathlib.Data.List.TakeWhile
import PathTemplate.CommandLine.Arguments
import PathTemplate.Proofs.Outcome

/-!
# What arguments say

The arguments of a level are words: flags, options with their values, and
operands, which are no options. An argument of options may say several words,
and its last option may have its value in the next argument. A level is read
exactly if it spells words and its options can be taken one after the other.
-/

namespace PathTemplate.CommandLine

/-- A word of a level: a flag, an option with its value, or an operand, which is no option. -/
inductive Word
  | flag (o : Opt)
  | value (o : Opt) (text : String)
  | operand (argument : String)
  deriving DecidableEq

/-- A dash with something behind it. Only such an argument is read as options. -/
def IsDashed (argument : String) : Prop := ∃ c text, argument.toList = '-' :: c :: text

/-- What is said behind two dashes. An option without its value is left waiting for it. -/
inductive SaysLong (known : List Opt) : List Char → List Word → (waiting : Option Opt) → Prop
  | flag {o : Opt} (ho : o ∈ known) (hvalue : o.takesValue = false) :
      SaysLong known o.long.toList [.flag o] none
  | waits {o : Opt} (ho : o ∈ known) (hvalue : o.takesValue = true) :
      SaysLong known o.long.toList [] (some o)
  | value {o : Opt} {text : List Char} (ho : o ∈ known) (hvalue : o.takesValue = true) :
      SaysLong known (o.long.toList ++ '=' :: text) [.value o (String.ofList text)] none

/-- What is said behind one dash, by any number of flags and at most one option with a value, for
which all that is left is taken. -/
inductive SaysShort (known : List Opt) : List Char → List Word → (waiting : Option Opt) → Prop
  | nil : SaysShort known [] [] none
  | flag {o : Opt} {text : List Char} {words : List Word} {waiting : Option Opt} (ho : o ∈ known)
      (hvalue : o.takesValue = false) (h : SaysShort known text words waiting) :
      SaysShort known (o.short :: text) (.flag o :: words) waiting
  | waits {o : Opt} (ho : o ∈ known) (hvalue : o.takesValue = true) :
      SaysShort known [o.short] [] (some o)
  | equals {o : Opt} {text : List Char} (ho : o ∈ known) (hvalue : o.takesValue = true) :
      SaysShort known (o.short :: '=' :: text) [.value o (String.ofList text)] none
  | value {o : Opt} {c : Char} {text : List Char} (ho : o ∈ known) (hvalue : o.takesValue = true)
      (hc : c ≠ '=') :
      SaysShort known (o.short :: c :: text) [.value o (String.ofList (c :: text))] none

/-- What one argument of options says. -/
inductive Says (known : List Opt) (argument : String) (words : List Word)
    (waiting : Option Opt) : Prop
  | long {text : List Char} (harg : argument.toList = '-' :: '-' :: text)
      (h : SaysLong known text words waiting)
  | short {text : List Char} (harg : argument.toList = '-' :: text) (hne : text ≠ [])
      (h : SaysShort known text words waiting)

/-- Arguments of a level say words up to the arguments behind the level. -/
inductive Spells (level : Level) : List String → List Word → (behind : List String) → Prop
  | nil : Spells level [] [] []
  | ends {argument : String} {rest : List String} (hdash : ¬ IsDashed argument)
      (hends : level.ends argument = true) :
      Spells level (argument :: rest) [] (argument :: rest)
  | operand {argument : String} {rest behind : List String} {words : List Word}
      (hdash : ¬ IsDashed argument) (hends : level.ends argument = false)
      (h : Spells level rest words behind) :
      Spells level (argument :: rest) (.operand argument :: words) behind
  /-- Behind two dashes alone there are no more options. -/
  | plain {rest : List String} : Spells level ("--" :: rest) (rest.map .operand) []
  | options {argument : String} {rest behind : List String} {said words : List Word}
      (hsaid : Says level.known argument said none) (h : Spells level rest words behind) :
      Spells level (argument :: rest) (said ++ words) behind
  | waits {argument value : String} {rest behind : List String} {said words : List Word} {o : Opt}
      (hsaid : Says level.known argument said (some o)) (hdash : ¬ IsDashed value)
      (h : Spells level rest words behind) :
      Spells level (argument :: value :: rest) (said ++ .value o value :: words) behind

/-- Take a word of a level. -/
def Level.take (level : Level) (g : Given) : Word → Except Stop Given
  | .flag o => g.flag o
  | .value o text => g.valued o text
  | .operand argument =>
    if level.takes g.others argument then .ok { g with others := argument :: g.others }
    else .error .misuse

variable {level : Level} {known : List Opt} {g g' : Given} {words : List Word}
  {waiting : Option Opt} {o : Opt} {text : List Char} {argument : String}
  {rest arguments behind : List String}

/-! ## Names of options -/

theorem Opt.long_injective {o o' : Opt} (h : o.long = o'.long) : o = o' := by
  revert h
  cases o <;> cases o' <;> decide

theorem Opt.short_injective {o o' : Opt} (h : o.short = o'.short) : o = o' := by
  revert h
  cases o <;> cases o' <;> decide

theorem Opt.equals_notMem_long (o : Opt) : '=' ∉ o.long.toList := by
  cases o <;> decide

theorem Opt.short_ne_dash (o : Opt) : o.short ≠ '-' := by
  cases o <;> decide

/-- An option is found by a name that tells it from all others. -/
theorem find?_name_eq_some_iff {α : Type} [DecidableEq α] {name : Opt → α} {a : α}
    (hinj : ∀ {o o' : Opt}, name o = name o' → o = o') :
    (known.find? fun o => name o = a) = some o ↔ o ∈ known ∧ name o = a := by
  constructor
  · intro h
    exact ⟨List.mem_of_find?_eq_some h, by simpa using List.find?_some h⟩
  · rintro ⟨ho, rfl⟩
    cases hfind : known.find? fun o' => name o' = name o with
    | none =>
        have hnone := List.find?_eq_none.1 hfind o ho
        simp at hnone
    | some o' =>
        have hname : name o' = name o := by simpa using List.find?_some hfind
        rw [hinj hname]

theorem takesValue_of_valued {value : String} (h : g.valued o value = .ok g') :
    o.takesValue = true := by
  cases o with
  | config => rfl
  | label => rfl
  | _ => cases h

/-! ## The first equals sign -/

theorem takeWhile_of_notMem (h : '=' ∉ text) :
    text.takeWhile (· ≠ '=') = text ∧ text.dropWhile (· ≠ '=') = [] := by
  have hall : ∀ c ∈ text, decide (c ≠ '=') = true := by
    intro c hc
    exact decide_eq_true (ne_of_mem_of_not_mem hc h)
  exact ⟨List.takeWhile_eq_self_iff.2 hall, List.dropWhile_eq_nil_iff.2 hall⟩

theorem takeWhile_of_equals {name : List Char} (h : '=' ∉ name) (text : List Char) :
    (name ++ '=' :: text).takeWhile (· ≠ '=') = name ∧
      (name ++ '=' :: text).dropWhile (· ≠ '=') = '=' :: text := by
  have hall : ∀ c ∈ name, decide (c ≠ '=') = true := by
    intro c hc
    exact decide_eq_true (ne_of_mem_of_not_mem hc h)
  rw [List.takeWhile_append_of_pos hall, List.dropWhile_append_of_pos hall]
  exact ⟨List.append_nil _, rfl⟩

/-- A text has no equals sign, or it is split at the first one. -/
theorem equals_cases (text : List Char) :
    '=' ∉ text ∨ ∃ name value, text = name ++ '=' :: value ∧ '=' ∉ name := by
  by_cases h : '=' ∈ text
  · exact .inr (List.eq_append_cons_of_mem h)
  · exact .inl h

/-! ## Arguments of options -/

theorem foldlM_take_singleton (w : Word) : [w].foldlM level.take g = level.take g w := by
  rw [List.foldlM_cons]
  exact bind_pure _

theorem find?_long (ho : o ∈ known) :
    (known.find? fun o' => o'.long = String.ofList o.long.toList) = some o :=
  (find?_name_eq_some_iff Opt.long_injective).2 ⟨ho, String.ofList_toList.symm⟩

theorem takeLong_of_saysLong (level : Level) (h : SaysLong known text words waiting) (g : Given) :
    takeLong known g text = (words.foldlM level.take g).map (·, waiting) := by
  cases h with
  | @flag o ho hvalue =>
      obtain ⟨htake, hdrop⟩ := takeWhile_of_notMem o.equals_notMem_long
      simp only [takeLong, htake, hdrop, find?_long ho, hvalue, foldlM_take_singleton]
      rfl
  | @waits o ho hvalue =>
      obtain ⟨htake, hdrop⟩ := takeWhile_of_notMem o.equals_notMem_long
      simp only [takeLong, htake, hdrop, find?_long ho, hvalue]
      rfl
  | @value o text ho hvalue =>
      obtain ⟨htake, hdrop⟩ := takeWhile_of_equals o.equals_notMem_long text
      simp only [takeLong, htake, hdrop, find?_long ho, foldlM_take_singleton]
      rfl

theorem exists_saysLong (h : takeLong known g text = .ok (g', waiting)) :
    ∃ words, SaysLong known text words waiting := by
  rcases equals_cases text with hnone | ⟨name, value, rfl, hname⟩
  · obtain ⟨htake, hdrop⟩ := takeWhile_of_notMem hnone
    simp only [takeLong, htake, hdrop] at h
    cases hfind : known.find? fun o => o.long = String.ofList text with
    | none =>
        rw [hfind] at h
        cases h
    | some o =>
        obtain ⟨ho, hlong⟩ := (find?_name_eq_some_iff Opt.long_injective).1 hfind
        obtain rfl : o.long.toList = text := by rw [hlong, String.toList_ofList]
        simp only [hfind] at h
        split at h
        · rename_i hvalue
          cases h
          exact ⟨_, .waits ho hvalue⟩
        · rename_i hvalue
          obtain ⟨g₁, -, h⟩ := map_eq_ok_iff.1 h
          cases h
          exact ⟨_, .flag ho (Bool.not_eq_true _ ▸ hvalue)⟩
  · obtain ⟨htake, hdrop⟩ := takeWhile_of_equals hname value
    simp only [takeLong, htake, hdrop] at h
    cases hfind : known.find? fun o => o.long = String.ofList name with
    | none =>
        rw [hfind] at h
        cases h
    | some o =>
        obtain ⟨ho, hlong⟩ := (find?_name_eq_some_iff Opt.long_injective).1 hfind
        obtain rfl : o.long.toList = name := by rw [hlong, String.toList_ofList]
        simp only [hfind] at h
        obtain ⟨g₁, htaken, h⟩ := map_eq_ok_iff.1 h
        cases h
        exact ⟨_, .value ho (takesValue_of_valued htaken)⟩

theorem find?_short (ho : o ∈ known) :
    (known.find? fun o' => o'.short = o.short) = some o :=
  (find?_name_eq_some_iff Opt.short_injective).2 ⟨ho, rfl⟩

theorem takeShort_flag (ho : o ∈ known) (hvalue : o.takesValue = false) (g : Given)
    (text : List Char) :
    takeShort known g (o.short :: text) = g.flag o >>= fun g => takeShort known g text := by
  simp only [takeShort, find?_short ho, hvalue, Bool.false_eq_true, if_false]
  cases g.flag o with
  | error stop => rfl
  | ok g₁ => rfl

theorem takeShort_waits (ho : o ∈ known) (hvalue : o.takesValue = true) (g : Given) :
    takeShort known g [o.short] = .ok (g, some o) := by
  simp only [takeShort, find?_short ho, hvalue, if_true]

theorem takeShort_equals (ho : o ∈ known) (hvalue : o.takesValue = true) (g : Given)
    (text : List Char) :
    takeShort known g (o.short :: '=' :: text) =
      (g.valued o (String.ofList text)).map (·, none) := by
  simp only [takeShort, find?_short ho, hvalue, if_true]

theorem takeShort_value (ho : o ∈ known) (hvalue : o.takesValue = true) {c : Char} (hc : c ≠ '=')
    (g : Given) (text : List Char) :
    takeShort known g (o.short :: c :: text) =
      (g.valued o (String.ofList (c :: text))).map (·, none) := by
  simp only [takeShort, find?_short ho, hvalue, if_true]
  split
  · rename_i heq
    cases heq
  · rename_i heq
    cases heq
    exact absurd rfl hc
  · rfl

theorem takeShort_of_saysShort (level : Level) (h : SaysShort known text words waiting)
    (g : Given) :
    takeShort known g text = (words.foldlM level.take g).map (·, waiting) := by
  induction h generalizing g with
  | nil => rfl
  | @flag o text words waiting ho hvalue _ ih =>
      rw [takeShort_flag ho hvalue, List.foldlM_cons, Level.take]
      cases g.flag o with
      | error stop => rfl
      | ok g₁ => exact ih g₁
  | waits ho hvalue => exact takeShort_waits ho hvalue g
  | equals ho hvalue =>
      rw [takeShort_equals ho hvalue, foldlM_take_singleton]
      rfl
  | value ho hvalue hc =>
      rw [takeShort_value ho hvalue hc, foldlM_take_singleton]
      rfl

theorem exists_saysShort (h : takeShort known g text = .ok (g', waiting)) :
    ∃ words, SaysShort known text words waiting := by
  induction text generalizing g with
  | nil =>
      cases h
      exact ⟨_, .nil⟩
  | cons c rest ih =>
      cases hfind : known.find? fun o => o.short = c with
      | none =>
          rw [takeShort, hfind] at h
          cases h
      | some o =>
          obtain ⟨ho, rfl⟩ := (find?_name_eq_some_iff Opt.short_injective).1 hfind
          cases hvalue : o.takesValue with
          | false =>
              rw [takeShort_flag ho hvalue] at h
              obtain ⟨g₁, -, h⟩ := exists_of_bind_eq_ok h
              obtain ⟨words, hwords⟩ := ih h
              exact ⟨_, .flag ho hvalue hwords⟩
          | true =>
              -- The option with a value ends the argument.
              cases rest with
              | nil =>
                  rw [takeShort_waits ho hvalue] at h
                  cases h
                  exact ⟨_, .waits ho hvalue⟩
              | cons c rest =>
                  by_cases hc : c = '='
                  · subst hc
                    rw [takeShort_equals ho hvalue] at h
                    obtain ⟨g₁, -, h⟩ := map_eq_ok_iff.1 h
                    cases h
                    exact ⟨_, .equals ho hvalue⟩
                  · rw [takeShort_value ho hvalue hc] at h
                    obtain ⟨g₁, -, h⟩ := map_eq_ok_iff.1 h
                    cases h
                    exact ⟨_, .value ho hvalue hc⟩

/-! ## Arguments of a level -/

theorem ne_nil_of_saysLong (h : SaysLong known text words waiting) : text ≠ [] := by
  have hlong : ∀ o : Opt, o.long.toList ≠ [] := by
    intro o
    cases o <;> decide
  cases h with
  | flag => exact hlong _
  | waits => exact hlong _
  | value => simp

theorem head_of_saysShort (h : SaysShort known text words waiting) :
    ∀ c rest, text = c :: rest → c ≠ '-' := by
  rintro c rest rfl
  cases h with
  | flag => exact Opt.short_ne_dash _
  | waits => exact Opt.short_ne_dash _
  | equals => exact Opt.short_ne_dash _
  | value => exact Opt.short_ne_dash _

theorem readLevel_long {c : Char} (harg : argument.toList = '-' :: '-' :: c :: text) (g : Given)
    (rest : List String) :
    readLevel level g none false (argument :: rest) =
      takeLong level.known g (c :: text) >>= fun p => readLevel level p.1 p.2 false rest := by
  simp only [readLevel, harg, Bool.false_eq_true, if_false]
  cases takeLong level.known g (c :: text) with
  | error stop => rfl
  | ok p => rfl

theorem readLevel_short {c : Char} (harg : argument.toList = '-' :: c :: text) (hc : c ≠ '-')
    (g : Given) (rest : List String) :
    readLevel level g none false (argument :: rest) =
      takeShort level.known g (c :: text) >>= fun p => readLevel level p.1 p.2 false rest := by
  simp only [readLevel, harg, Bool.false_eq_true, if_false]
  split
  case h_5 heq =>
    obtain ⟨rfl, rfl⟩ := List.cons.inj (List.cons.inj heq).2
    cases takeShort level.known g (_ :: _) with
    | error stop => rfl
    | ok p => rfl
  case h_3 heq | h_4 heq => exact absurd (List.cons.inj (List.cons.inj heq).2).1 hc
  case h_6 hne => exact absurd rfl (hne c text)
  case h_1 heq _ | h_2 heq _ => cases heq

/-- Options are taken from the argument before the next one is read. -/
theorem readLevel_of_options (h : Says level.known argument words waiting) (g : Given)
    (rest : List String) :
    readLevel level g none false (argument :: rest) =
      words.foldlM level.take g >>= fun g => readLevel level g waiting false rest := by
  cases h with
  | @long text harg h =>
      obtain ⟨c, text, rfl⟩ := List.exists_cons_of_ne_nil (ne_nil_of_saysLong h)
      rw [readLevel_long harg, takeLong_of_saysLong level h]
      cases words.foldlM level.take g with
      | error stop => rfl
      | ok g₁ => rfl
  | @short text harg hne h =>
      obtain ⟨c, text, rfl⟩ := List.exists_cons_of_ne_nil hne
      rw [readLevel_short harg (head_of_saysShort h c text rfl),
        takeShort_of_saysShort level h]
      cases words.foldlM level.take g with
      | error stop => rfl
      | ok g₁ => rfl

theorem readLevel_dashes (g : Given) (rest : List String) :
    readLevel level g none false ("--" :: rest) = readLevel level g none true rest := by
  rfl

/-- What is read as options says words, unless it only ends the options. -/
theorem exists_said (hdash : IsDashed argument) (hne : argument ≠ "--")
    {r : Given × List String} (h : readLevel level g none false (argument :: rest) = .ok r) :
    ∃ words waiting, Says level.known argument words waiting := by
  obtain ⟨c, text, harg⟩ := hdash
  by_cases hc : c = '-'
  · subst hc
    cases text with
    | nil => exact absurd (String.toList_injective harg) hne
    | cons c text =>
        rw [readLevel_long harg] at h
        obtain ⟨⟨g₁, waiting⟩, htaken, -⟩ := exists_of_bind_eq_ok h
        obtain ⟨words, hwords⟩ := exists_saysLong htaken
        exact ⟨words, waiting, .long harg hwords⟩
  · rw [readLevel_short harg hc] at h
    obtain ⟨⟨g₁, waiting⟩, htaken, -⟩ := exists_of_bind_eq_ok h
    obtain ⟨words, hwords⟩ := exists_saysShort htaken
    exact ⟨words, waiting, .short harg (List.cons_ne_nil _ _) hwords⟩

theorem readLevel_operand (hdash : ¬ IsDashed argument) (g : Given) (rest : List String) :
    readLevel level g none false (argument :: rest) =
      if level.ends argument then .ok (g, argument :: rest)
      else level.take g (.operand argument) >>= fun g => readLevel level g none false rest := by
  simp only [readLevel, Bool.false_eq_true, if_false]
  split
  case h_6 =>
    rw [Level.take]
    cases level.takes g.others argument with
    | false => rfl
    | true => rfl
  case h_3 harg | h_4 harg | h_5 harg => exact absurd ⟨_, _, harg⟩ hdash
  case h_1 heq _ | h_2 heq _ => cases heq

theorem readLevel_value (hdash : ¬ IsDashed argument) (g : Given) (o : Opt)
    (rest : List String) :
    readLevel level g (some o) false (argument :: rest) =
      g.valued o argument >>= fun g => readLevel level g none false rest := by
  simp only [readLevel, Bool.false_eq_true, if_false]
  split
  case h_2 heq _ =>
    obtain rfl := Option.some.inj heq
    cases g.valued o argument with
    | error stop => rfl
    | ok g₁ => rfl
  case h_1 harg => exact absurd ⟨_, _, harg⟩ hdash
  all_goals contradiction

theorem readLevel_value_dashed (hdash : IsDashed argument) (g : Given) (o : Opt)
    (rest : List String) :
    readLevel level g (some o) false (argument :: rest) = .error .misuse := by
  obtain ⟨c, text, harg⟩ := hdash
  simp only [readLevel, harg, Bool.false_eq_true, if_false]

theorem readLevel_plain (g : Given) (arguments : List String) :
    readLevel level g none true arguments =
      ((arguments.map Word.operand).foldlM level.take g).map (·, []) := by
  induction arguments generalizing g with
  | nil => rfl
  | cons argument rest ih =>
      simp only [readLevel, List.map_cons, List.foldlM_cons, Level.take, if_true]
      cases level.takes g.others argument with
      | true => exact ih _
      | false => rfl

/-! ## Levels -/

/-- A level that spells words is read by taking them one after the other. -/
theorem readLevel_of_spells (h : Spells level arguments words behind) (g : Given) :
    readLevel level g none false arguments = (words.foldlM level.take g).map (·, behind) := by
  induction h generalizing g with
  | nil => rfl
  | ends hdash hends =>
      rw [readLevel_operand hdash, if_pos hends]
      rfl
  | @operand argument rest behind words hdash hends _ ih =>
      rw [readLevel_operand hdash, if_neg (by simp [hends]), List.foldlM_cons]
      cases level.take g (.operand argument) with
      | error stop => rfl
      | ok g₁ => exact ih g₁
  | plain => rw [readLevel_dashes, readLevel_plain]
  | @options argument rest behind said words hsaid _ ih =>
      rw [readLevel_of_options hsaid, List.foldlM_append]
      cases said.foldlM level.take g with
      | error stop => rfl
      | ok g₁ => exact ih g₁
  | @waits argument value rest behind said words o hsaid hdash _ ih =>
      rw [readLevel_of_options hsaid, List.foldlM_append]
      cases said.foldlM level.take g with
      | error stop => rfl
      | ok g₁ =>
          change readLevel level g₁ (some o) false (value :: rest) =
            ((.value o value :: words).foldlM level.take g₁).map (·, behind)
          rw [readLevel_value hdash, List.foldlM_cons, Level.take]
          cases g₁.valued o value with
          | error stop => rfl
          | ok g₂ => exact ih g₂

/-- What is read spells words, also behind an option that waits for its value. -/
theorem exists_spells_or_waits (level : Level) (arguments : List String) :
    (∀ g r, readLevel level g none false arguments = .ok r →
      ∃ words, Spells level arguments words r.2) ∧
    ∀ g o r, readLevel level g (some o) false arguments = .ok r →
      ∃ value rest words, arguments = value :: rest ∧ ¬ IsDashed value ∧
        Spells level rest words r.2 := by
  induction arguments with
  | nil =>
      refine ⟨fun g r h => ?_, fun g o r h => ?_⟩
      · cases h
        exact ⟨_, .nil⟩
      · cases h
  | cons argument rest ih =>
      obtain ⟨ihread, ihwaits⟩ := ih
      refine ⟨fun g r h => ?_, fun g o r h => ?_⟩
      · by_cases hdash : IsDashed argument
        · by_cases hplain : argument = "--"
          · subst hplain
            rw [readLevel_dashes, readLevel_plain] at h
            obtain ⟨g₁, -, rfl⟩ := map_eq_ok_iff.1 h
            exact ⟨_, .plain⟩
          · obtain ⟨said, waiting, hsaid⟩ := exists_said hdash hplain h
            rw [readLevel_of_options hsaid] at h
            obtain ⟨g₁, -, h⟩ := exists_of_bind_eq_ok h
            cases waiting with
            | none =>
                obtain ⟨words, hwords⟩ := ihread g₁ r h
                exact ⟨_, .options hsaid hwords⟩
            | some o =>
                obtain ⟨value, rest', words, rfl, hvalue, hwords⟩ := ihwaits g₁ o r h
                exact ⟨_, .waits hsaid hvalue hwords⟩
        · rw [readLevel_operand hdash] at h
          split at h
          · rename_i hends
            cases h
            exact ⟨_, .ends hdash hends⟩
          · rename_i hends
            obtain ⟨g₁, -, h⟩ := exists_of_bind_eq_ok h
            obtain ⟨words, hwords⟩ := ihread g₁ r h
            exact ⟨_, .operand hdash (Bool.not_eq_true _ ▸ hends) hwords⟩
      · by_cases hdash : IsDashed argument
        · rw [readLevel_value_dashed hdash] at h
          cases h
        · rw [readLevel_value hdash] at h
          obtain ⟨g₁, -, h⟩ := exists_of_bind_eq_ok h
          obtain ⟨words, hwords⟩ := ihread g₁ r h
          exact ⟨argument, rest, words, rfl, hdash, hwords⟩

/-- A level is read exactly if it spells words that can be taken. -/
theorem readLevel_eq_ok_iff :
    readLevel level g none false arguments = .ok (g', behind) ↔
      ∃ words, Spells level arguments words behind ∧ words.foldlM level.take g = .ok g' := by
  constructor
  · intro h
    obtain ⟨words, hwords⟩ := (exists_spells_or_waits level arguments).1 g _ h
    rw [readLevel_of_spells hwords] at h
    obtain ⟨g₁, htaken, heq⟩ := map_eq_ok_iff.1 h
    cases heq
    exact ⟨words, hwords, htaken⟩
  · rintro ⟨words, hwords, htaken⟩
    rw [readLevel_of_spells hwords, htaken]
    rfl

end PathTemplate.CommandLine
