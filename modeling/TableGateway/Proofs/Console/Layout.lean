import Mathlib.Data.List.Basic
import TableGateway.Console.Command

/-!
# Layouts of a command line

The words and the options of a command line can be mixed in many ways, and each option can be
spelled as one argument or as two. `Layout words options args` says that the arguments are one way
to write these words and options, in their order. Whatever the layout, the same is collected from it
(`Mixed.fill_eq`): the words, the last value of each option that has one, and all pairs of those that
have many. So the command does not depend on the layout (`parse_layout`), also where a value looks
like an option or like a request for help.
-/

namespace TableGateway.Console

/-- The value of the option is a pair of a key and a value. -/
def Flag.takesPair : Flag → Bool
  | param | column | set => true
  | config | aliasName | resource | key | primaryKey => false

/-- An option as it is given. -/
inductive Given where
  /-- the option with a value that is taken as it stands -/
  | plain (flag : Flag) (text : String)
  /-- the option with a pair of a key and a value -/
  | pair (flag : Flag) (key value : String)

namespace Given

/-- The option. -/
def flag : Given → Flag
  | plain flag _ => flag
  | pair flag _ _ => flag

/-- The text of the value. -/
def text : Given → String
  | plain _ text => text
  | pair _ key value => key ++ "=" ++ value

/-- The value is one that the option takes; the key of a pair ends at its first equals sign and is
not blank. -/
def Fits : Given → Prop
  | plain flag _ => flag.takesPair = false
  | pair flag key _ => flag.takesPair = true ∧ '=' ∉ key.toList ∧ Text.isBlankText key = false

instance : DecidablePred Fits
  | plain flag _ => inferInstanceAs (Decidable (flag.takesPair = false))
  | pair flag key _ => inferInstanceAs (Decidable
      (flag.takesPair = true ∧ '=' ∉ key.toList ∧ Text.isBlankText key = false))

/-- What the option gives as a value, if it is the one that is asked for. -/
def text? (flag : Flag) : Given → Option String
  | plain f text => if f = flag then some text else none
  | pair _ _ _ => none

/-- What the option gives as a pair, if it is the one that is asked for. -/
def pair? (flag : Flag) : Given → Option (String × String)
  | plain _ _ => none
  | pair f key value => if f = flag then some (Text.trim key, value) else none

end Given

/-- The value that an option is given last. -/
def lastText? (flag : Flag) (options : List Given) : Option String :=
  (options.filterMap (Given.text? flag)).getLast?

/-- All pairs that an option is given. -/
def pairsOf (flag : Flag) (options : List Given) : List (String × String) :=
  options.filterMap (Given.pair? flag)

/-- The arguments are one way to write the words and the options. -/
inductive Layout : List String → List Given → List String → Prop
  /-- there is nothing to write -/
  | nil : Layout [] [] []
  /-- a word is an argument -/
  | word {word : String} {words : List String} {options : List Given} {args : List String} :
      Layout words options args → Layout (word :: words) options (word :: args)
  /-- an option and its value are two arguments -/
  | spaced {o : Given} {words : List String} {options : List Given} {args : List String} :
      Layout words options args → Layout words (o :: options) (o.flag.text :: o.text :: args)
  /-- an option and its value are one argument -/
  | joined {o : Given} {words : List String} {options : List Given} {args : List String} :
      Layout words options args →
        Layout words (o :: options) ((o.flag.text ++ "=" ++ o.text) :: args)

/-- The words and the options are mixed in these arguments, each of them told apart. -/
inductive Mixed : List String → List Given → List Argument → Prop
  /-- there is nothing to mix -/
  | nil : Mixed [] [] []
  /-- a word comes next -/
  | word {word : String} {words : List String} {options : List Given} {items : List Argument} :
      Mixed words options items → Mixed (word :: words) options (.word word :: items)
  /-- an option comes next -/
  | option {o : Given} {words : List String} {options : List Given} {items : List Argument} :
      Mixed words options items → Mixed words (o :: options) (.option o.flag o.text :: items)

/-- The text can stand as a word: it neither starts like an option nor asks for help. -/
def IsWord (text : String) : Prop := ¬ "--".toList <+: text.toList ∧ text ≠ "-h"

/-! ## Telling words and options apart -/

theorem splitPair?_append {key : String} (h : '=' ∉ key.toList) (value : String) :
    splitPair? (key ++ "=" ++ value) = some (key, value) := by
  have hkey : ∀ c ∈ key.toList, (c != '=') = true := by
    intro c hc
    exact bne_iff_ne.mpr fun heq => h (heq ▸ hc)
  have hchars : (key ++ "=" ++ value).toList = key.toList ++ '=' :: value.toList := by simp
  rw [splitPair?, hchars, List.dropWhile_append_of_pos hkey, List.takeWhile_append_of_pos hkey]
  simp

/-- The key of a pair is what the text starts with. -/
theorem prefix_of_splitPair? {text key value : String} (h : splitPair? text = some (key, value)) :
    key.toList <+: text.toList := by
  rw [splitPair?] at h
  split at h
  · cases h
  · cases h
    rw [String.toList_ofList]
    exact List.takeWhile_prefix _

theorem Flag.text_injective {a b : Flag} (h : a.text = b.text) : a = b := by
  revert h
  cases a <;> cases b <;> decide

theorem Flag.prefix_text (flag : Flag) : "--".toList <+: flag.text.toList := by
  cases flag <;> decide

theorem Flag.not_mem_text (flag : Flag) : '=' ∉ flag.text.toList := by
  cases flag <;> decide

/-- The option that is spelled like this is found among those there are. -/
theorem find?_text {flags : List Flag} {flag : Flag} (h : flag ∈ flags) :
    flags.find? (·.text == flag.text) = some flag := by
  obtain ⟨found, hfound⟩ : ∃ found, flags.find? (·.text == flag.text) = some found := by
    rw [← Option.isSome_iff_exists, List.find?_isSome]
    exact ⟨flag, h, beq_self_eq_true _⟩
  have htext := List.find?_some hfound
  rw [hfound, Flag.text_injective (beq_iff_eq.mp htext)]

/-- Nothing that does not start like an option is one. -/
theorem find?_text_eq_none {text : String} (h : ¬ "--".toList <+: text.toList)
    (flags : List Flag) : flags.find? (·.text == text) = none := by
  rw [List.find?_eq_none]
  intro flag _ heq
  exact h (beq_iff_eq.mp heq ▸ flag.prefix_text)

namespace Argument

variable {flags : List Flag}

theorem split_of_not_help {text : String} (h : ¬ (text = "-h" ∨ text = "--help"))
    (rest : List String) :
    split flags (text :: rest) =
      match flags.find? (·.text == text), rest with
      | some flag, [] => [unfinished flag]
      | some flag, value :: rest => option flag value :: split flags rest
      | none, rest => (assigned? flags text).getD (word text) :: split flags rest := by
  rw [split.eq_def]
  exact if_neg h

theorem split_word {text : String} (h : IsWord text) (rest : List String) :
    split flags (text :: rest) = .word text :: split flags rest := by
  obtain ⟨hstart, hhelp⟩ := h
  have hne : ¬ (text = "-h" ∨ text = "--help") := by
    rintro (rfl | rfl)
    · exact hhelp rfl
    · exact hstart (by decide)
  -- an option before an equals sign would start the word
  have hassigned : assigned? flags text = none := by
    rw [assigned?]
    cases hpair : splitPair? text with
    | none => rfl
    | some p =>
      have hkey : ¬ "--".toList <+: p.1.toList :=
        fun h => hstart (h.trans (prefix_of_splitPair? hpair))
      show ((flags.find? (·.text == p.1)).bind fun flag => some (option flag p.2)) = none
      rw [find?_text_eq_none hkey]
      rfl
  rw [split_of_not_help hne, find?_text_eq_none hstart, hassigned]
  rfl

theorem split_spaced {flag : Flag} (h : flag ∈ flags) (value : String) (rest : List String) :
    split flags (flag.text :: value :: rest) = .option flag value :: split flags rest := by
  have hne : ¬ (flag.text = "-h" ∨ flag.text = "--help") := by
    cases flag <;> decide
  rw [split_of_not_help hne, find?_text h]

theorem split_joined {flag : Flag} (h : flag ∈ flags) (value : String) (rest : List String) :
    split flags ((flag.text ++ "=" ++ value) :: rest) = .option flag value :: split flags rest := by
  -- neither a request for help nor an option by itself has an equals sign
  have hmem : '=' ∈ (flag.text ++ "=" ++ value).toList := by simp
  have hne : ¬ (flag.text ++ "=" ++ value = "-h" ∨ flag.text ++ "=" ++ value = "--help") := by
    rintro (heq | heq) <;> rw [heq] at hmem <;> exact absurd hmem (by decide)
  have hfind : flags.find? (·.text == flag.text ++ "=" ++ value) = none := by
    rw [List.find?_eq_none]
    intro other _ heq
    exact other.not_mem_text (beq_iff_eq.mp heq ▸ hmem)
  have hassigned : assigned? flags (flag.text ++ "=" ++ value) = some (.option flag value) := by
    rw [assigned?, splitPair?_append flag.not_mem_text]
    show ((flags.find? (·.text == flag.text)).bind fun found => some (option found value)) = _
    rw [find?_text h]
    rfl
  rw [split_of_not_help hne, hfind, hassigned]
  rfl

end Argument

/-- In a layout the words and the options can be told apart, whatever the values are. -/
theorem Layout.mixed_split {words : List String} {options : List Given} {args : List String}
    (h : Layout words options args) (hwords : ∀ w ∈ words, IsWord w) {flags : List Flag}
    (hflags : ∀ o ∈ options, o.flag ∈ flags) :
    Mixed words options (Argument.split flags args) := by
  induction h with
  | nil => exact .nil
  | word h ih =>
    obtain ⟨hword, hwords⟩ := List.forall_mem_cons.mp hwords
    rw [Argument.split_word hword]
    exact .word (ih hwords hflags)
  | spaced h ih =>
    -- the value is taken without being looked at, so it may be any text
    obtain ⟨hflag, hflags⟩ := List.forall_mem_cons.mp hflags
    rw [Argument.split_spaced hflag]
    exact .option (ih hwords hflags)
  | joined h ih =>
    obtain ⟨hflag, hflags⟩ := List.forall_mem_cons.mp hflags
    rw [Argument.split_joined hflag]
    exact .option (ih hwords hflags)

/-! ## Collecting -/

/-- The draft that is collected from words and options. -/
def collected (words : List String) (options : List Given) : Draft where
  config := lastText? .config options
  aliasName := lastText? .aliasName options
  resource := lastText? .resource options
  params := pairsOf .param options
  key := lastText? .key options
  column := (pairsOf .column options).getLast?
  set := pairsOf .set options
  primaryKey := lastText? .primaryKey options
  words := words

theorem lastText?_concat (flag : Flag) (options : List Given) (o : Given) :
    lastText? flag (options ++ [o]) = (o.text? flag).or (lastText? flag options) := by
  rw [lastText?, List.filterMap_append, List.getLast?_append, lastText?]
  cases h : o.text? flag <;> simp [h]

theorem pairsOf_concat (flag : Flag) (options : List Given) (o : Given) :
    pairsOf flag (options ++ [o]) = pairsOf flag options ++ (o.pair? flag).toList := by
  rw [pairsOf, List.filterMap_append, pairsOf]
  cases h : o.pair? flag <;> simp [h]

theorem parsePair_append {key : String} (hkey : '=' ∉ key.toList)
    (hblank : Text.isBlankText key = false) (flag : Flag) (value : String) :
    parsePair flag (key ++ "=" ++ value) = .ok (Text.trim key, value) := by
  rw [parsePair, splitPair?_append hkey]
  exact if_neg (Bool.eq_false_iff.mp hblank)

/-- One more option is collected behind those before it. -/
theorem withOption_collected {o : Given} (h : o.Fits) (words : List String)
    (options : List Given) :
    (collected words options).withOption o.flag o.text =
      .ok (collected words (options ++ [o])) := by
  cases o with
  | plain flag text =>
    cases flag with
    | param | column | set => cases h
    | config | aliasName | resource | key | primaryKey =>
      simp [Given.flag, Given.text, Draft.withOption, collected, lastText?_concat, pairsOf_concat,
        Given.text?, Given.pair?]
  | pair flag key value =>
    obtain ⟨hflag, hkey, hblank⟩ := h
    cases flag with
    | config | aliasName | resource | key | primaryKey => cases hflag
    | param | column | set =>
      simp [Given.flag, Given.text, Draft.withOption, collected, lastText?_concat, pairsOf_concat,
        Given.text?, Given.pair?, parsePair_append hkey hblank, Except.map]

/-- The words have a place one after the other, behind those before them. -/
def Placed (accepts : List String → String → Except UsageError Unit) (before words : List String) :
    Prop :=
  ∀ front word back, words = front ++ word :: back → accepts (before ++ front) word = .ok ()

theorem Placed.head {accepts : List String → String → Except UsageError Unit}
    {before words : List String} {word : String} (h : Placed accepts before (word :: words)) :
    accepts before word = .ok () := by
  have hfirst := h [] word words rfl
  rwa [List.append_nil] at hfirst

theorem Placed.tail {accepts : List String → String → Except UsageError Unit}
    {before words : List String} {word : String} (h : Placed accepts before (word :: words)) :
    Placed accepts (before ++ [word]) words := by
  rintro front next back rfl
  rw [List.append_assoc]
  exact h (word :: front) next back rfl

/-- What has been mixed is collected word by word and option by option. -/
theorem Mixed.fill_eq {accepts : List String → String → Except UsageError Unit}
    {words : List String} {options : List Given} {items : List Argument}
    (h : Mixed words options items) (hwords : ∀ w ∈ words, IsWord w)
    (hfits : ∀ o ∈ options, o.Fits) {before : List String} (hplaced : Placed accepts before words)
    (earlier : List Given) :
    Draft.fill accepts (collected before earlier) items =
      .ok (some (collected (before ++ words) (earlier ++ options))) := by
  -- what has been collected is a `collected` again after each step, with one more word or option
  induction h generalizing before earlier with
  | nil =>
    rw [List.append_nil, List.append_nil]
    rfl
  | @word word words options items h ih =>
    obtain ⟨hword, hwords⟩ := List.forall_mem_cons.mp hwords
    have hstart : ¬ "--".toList.isPrefixOf word.toList = true :=
      mt List.isPrefixOf_iff_prefix.mp hword.1
    have hrun := ih hwords hfits hplaced.tail earlier
    rw [List.append_assoc, List.singleton_append] at hrun
    rw [Draft.fill, if_neg hstart]
    show (accepts before word >>= fun _ => _) = _
    rw [hplaced.head]
    exact hrun
  | @option o words options items h ih =>
    obtain ⟨hfit, hfits⟩ := List.forall_mem_cons.mp hfits
    have hrun := ih hwords hfits hplaced (earlier ++ [o])
    rw [List.append_assoc, List.singleton_append] at hrun
    rw [Draft.fill, withOption_collected hfit]
    exact hrun

/-! ## Commands -/

namespace Command

/-- A subcommand reads every layout as the same draft. -/
theorem read_layout {words : List String} {options : List Given} {args : List String}
    (h : Layout words options args) (hwords : ∀ w ∈ words, IsWord w)
    (hfits : ∀ o ∈ options, o.Fits) {flags : List Flag}
    (hflags : ∀ o ∈ options, o.flag ∈ sharedFlags ++ flags)
    {accepts : List String → String → Except UsageError Unit} (hplaced : Placed accepts [] words)
    (topic : HelpTopic) (finish : Draft → Except UsageError Command) :
    read topic flags accepts finish args = finish (collected words options) := by
  have hfill := (h.mixed_split hwords hflags).fill_eq hwords hfits hplaced []
  show (Draft.fill accepts (collected [] []) _ >>= _) = _
  rw [hfill]
  rfl

theorem placed_acceptAny (words : List String) : Placed acceptAny [] words :=
  fun _ _ _ _ => rfl

theorem placed_acceptAction {word : String} {action : RenderAction}
    (h : RenderAction.ofWord? word = some action) : Placed acceptAction [] [word] := by
  intro front next back heq
  cases front with
  | nil =>
    cases heq
    show (if (RenderAction.ofWord? word).isSome = true then _ else _) = _
    rw [h]
    rfl
  | cons w front =>
    cases front <;> cases heq

theorem aliasOf_collected {options : List Given} {aliasName : String}
    (h : lastText? .aliasName options = some aliasName) (words : List String) :
    aliasOf (collected words options) = .ok aliasName := by
  have halias : (collected words options).aliasName = some aliasName := h
  rw [aliasOf, halias]

/-- **A command does not depend on its layout.** Words and options can be mixed and options spelled
in any way, and values may look like options or like a request for help: the command has the words
in their order, of each option the last value, and of those that collect pairs all of them, the key
of a pair without outer blanks and its value as it stands. -/
theorem parse_layout {words : List String} {options : List Given} {args : List String}
    (hargs : Layout words options args) (hwords : ∀ w ∈ words, IsWord w)
    (hfits : ∀ o ∈ options, o.Fits) {aliasName : String}
    (halias : lastText? .aliasName options = some aliasName) :
    (∀ word action, words = [word] → RenderAction.ofWord? word = some action →
      (∀ o ∈ options, o.flag ∈ sharedFlags ++ [.key, .column, .set, .primaryKey]) →
      (lastText? .key options = none ∨ pairsOf .column options = []) →
      parse ("render" :: args) =
        .ok (.render ((lastText? .config options).getD "tablerest.toml") aliasName
          (lastText? .resource options) action (lastText? .key options)
          (pairsOf .column options).getLast? (pairsOf .set options) (pairsOf .param options)
          (lastText? .primaryKey options))) ∧
    (∀ name arguments resource, words = name :: arguments →
      lastText? .resource options = some resource →
      (∀ o ∈ options, o.flag ∈ sharedFlags ++ [.primaryKey]) →
      parse ("find" :: args) =
        .ok (.find ((lastText? .config options).getD "tablerest.toml") aliasName resource name
          arguments (pairsOf .param options) (lastText? .primaryKey options))) ∧
    ∀ procedure arguments, words = procedure :: arguments →
      lastText? .resource options = none → (∀ o ∈ options, o.flag ∈ sharedFlags) →
      parse ("call" :: args) =
        .ok (.call ((lastText? .config options).getD "tablerest.toml") aliasName procedure
          arguments) := by
  refine ⟨?_, ?_, ?_⟩
  · rintro word action rfl haction hflags hpick
    show read .render _ acceptAction finishRender args = _
    have hpicked : ((lastText? .key options).isSome &&
        (pairsOf .column options).getLast?.isSome) = false := by
      rcases hpick with h | h
      · rw [h]
        rfl
      · rw [h]
        exact Bool.and_false _
    have hnamed : (collected [word] options).words.head?.bind RenderAction.ofWord? = some action :=
      haction
    rw [read_layout hargs hwords hfits hflags (placed_acceptAction haction), finishRender, hnamed,
      aliasOf_collected halias]
    exact if_neg (Bool.eq_false_iff.mp hpicked)
  · rintro name arguments resource rfl hresource hflags
    show read .find _ acceptAny finishFind args = _
    have hfound : (collected (name :: arguments) options).resource = some resource := hresource
    rw [read_layout hargs hwords hfits hflags (placed_acceptAny _), finishFind, hfound,
      aliasOf_collected halias]
    rfl
  · rintro procedure arguments rfl hresource hflags
    show read .call _ acceptAny finishCall args = _
    have hnone : (collected (procedure :: arguments) options).resource = none := hresource
    rw [read_layout hargs hwords hfits (by rwa [List.append_nil]) (placed_acceptAny _), finishCall,
      hnone, aliasOf_collected halias]
    rfl

/-- Values that look like an option, like a request for help and like another pair. -/
theorem parse_layout_lookalikes :
    let options : List Given := [.plain .config "-h", .pair .param " sort " "--by=a",
      .plain .aliasName "--alias", .pair .column "a" "", .plain .config "--config"]
    Layout ["read"] options ["--config", "-h", "--param= sort =--by=a", "read", "--alias",
        "--alias", "--by=a=", "--config=--config"] ∧
      parse ["render", "--config", "-h", "--param= sort =--by=a", "read", "--alias", "--alias",
          "--by=a=", "--config=--config"] =
        .ok (.render "--config" "--alias" none .read none (some ("a", "")) []
          [("sort", "--by=a")] none) := by
  intro options
  have hargs : Layout ["read"] options ["--config", "-h", "--param= sort =--by=a", "read", "--alias",
      "--alias", "--by=a=", "--config=--config"] :=
    .spaced (.joined (.word (.spaced (.joined (.joined .nil)))))
  have hword : IsWord "read" := ⟨by decide, by decide⟩
  have hfits : ∀ o ∈ options, o.Fits := by decide
  have halias : lastText? .aliasName options = some "--alias" := by decide
  obtain ⟨hrender, -, -⟩ := parse_layout hargs (List.forall_mem_singleton.mpr hword) hfits halias
  exact ⟨hargs, (hrender "read" .read rfl rfl (by decide) (.inl (by decide))).trans (by decide)⟩

end Command

end TableGateway.Console
