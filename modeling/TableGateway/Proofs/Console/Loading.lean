import TableGateway.Console.Run
import TableGateway.Proofs.Console.References

/-!
# References in configuration files

The texts of a configuration file may refer to variables, and its other parts may not. What a text
is expanded to is told by its parts, in a single pass (`expanded_in_one_pass`). So the variables do
not matter for a configuration in which no text opens a reference (`expandConfiguration_of_plain`),
and a file that describes one is loaded as its text is read.
-/

namespace TableGateway

universe u v

/-- A map whose values all stay as they are stays as it is. -/
theorem SortedMap.traverse_of_fixed {α : Type u} {ε : Type v} {f : α → Except ε α}
    {m : SortedMap α} (h : ∀ e ∈ m.entries, f e.2 = .ok e.2) : m.traverse f = .ok m := by
  have hentries : ∀ es : List (String × α), (∀ e ∈ es, f e.2 = .ok e.2) →
      traverseEntries f es = .ok es := by
    intro es hes
    induction es with
    | nil => rfl
    | cons e es ih =>
      obtain ⟨he, hes⟩ := List.forall_mem_cons.mp hes
      rw [traverseEntries, he, ih hes]
  exact traverse_eq_ok_iff.mpr (hentries m.entries h)

namespace Console

variable {env : Environment}

/-! ## Configurations without references -/

/-- No text of the alias that is expanded opens a reference. -/
def IsPlain (a : AliasConfiguration) : Prop :=
  ∀ text ∈ expandedTexts a, ¬ ['$', '\x7b'] <:+: text.toList

instance : DecidablePred IsPlain := fun a =>
  inferInstanceAs (Decidable (∀ text ∈ expandedTexts a, ¬ ['$', '\x7b'] <:+: text.toList))

theorem expand_of_plain {text : String} (h : ¬ ['$', '\x7b'] <:+: text.toList) :
    expand env text = .ok text := by
  have hreadable : Part.Readable (.literal text) := h
  have htext : text.toList = written [.literal text] := (List.append_nil _).symm
  have hvalue : String.join ([Part.literal text].map (Part.value env)) = text := by
    rw [List.map_singleton, String.join_cons, Part.value]
    exact String.append_empty
  rw [expand_unbroken env (.singleton hreadable) htext, outcome.eq_def]
  exact congrArg Except.ok hvalue

theorem mapM_expand_of_plain {o : Option String}
    (h : ∀ text ∈ o.toList, ¬ ['$', '\x7b'] <:+: text.toList) :
    o.mapM (expand env) = .ok o := by
  cases o with
  | none => rfl
  | some text =>
    show (expand env text).map some = _
    rw [expand_of_plain (h text List.mem_cons_self)]
    rfl

theorem traverse_expand_of_plain {m : SortedMap String}
    (h : ∀ text ∈ m.entries.map Prod.snd, ¬ ['$', '\x7b'] <:+: text.toList) :
    m.traverse (expand env) = .ok m :=
  SortedMap.traverse_of_fixed fun _ he => expand_of_plain (h _ (List.mem_map_of_mem he))

theorem expandAlias_of_plain {a : AliasConfiguration} (h : IsPlain a) :
    expandAlias env a = .ok a := by
  simp only [IsPlain, expandedTexts, List.forall_mem_append, List.forall_mem_cons,
    List.cons_append] at h
  obtain ⟨hdriver, ⟨⟨hschema, hrule⟩, hresources⟩, hkeys⟩ := h
  rw [expandAlias, expand_of_plain hdriver, mapM_expand_of_plain hschema,
    mapM_expand_of_plain hrule, traverse_expand_of_plain hresources,
    traverse_expand_of_plain hkeys]
  rfl

theorem expandConfiguration_of_plain {c : Configuration}
    (h : ∀ e ∈ c.aliases.entries, IsPlain e.2) : expandConfiguration env c = .ok c := by
  rw [expandConfiguration,
    SortedMap.traverse_of_fixed (fun e he => expandAlias_of_plain (h e he))]
  rfl

/-! ## Loading -/

/-- How it is reported of a file with the given text that it is not a configuration: `parser` reads
none from it, or one that is not accepted. -/
def loadFailure (parser : String → Option Configuration) (path text : String) (error : Error) :
    Failure :=
  if (parser text).isNone then .unparsable path else .rejected path error

theorem loadBy_of_plain {parser : String → Option Configuration} {text : String}
    (h : ∀ c, parser text = some c → ∀ e ∈ c.aliases.entries, IsPlain e.2) (path : String) :
    loadBy parser env path text =
      (Configuration.parseBy parser text).mapError (loadFailure parser path text) := by
  rw [loadBy, Configuration.parseBy]
  unfold loadFailure
  cases hparsed : parser text with
  | none => rfl
  | some c =>
    have hexpand : expandConfiguration env c = .ok c := expandConfiguration_of_plain (h c hparsed)
    dsimp only
    rw [hexpand]
    show (c.validate.mapError (Failure.rejected path) >>= fun _ => pure c) = _
    cases c.validate <;> rfl

/-- **Expansion is a single pass.** A text without broken references is what its literals and the
values of its variables are together, as they stand, or fails for the first variable that is not
set. Every text is of this kind, or it is broken behind such parts, but not both; a broken one fails
for a variable before the break or else for the break. However files are parsed, one whose texts do
not open references is loaded under any variables as the configuration that it is parsed as, and
refused for the same error. -/
theorem expanded_in_one_pass (env : Environment) :
    (∀ parts, Readable parts →
      expand env (String.ofList (written parts)) = outcome env parts none) ∧
    (∀ text : String, (∃ parts, Readable parts ∧ text.toList = written parts) ∨
      ∃ parts b, Readable parts ∧ b.Holds ∧ text.toList = written parts ++ b.chars ∧
        expand env text = outcome env parts (some b)) ∧
    (∀ parts parts' b, Readable parts → Readable parts' → Breakage.Holds b →
      written parts ≠ written parts' ++ b.chars) ∧
    ∀ parser path text, (∀ c, parser text = some c → ∀ e ∈ c.aliases.entries, IsPlain e.2) →
      loadBy parser env path text =
        (Configuration.parseBy parser text).mapError (loadFailure parser path text) := by
  refine ⟨?_, ?_, ?_, fun parser path text h => loadBy_of_plain h path⟩
  · exact fun parts hparts => expand_unbroken env hparts String.toList_ofList
  · intro text
    obtain ⟨parts, b, hparts, hb, htext⟩ := exists_reading text.toList
    cases b with
    | none => exact .inl ⟨parts, hparts, htext.trans (List.append_nil _)⟩
    | some b =>
      exact .inr ⟨parts, b, hparts, hb b rfl, htext, expand_written env hparts htext hb⟩
  · exact fun parts parts' b h h' hb => written_ne_of_breakage h h' hb

/-- A dollar sign before a reference stays, and a value is not searched for references. A file is
loaded with a dollar sign that opens none. -/
theorem expanded_in_one_pass_dollars :
    let env : Environment := fun name => if name = "A" then some "$\x7bB\x7d" else none
    let parts := [.literal "x$", .reference "A", .literal "\x7b\x7d$"]
    let file := "[aliases.demo]\ndriver = 'h2'\nprimary_keys.cars = 'k$'"
    Readable parts ∧
      expand env (String.ofList (written parts)) = .ok "x$$\x7bB\x7d\x7b\x7d$" ∧
      ∃ c, load env "tables.toml" file = .ok c ∧ Configuration.parse file = .ok c := by
  intro env parts file
  obtain ⟨hwhole, -, -, hload⟩ := expanded_in_one_pass env
  have hparts : Readable parts := by decide
  have hplain : ∀ c, Configuration.ofDocument? file = some c →
      ∀ e ∈ c.aliases.entries, IsPlain e.2 := by
    have hall : ((Configuration.ofDocument? file).all fun c =>
        decide (∀ e ∈ c.aliases.entries, IsPlain e.2)) = true := by decide +kernel
    intro c hc
    rw [hc] at hall
    exact of_decide_eq_true hall
  have hparse : (Configuration.parse file).isOk = true := by decide +kernel
  obtain ⟨c, hc⟩ : ∃ c, Configuration.parse file = .ok c := by
    cases hc : Configuration.parse file with
    | ok c => exact ⟨c, rfl⟩
    | error error =>
      rw [hc] at hparse
      cases hparse
  refine ⟨hparts, (hwhole parts hparts).trans rfl, c, ?_, hc⟩
  have hequal := hload Configuration.ofDocument? "tables.toml" file hplain
  rw [← Configuration.parse, hc] at hequal
  exact hequal

end Console

end TableGateway
