import Mathlib.Data.List.Chain
import TableGateway.Console.Expansion

/-!
# References in texts

A text that is expanded is a sequence of literals and references, each written as it is meant to be
read (`Part`), and possibly a broken reference behind them (`Breakage`). Every text can be read in
this way (`exists_reading`), and what it is expanded to follows from its parts alone
(`expand_written`): each reference gives the value of its variable, and each literal and each value
stands in the result as it is. The first variable that is not set, or else the broken reference, is
the reason why there is no result.
-/

namespace TableGateway.Console

/-! ## Parts of a text -/

/-- What stands for itself or for the value of a variable. -/
inductive Part where
  /-- a text that stands for itself -/
  | literal (text : String)
  /-- a reference to the variable of the given name -/
  | reference (name : String)
deriving DecidableEq

namespace Part

/-- The characters with which the part is written. -/
def chars : Part → List Char
  | literal text => text.toList
  | reference name => '$' :: '\x7b' :: (name.toList ++ ['\x7d'])

/-- The part can be told from what is around it: a literal does not open a reference, and a name is
not empty and does not end too early. -/
def Readable : Part → Prop
  | literal text => ¬ ['$', '\x7b'] <:+: text.toList
  | reference name => name ≠ "" ∧ '\x7d' ∉ name.toList

instance : DecidablePred Readable
  | literal text => inferInstanceAs (Decidable (¬ ['$', '\x7b'] <:+: text.toList))
  | reference name => inferInstanceAs (Decidable (name ≠ "" ∧ '\x7d' ∉ name.toList))

/-- The part is a literal. -/
def isLiteral : Part → Bool
  | literal _ => true
  | reference _ => false

/-- The variable that the part refers to. -/
def name? : Part → Option String
  | literal _ => none
  | reference name => some name

/-- The text that the part is replaced by; there is none for a variable that is not set. -/
def value (env : Environment) : Part → String
  | literal text => text
  | reference name => (env name).getD ""

end Part

/-- The parts of a text can be told apart. -/
structure Readable (parts : List Part) : Prop where
  /-- each part can be read -/
  part : ∀ p ∈ parts, p.Readable
  /-- no literal goes on in the next one -/
  apart : parts.IsChain fun p q => ¬ (p.isLiteral = true ∧ q.isLiteral = true)

theorem readable_iff {parts : List Part} :
    Readable parts ↔ (∀ p ∈ parts, p.Readable) ∧
      parts.IsChain fun p q => ¬ (p.isLiteral = true ∧ q.isLiteral = true) :=
  ⟨fun h => ⟨h.part, h.apart⟩, fun h => ⟨h.1, h.2⟩⟩

instance : DecidablePred Readable := fun _ => decidable_of_iff _ readable_iff.symm

/-- The characters of a text with the given parts. -/
def written (parts : List Part) : List Char := parts.flatMap Part.chars

/-- The variables that the parts refer to, in their order. -/
def names (parts : List Part) : List String := parts.filterMap Part.name?

/-- The first variable of the parts that is not set. -/
def unset? (env : Environment) (parts : List Part) : Option String :=
  (names parts).find? fun name => (env name).isNone

/-- A reference that is broken, and so ends the reading of a text. -/
inductive Breakage where
  /-- the name goes on to the end of the text -/
  | unterminated (name : String)
  /-- there is no name, whatever comes behind -/
  | unnamed (rest : String)
deriving DecidableEq

namespace Breakage

/-- The characters from the broken reference on. -/
def chars : Breakage → List Char
  | unterminated name => '$' :: '\x7b' :: name.toList
  | unnamed rest => '$' :: '\x7b' :: '\x7d' :: rest.toList

/-- The reference is broken in this way: it is not closed, if that is what is wrong. -/
def Holds : Breakage → Prop
  | unterminated name => '\x7d' ∉ name.toList
  | unnamed _ => True

/-- The characters behind the parts of a text, where a reference may be broken. -/
def rest (b : Option Breakage) : List Char := b.elim [] chars

/-- The error for the broken reference. -/
def error : Breakage → ExpansionError
  | unterminated name => .unterminated name
  | unnamed _ => .unnamed

end Breakage

namespace Readable

variable {p : Part} {parts : List Part}

theorem nil : Readable [] := ⟨nofun, .nil⟩

theorem singleton (h : p.Readable) : Readable [p] :=
  ⟨fun _ hq => List.mem_singleton.mp hq ▸ h, .singleton p⟩

theorem tail (h : Readable (p :: parts)) : Readable parts :=
  ⟨fun q hq => h.part q (List.mem_cons_of_mem p hq), h.apart.tail⟩

theorem cons (hp : p.Readable) (h : Readable parts)
    (hnext : ∀ q ∈ parts.head?, ¬ (p.isLiteral = true ∧ q.isLiteral = true)) :
    Readable (p :: parts) := by
  constructor
  · intro q hq
    rcases List.mem_cons.mp hq with rfl | hq
    · exact hp
    · exact h.part q hq
  · exact List.isChain_cons.mpr ⟨hnext, h.apart⟩

/-- Behind a literal no brace follows that would make its last dollar sign open a reference. -/
theorem head?_written {text : String} (h : Readable (.literal text :: parts)) {rest : List Char}
    (hrest : rest.head? ≠ some '\x7b') : (written parts ++ rest).head? ≠ some '\x7b' := by
  cases parts with
  | nil => exact hrest
  | cons q parts =>
    have hq := (List.isChain_cons.mp h.apart).1 q rfl
    cases q with
    | literal text => exact absurd ⟨rfl, rfl⟩ hq
    | reference name => simp [written, Part.chars]

end Readable

/-! ## Reading -/

theorem splitBrace_append {name : List Char} (h : '\x7d' ∉ name) (rest : List Char) :
    splitBrace (name ++ '\x7d' :: rest) = (name, some rest) := by
  induction name with
  | nil => simp [splitBrace]
  | cons c name ih =>
    rw [List.mem_cons, not_or] at h
    obtain ⟨hc, hname⟩ := h
    rw [List.cons_append, splitBrace, if_neg (Ne.symm hc), ih hname]
    rfl

theorem splitBrace_of_not_mem {name : List Char} (h : '\x7d' ∉ name) :
    splitBrace name = (name, none) := by
  induction name with
  | nil => rfl
  | cons c name ih =>
    rw [List.mem_cons, not_or] at h
    obtain ⟨hc, hname⟩ := h
    rw [splitBrace, if_neg (Ne.symm hc), ih hname]
    rfl

theorem splitBrace_eq_none_iff {cs name : List Char} :
    splitBrace cs = (name, none) ↔ cs = name ∧ '\x7d' ∉ name := by
  constructor
  · intro h
    by_cases hcs : '\x7d' ∈ cs
    · obtain ⟨name, rest, rfl, hname⟩ := List.eq_append_cons_of_mem hcs
      rw [splitBrace_append hname] at h
      cases h
    · rw [splitBrace_of_not_mem hcs] at h
      cases h
      exact ⟨rfl, hcs⟩
  · rintro ⟨rfl, h⟩
    exact splitBrace_of_not_mem h

theorem splitBrace_eq_some_iff {cs name rest : List Char} :
    splitBrace cs = (name, some rest) ↔ cs = name ++ '\x7d' :: rest ∧ '\x7d' ∉ name := by
  constructor
  · intro h
    by_cases hcs : '\x7d' ∈ cs
    · obtain ⟨name, rest, rfl, hname⟩ := List.eq_append_cons_of_mem hcs
      rw [splitBrace_append hname] at h
      cases h
      exact ⟨rfl, hname⟩
    · rw [splitBrace_of_not_mem hcs] at h
      cases h
  · rintro ⟨rfl, h⟩
    exact splitBrace_append h rest

theorem segments_plain {c : Char} {cs : List Char} (h : c = '$' → cs.head? ≠ some '\x7b') :
    segments (c :: cs) = .plain c :: segments cs := by
  rw [segments]
  rintro rest hc rfl
  exact h hc rfl

theorem segments_of_named {rest name after : List Char} (hname : name ≠ [])
    (h : splitBrace rest = (name, some after)) :
    segments ('$' :: '\x7b' :: rest) = .reference (String.ofList name) :: segments after := by
  rw [segments]
  split <;> rename_i heq <;> rw [h] at heq <;> cases heq
  · exact absurd rfl hname
  · rfl

theorem segments_of_unclosed {rest name : List Char} (h : splitBrace rest = (name, none)) :
    segments ('$' :: '\x7b' :: rest) = [.broken (.unterminated (String.ofList name))] := by
  rw [segments]
  split <;> rename_i heq <;> rw [h] at heq <;> cases heq
  rfl

theorem segments_of_unnamed {rest after : List Char} (h : splitBrace rest = ([], some after)) :
    segments ('$' :: '\x7b' :: rest) = [.broken .unnamed] := by
  rw [segments]
  split <;> rename_i heq <;> rw [h] at heq <;> cases heq
  contradiction

theorem segments_reference {name : String} (h : (Part.reference name).Readable)
    (rest : List Char) :
    segments ((Part.reference name).chars ++ rest) = .reference name :: segments rest := by
  obtain ⟨hname, hbrace⟩ := h
  rw [Part.chars, List.cons_append, List.cons_append, List.append_assoc, List.singleton_append,
    segments_of_named (mt String.toList_eq_nil_iff.mp hname) (splitBrace_append hbrace rest),
    String.ofList_toList]

theorem segments_breakage {b : Breakage} (h : b.Holds) : segments b.chars = [.broken b.error] := by
  cases b with
  | unterminated name =>
    rw [Breakage.chars, segments_of_unclosed (splitBrace_of_not_mem h), String.ofList_toList]
    rfl
  | unnamed rest => exact segments_of_unnamed rfl

/-- A reference is opened by the first two characters or further on. -/
theorem not_opens_cons_iff {c : Char} {cs : List Char} :
    ¬ ['$', '\x7b'] <:+: c :: cs ↔
      (c = '$' → cs.head? ≠ some '\x7b') ∧ ¬ ['$', '\x7b'] <:+: cs := by
  have hstart : ['\x7b'] <+: cs ↔ cs.head? = some '\x7b' := by
    cases cs <;> simp [List.cons_prefix_cons, eq_comm]
  rw [List.infix_cons_iff, not_or, List.cons_prefix_cons, hstart, not_and]
  exact and_congr_left' (imp_congr_left eq_comm)

/-- A character goes on in the literal that follows it, or is a literal of its own. -/
theorem Readable.exists_plain {parts : List Part} (h : Readable parts) {c : Char}
    {rest : List Char} (hc : c = '$' → (written parts ++ rest).head? ≠ some '\x7b') :
    ∃ parts', Readable parts' ∧ written parts' = c :: written parts := by
  have hsingle : (Part.literal (String.singleton c)).Readable := by
    rw [Part.Readable, String.toList_singleton]
    exact not_opens_cons_iff.mpr ⟨fun _ => by simp, by simp⟩
  cases parts with
  | nil =>
    exact ⟨[.literal (String.singleton c)], .singleton hsingle, by simp [written, Part.chars]⟩
  | cons p parts =>
    cases p with
    | reference name =>
      refine ⟨_, .cons hsingle h ?_, by simp [written, Part.chars]⟩
      rintro q ⟨⟩ ⟨-, hq⟩
      cases hq
    | literal text =>
      have htext : c = '$' → text.toList.head? ≠ some '\x7b' := by
        intro hdollar hbrace
        refine hc hdollar ?_
        rw [written, List.flatMap_cons, Part.chars, List.append_assoc, List.head?_append, hbrace]
        rfl
      refine ⟨.literal (String.singleton c ++ text) :: parts, .cons ?_ h.tail ?_,
        by simp [written, Part.chars]⟩
      · rw [Part.Readable, String.toList_append, String.toList_singleton]
        exact not_opens_cons_iff.mpr ⟨htext, h.part _ List.mem_cons_self⟩
      · exact (List.isChain_cons.mp h.apart).1

/-- Every text has parts that can be told apart, and perhaps a broken reference behind them. -/
theorem exists_reading (cs : List Char) :
    ∃ (parts : List Part) (b : Option Breakage), Readable parts ∧ (∀ x ∈ b, x.Holds) ∧
      cs = written parts ++ Breakage.rest b := by
  fun_induction segments cs with
  | case1 => exact ⟨[], none, .nil, nofun, rfl⟩
  | case2 rest name hsplit =>
    obtain ⟨rfl, hname⟩ := splitBrace_eq_none_iff.mp hsplit
    refine ⟨[], some (.unterminated (String.ofList rest)), .nil, ?_, ?_⟩
    · rintro _ ⟨⟩
      rwa [Breakage.Holds, String.toList_ofList]
    · simp [written, Breakage.rest, Breakage.chars]
  | case3 rest after hsplit =>
    obtain ⟨rfl, -⟩ := splitBrace_eq_some_iff.mp hsplit
    refine ⟨[], some (.unnamed (String.ofList after)), .nil, ?_, ?_⟩
    · rintro _ ⟨⟩
      trivial
    · simp [written, Breakage.rest, Breakage.chars]
  | case4 rest name after hne hsplit ih =>
    obtain ⟨rfl, hname⟩ := splitBrace_eq_some_iff.mp hsplit
    obtain ⟨parts, b, hparts, hb, rfl⟩ := ih
    refine ⟨.reference (String.ofList name) :: parts, b, .cons ⟨?_, ?_⟩ hparts ?_, hb, ?_⟩
    · exact fun h => hne (by simpa using h)
    · rwa [String.toList_ofList]
    · rintro q - ⟨h, -⟩
      cases h
    · simp [written, Part.chars]
  | case5 c cs hc ih =>
    obtain ⟨parts, b, hparts, hb, rfl⟩ := ih
    have hplain : c = '$' → (written parts ++ Breakage.rest b).head? ≠ some '\x7b' := by
      intro hdollar hbrace
      obtain ⟨rest, hrest⟩ := List.head?_eq_some_iff.mp hbrace
      exact hc rest hdollar hrest
    obtain ⟨parts', hparts', hwritten⟩ := hparts.exists_plain hplain
    exact ⟨parts', b, hparts', hb, by rw [hwritten, List.cons_append]⟩

/-! ## Replacing -/

/-- The characters that segments are replaced by. -/
def replaced (env : Environment) (segs : List Segment) : Except ExpansionError (List Char) :=
  (segs.mapM (Segment.expand env)).map List.flatten

theorem expand_eq (env : Environment) (text : String) :
    expand env text = (replaced env (segments text.toList)).map String.ofList := by
  rw [expand, replaced]
  cases (segments text.toList).mapM (Segment.expand env) <;> rfl

section

variable {env : Environment}

theorem replaced_cons_of_ok {s : Segment} {cs : List Char} (h : s.expand env = .ok cs)
    (segs : List Segment) : replaced env (s :: segs) = (replaced env segs).map (cs ++ ·) := by
  rw [replaced, List.mapM_cons, h, replaced]
  cases segs.mapM (Segment.expand env) <;> rfl

theorem replaced_cons_of_error {s : Segment} {error : ExpansionError}
    (h : s.expand env = .error error) (segs : List Segment) :
    replaced env (s :: segs) = .error error := by
  rw [replaced, List.mapM_cons, h]
  rfl

/-- A literal stays as it is. -/
theorem replaced_literal {cs rest : List Char} (hcs : ¬ ['$', '\x7b'] <:+: cs)
    (hrest : rest.head? ≠ some '\x7b') :
    replaced env (segments (cs ++ rest)) = (replaced env (segments rest)).map (cs ++ ·) := by
  induction cs with
  | nil =>
    rw [List.nil_append]
    cases replaced env (segments rest) <;> rfl
  | cons c cs ih =>
    obtain ⟨hc, hcs⟩ := not_opens_cons_iff.mp hcs
    have hplain : c = '$' → (cs ++ rest).head? ≠ some '\x7b' := by
      intro hdollar
      cases cs with
      | nil => exact hrest
      | cons d cs => exact hc hdollar
    rw [List.cons_append, segments_plain hplain, replaced_cons_of_ok rfl, ih hcs]
    cases replaced env (segments rest) <;> rfl

/-- The parts of a text are replaced one by one, up to the first variable that is not set. -/
theorem replaced_written {parts : List Part} (h : Readable parts) {rest : List Char}
    (hrest : rest.head? ≠ some '\x7b') :
    replaced env (segments (written parts ++ rest)) =
      (unset? env parts).elim
        ((replaced env (segments rest)).map ((String.join (parts.map (Part.value env))).toList ++ ·))
        fun name => .error (.unset name) := by
  induction parts with
  | nil =>
    show replaced env (segments rest) = (replaced env (segments rest)).map _
    cases replaced env (segments rest) <;> rfl
  | cons p parts ih =>
    have hp : p.Readable := h.part p List.mem_cons_self
    rw [written, List.flatMap_cons, List.append_assoc, ← written]
    cases p with
    | literal text =>
      -- a dollar sign at the end of the literal opens no reference: no part starts with a brace
      have hunset : unset? env (.literal text :: parts) = unset? env parts := rfl
      rw [Part.chars, replaced_literal hp (h.head?_written hrest), ih h.tail, hunset]
      cases unset? env parts with
      | some name => rfl
      | none =>
        rw [List.map_cons, String.join_cons, String.toList_append]
        cases replaced env (segments rest) <;> simp [Except.map, Part.value]
    | reference name =>
      rw [segments_reference hp]
      cases hname : env name with
      | none =>
        have hunset : unset? env (.reference name :: parts) = some name := by
          simp [unset?, names, Part.name?, hname]
        rw [hunset, replaced_cons_of_error (by rw [Segment.expand, hname])]
        rfl
      | some value =>
        have hunset : unset? env (.reference name :: parts) = unset? env parts := by
          simp [unset?, names, Part.name?, hname]
        have hvalue : Part.value env (.reference name) = value := by
          rw [Part.value, hname]
          rfl
        rw [hunset, replaced_cons_of_ok (by rw [Segment.expand, hname]), ih h.tail]
        cases unset? env parts with
        | some name => rfl
        | none =>
          rw [List.map_cons, String.join_cons, String.toList_append, hvalue]
          cases replaced env (segments rest) <;> simp [Except.map]

end

/-- What a text is expanded to that has the given parts, and a broken reference behind them if
`b` is one. -/
def outcome (env : Environment) (parts : List Part) (b : Option Breakage) :
    Except ExpansionError String :=
  match unset? env parts, b with
  | some name, _ => .error (.unset name)
  | none, some b => .error b.error
  | none, none => .ok (String.join (parts.map (Part.value env)))

theorem expand_written (env : Environment) {parts : List Part} (h : Readable parts)
    {b : Option Breakage} {text : String}
    (htext : text.toList = written parts ++ Breakage.rest b) (hb : ∀ x ∈ b, x.Holds) :
    expand env text = outcome env parts b := by
  have hrest : (Breakage.rest b).head? ≠ some '\x7b' := by
    rcases b with _ | _ | _ <;> simp [Breakage.rest, Breakage.chars]
  rw [expand_eq, htext, replaced_written h hrest]
  unfold outcome
  cases unset? env parts with
  | some name => rfl
  | none =>
    cases b with
    | some b =>
      have hsegments : segments (Breakage.rest (some b)) = [.broken b.error] :=
        segments_breakage (hb b rfl)
      rw [hsegments]
      rfl
    | none =>
      have hsegments : segments (Breakage.rest none) = [] := segments.eq_1
      rw [hsegments]
      show Except.ok (String.ofList (_ ++ [])) = _
      rw [List.append_nil, String.ofList_toList]

theorem expand_unbroken (env : Environment) {parts : List Part} (h : Readable parts)
    {text : String} (htext : text.toList = written parts) :
    expand env text = outcome env parts none :=
  expand_written env h (htext.trans (List.append_nil _).symm)
    fun x hx => absurd hx (Option.not_mem_none x)

/-- A text without broken references has none however it is read. -/
theorem written_ne_of_breakage {parts parts' : List Part} (h : Readable parts)
    (h' : Readable parts') {b : Breakage} (hb : b.Holds) :
    written parts ≠ written parts' ++ b.chars := by
  intro heq
  -- where all variables are set, one of the two readings gives a text and the other an error
  let env : Environment := fun _ => some ""
  have hset : ∀ parts, unset? env parts = none := fun parts =>
    List.find?_eq_none.mpr (by simp [env])
  have hbroken : (String.ofList (written parts)).toList =
      written parts' ++ Breakage.rest (some b) :=
    String.toList_ofList.trans heq
  have houtcomes : outcome env parts none = outcome env parts' (some b) :=
    (expand_unbroken env h String.toList_ofList).symm.trans
      (expand_written env h' hbroken fun _ hx => Option.some.inj hx ▸ hb)
  unfold outcome at houtcomes
  rw [hset, hset] at houtcomes
  cases houtcomes

end TableGateway.Console
