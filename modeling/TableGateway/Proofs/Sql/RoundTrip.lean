import TableGateway.Proofs.Sql.Grammar

/-!
# Reading what is written

A command that is written down lexeme by lexeme is read as that command (`readCommand_lexemes`), so
no two commands are written alike. Every reader has a lemma of the same form, in which any input can
follow what is read. The input that follows has to meet a condition where it could be taken for a
part of what is read: behind a name there may be neither a point nor an opening parenthesis (`ends`),
and behind a list no separator.
-/

namespace TableGateway.Sql

/-- The input does not go on as a name could: neither with a point nor with a parenthesis. -/
def ends (input : List Lexeme) : Bool :=
  input.head? != some (word ".") && input.head? != some (word "(")

theorem head?_ne_point {input : List Lexeme} (h : ends input = true) :
    input.head? ≠ some (word ".") := by
  simp only [ends, Bool.and_eq_true, bne_iff_ne] at h
  exact h.1

theorem head?_ne_paren {input : List Lexeme} (h : ends input = true) :
    input.head? ≠ some (word "(") := by
  simp only [ends, Bool.and_eq_true, bne_iff_ne] at h
  exact h.2

@[simp] theorem after_nil (input : List Lexeme) : after [] input = some input := rfl

@[simp] theorem after_cons_self (l : Lexeme) (ls input : List Lexeme) :
    after (l :: ls) (l :: input) = after ls input :=
  if_pos (beq_self_eq_true l)

theorem after_append (ls input : List Lexeme) : after ls (ls ++ input) = some input := by
  induction ls with
  | nil => rfl
  | cons l ls ih => rw [List.cons_append, after_cons_self, ih]

/-- What the input does not start with is not taken off it. -/
theorem after_eq_none {l : Lexeme} {ls input : List Lexeme} (h : input.head? ≠ some l) :
    after (l :: ls) input = none := by
  cases input with
  | nil => rfl
  | cons m ms =>
    have hne : ¬ (l == m) = true := by
      rw [beq_iff_eq]
      rintro rfl
      exact h rfl
    exact if_neg hne

theorem head?_ne {k l : Lexeme} (h : k ≠ l) (input : List Lexeme) :
    (k :: input).head? ≠ some l :=
  fun heq => h (Option.some.inj heq)

theorem after_ne {k l : Lexeme} (h : k ≠ l) (ls input : List Lexeme) :
    after (l :: ls) (k :: input) = none :=
  after_eq_none (head?_ne h input)

/-- Lexemes are not taken off an input in which the second is missing. -/
theorem after_second_eq_none (k m : Lexeme) {l : Lexeme} {ls input : List Lexeme}
    (h : input.head? ≠ some l) : after (k :: l :: ls) (m :: input) = none := by
  by_cases hk : k = m
  · rw [hk, after_cons_self, after_eq_none h]
  · apply after_eq_none
    rintro ⟨rfl⟩
    exact hk rfl

/-- An identifier is no mark. -/
theorem word_name_ne (i : Identifier) {k : String}
    (hk : Identifier.wellFormed k.toList = false) : word i.name ≠ word k := by
  intro h
  have hlist : i.name.toList = k.toList := Lexeme.token.inj h
  rw [← hlist, i.valid] at hk
  cases hk

theorem ends_name (i : Identifier) (input : List Lexeme) :
    ends (word i.name :: input) = true := by
  have hpoint : word i.name ≠ word "." := word_name_ne i rfl
  have hparen : word i.name ≠ word "(" := word_name_ne i rfl
  simp only [ends, List.head?_cons, Bool.and_eq_true, bne_iff_ne, ne_eq, Option.some.injEq]
  exact ⟨hpoint, hparen⟩

/-! ## Lists -/

/-- A list is read when its items are, and when no separator follows it. `follows` is what the items
ask of the input behind them. -/
theorem separated_listed {α : Type} {separator : Lexeme} {item : Reader α}
    {write : α → List Lexeme} (follows : List Lexeme → Prop)
    (hitem : ∀ a input, follows input → item (write a ++ input) = some (a, input))
    (hseparator : ∀ input, follows (separator :: input)) (a : α) (as : List α)
    {input : List Lexeme} (hfollows : follows input) (hstop : input.head? ≠ some separator) :
    separated separator item (listed separator ((a :: as).map write) ++ input) =
      some (a :: as, input) := by
  induction as generalizing a with
  | nil =>
    rw [separated, List.map_singleton, listed, List.flatMap_nil, List.append_nil,
      hitem a input hfollows]
    simp only [after_eq_none hstop]
  | cons b bs ih =>
    have hinput : listed separator ((a :: b :: bs).map write) ++ input =
        write a ++ separator :: (listed separator ((b :: bs).map write) ++ input) := by
      simp [listed]
    rw [hinput, separated, hitem a _ (hseparator _)]
    simp only [after_cons_self, after_nil, ih b]
    -- the separator is gone, so the rest is shorter
    rw [if_pos (by simp; omega)]
    rfl

/-! ## Names and operands -/

@[simp] theorem readName_word (i : Identifier) (input : List Lexeme) :
    readName (word i.name :: input) = some (i, input) := by
  have heq : (⟨String.ofList i.name.toList, by simpa using i.valid⟩ : Identifier) = i :=
    Identifier.ext_name String.ofList_toList
  rw [readName, dif_pos i.valid, heq]

@[simp] theorem readNumber_number (n : Nat) (input : List Lexeme) :
    readNumber (number n :: input) = some (n, input) := by
  have h := Text.isNumeral_decimal n
  rw [Text.isNumeral, Text.toList_decimal] at h
  rw [number, readNumber, if_pos h,
    Nat.ofDigitChars_toDigits (b := 10) (by decide) (by decide)]

@[simp] theorem readValue_value (v : String) (input : List Lexeme) :
    readValue (.value v :: input) = some (v, input) := rfl

theorem readReference_lexemes (r : Reference) {input : List Lexeme}
    (h : input.head? ≠ some (word ".")) :
    readReference (r.lexemes ++ input) = some (r, input) := by
  obtain ⟨_ | q, c⟩ := r
  · simp only [Reference.lexemes, List.cons_append, List.nil_append, readReference, readName_word,
      Option.bind_eq_bind, Option.bind_some, after_eq_none h]
  · simp only [Reference.lexemes, List.cons_append, List.nil_append, readReference, readName_word,
      Option.bind_eq_bind, Option.bind_some, after_cons_self, after_nil]

theorem readScalar_lexemes (s : Scalar) {input : List Lexeme} (h : ends input = true) :
    readScalar (s.lexemes ++ input) = some (s, input) := by
  cases s with
  | value v => rfl
  | column r =>
    have hvalue : readValue (r.lexemes ++ input) = none := by
      obtain ⟨_ | q, c⟩ := r <;> rfl
    rw [Scalar.lexemes, readScalar, hvalue, readReference_lexemes r (head?_ne_point h)]
    rfl

/-- No column is read as a keyword with a parenthesis. -/
theorem after_paren_reference (k : Lexeme) (ls : List Lexeme) (r : Reference)
    {input : List Lexeme} (h : ends input = true) :
    after (k :: word "(" :: ls) (r.lexemes ++ input) = none := by
  obtain ⟨_ | q, c⟩ := r
  · exact after_second_eq_none _ _ (head?_ne_paren h)
  · refine after_second_eq_none _ _ ?_
    exact head?_ne (by decide) _

theorem after_paren_scalar (k : String) (s : Scalar) {input : List Lexeme}
    (h : ends input = true) : after [word k, word "("] (s.lexemes ++ input) = none := by
  cases s with
  | column r => exact after_paren_reference _ _ r h
  | value v => exact after_ne (by rintro ⟨⟩) _ _

theorem readOperand_lexemes (x : Operand) {input : List Lexeme} (h : ends input = true) :
    readOperand (x.lexemes ++ input) = some (x, input) := by
  cases x with
  | plain s =>
    rw [Operand.lexemes, readOperand, after_paren_scalar "LOWER" s h, readScalar_lexemes s h]
    rfl
  | lowered s =>
    have hs := readScalar_lexemes s (show ends (word ")" :: input) = true from rfl)
    simp only [Operand.lexemes, List.cons_append, List.append_assoc, List.nil_append, readOperand,
      after_cons_self, after_nil, hs, Option.bind_eq_bind, Option.bind_some]

/-! ## Conditions -/

theorem readComparator_lexeme (c : Comparator) (input : List Lexeme) :
    readComparator (c.lexeme :: input) = some (c, input) := by
  cases c <;> rfl

theorem readPredicate_lexemes (p : Predicate) {input : List Lexeme} (h : ends input = true) :
    readPredicate (p.lexemes ++ input) = some (p, input) := by
  cases p with
  | compare x c y =>
    -- no comparator is the first word of another test
    have hends : ends (c.lexeme :: (y.lexemes ++ input)) = true := by cases c <;> rfl
    have hx := readOperand_lexemes x hends
    have hnull : ∀ ls, after (word "IS" :: ls) (c.lexeme :: (y.lexemes ++ input)) = none :=
      fun ls => after_ne (by cases c <;> decide) _ _
    have hbetween : after [word "BETWEEN"] (c.lexeme :: (y.lexemes ++ input)) = none :=
      after_ne (by cases c <;> decide) _ _
    simp only [Predicate.lexemes, List.append_assoc, List.cons_append, readPredicate, hx, readTest,
      hnull, hbetween, readComparator_lexeme, readOperand_lexemes y h, Option.bind_eq_bind,
      Option.bind_some]
  | between x low high =>
    have hx := readOperand_lexemes x (show ends (word "BETWEEN" ::
      (low.lexemes ++ word "AND" :: (high.lexemes ++ input))) = true from rfl)
    have hlow := readOperand_lexemes low
      (show ends (word "AND" :: (high.lexemes ++ input)) = true from rfl)
    have hnull : ∀ ls ms, after (word "IS" :: ls) (word "BETWEEN" :: ms) = none :=
      after_ne (by decide)
    simp only [Predicate.lexemes, List.append_assoc, List.cons_append, readPredicate, hx, readTest,
      hnull, after_cons_self, after_nil, hlow, readOperand_lexemes high h, Option.bind_eq_bind,
      Option.bind_some]
  | isNull x =>
    have hx := readOperand_lexemes x
      (show ends (word "IS" :: word "NULL" :: input) = true from rfl)
    simp only [Predicate.lexemes, List.append_assoc, List.cons_append, List.nil_append,
      readPredicate, hx, readTest, after_cons_self, after_nil, Option.bind_eq_bind,
      Option.bind_some]
  | isNotNull x =>
    have hx := readOperand_lexemes x
      (show ends (word "IS" :: word "NOT" :: word "NULL" :: input) = true from rfl)
    have hnull : after [word "NULL"] (word "NOT" :: word "NULL" :: input) = none :=
      after_ne (by decide) _ _
    simp only [Predicate.lexemes, List.append_assoc, List.cons_append, List.nil_append,
      readPredicate, hx, readTest, after_cons_self, after_nil, hnull, Option.bind_eq_bind,
      Option.bind_some]

/-- An operand that something is said of is not read as a negation. -/
theorem after_not_operand (x : Operand) {input : List Lexeme} (h : ends input = true) :
    after [word "NOT", word "("] (x.lexemes ++ input) = none := by
  cases x with
  | plain s => exact after_paren_scalar "NOT" s h
  | lowered s => exact after_ne (by decide) _ _

theorem after_not_predicate (p : Predicate) (input : List Lexeme) :
    after [word "NOT", word "("] (p.lexemes ++ input) = none := by
  cases p with
  | compare x c y =>
    rw [Predicate.lexemes, List.append_assoc]
    exact after_not_operand x (by cases c <;> rfl)
  | between x low high =>
    rw [Predicate.lexemes, List.append_assoc, List.append_assoc]
    exact after_not_operand x rfl
  | isNull x =>
    rw [Predicate.lexemes, List.append_assoc]
    exact after_not_operand x rfl
  | isNotNull x =>
    rw [Predicate.lexemes, List.append_assoc]
    exact after_not_operand x rfl

theorem readFactor_lexemes (f : Factor) {input : List Lexeme} (h : ends input = true) :
    readFactor (f.lexemes ++ input) = some (f, input) := by
  cases f with
  | plain p =>
    rw [Factor.lexemes, readFactor, after_not_predicate p input, readPredicate_lexemes p h]
    rfl
  | negated p =>
    have hp := readPredicate_lexemes p (show ends (word ")" :: input) = true from rfl)
    simp only [Factor.lexemes, List.cons_append, List.append_assoc, List.nil_append, readFactor,
      after_cons_self, after_nil, hp, Option.bind_eq_bind, Option.bind_some]

/-! ## Queries -/

theorem readTableName_lexemes (t : TableName) {input : List Lexeme}
    (h : input.head? ≠ some (word ".")) : readTableName (t.lexemes ++ input) = some (t, input) := by
  simp only [TableName.lexemes, readTableName, readReference_lexemes ⟨t.schema, t.table⟩ h,
    Option.bind_eq_bind, Option.bind_some]

/-- The name by which the query calls its table is not taken for the start of a clause. -/
def Source.WellLabelled (s : Source) : Prop := ∀ l ∈ s.label, l.name ∉ clauseWords

theorem readSource_lexemes {s : Source} (hs : s.WellLabelled) {input : List Lexeme}
    (h : ends input = true) (hlabel : startsLabel input = false) :
    readSource (s.lexemes ++ input) = some (s, input) := by
  obtain ⟨t, _ | l⟩ := s
  · have ht := readTableName_lexemes t (head?_ne_point h)
    simp only [Source.lexemes, Option.toList_none, List.map_nil, List.append_nil, readSource, ht,
      Option.bind_eq_bind, Option.bind_some, hlabel, Bool.false_eq_true, if_false]
  · have ht := readTableName_lexemes t (head?_ne_point (ends_name l input))
    have hstarts : startsLabel (word l.name :: input) = true := by
      have hl : l.name ∉ clauseWords := hs l rfl
      simp [startsLabel, l.valid, hl]
    simp only [Source.lexemes, Option.toList_some, List.map_cons, List.map_nil, List.append_assoc,
      List.cons_append, List.nil_append, readSource, ht, Option.bind_eq_bind, Option.bind_some,
      hstarts, if_true, readName_word]

/-- The rows of a query end here: a word that starts what comes behind the rows, or nothing. -/
def endsRows (input : List Lexeme) : Bool :=
  input.head?.all ([word "ORDER", word "LIMIT", word "OFFSET", word ")"].contains ·)

theorem endsRows_cases {input : List Lexeme} (h : endsRows input = true) :
    input = [] ∨ ∃ k ∈ ["ORDER", "LIMIT", "OFFSET", ")"], ∃ more, input = word k :: more := by
  cases input with
  | nil => exact .inl rfl
  | cons l ls =>
    right
    simp only [endsRows, List.head?_cons, Option.all_some, List.contains_iff_mem, List.mem_cons,
      List.not_mem_nil, or_false] at h
    rcases h with rfl | rfl | rfl | rfl
    · exact ⟨"ORDER", by simp, ls, rfl⟩
    · exact ⟨"LIMIT", by simp, ls, rfl⟩
    · exact ⟨"OFFSET", by simp, ls, rfl⟩
    · exact ⟨")", by simp, ls, rfl⟩

/-- What comes behind the rows is no part of a name, a label or a condition. -/
theorem endsRows_spec {input : List Lexeme} (h : endsRows input = true) :
    ends input = true ∧ startsLabel input = false ∧ input.head? ≠ some (word "WHERE") ∧
      input.head? ≠ some (word "AND") := by
  obtain rfl | ⟨k, hk, more, rfl⟩ := endsRows_cases h
  · exact ⟨rfl, rfl, nofun, nofun⟩
  · simp only [List.mem_cons, List.not_mem_nil, or_false] at hk
    rcases hk with rfl | rfl | rfl | rfl
    all_goals exact ⟨rfl, rfl, head?_ne (by decide) _, head?_ne (by decide) _⟩

theorem readWhere_lexemes (fs : List Factor) {input : List Lexeme} (h : endsRows input = true) :
    readWhere (whereLexemes fs ++ input) = some (fs, input) := by
  obtain ⟨hends, -, hwhere, hand⟩ := endsRows_spec h
  cases fs with
  | nil => simp only [whereLexemes, List.nil_append, readWhere, after_eq_none hwhere]
  | cons f fs =>
    have hlist : separated (word "AND") readFactor
        (listed (word "AND") ((f :: fs).map Factor.lexemes) ++ input) = some (f :: fs, input) :=
      separated_listed (ends · = true) (fun f _ hf => readFactor_lexemes f hf) (fun _ => rfl) f fs
        hends hand
    simp only [whereLexemes, List.cons_append, readWhere, after_cons_self, after_nil, hlist]

theorem readRows_lexemes {r : Rows} (hr : r.source.WellLabelled) {input : List Lexeme}
    (h : endsRows input = true) : readRows (r.lexemes ++ input) = some (r, input) := by
  obtain ⟨s, fs⟩ := r
  obtain ⟨hends, hlabel, -, -⟩ := endsRows_spec h
  have hsource : readSource (s.lexemes ++ (whereLexemes fs ++ input)) =
      some (s, whereLexemes fs ++ input) := by
    cases fs with
    | nil => exact readSource_lexemes hr hends hlabel
    | cons f fs => exact readSource_lexemes hr rfl rfl
  simp only [Rows.lexemes, List.cons_append, List.append_assoc, readRows, after_cons_self,
    after_nil, hsource, readWhere_lexemes fs h, Option.bind_eq_bind, Option.bind_some]

theorem readProjection_lexemes (p : Projection) {input : List Lexeme}
    (h : input.head? = some (word "FROM")) :
    readProjection (p.lexemes ++ input) = some (p, input) := by
  obtain ⟨more, rfl⟩ : ∃ more, input = word "FROM" :: more := by
    cases input with
    | nil => cases h
    | cons l ls => cases h; exact ⟨ls, rfl⟩
  have hstar : ∀ (i : Identifier) (ls : List Lexeme), after [word "*"] (word i.name :: ls) = none :=
    fun i ls => after_eq_none fun h => word_name_ne i rfl (Option.some.inj h)
  match p with
  | .all none => rfl
  | .all (some q) =>
    simp only [Projection.lexemes, List.cons_append, List.nil_append, readProjection, hstar,
      readName_word, after_cons_self, after_nil]
  | .columns r rs =>
    have hlist : separated (word ",") readReference
        (listed (word ",") ((r :: rs).map Reference.lexemes) ++ word "FROM" :: more) =
          some (r :: rs, word "FROM" :: more) :=
      separated_listed (·.head? ≠ some (word ".")) (fun r _ hr => readReference_lexemes r hr)
        (fun _ => head?_ne (by decide) _) r rs (head?_ne (by decide) _) (head?_ne (by decide) _)
    -- a list of columns starts with a name, but not with all columns of a table
    have hopening : ∃ (i : Identifier) (rest : List Lexeme),
        (Projection.columns r rs).lexemes ++ word "FROM" :: more = word i.name :: rest ∧
          after [word ".", word "*"] rest = none := by
      obtain ⟨_ | q, c⟩ := r
      · refine ⟨c, _, rfl, after_eq_none ?_⟩
        cases rs <;> exact head?_ne (by decide) _
      · exact ⟨q, _, rfl, (after_cons_self _ _ _).trans (hstar c _)⟩
    obtain ⟨i, rest, heq, hrest⟩ := hopening
    rw [Projection.lexemes] at heq ⊢
    rw [heq] at hlist ⊢
    simp only [readProjection, hstar, readName_word, hrest, hlist]

theorem readOrderItem_lexemes (o : OrderItem) (input : List Lexeme) :
    readOrderItem (o.lexemes ++ input) = some (o, input) := by
  obtain ⟨r, d⟩ := o
  have hr := readReference_lexemes r
    (show (word d.sql :: input).head? ≠ _ from head?_ne (by cases d <;> decide) _)
  have hd : directions.find? (fun e => word e.sql = word d.sql) = some d := by cases d <;> rfl
  simp only [OrderItem.lexemes, List.append_assoc, List.cons_append, List.nil_append,
    readOrderItem, hr, hd, Option.bind_eq_bind, Option.bind_some, Option.map_some]

theorem readOrder_lexemes (o : Option OrderItem) {input : List Lexeme}
    (h : input.head? ≠ some (word "ORDER")) :
    readOrder (orderLexemes o ++ input) = some (o, input) := by
  cases o with
  | none => simp only [orderLexemes, List.nil_append, readOrder, after_eq_none h]
  | some o =>
    simp only [orderLexemes, List.cons_append, readOrder, after_cons_self, after_nil,
      readOrderItem_lexemes, Option.map_some]

theorem readWindow_lexemes (w : Option Window) :
    readWindow (w.elim [] Window.lexemes) = some (w, []) := by
  have hcomma : ∀ ls, after [word ","] (word "OFFSET" :: ls) = none := after_ne (by decide) _
  have hlimit : ∀ ls, after [word "LIMIT"] (word "OFFSET" :: ls) = none := after_ne (by decide) _
  match w with
  | none => rfl
  | some (.limitOffset n s) =>
    simp only [Option.elim_some, Window.lexemes, readWindow, after_cons_self, after_nil,
      readNumber_number, hcomma, Option.bind_eq_bind, Option.bind_some]
  | some (.limitComma s n) =>
    simp only [Option.elim_some, Window.lexemes, readWindow, after_cons_self, after_nil,
      readNumber_number, Option.bind_eq_bind, Option.bind_some]
  | some (.offsetFetch s n) =>
    simp only [Option.elim_some, Window.lexemes, readWindow, after_cons_self, after_nil, hlimit,
      readNumber_number, Option.bind_eq_bind, Option.bind_some]

theorem endsRows_order (o : Option OrderItem) (w : Option Window) :
    endsRows (orderLexemes o ++ w.elim [] Window.lexemes) = true := by
  obtain _ | o := o
  · obtain _ | _ | _ | _ := w <;> rfl
  · rfl

theorem readPlain_lexemes (p : Projection) {r : Rows} (hr : r.source.WellLabelled)
    (o : Option OrderItem) (w : Option Window) :
    readPlain (Query.plain p r o w).lexemes = some (.plain p r o w, []) := by
  have horder : (w.elim [] Window.lexemes).head? ≠ some (word "ORDER") := by
    obtain _ | _ | _ | _ := w
    · exact nofun
    all_goals exact head?_ne (by decide) _
  have hp := readProjection_lexemes p
    (show (r.lexemes ++ (orderLexemes o ++ w.elim [] Window.lexemes)).head? = _ from rfl)
  simp only [Query.lexemes, List.cons_append, List.append_assoc, readPlain, after_cons_self,
    after_nil, hp, readRows_lexemes hr (endsRows_order o w), readOrder_lexemes o horder,
    readWindow_lexemes, Option.bind_eq_bind, Option.bind_some]

theorem readDerived_lexemes (l : Option Identifier) {input : List Lexeme}
    (h : input.head? ≠ some (word "AS")) :
    readDerived (derivedLexemes l ++ input) = some (l, input) := by
  cases l with
  | none => simp only [derivedLexemes, Option.elim_none, List.nil_append, readDerived,
      after_eq_none h]
  | some l =>
    simp only [derivedLexemes, Option.elim_some, List.cons_append, List.nil_append, readDerived,
      after_cons_self, after_nil, readName_word, Option.map_some]

theorem readNumbered_lexemes (o : OrderItem) (p : Projection) {r : Rows}
    (hr : r.source.WellLabelled) (l : Option Identifier) (first last : Nat) :
    ∃ input, (Query.numbered o p r l first last).lexemes = numberedOpening ++ input ∧
      readNumbered input = some (.numbered o p r l first last, []) := by
  refine ⟨o.lexemes ++ (numberedColumn ++ (p.lexemes ++ (r.lexemes ++ word ")" ::
    (derivedLexemes l ++ [word "WHERE", word "ROW_NUMBER", word "BETWEEN", number first,
      word "AND", number last])))), ?_, ?_⟩
  · simp only [Query.lexemes, List.append_assoc, List.cons_append]
  · have hp := readProjection_lexemes p (show (r.lexemes ++ word ")" ::
      (derivedLexemes l ++ [word "WHERE", word "ROW_NUMBER", word "BETWEEN", number first,
        word "AND", number last])).head? = _ from rfl)
    have hrows := readRows_lexemes hr (show endsRows (word ")" ::
      (derivedLexemes l ++ [word "WHERE", word "ROW_NUMBER", word "BETWEEN", number first,
        word "AND", number last])) = true from rfl)
    have hderived := readDerived_lexemes l (show [word "WHERE", word "ROW_NUMBER",
      word "BETWEEN", number first, word "AND", number last].head? ≠ _ from
        head?_ne (by decide) _)
    simp only [readNumbered, readOrderItem_lexemes, after_append, hp, hrows, hderived,
      after_cons_self, after_nil, readNumber_number, Option.bind_eq_bind, Option.bind_some]

/-- A query without numbering is not read as one that numbers its rows or counts them. -/
theorem after_openings_plain (p : Projection) (r : Rows) (o : Option OrderItem)
    (w : Option Window) :
    after numberedOpening (Query.plain p r o w).lexemes = none ∧
      after countOpening (Query.plain p r o w).lexemes = none := by
  obtain ⟨s, fs⟩ := r
  obtain ⟨rest, hrest⟩ : ∃ rest, (Query.plain p ⟨s, fs⟩ o w).lexemes =
      word "SELECT" :: (p.lexemes ++ word "FROM" :: (s.name.lexemes ++ rest)) :=
    ⟨s.label.toList.map (fun l => word l.name) ++ (whereLexemes fs ++ (orderLexemes o ++
      w.elim [] Window.lexemes)), by
      simp only [Query.lexemes, Rows.lexemes, Source.lexemes, List.cons_append, List.append_assoc]⟩
  rw [hrest, numberedOpening, countOpening, after_cons_self, after_cons_self]
  match p with
  | .all none =>
    -- behind `SELECT * FROM` there is a name here and a parenthesis where rows are numbered
    have htable : (s.name.lexemes ++ rest).head? ≠ some (word "(") := by
      obtain ⟨⟨_ | q, c⟩, _⟩ := s
      · exact fun h => word_name_ne c rfl (Option.some.inj h)
      · exact fun h => word_name_ne q rfl (Option.some.inj h)
    simp only [Projection.lexemes, List.cons_append, List.nil_append, after_cons_self]
    exact ⟨after_eq_none htable, after_ne (by decide) _ _⟩
  | .all (some q) =>
    exact ⟨after_eq_none fun h => word_name_ne q rfl (Option.some.inj h),
      after_second_eq_none _ _ (head?_ne (by decide) _)⟩
  | .columns c cs =>
    -- a column can be called `ROW_NUMBER` or `COUNT`, but no parenthesis follows it
    have hends : ends ((cs.map Reference.lexemes).flatMap (word "," :: ·) ++
        word "FROM" :: (s.name.lexemes ++ rest)) = true := by
      cases cs <;> rfl
    have hstar : ∀ input, (c.lexemes ++ input).head? ≠ some (word "*") := by
      intro input
      obtain ⟨_ | q, c⟩ := c
      · exact fun h => word_name_ne c rfl (Option.some.inj h)
      · exact fun h => word_name_ne q rfl (Option.some.inj h)
    rw [Projection.lexemes, List.map_cons, listed, List.append_assoc]
    exact ⟨after_eq_none (hstar _), after_paren_reference _ _ c hends⟩

theorem readQuery_lexemes {q : Query} (hq : q.rows.source.WellLabelled) :
    readQuery q.lexemes = some (q, []) := by
  cases q with
  | plain p r o w =>
    have hr : r.source.WellLabelled := hq
    obtain ⟨hnumbered, hcount⟩ := after_openings_plain p r o w
    simp only [readQuery, hnumbered, hcount, readPlain_lexemes p hr o w]
  | numbered o p r l first last =>
    have hr : r.source.WellLabelled := hq
    obtain ⟨input, heq, hread⟩ := readNumbered_lexemes o p hr l first last
    rw [readQuery, heq, after_append]
    exact hread
  | count r =>
    have hrows : readRows (r.lexemes ++ []) = some (r, []) := readRows_lexemes hq rfl
    have hnumbered : after numberedOpening (countOpening ++ r.lexemes) = none := by
      rw [numberedOpening, countOpening, List.cons_append, after_cons_self]
      exact after_ne (by decide) _ _
    rw [List.append_nil] at hrows
    rw [readQuery, Query.lexemes, hnumbered, after_append]
    simp only [hrows, Option.map_some]

/-! ## Commands -/

theorem readEquation_lexemes (e : Equation) (input : List Lexeme) :
    readEquation (e.lexemes ++ input) = some (e, input) := by
  have hr := readReference_lexemes e.reference
    (show (word "=" :: .value e.value :: input).head? ≠ _ from head?_ne (by decide) _)
  simp only [Equation.lexemes, List.append_assoc, List.cons_append, List.nil_append, readEquation,
    hr, after_cons_self, after_nil, readValue_value, Option.bind_eq_bind, Option.bind_some]

theorem readValues_lexemes {vs : List String} (hvs : vs ≠ []) (input : List Lexeme) :
    separated (word ",") readValue
      (listed (word ",") (vs.map fun v => [.value v]) ++ word ")" :: input) =
        some (vs, word ")" :: input) := by
  cases vs with
  | nil => exact absurd rfl hvs
  | cons v vs =>
    exact separated_listed (fun _ => True) (fun v input _ => readValue_value v input)
      (fun _ => trivial) v vs trivial (head?_ne (by decide) _)

theorem readArguments_lexemes (vs : List String) (input : List Lexeme) :
    readArguments (listed (word ",") (vs.map fun v => [.value v]) ++ word ")" :: input) =
      some (vs, input) := by
  cases vs with
  | nil => simp only [List.map_nil, listed, List.nil_append, readArguments, after_cons_self,
      after_nil]
  | cons v vs =>
    have hvs := readValues_lexemes (List.cons_ne_nil v vs) input
    have hclose : after [word ")"]
        (listed (word ",") ((v :: vs).map fun v => [.value v]) ++ word ")" :: input) = none :=
      after_eq_none (by rintro ⟨⟩)
    simp only [readArguments, hclose, hvs, after_cons_self, after_nil, Option.bind_eq_bind,
      Option.bind_some]

/-- The command can be told from others by its lexemes: no name of a table is a clause word, and
where there has to be a list it is not empty. -/
def Command.WellFormed : Command → Prop
  | query q => q.rows.source.WellLabelled
  | insert _ columns values => columns ≠ [] ∧ values ≠ []
  | update _ sets _ => sets ≠ []
  | delete .. => True
  | call .. => True

theorem readInsert_lexemes (t : TableName) {cs : List Identifier} {vs : List String}
    (hcs : cs ≠ []) (hvs : vs ≠ []) :
    readCommand (Command.insert t cs vs).lexemes = some (.insert t cs vs, []) := by
  have hcolumns : ∀ input, separated (word ",") readName
      (listed (word ",") (cs.map fun c => [word c.name]) ++ word ")" :: input) =
        some (cs, word ")" :: input) := by
    obtain ⟨c, cs, rfl⟩ := List.exists_cons_of_ne_nil hcs
    exact fun input => separated_listed (fun _ => True)
      (fun c input _ => readName_word c input) (fun _ => trivial) c cs trivial
      (head?_ne (by decide) _)
  have ht := fun input => readTableName_lexemes t
    (show (word "(" :: input).head? ≠ _ from head?_ne (by decide) _)
  simp only [Command.lexemes, List.append_assoc, List.cons_append, readCommand, after_cons_self,
    after_nil, readInsert, ht, hcolumns, readValues_lexemes hvs, Option.bind_eq_bind,
    Option.bind_some]

theorem readUpdate_lexemes (t : TableName) {es : List Equation} (hes : es ≠ []) (key : Equation) :
    readCommand (Command.update t es key).lexemes = some (.update t es key, []) := by
  have hsets : ∀ input, separated (word ",") readEquation
      (listed (word ",") (es.map Equation.lexemes) ++ word "WHERE" :: input) =
        some (es, word "WHERE" :: input) := by
    obtain ⟨e, es, rfl⟩ := List.exists_cons_of_ne_nil hes
    exact fun input => separated_listed (fun _ => True)
      (fun e input _ => readEquation_lexemes e input) (fun _ => trivial) e es trivial
      (head?_ne (by decide) _)
  have ht := fun input => readTableName_lexemes t
    (show (word "SET" :: input).head? ≠ _ from head?_ne (by decide) _)
  have hkey := readEquation_lexemes key []
  have hinsert : ∀ ls input, after (word "INSERT" :: ls) (word "UPDATE" :: input) = none :=
    after_ne (by decide)
  rw [List.append_nil] at hkey
  simp only [Command.lexemes, List.append_assoc, List.cons_append, readCommand, hinsert,
    after_cons_self, after_nil, readUpdate, ht, hsets, hkey, Option.bind_eq_bind,
    Option.bind_some]

theorem readDelete_lexemes (t : TableName) (key : Equation) :
    readCommand (Command.delete t key).lexemes = some (.delete t key, []) := by
  have ht := fun input => readTableName_lexemes t
    (show (word "WHERE" :: input).head? ≠ _ from head?_ne (by decide) _)
  have hkey := readEquation_lexemes key []
  have hinsert : ∀ ls input, after (word "INSERT" :: ls) (word "DELETE" :: input) = none :=
    after_ne (by decide)
  have hupdate : ∀ ls input, after (word "UPDATE" :: ls) (word "DELETE" :: input) = none :=
    after_ne (by decide)
  rw [List.append_nil] at hkey
  simp only [Command.lexemes, List.cons_append, readCommand, hinsert, hupdate, after_cons_self,
    after_nil, readDelete, ht, hkey, Option.bind_eq_bind, Option.bind_some]

theorem readCall_lexemes (p : Identifier) (vs : List String) :
    readCommand (Command.call p vs).lexemes = some (.call p vs, []) := by
  have hinsert : ∀ ls input, after (word "INSERT" :: ls) (word "\x7b" :: input) = none :=
    after_ne (by decide)
  have hupdate : ∀ ls input, after (word "UPDATE" :: ls) (word "\x7b" :: input) = none :=
    after_ne (by decide)
  have hdelete : ∀ ls input, after (word "DELETE" :: ls) (word "\x7b" :: input) = none :=
    after_ne (by decide)
  simp only [Command.lexemes, List.cons_append, readCommand, hinsert, hupdate, hdelete,
    after_cons_self, after_nil, readCall, readName_word, readArguments_lexemes,
    Option.bind_eq_bind, Option.bind_some]

/-- Reading what a command is written as gives the command. -/
theorem readCommand_lexemes {c : Command} (hc : c.WellFormed) :
    readCommand c.lexemes = some (c, []) := by
  cases c with
  | query q =>
    have hq : readQuery q.lexemes = some (q, []) := readQuery_lexemes hc
    have hothers : ∀ k ls, word k ≠ word "SELECT" → after (word k :: ls) q.lexemes = none := by
      intro k ls hk
      refine after_eq_none fun h => hk ?_
      cases q <;> exact (Option.some.inj h).symm
    have hinsert := hothers "INSERT" [word "INTO"] (by decide)
    have hupdate := hothers "UPDATE" [] (by decide)
    have hdelete := hothers "DELETE" [word "FROM"] (by decide)
    have hcall := hothers "\x7b" [word "CALL"] (by decide)
    simp only [Command.lexemes, readCommand, hinsert, hupdate, hdelete, hcall, hq, Option.map_some]
  | insert t cs vs => exact readInsert_lexemes t hc.1 hc.2
  | update t es key => exact readUpdate_lexemes t hc key
  | delete t key => exact readDelete_lexemes t key
  | call p vs => exact readCall_lexemes p vs

/-- A statement that spells a command is read as that command. -/
theorem read_of_spells {st : Statement} {c : Command} (hc : c.WellFormed)
    (h : Spells st.sql.toList st.params c.lexemes) : read st = some c := by
  rw [Spells] at h
  simp only [read, lexemes?, h, readCommand_lexemes hc, Option.bind_eq_bind, Option.bind_some,
    List.isEmpty_nil, if_true]

end TableGateway.Sql
