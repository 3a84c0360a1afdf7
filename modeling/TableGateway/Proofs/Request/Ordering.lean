import TableGateway.Request.SortOrder

/-!
# Orders that are asked for

An order is asked for by the first values of `sort` and `dir`. Either of them can be missing or say
nothing, and what counts as nothing differs: the empty text for a direction, any blank text for a
column. `Parameters.MisstatesOrder` says when the two cannot be followed, `SortOrder.AsAsked` which
order they ask for otherwise, both in terms of the texts.

`SortOrder.requested_eq_ok_iff` and `SortOrder.requested_fails_iff` say that what is read is just
that.
-/

namespace TableGateway

/-! ## Directions -/

namespace Direction

/-- The text is the keyword of the direction, in any letter case. -/
def Spells (d : Direction) (text : String) : Prop := Text.sameWord text d.sql = true

instance (d : Direction) (text : String) : Decidable (d.Spells text) :=
  inferInstanceAs (Decidable (Text.sameWord text d.sql = true))

variable {text : String} {d d' : Direction}

theorem spells_iff : d.Spells text ↔ Text.lowerAscii text = Text.lowerAscii d.sql := beq_iff_eq

/-- A text is the keyword of one direction at most. -/
theorem eq_of_spells (h : d.Spells text) (h' : d'.Spells text) : d = d' := by
  have hlower : Text.lowerAscii d.sql = Text.lowerAscii d'.sql :=
    (spells_iff.mp h).symm.trans (spells_iff.mp h')
  revert hlower
  cases d <;> cases d' <;> decide

/-- A text is read as the direction whose keyword it is. -/
theorem ofKeyword?_eq_some_iff : ofKeyword? text = some d ↔ d.Spells text := by
  have hascending : Text.sameWord text "asc" = true ↔ ascending.Spells text := by
    rw [spells_iff, show Text.lowerAscii ascending.sql = Text.lowerAscii "asc" by decide]
    exact beq_iff_eq
  have hdescending : Text.sameWord text "desc" = true ↔ descending.Spells text := by
    rw [spells_iff, show Text.lowerAscii descending.sql = Text.lowerAscii "desc" by decide]
    exact beq_iff_eq
  unfold ofKeyword?
  constructor
  · intro h
    split at h
    · rename_i hasc
      cases h
      exact hascending.mp hasc
    · split at h
      · rename_i hdesc
        cases h
        exact hdescending.mp hdesc
      · cases h
  · intro h
    cases d with
    | ascending => rw [if_pos (hascending.mpr h)]
    | descending =>
      have hasc : ¬ Text.sameWord text "asc" = true := by
        intro hasc
        cases eq_of_spells h (hascending.mp hasc)
      rw [if_neg hasc, if_pos (hdescending.mpr h)]

theorem parse_eq_ok_iff : parse text = .ok d ↔ d.Spells text := by
  rw [parse, ← ofKeyword?_eq_some_iff]
  cases ofKeyword? text with
  | none => exact ⟨nofun, nofun⟩
  | some d' =>
    constructor
    · rintro ⟨⟩
      rfl
    · rintro ⟨⟩
      rfl

end Direction

/-! ## What parameters ask for -/

namespace Parameters

/-- The value of `dir` is neither empty nor a direction. -/
def MisnamesDirection (ps : Parameters) : Prop :=
  ∃ text ∈ ps.first? "dir", text ≠ "" ∧ ∀ d : Direction, ¬ d.Spells text

/-- The value of `sort` is not blank, and without its blanks it is a direction or no identifier. -/
def MisnamesColumn (ps : Parameters) : Prop :=
  ∃ text ∈ ps.first? "sort", Text.isBlankText text = false ∧
    ((∃ d : Direction, d.Spells (Text.withoutBlanks text)) ∨
      ∀ i : Identifier, i.name ≠ Text.withoutBlanks text)

/-- What the parameters say about the order cannot be followed. -/
def MisstatesOrder (ps : Parameters) : Prop := ps.MisnamesDirection ∨ ps.MisnamesColumn

/-- The parameters name no column to sort by. -/
def NamesNoColumn (ps : Parameters) : Prop :=
  ∀ text ∈ ps.first? "sort", Text.isBlankText text = true

theorem namesNoColumn_or (ps : Parameters) :
    ps.NamesNoColumn ∨ ∃ text ∈ ps.first? "sort", Text.isBlankText text = false := by
  rw [NamesNoColumn]
  cases ps.first? "sort" with
  | none => exact .inl nofun
  | some text =>
    cases hblank : Text.isBlankText text with
    | false => exact .inr ⟨text, rfl, hblank⟩
    | true =>
      refine .inl ?_
      rintro _ ⟨⟩
      exact hblank

theorem not_namesNoColumn {ps : Parameters} {text : String} (htext : text ∈ ps.first? "sort")
    (hblank : Text.isBlankText text = false) : ¬ ps.NamesNoColumn := by
  intro h
  rw [h text htext] at hblank
  cases hblank

end Parameters

open Parameters (not_namesNoColumn)

namespace SortOrder

/-- The order is the one that the parameters ask for, by the column `key` if they name none. -/
structure AsAsked (ps : Parameters) (key : Identifier) (o : SortOrder) : Prop where
  /-- without a `sort` that says something the column is `key` -/
  unnamed : ps.NamesNoColumn → o.column = key
  /-- a `sort` that says something is the column, but for its blanks -/
  named : ∀ text ∈ ps.first? "sort", Text.isBlankText text = false →
    o.column.name = Text.withoutBlanks text
  /-- the direction is ascending unless `dir` says otherwise -/
  directed : o.direction = .descending ↔
    ∃ text ∈ ps.first? "dir", Direction.descending.Spells text

variable {ps : Parameters} {key : Identifier} {o o' : SortOrder}

/-- Something is said about the order where `sort` or `dir` has a value, be it a blank one. -/
theorem isRequested_iff : isRequested ps = true ↔
    (ps.first? "sort").isSome = true ∨ (ps.first? "dir").isSome = true := by
  rw [isRequested, Bool.or_eq_true]

theorem isRequested_eq_false_iff :
    isRequested ps = false ↔ ps.first? "sort" = none ∧ ps.first? "dir" = none := by
  rw [isRequested, Bool.or_eq_false_iff, Option.isSome_eq_false_iff, Option.isNone_iff_eq_none,
    Option.isSome_eq_false_iff, Option.isNone_iff_eq_none]

/-- Where no column is named, the other one is taken. -/
theorem requestedColumn_of_unnamed (h : ps.NamesNoColumn) (otherwise : Except Error Identifier) :
    requestedColumn ps otherwise = otherwise := by
  rw [requestedColumn]
  split
  · rfl
  · rename_i text htext
    exact if_pos (h text htext)

theorem requestedColumn_of_named {text : String} (htext : text ∈ ps.first? "sort")
    (hblank : Text.isBlankText text = false) (otherwise : Except Error Identifier) :
    requestedColumn ps otherwise = parseColumn text := by
  rw [requestedColumn, htext]
  exact if_neg (Bool.eq_false_iff.mp hblank)

/-! ## Reading -/

/-- A column is read from a text that is an identifier and no direction, but for blanks. -/
theorem parseColumn_eq_ok_iff {text : String} {c : Identifier} :
    parseColumn text = .ok c ↔
      (∀ d : Direction, ¬ d.Spells (Text.withoutBlanks text)) ∧
        c.name = Text.withoutBlanks text := by
  have hdirection : (Direction.ofKeyword? (Text.withoutBlanks text)).isSome = true ↔
      ∃ d : Direction, d.Spells (Text.withoutBlanks text) := by
    rw [Option.isSome_iff_exists]
    exact exists_congr fun d => Direction.ofKeyword?_eq_some_iff
  unfold parseColumn
  dsimp only
  split
  · rename_i hsome
    obtain ⟨d, hd⟩ := hdirection.mp hsome
    exact ⟨nofun, fun h => absurd hd (h.1 d)⟩
  · rename_i hnone
    rw [Identifier.parse_eq_ok_iff, eq_comm]
    exact ⟨fun h => ⟨not_exists.mp (mt hdirection.mpr hnone), h⟩, And.right⟩

theorem requestedDirection_eq_ok_iff {d : Direction} :
    requestedDirection ps = .ok d ↔ ¬ ps.MisnamesDirection ∧
      (d = .descending ↔ ∃ text ∈ ps.first? "dir", Direction.descending.Spells text) := by
  have hascending : Except.ok Direction.ascending = (.ok d : Except Error Direction) ↔
      ¬ d = .descending := by
    cases d <;> simp
  rw [requestedDirection, Parameters.MisnamesDirection]
  cases ps.first? "dir" with
  | none => simpa using hascending
  | some text =>
    simp only [Option.mem_some_iff, exists_eq_left']
    by_cases hempty : text = ""
    · have hnone : ¬ Direction.descending.Spells "" := by
        rw [Direction.Spells]
        decide
      subst hempty
      simpa [hnone] using hascending
    · rw [if_neg hempty, Direction.parse_eq_ok_iff]
      constructor
      · intro hd
        exact ⟨fun hnone => hnone.2 d hd, fun heq => heq ▸ hd, Direction.eq_of_spells hd⟩
      · rintro ⟨hsome, hd⟩
        cases d with
        | descending => exact hd.mp rfl
        | ascending =>
          refine Decidable.byContradiction fun hnot => hsome ⟨hempty, fun d' => ?_⟩
          cases d' with
          | ascending => exact hnot
          | descending => exact fun h => nomatch hd.mpr h

theorem requestedColumn_eq_ok_iff {c : Identifier} :
    requestedColumn ps (.ok key) = .ok c ↔ ¬ ps.MisnamesColumn ∧ (ps.NamesNoColumn → c = key) ∧
      ∀ text ∈ ps.first? "sort", Text.isBlankText text = false →
        c.name = Text.withoutBlanks text := by
  rcases ps.namesNoColumn_or with hunnamed | ⟨text, htext, hblank⟩
  · rw [requestedColumn_of_unnamed hunnamed, Except.ok.injEq]
    have hnot : ∀ text ∈ ps.first? "sort", ¬ Text.isBlankText text = false :=
      fun text htext hblank => not_namesNoColumn htext hblank hunnamed
    constructor
    · rintro rfl
      refine ⟨?_, fun _ => rfl, fun text htext hblank => absurd hblank (hnot text htext)⟩
      rintro ⟨text, htext, hblank, -⟩
      exact hnot text htext hblank
    · rintro ⟨-, hkey, -⟩
      exact (hkey hunnamed).symm
  · have honly : ∀ text' ∈ ps.first? "sort", text' = text := by
      intro text' htext'
      exact Option.some.inj (htext'.symm.trans htext)
    rw [requestedColumn_of_named htext hblank, parseColumn_eq_ok_iff]
    constructor
    · rintro ⟨hdirection, hname⟩
      refine ⟨?_, fun hunnamed => absurd hunnamed (not_namesNoColumn htext hblank),
        fun text' htext' _ => honly text' htext' ▸ hname⟩
      rintro ⟨text', htext', -, ⟨d, hd⟩ | hinvalid⟩
      · exact hdirection d (honly text' htext' ▸ hd)
      · exact hinvalid c (honly text' htext' ▸ hname)
    · rintro ⟨hcolumn, -, hname⟩
      refine ⟨fun d hd => hcolumn ⟨text, htext, hblank, .inl ⟨d, hd⟩⟩, hname text htext hblank⟩

/-- What is read is the order that is asked for. -/
theorem requested_eq_ok_iff :
    requested ps (.ok key) = .ok o ↔ ¬ ps.MisstatesOrder ∧ o.AsAsked ps key := by
  constructor
  · intro h
    obtain ⟨direction, hdirection, h⟩ := exists_of_bind_eq_ok h
    obtain ⟨column, hcolumn, h⟩ := exists_of_bind_eq_ok h
    cases h
    obtain ⟨hdir, hdirected⟩ := requestedDirection_eq_ok_iff.mp hdirection
    obtain ⟨hsort, hunnamed, hnamed⟩ := requestedColumn_eq_ok_iff.mp hcolumn
    exact ⟨not_or.mpr ⟨hdir, hsort⟩, hunnamed, hnamed, hdirected⟩
  · rintro ⟨hmisstates, hasked⟩
    obtain ⟨hdir, hsort⟩ := not_or.mp hmisstates
    rw [requested, requestedDirection_eq_ok_iff.mpr ⟨hdir, hasked.directed⟩,
      requestedColumn_eq_ok_iff.mpr ⟨hsort, hasked.unnamed, hasked.named⟩]
    rfl

/-- Parameters that can be followed ask for an order. -/
theorem exists_asAsked (h : ¬ ps.MisstatesOrder) (key : Identifier) :
    ∃ o : SortOrder, o.AsAsked ps key := by
  have hdirection : ∃ d : Direction,
      d = .descending ↔ ∃ text ∈ ps.first? "dir", Direction.descending.Spells text := by
    by_cases hdir : ∃ text ∈ ps.first? "dir", Direction.descending.Spells text
    · exact ⟨.descending, iff_of_true rfl hdir⟩
    · exact ⟨.ascending, iff_of_false nofun hdir⟩
  obtain ⟨direction, hdirected⟩ := hdirection
  rcases ps.namesNoColumn_or with hunnamed | ⟨text, htext, hblank⟩
  · exact ⟨⟨key, direction⟩, fun _ => rfl,
      fun text htext hblank => absurd hunnamed (not_namesNoColumn htext hblank), hdirected⟩
  · have hsort : ¬ ∀ i : Identifier, i.name ≠ Text.withoutBlanks text :=
      fun hinvalid => h (.inr ⟨text, htext, hblank, .inr hinvalid⟩)
    obtain ⟨column, hname⟩ := Classical.not_forall.mp hsort
    refine ⟨⟨column, direction⟩,
      fun hunnamed => absurd hunnamed (not_namesNoColumn htext hblank),
      fun text' htext' _ => ?_, hdirected⟩
    obtain rfl : text' = text := Option.some.inj (htext'.symm.trans htext)
    exact Decidable.not_not.mp hname

/-- No order is read just where the parameters cannot be followed. -/
theorem requested_fails_iff :
    (∃ error, requested ps (.ok key) = .error error) ↔ ps.MisstatesOrder := by
  cases hread : requested ps (.ok key) with
  | ok o =>
    obtain ⟨hmisstates, -⟩ := requested_eq_ok_iff.mp hread
    exact iff_of_false nofun hmisstates
  | error error =>
    refine iff_of_true ⟨error, rfl⟩ (Classical.byContradiction fun hmisstates => ?_)
    obtain ⟨o, ho⟩ := exists_asAsked hmisstates key
    rw [requested_eq_ok_iff.mpr ⟨hmisstates, ho⟩] at hread
    cases hread

/-- Blanks in a column are dropped, but not those in a direction, and a blank direction is none. -/
example :
    (requested ⟨[("sort", " na me\t"), ("dir", "dEsC")]⟩ (.ok ⟨"id", by decide⟩)).toOption =
        some ⟨⟨"name", by decide⟩, .descending⟩ ∧
      (requested ⟨[("sort", "  "), ("dir", " desc")]⟩ (.ok ⟨"id", by decide⟩)).toOption = none := by
  decide +kernel

end SortOrder

end TableGateway
