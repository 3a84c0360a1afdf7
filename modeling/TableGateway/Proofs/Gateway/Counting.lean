import TableGateway.Proofs.Gateway.Planning
import TableGateway.Proofs.Sql.Composition
import TableGateway.Proofs.Sql.Meaning

/-!
# Counting the rows of a read

The total that is shown with a page is counted by a statement of its own, so it is right only if
that statement is about the rows of the read. A read has the text of its rows, the FROM and WHERE
clauses, between others: the projection before it, and around both what orders the rows, cuts out a
stretch or numbers them (`Dialect.readOpening`, `Dialect.readEnding`). The count has the same text
of the rows and nothing of the rest.

* `Dialect.SameRows` says this of the statements of a selection, and that they bind the same values;
  `Dialect.sameRows` that it holds of every selection.
* `CatalogEntry.countedBy_plan`: planning a count does no more than planning the read.
* `Gateway.count_of_read` puts the two together.
-/

namespace TableGateway

namespace Dialect

/-! ## Statements -/

/-- What stands before the projection of a read: `SELECT`, or the opening of an outer read and of the
numbering of its rows. -/
def readOpening (d : Dialect) (s : Selection) : String :=
  match s.range, d.traits.paging with
  | some _, .rowNumber _ =>
    "SELECT * FROM ( SELECT ROW_NUMBER() OVER ( ORDER BY " ++
      d.orderItem s.table (numberingOrder s) ++ " ) AS ROW_NUMBER, "
  | _, _ => "SELECT "

/-- What stands after the rows of a read: the order and the stretch, if they are asked for, or the
ending of an outer read with the numbers of the first and the last row. -/
def readEnding (d : Dialect) (s : Selection) : String :=
  match s.range, d.traits.paging with
  | some r, .rowNumber derivedName =>
    " )" ++ derivedName.elim "" (" AS " ++ ·) ++ " WHERE ROW_NUMBER BETWEEN " ++
      Text.decimal (r.start + 1) ++ " AND " ++ Text.decimal r.stop
  | range, paging => d.orderClause s.table s.order ++ range.elim "" paging.clause

/-- The statements of a selection have the text `rows` of its rows in common, and the values that
are bound in it. What a read returns of the rows is the text `columns`. -/
structure SameRows (d : Dialect) (s : Selection) (columns rows : String) (values : List String) :
    Prop where
  /-- without order and stretch nothing else is read -/
  plain : d.select { s with range := none, order := none } =
    ⟨"SELECT " ++ columns ++ rows, values⟩
  /-- the rows are counted, whatever is returned of them and in whatever order and stretch -/
  count : ∀ projected range order,
    d.count { s with columns := projected, range, order } = ⟨"SELECT COUNT(*)" ++ rows, values⟩
  /-- an order and a stretch are put around what is read -/
  read : d.select s = ⟨d.readOpening s ++ columns ++ rows ++ d.readEnding s, values⟩
  /-- a database finds the same rows in the read and in the count -/
  queried : ∃ found, Sql.queriedRows (d.select s) = some found ∧
    Sql.queriedRows (d.count s) = some found

/-- A read is its opening, the columns, the rows and its ending. -/
theorem sql_selectPieces (d : Dialect) (s : Selection) :
    Piece.sql (d.selectPieces s) =
      d.readOpening s ++ d.projection s ++ Piece.sql (d.rows s) ++ d.readEnding s := by
  rw [selectPieces, readOpening, readEnding]
  cases s.range with
  | none => simp [plainRead, String.append_assoc]
  | some r =>
    cases d.traits.paging with
    | rowNumber derivedName => simp [numberedRead, plainRead, String.append_assoc]
    | limitOffset | limitComma | offsetFetch => simp [plainRead, String.append_assoc]

theorem select_eq (d : Dialect) (s : Selection) :
    d.select s =
      ⟨d.readOpening s ++ d.projection s ++ Piece.sql (d.rows s) ++ d.readEnding s,
        s.conditions.flatMap Condition.values⟩ := by
  rw [select, Statement.ofPieces, sql_selectPieces, (composes_selectPieces d s).params_eq]

theorem count_eq (d : Dialect) (s : Selection) :
    d.count s =
      ⟨"SELECT COUNT(*)" ++ Piece.sql (d.rows s), s.conditions.flatMap Condition.values⟩ := by
  rw [count, Statement.ofPieces, Piece.sql_text_cons, (composes_countPieces d s).params_eq]

/-- The statements of every selection are about the same rows. -/
theorem sameRows (d : Dialect) (s : Selection) :
    d.SameRows s (d.projection s) (Piece.sql (d.rows s))
      (s.conditions.flatMap Condition.values) where
  plain := by
    have hending : d.readEnding { s with range := none, order := none } = "" := rfl
    rw [select_eq, hending, String.append_empty]
    rfl
  count _ _ _ := count_eq d _
  read := select_eq d s
  queried := ⟨d.readRows s, queriedRows_select d s, queriedRows_count d s⟩

end Dialect

/-! ## Plans -/

/-- The results of planning a read and its count. The count can be made wherever the read can, and is
about the same selection. -/
structure CountedBy (read count : Except Error Plan) : Prop where
  /-- what keeps rows from being counted keeps them from being read -/
  error : ∀ e, count = .error e → read = .error e
  /-- a read is counted in its dialect, by the selection that it was made of -/
  ok : ∀ p, read = .ok p → ∃ s, p.statement = p.dialect.select s ∧
    count = .ok ⟨p.dialect, p.dialect.count s, none⟩

namespace CountedBy

theorem of_error (e : Error) : CountedBy (.error e) (.error e) := ⟨fun _ h => h, nofun⟩

/-- A step before both. -/
theorem bind {α : Type} {x : Except Error α} {read count : α → Except Error Plan}
    (h : ∀ a, CountedBy (read a) (count a)) : CountedBy (x >>= read) (x >>= count) := by
  cases x with
  | error e => exact of_error e
  | ok a => exact h a

end CountedBy

/-- The count reads nothing that the read does not, and reads it first: only the order of a read can
be at fault where its count is not. -/
theorem CatalogEntry.countedBy_plan (e : CatalogEntry) (pageSize : Nat) (q : Request)
    (lookup : Option Lookup) :
    CountedBy (e.plan pageSize { q with action := .read lookup })
      (e.plan pageSize { q with action := .count lookup }) := by
  unfold plan planResource
  dsimp only
  cases q.resource with
  | none => exact .of_error _
  | some r =>
    dsimp only
    cases e.table r q.primaryKey with
    | error error => exact .of_error _
    | ok t =>
      -- both look at the lookup next
      show CountedBy (Except.mapError _ (Lookup.conditions t lookup >>= _) >>= _)
        (Except.mapError _ (Lookup.conditions t lookup >>= _) >>= _)
      cases Lookup.conditions t lookup with
      | error error => exact .of_error _
      | ok conditions =>
        refine ⟨nofun, fun p hp => ?_⟩
        obtain ⟨_, hread, hp⟩ := exists_of_bind_eq_ok hp
        obtain ⟨_, hconditions, hread⟩ := exists_of_bind_eq_ok (mapError_eq_ok_iff.mp hread)
        obtain ⟨order, -, hread⟩ := exists_of_bind_eq_ok hread
        cases hconditions
        cases hread
        cases hp
        exact ⟨_, rfl, rfl⟩

/-- **The rows that are counted are those that are read.** In every dialect the statements of a
selection have the text of its rows in common, FROM and WHERE: without order and stretch the read is
`SELECT `, the columns and the rows; the count is `SELECT COUNT(*)` and the rows, whatever columns,
order and stretch the selection has; and a read with order and stretch puts them around the same
columns and rows. All of them bind the same values.

Of two requests that differ in nothing but that one reads what the other counts, the read fails as
the count does if the count fails, and if the read can be made, so can its count, which is about the
rows that are read. -/
theorem Gateway.count_of_read :
    (∀ (d : Dialect) (s : Selection), ∃ columns rows values, d.SameRows s columns rows values ∧
        columns = d.projection s ∧
        rows = " FROM " ++ d.source s.table ++ Piece.sql (d.restriction s.table s.conditions)) ∧
      ∀ (g : Gateway) (q : Request) (lookup : Option Lookup),
        (∀ error, g.plan { q with action := .count lookup } = .error error →
          g.plan { q with action := .read lookup } = .error error) ∧
        ∀ p, g.plan { q with action := .read lookup } = .ok p →
          ∃ s columns rows values, p.dialect.SameRows s columns rows values ∧
            p.statement =
              ⟨p.dialect.readOpening s ++ columns ++ rows ++ p.dialect.readEnding s, values⟩ ∧
            g.plan { q with action := .count lookup } =
              .ok ⟨p.dialect, ⟨"SELECT COUNT(*)" ++ rows, values⟩, none⟩ := by
  refine ⟨fun d s => ⟨_, _, _, d.sameRows s, rfl, Piece.sql_text_cons _ _⟩, fun g q lookup => ?_⟩
  have hplans : CountedBy (g.plan { q with action := .read lookup })
      (g.plan { q with action := .count lookup }) :=
    .bind fun e => .bind fun _ => e.countedBy_plan g.catalog.pageSize q lookup
  refine ⟨hplans.error, fun p hread => ?_⟩
  obtain ⟨s, hstatement, hcount⟩ := hplans.ok p hread
  have hsame := p.dialect.sameRows s
  refine ⟨s, _, _, _, hsame, hstatement.trans hsame.read, ?_⟩
  rw [hcount, hsame.count s.columns s.range s.order]

/-- A page of numbered rows: `FROM` and `WHERE` of the inner read are those of the count. A direction
that is none keeps rows from being read, and not from being counted. -/
theorem Gateway.count_of_read_numbered :
    let g : Gateway :=
      ⟨⟨.ofList [("demo", ⟨.mssql, { driver := "mssql", schema := some "dbo" }⟩)], 25⟩,
        AccessTable.empty.addRule ⟨⟨"demo", none⟩, .ofList [.read]⟩⟩
    let lookup : Option Lookup := some ⟨some "color", "red"⟩
    let q : Request :=
      { aliasName := "demo", resource := some "cars", action := .describe,
        parameters := ⟨[("dir", "desc"), ("page", "3"), ("size", "10")]⟩ }
    let badOrder : Request := { q with parameters := ⟨[("dir", "down")]⟩ }
    let page : Plan :=
      ⟨.mssql, ⟨"SELECT * FROM ( SELECT ROW_NUMBER() OVER ( ORDER BY t.id DESC ) AS ROW_NUMBER, " ++
        "t.* FROM dbo.cars t WHERE t.color = ? ) AS paged WHERE ROW_NUMBER BETWEEN 21 AND 30",
        ["red"]⟩, some (.clamp 10 20)⟩
    let total : Plan := ⟨.mssql, ⟨"SELECT COUNT(*) FROM dbo.cars t WHERE t.color = ?", ["red"]⟩, none⟩
    g.plan { q with action := .read lookup } = .ok page ∧
      g.plan { q with action := .count lookup } = .ok total ∧
      (∃ s columns rows values, page.dialect.SameRows s columns rows values ∧
        total.statement = ⟨"SELECT COUNT(*)" ++ rows, values⟩) ∧
      g.plan { badOrder with action := .count lookup } = .ok total ∧
      g.plan { badOrder with action := .read lookup } =
        .error (.invalidRequest (.unknownDirection "down") (some "cars")) := by
  intro g lookup q badOrder page total
  obtain ⟨-, hplans⟩ := count_of_read
  have hread : g.plan { q with action := .read lookup } = .ok page :=
    eq_ok_of_toOption (by decide +kernel)
  have hcount : g.plan { q with action := .count lookup } = .ok total :=
    eq_ok_of_toOption (by decide +kernel)
  obtain ⟨s, columns, rows, values, hsame, -, htotal⟩ := (hplans g q lookup).2 page hread
  rw [hcount] at htotal
  refine ⟨hread, hcount, ⟨s, columns, rows, values, hsame, ?_⟩, by decide +kernel,
    by decide +kernel⟩
  exact congrArg Plan.statement (Except.ok.inj htotal)

end TableGateway
