/-
Module: ServersManager.Library.Schema
Purpose: Statements that change tables, types and indexes, executed in order in one
  transaction.
Trusted boundary: human-reviewed statement semantics
Main exports:
  Catalog, Statement, Catalog.exec, Catalog.transaction
-/
import Mathlib.Data.List.Basic
import Mathlib.Logic.Function.Basic

namespace Library

/-- Types of columns. -/
inductive ColumnType (ν : Type) where
  | uuid
  | text
  | enum (type : ν)
  | json
  | timestamp
deriving Repr, DecidableEq

/-- A value of a column.  Values of `other` types are stored and never looked at. -/
inductive SqlValue (β : Type) where
  | uuid (value : Nat)
  | text (value : String)
  | label (value : String)
  | other (value : β)
deriving Repr

structure SqlColumn (ν : Type) where
  name : ν
  type : ColumnType ν
  notNull : Bool
deriving Repr, DecidableEq

/-- A foreign key: the column holds `NULL` or a key of the target table. -/
structure Reference (ν : Type) where
  name : ν
  column : ν
  target : ν
  key : ν
deriving Repr, DecidableEq

structure SqlIndex (ν : Type) where
  name : ν
  table : ν
  columns : List ν
  unique : Bool
deriving Repr, DecidableEq

/-- The values of a row; a column that is `NULL`, or not in the table, has none. -/
abbrev SqlRow (ν β : Type) := ν → Option (SqlValue β)

structure SqlTable (ν β : Type) where
  columns : List (SqlColumn ν)
  references : List (Reference ν)
  rows : List (SqlRow ν β)

structure Catalog (ν β : Type) where
  types : List (ν × List String)
  tables : List (ν × SqlTable ν β)
  indexes : List (SqlIndex ν)

/-- The statements of a migration.  `copyColumn` is an `UPDATE` that sets one column to
another, of all rows or of those with a label in a third, where the column set has no
constraint; `deleteNull` is the `DELETE` of the rows whose column is `NULL`; `alterType`
casts the column's values, by way of text. -/
inductive Statement (ν β : Type) where
  | createType (name : ν) (labels : List String)
  | dropType (name : ν)
  | createTable (name : ν) (columns : List (SqlColumn ν)) (references : List (Reference ν))
  | dropTable (name : ν)
  | createIndex (index : SqlIndex ν)
  | dropIndex (name : ν)
  | addColumn (table : ν) (column : SqlColumn ν) (default : Option (SqlValue β))
  | dropColumn (table column : ν)
  | setNotNull (table column : ν)
  | alterType (table column : ν) (type : ColumnType ν)
  | copyColumn (table target source : ν) (condition : Option (ν × String))
  | deleteNull (table column : ν)
  | addReference (table : ν) (reference : Reference ν)
  | dropConstraint (table name : ν)

/-! ### Values and rows -/

section Values

variable {ν β : Type}

/-- Equality of two keys; `NULL` equals nothing. -/
def SqlValue.sameKey : Option (SqlValue β) → Option (SqlValue β) → Bool
  | some (.uuid one), some (.uuid two) => one == two
  | some (.text one), some (.text two) => one == two
  | some (.label one), some (.label two) => one == two
  | _, _ => false

/-- A cast of a text or a label; a text that is no member of an enum type cannot be cast
to it. -/
def SqlValue.cast (labels : Option (List String)) : SqlValue β → Option (SqlValue β)
  | .text value | .label value =>
      match labels with
      | none => some (.text value)
      | some members => if value ∈ members then some (.label value) else none
  | _ => none

/-- A text is cast to an enumeration if it is one of its labels, and to no other label. -/
theorem SqlValue.cast_text_eq_some {value : String} {members : List String}
    {casted : SqlValue β} :
    (SqlValue.text value).cast (some members) = some casted ↔
      value ∈ members ∧ casted = .label value := by
  unfold SqlValue.cast
  simp only [Option.ite_none_right_eq_some, Option.some.injEq]
  exact and_congr_right fun _ => eq_comm

variable [DecidableEq ν]

def SqlRow.set (column : ν) (value : Option (SqlValue β)) (row : SqlRow ν β) :
    SqlRow ν β :=
  Function.update row column value

def SqlRow.cast (labels : Option (List String)) (column : ν) (row : SqlRow ν β) :
    Option (SqlRow ν β) :=
  match row column with
  | none => some row
  | some value => (value.cast labels).map fun casted => row.set column (some casted)

/-- A row is cast in the one column that changes its type. -/
theorem SqlRow.cast_of_some {row : SqlRow ν β} {column : ν} {value : SqlValue β}
    (held : row column = some value) (labels : Option (List String)) :
    row.cast labels column =
      (value.cast labels).map fun casted => row.set column (some casted) := by
  unfold SqlRow.cast
  rw [held]

def SqlRow.satisfies (row : SqlRow ν β) : Option (ν × String) → Bool
  | none => true
  | some (column, label) => SqlValue.sameKey (row column) (some (.label label))

def SqlRow.copy (target source : ν) (condition : Option (ν × String))
    (row : SqlRow ν β) : SqlRow ν β :=
  if row.satisfies condition then row.set target (row source) else row

end Values

/-! ### Tables -/

namespace SqlTable

variable {ν β : Type} [DecidableEq ν] (table : SqlTable ν β)

def column? (name : ν) : Option (SqlColumn ν) :=
  table.columns.find? fun column => column.name = name

def hasColumn (name : ν) : Bool :=
  (table.column? name).isSome

/-- The column may be set to any value of its type. -/
def isFree (name : ν) : Bool :=
  (table.column? name).any (fun column => !column.notNull) &&
    table.references.all fun reference => reference.column ≠ name

def alterColumn (name : ν) (alter : SqlColumn ν → SqlColumn ν) : SqlTable ν β :=
  { table with columns := table.columns.map fun column =>
      if column.name = name then alter column else column }

def addColumn (column : SqlColumn ν) (default : Option (SqlValue β)) :
    Option (SqlTable ν β) :=
  if table.hasColumn column.name then none
  else if column.notNull && default.isNone && !table.rows.isEmpty then none
  else some { table with
    columns := table.columns ++ [column]
    rows := table.rows.map (SqlRow.set column.name default) }

def dropColumn (name : ν) : Option (SqlTable ν β) :=
  if table.hasColumn name then
    some
      { columns := table.columns.filter fun column => column.name ≠ name
        references := table.references.filter fun reference => reference.column ≠ name
        rows := table.rows.map (SqlRow.set name none) }
  else none

def setNotNull (name : ν) : Option (SqlTable ν β) :=
  if table.hasColumn name then
    if table.rows.all fun row => (row name).isSome then
      some (table.alterColumn name fun column => { column with notNull := true })
    else none
  else none

def alterType (name : ν) (type : ColumnType ν) (labels : Option (List String)) :
    Option (SqlTable ν β) :=
  if table.hasColumn name then
    (table.rows.mapM (SqlRow.cast labels name)).map fun rows =>
      { table.alterColumn name (fun column => { column with type := type }) with
        rows := rows }
  else none

def copyColumn (target source : ν) (condition : Option (ν × String)) :
    Option (SqlTable ν β) :=
  if table.isFree target && (table.column? target).map SqlColumn.type =
      (table.column? source).map SqlColumn.type then
    some { table with rows := table.rows.map (SqlRow.copy target source condition) }
  else none

def deleteNull (name : ν) : Option (SqlTable ν β) :=
  if table.hasColumn name then
    some { table with rows := table.rows.filter fun row => (row name).isSome }
  else none

def addReference (reference : Reference ν) (targets : List (SqlRow ν β)) :
    Option (SqlTable ν β) :=
  if table.hasColumn reference.column then
    if table.rows.all fun row => (row reference.column).isNone ||
        targets.any fun target =>
          SqlValue.sameKey (row reference.column) (target reference.key) then
      some { table with references := table.references ++ [reference] }
    else none
  else none

def dropConstraint (name : ν) : Option (SqlTable ν β) :=
  if table.references.any fun reference => reference.name = name then
    some { table with
      references := table.references.filter fun reference => reference.name ≠ name }
  else none

end SqlTable

/-! ### Statements -/

namespace Catalog

variable {ν β : Type} [DecidableEq ν]

def table? (catalog : Catalog ν β) (name : ν) : Option (SqlTable ν β) :=
  catalog.tables.lookup name

def rows (catalog : Catalog ν β) (name : ν) : List (SqlRow ν β) :=
  (catalog.table? name).elim [] SqlTable.rows

def setTable (catalog : Catalog ν β) (name : ν) (table : SqlTable ν β) : Catalog ν β :=
  { catalog with tables := catalog.tables.map fun entry =>
      if entry.1 = name then (name, table) else entry }

def alterTable (catalog : Catalog ν β) (name : ν)
    (alter : SqlTable ν β → Option (SqlTable ν β)) : Option (Catalog ν β) :=
  (catalog.table? name).bind fun table => (alter table).map (catalog.setTable name)

/-- The members of the type to which a column is altered; text has any. -/
def labels? (catalog : Catalog ν β) : ColumnType ν → Option (Option (List String))
  | .text => some none
  | .enum name => (catalog.types.lookup name).map some
  | _ => none

def typeUsed (catalog : Catalog ν β) (name : ν) : Bool :=
  catalog.tables.any fun entry => entry.2.columns.any fun column =>
    column.type = .enum name

def referenced (catalog : Catalog ν β) (name : ν) : Bool :=
  catalog.tables.any fun entry => decide (entry.1 ≠ name) &&
    entry.2.references.any fun reference => reference.target = name

def indexed? (catalog : Catalog ν β) (name : ν) : Bool :=
  catalog.indexes.any fun index => index.name = name

/-- No two rows have the same values in the columns of a unique index. -/
def fits (index : SqlIndex ν) (table : SqlTable ν β) : Bool :=
  index.columns.all table.hasColumn && (!index.unique ||
    decide (table.rows.Pairwise fun row other =>
      (index.columns.all fun column =>
        SqlValue.sameKey (row column) (other column)) = false))

def exec (catalog : Catalog ν β) : Statement ν β → Option (Catalog ν β)
  | .createType name labels =>
      if (catalog.types.lookup name).isSome then none
      else some { catalog with types := catalog.types ++ [(name, labels)] }
  | .dropType name =>
      if (catalog.types.lookup name).isNone || catalog.typeUsed name then none
      else some { catalog with
        types := catalog.types.filter fun entry => entry.1 ≠ name }
  | .createTable name columns references =>
      if (catalog.table? name).isSome ||
          references.any fun reference => (catalog.table? reference.target).isNone then none
      else some { catalog with
        tables := catalog.tables ++
          [(name, { columns := columns, references := references, rows := [] })] }
  | .dropTable name =>
      if (catalog.table? name).isNone || catalog.referenced name then none
      else some { catalog with
        tables := catalog.tables.filter fun entry => entry.1 ≠ name
        indexes := catalog.indexes.filter fun index => index.table ≠ name }
  | .createIndex index =>
      if catalog.indexed? index.name then none
      else if (catalog.table? index.table).any (fits index) then
        some { catalog with indexes := catalog.indexes ++ [index] }
      else none
  | .dropIndex name =>
      if catalog.indexed? name then
        some { catalog with
          indexes := catalog.indexes.filter fun index => index.name ≠ name }
      else none
  | .addColumn table column default =>
      catalog.alterTable table fun found => found.addColumn column default
  | .dropColumn table column =>
      { catalog with indexes := catalog.indexes.filter fun index =>
          !(decide (index.table = table) && index.columns.contains column) }.alterTable table
        fun found => found.dropColumn column
  | .setNotNull table column =>
      catalog.alterTable table fun found => found.setNotNull column
  | .alterType table column type =>
      (catalog.labels? type).bind fun labels =>
        catalog.alterTable table fun found => found.alterType column type labels
  | .copyColumn table target source condition =>
      catalog.alterTable table fun found => found.copyColumn target source condition
  | .deleteNull table column =>
      catalog.alterTable table fun found => found.deleteNull column
  | .addReference table reference =>
      (catalog.table? reference.target).bind fun target =>
        catalog.alterTable table fun found => found.addReference reference target.rows
  | .dropConstraint table name =>
      catalog.alterTable table fun found => found.dropConstraint name

/-- Statements in order, in one transaction: all of them, or none. -/
def transaction (statements : List (Statement ν β)) (catalog : Catalog ν β) :
    Option (Catalog ν β) :=
  statements.foldlM exec catalog

/-- Statements that follow others in a transaction begin where those have ended. -/
theorem transaction_append (first second : List (Statement ν β)) (catalog : Catalog ν β) :
    transaction (first ++ second) catalog =
      (transaction first catalog).bind (transaction second) :=
  List.foldlM_append

/-- A transaction executes its first statement, and the others where that does not fail. -/
theorem transaction_cons (statement : Statement ν β) (statements : List (Statement ν β))
    (catalog : Catalog ν β) :
    transaction (statement :: statements) catalog =
      (catalog.exec statement).bind (transaction statements) :=
  List.foldlM_cons

/-- What a statement that succeeds leaves behind is where the others begin. -/
theorem transaction_step {catalog next : Catalog ν β} {statement : Statement ν β}
    (executes : catalog.exec statement = some next) (statements : List (Statement ν β)) :
    transaction (statement :: statements) catalog = transaction statements next := by
  rw [transaction_cons, executes, Option.bind_some]

/-- A transaction that is committed has executed each of its statements. -/
theorem transaction_cons_some {catalog after : Catalog ν β} {statement : Statement ν β}
    {statements : List (Statement ν β)}
    (commits : transaction (statement :: statements) catalog = some after) :
    ∃ next, catalog.exec statement = some next ∧
      transaction statements next = some after := by
  rw [transaction_cons] at commits
  exact Option.bind_eq_some_iff.mp commits

/-! ### Statements that depend on the rows -/

section Rows

variable {catalog : Catalog ν β} {name column : ν} {table : SqlTable ν β}

/-- A column may be made non-null once no row lacks a value. -/
theorem exec_setNotNull (found : catalog.table? name = some table)
    (has : table.hasColumn column = true)
    (holds : ∀ row ∈ table.rows, (row column).isSome = true) :
    catalog.exec (.setNotNull name column) =
      some (catalog.setTable name (table.alterColumn column fun altered =>
        { altered with notNull := true })) := by
  have all : (table.rows.all fun row => (row column).isSome) = true :=
    List.all_eq_true.mpr holds
  simp only [exec, alterTable, found, SqlTable.setNotNull, has, all, if_true,
    Option.bind_some, Option.map_some]

/-- A column changes its type if the values of all rows can be cast. -/
theorem exec_alterType {type : ColumnType ν} {labels : Option (List String)}
    {rows : List (SqlRow ν β)} (members : catalog.labels? type = some labels)
    (found : catalog.table? name = some table) (has : table.hasColumn column = true)
    (casts : table.rows.mapM (SqlRow.cast labels column) = some rows) :
    catalog.exec (.alterType name column type) =
      some (catalog.setTable name
        { table.alterColumn column (fun altered => { altered with type := type }) with
          rows := rows }) := by
  simp only [exec, alterTable, members, found, SqlTable.alterType, has, casts, if_true,
    Option.bind_some, Option.map_some]

/-- A column that has been altered to a type had only values that can be cast to it. -/
theorem alterType_casts {type : ColumnType ν} {labels : Option (List String)}
    {next : Catalog ν β} (members : catalog.labels? type = some labels)
    (found : catalog.table? name = some table)
    (executes : catalog.exec (.alterType name column type) = some next) :
    ∃ rows, table.rows.mapM (SqlRow.cast labels column) = some rows := by
  simp only [exec, alterTable, members, found, SqlTable.alterType,
    Option.bind_some] at executes
  split at executes
  · cases casts : table.rows.mapM (SqlRow.cast labels column) with
    | none =>
        rw [casts] at executes
        cases executes
    | some rows => exact ⟨rows, rfl⟩
  · cases executes

/-- A row refers to one of the target's. -/
def Refers (reference : Reference ν) (targets : List (SqlRow ν β)) (row : SqlRow ν β) :
    Prop :=
  row reference.column = none ∨ ∃ target ∈ targets,
    SqlValue.sameKey (row reference.column) (target reference.key) = true

/-- A reference may be added once every row refers to a row of the target. -/
theorem exec_addReference {reference : Reference ν} {target : SqlTable ν β}
    (targetFound : catalog.table? reference.target = some target)
    (found : catalog.table? name = some table)
    (has : table.hasColumn reference.column = true)
    (refer : ∀ row ∈ table.rows, Refers reference target.rows row) :
    catalog.exec (.addReference name reference) =
      some (catalog.setTable name
        { table with references := table.references ++ [reference] }) := by
  have all : (table.rows.all fun row => (row reference.column).isNone ||
      target.rows.any fun other =>
        SqlValue.sameKey (row reference.column) (other reference.key)) = true := by
    apply List.all_eq_true.mpr
    intro row member
    rcases refer row member with absent | ⟨other, otherMember, same⟩
    · simp [absent]
    · simp only [Bool.or_eq_true, List.any_eq_true]
      exact .inr ⟨other, otherMember, same⟩
  simp only [exec, alterTable, targetFound, found, SqlTable.addReference, has, all, if_true,
    Option.bind_some, Option.map_some]

/-- A foreign key that has been added refers from every row. -/
theorem addReference_refers {reference : Reference ν} {target : SqlTable ν β}
    {next : Catalog ν β} (targetFound : catalog.table? reference.target = some target)
    (found : catalog.table? name = some table)
    (executes : catalog.exec (.addReference name reference) = some next) :
    ∀ row ∈ table.rows, Refers reference target.rows row := by
  simp only [exec, alterTable, targetFound, found, SqlTable.addReference,
    Option.bind_some] at executes
  split at executes
  · split at executes
    · next all =>
        intro row member
        have refers := List.all_eq_true.mp all row member
        simp only [Bool.or_eq_true, Option.isNone_iff_eq_none, List.any_eq_true] at refers
        exact refers
    · cases executes
  · cases executes

end Rows

end Catalog

/-! ### Rows that are all cast -/

theorem mapM_map_some {α γ δ : Type} {f : γ → Option δ} {g : α → γ} {h : α → δ} :
    ∀ values : List α, (∀ value ∈ values, f (g value) = some (h value)) →
      (values.map g).mapM f = some (values.map h)
  | [], _ => rfl
  | value :: values, holds => by
      have first := holds value List.mem_cons_self
      have others := mapM_map_some values fun other member =>
        holds other (List.mem_cons_of_mem value member)
      rw [List.map_cons, List.mapM_cons, first, others]
      rfl

theorem mapM_some_isSome {α δ : Type} {f : α → Option δ} :
    ∀ {values : List α} {results : List δ}, values.mapM f = some results →
      ∀ value ∈ values, (f value).isSome = true
  | value :: values, results, maps, other, member => by
      rw [List.mapM_cons] at maps
      obtain ⟨result, first, rest⟩ := Option.bind_eq_some_iff.mp maps
      obtain ⟨others, mapsOthers, -⟩ := Option.bind_eq_some_iff.mp rest
      rcases List.mem_cons.mp member with rfl | later
      · rw [first]
        rfl
      · exact mapM_some_isSome mapsOthers other later

end Library
