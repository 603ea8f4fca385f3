import Guildhall.Store.Table

/-!
What is declared of a table: its columns, keys, references to other tables and indexes. A catalog
declares all tables.
-/

namespace Guildhall

inductive ColumnType where
  | word
  | number
  | text
  | limited (length : Nat)
  | flag
  | time
  deriving DecidableEq, Repr

def ColumnType.name : ColumnType → String
  | .word => "BIGINT"
  | .number => "INTEGER"
  | .text => "TEXT"
  | .limited length => s!"VARCHAR({length})"
  | .flag => "BOOLEAN"
  | .time => "DATETIME"

/-- What this program puts into a column that it is not given. Whether the table itself would do so
is left aside: that tells only writes from elsewhere. -/
inductive Default where
  | nothing
  | cell (value : Cell)
  | now
  deriving DecidableEq, Repr

structure Column where
  name : String
  type : ColumnType
  nullable : Bool
  default : Default
  deriving DecidableEq, Repr

def Column.of (type : ColumnType) (name : String) : Column := ⟨name, type, false, .nothing⟩

def Column.word : String → Column := .of .word
def Column.number : String → Column := .of .number
def Column.text : String → Column := .of .text
def Column.limited (name : String) (length : Nat) : Column := .of (.limited length) name
def Column.flag : String → Column := .of .flag
def Column.time : String → Column := .of .time

def Column.orNull (column : Column) : Column := { column with nullable := true }

def Column.withDefault (column : Column) (value : Cell) : Column :=
  { column with default := .cell value }

def Column.withNow (column : Column) : Column := { column with default := .now }

inductive OnDelete where
  | refuse
  | cascade
  | clear
  deriving DecidableEq, Repr

structure Reference where
  columns : List String
  target : Table
  targetColumns : List String
  onDelete : OnDelete
  deriving DecidableEq, Repr

def Reference.to (column : String) (target : Table) (onDelete : OnDelete) : Reference :=
  ⟨[column], target, ["id"], onDelete⟩

/-- A name with the columns that it stands for: a unique constraint or an index. -/
structure Named where
  name : String
  columns : List String
  deriving DecidableEq, Repr

structure Relation where
  columns : List Column
  primaryKey : List String
  uniques : List Named
  references : List Reference
  indexes : List Named
  deriving DecidableEq, Repr

abbrev Catalog := Table → Relation

def Table.columnsText (table : Table) (columns : List String) : String :=
  ", ".intercalate (columns.map fun column => table.name ++ "." ++ column)

end Guildhall
