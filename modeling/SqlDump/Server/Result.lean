import SqlDump.Adapter.Standard

/-!
# Results

The rows and columns that a statement answers with. A column gives a hint about
the kind of its values where the server's field type says what the value does not.
-/

namespace SqlDump.Server

/-- A column of a reply: its name, and the number of its field type. -/
structure Column where
  name : Text
  fieldType : Int
  deriving DecidableEq, Repr

/-- The kind that a column hints at: the two precisions of floating point numbers. -/
def Column.kind (column : Column) : Option Kind :=
  if column.fieldType = 4 then some .float
  else if column.fieldType = 5 then some .double
  else none

/-- Rows of client values, with the names and the kinds of their columns. -/
structure Result where
  columns : List Text := []
  kinds : List (Option Kind) := []
  rows : List (List Client.Raw) := []
  affectedRows : Int := 0
  deriving Repr

namespace Result

/-- The result of a statement with a description of its columns. -/
def ofReply (columns : List Column) (rows : List (List Client.Raw)) (affectedRows : Option Int) :
    Result :=
  { columns := columns.map Column.name, kinds := columns.map Column.kind, rows
    affectedRows := affectedRows.getD 0 }

/-- The hints for the values of a row, from the first on. -/
def hints (result : Result) : List (Option Kind) :=
  if result.kinds.isEmpty then List.replicate result.columns.length none else result.kinds

/-- The stored values of the rows. A row ends where its values or the hints do. -/
def typedRows (result : Result) (adapters : Adapters) : Except AdaptError (List (List Value)) :=
  result.rows.mapM fun row =>
    (row.zip result.hints).mapM fun (raw, kind) => adapters.store kind raw

end Result

end SqlDump.Server
