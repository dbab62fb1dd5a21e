import SqlDump.Server.Fault
import SqlDump.Server.Result
import SqlDump.Dump.Section
import SqlDump.Storage.Files
import SqlDump.Text.Encoding

/-!
# Failures

A failure is what an operation on a server ends with. The library's own failures
say what went wrong in its terms: no connection, a fault that the database
reported, or a restore that stopped. Everything else passes through.
-/

namespace SqlDump.Server

/-- What a fault of the client library means for a statement. -/
inductive Category where
  | query
  | integrity
  | deadlock
  | operational
  | database
  deriving DecidableEq, Repr

namespace Category

/-- The words in front of a fault of the category. -/
def label : Category → String
  | .query => "MySQL query error: "
  | .integrity => "MySQL integrity error: "
  | .deadlock => "MySQL deadlock or lock wait timeout: "
  | .operational => "MySQL operational error: "
  | .database => "MySQL database error: "

/-- The error numbers of duplicate keys and missing references. -/
def integrityCodes : List Int := [1062, 1452]

/-- The error numbers of lock waits that ran out and of deadlocks. -/
def deadlockCodes : List Int := [1205, 1213]

/-- The category of a family of faults. -/
def ofFamily (family : Family) : Category :=
  match family with
  | .integrity => .integrity
  | .programming => .query
  | .operational => .operational
  | _ => if family.isDatabase then .database else .query

/-- The category of a fault. The error number decides before the family, and faults
from elsewhere have a category only where their number gives them one. -/
def ofFault? (fault : Fault) : Option Category :=
  let family? :=
    match fault with
    | .client family _ _ _ => some family
    | _ => none
  let hasCode (codes : List Int) : Bool := (fault.code.map codes.contains).getD false
  if family? = some .integrity || hasCode integrityCodes then some .integrity
  else if hasCode deadlockCodes then some .deadlock
  else family?.map ofFamily

/-- Every fault of the client library has a category. -/
theorem ofFault?_of_isClient {fault : Fault} (client : fault.isClient = true) :
    ∃ category, ofFault? fault = some category := by
  cases fault with
  | client family code state detail =>
      simp only [ofFault?, Option.map_some]
      split
      · exact ⟨_, rfl⟩
      · split
        · exact ⟨_, rfl⟩
        · exact ⟨_, rfl⟩
  | system code detail => cases client
  | runtime detail => cases client
  | value detail => cases client

end Category

/-- What an operation on a server can end with instead of a result. -/
inductive Failure where
  /-- A fault as it is. -/
  | raised (fault : Fault)
  /-- No connection could be made. -/
  | connection (fault : Fault)
  /-- A statement has symbols that cannot be sent. -/
  | statement (unwritable : Encoding.Unwritable)
  /-- A statement failed. -/
  | database (category : Category) (fault : Fault)
  /-- A restore stopped at the statement with the given place among `total` others. -/
  | restore (index total : Nat) (statement : Text) (cause : Failure)
  /-- A value of a row has no stored value or no literal. -/
  | row (error : Literal.RowError)
  /-- A name is no valid UTF-8. -/
  | name (invalid : Utf8.Invalid)
  /-- A row has too few columns. -/
  | missingColumn
  | file (error : FileError)
  deriving Repr

namespace Failure

/-- The failure that a fault means: one with a category, or the fault as it is. -/
def ofFault (fault : Fault) : Failure :=
  match Category.ofFault? fault with
  | some category => .database category fault
  | none => .raised fault

/-- The failure of a statement: only faults of the client library have a
category. -/
def ofStatement (fault : Fault) : Failure :=
  if fault.isClient then ofFault fault else .raised fault

/-- The failure of an attempt to connect. -/
def ofConnect (fault : Fault) : Failure :=
  if fault.isClient then .connection fault else .raised fault

/-- Whether a failure is one of the library's own. -/
def isOwn : Failure → Bool
  | .connection _ | .database _ _ | .restore _ _ _ _ => true
  | _ => false

theorem isOwn_ofFault {fault : Fault} (client : fault.isClient = true) :
    (ofFault fault).isOwn = true := by
  obtain ⟨category, found⟩ := Category.ofFault?_of_isClient client
  simp [ofFault, found, isOwn]

def isSystem : Failure → Bool
  | .raised fault => fault.isSystem
  | .file error => error.isSystem
  | _ => false

/-- What is said about a statement of a restore that failed. -/
def restoreMessage (index total : Nat) (cause : Text) : Text :=
  text "Statement " ++ Digit.text (digits (index + 1)) ++ text " of " ++
    Digit.text (digits total) ++ text " failed after " ++ Digit.text (digits index) ++
    text " executed: " ++ cause

def message : Failure → Text
  | .raised fault => fault.message
  | .connection fault => text "Failed to connect to MySQL: " ++ fault.message
  | .statement unwritable => unwritable.message
  | .database category fault => text category.label ++ fault.message
  | .restore index total _ cause => restoreMessage index total cause.message
  | .row error => error.message
  | .name invalid => invalid.message
  | .missingColumn => text "tuple index out of range"
  | .file error => error.message

end Failure

end SqlDump.Server
