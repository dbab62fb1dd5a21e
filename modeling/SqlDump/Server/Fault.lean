import SqlDump.Server.ErrorNumber

/-!
# Faults

A fault is what a call of the client library can end with instead of an answer.
Most faults come from the library itself and carry the server's error number and
state; others come from below or beside it and only pass through.
-/

namespace SqlDump.Server

/-- The families of the client library's faults. -/
inductive Family where
  | general
  | interface
  | pool
  | database
  | internal
  | operational
  | programming
  | integrity
  | data
  | notSupported
  deriving DecidableEq, Repr

/-- Whether a fault of the family was reported by the server's database. -/
def Family.isDatabase : Family → Bool
  | .general | .interface | .pool => false
  | _ => true

/-- What a call of the client library can end with instead of an answer. -/
inductive Fault where
  /-- A fault of the library, with the server's error number and state where it has them. -/
  | client (family : Family) (code : Option Int) (state : Option Text) (detail : Text)
  /-- A fault of the operating system. -/
  | system (code : Option Int) (detail : Text)
  | runtime (detail : Text)
  | value (detail : Text)
  deriving DecidableEq, Repr

namespace Fault

def isClient : Fault → Bool
  | .client _ _ _ _ => true
  | _ => false

def isSystem : Fault → Bool
  | .system _ _ => true
  | _ => false

/-- The fault of the library with an error number and state. A number of the
library's own that has no wording cannot stand without a detail. -/
def ofClient? (family : Family) (code : Option Int) (state : Option Text) (detail : Text) :
    Option Fault :=
  let unknown := (code.map fun number =>
    ErrorNumber.isOwn number && (ErrorNumber.wording? number).isNone).getD false
  if detail.isEmpty && unknown then none else some (.client family code state detail)

/-- The error number of a fault. Zero and minus one stand for a number that is not known. -/
def code : Fault → Option Int
  | .client _ code _ _ => code.filter fun number => number ≠ 0 ∧ number ≠ -1
  | .system code _ => code
  | _ => none

/-- What is said about a fault of the library. One without a detail has the wording
of its number, if that is the library's own. The choice is that of the constructor of
errors in `mysql.connector`. -/
def detailOf (code : Option Int) (detail : Text) : Text :=
  if detail.isEmpty then text ((code.bind ErrorNumber.wording?).getD "Unknown error") else detail

/-- The text of a fault. Number, state and detail of a fault of the library are put together
as `mysql.connector` does it; the others have the texts that they came with. -/
def message (fault : Fault) : Text :=
  match fault with
  | .client _ code state detail =>
      match fault.code, state.filter (!·.isEmpty) with
      | none, _ => detailOf code detail
      | some number, none => Numeral.plain number ++ text ": " ++ detailOf code detail
      | some number, some state =>
          Numeral.plain number ++ text " (" ++ state ++ text "): " ++ detailOf code detail
  | .system none detail => detail
  | .system (some number) detail =>
      text "[Errno " ++ Numeral.plain number ++ text "] " ++ detail
  | .runtime detail | .value detail => detail

end Fault

end SqlDump.Server
