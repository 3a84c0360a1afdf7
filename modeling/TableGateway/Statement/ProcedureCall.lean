import TableGateway.Identifier

/-!
# Procedure calls

A call of a stored procedure with positional arguments.
-/

namespace TableGateway

/-- A call of a stored procedure. -/
structure ProcedureCall where
  /-- the name of the procedure -/
  procedure : Identifier
  /-- the arguments, in order -/
  arguments : List String
deriving DecidableEq

/-- The call that a request asks for. -/
def ProcedureCall.build (procedure : String) (arguments : List String) :
    Except Error ProcedureCall :=
  (Identifier.parse procedure).map (⟨·, arguments⟩)

end TableGateway
