/-!
# Log records
-/

namespace CellWidth

/-- How serious a record is. -/
inductive Level where
  | info
  | warning
  | error
deriving DecidableEq

/-- The name of a level. -/
def Level.name : Level → String
  | info => "INFO"
  | warning => "WARNING"
  | error => "ERROR"

/-- A line of the log, with the name of the logger that wrote it. -/
structure Record where
  level : Level
  logger : String
  message : String
deriving DecidableEq

end CellWidth
