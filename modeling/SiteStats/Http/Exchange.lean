import SiteStats.Failure

/-!
# Exchanges

What the parts of the library note down while they work is a list of records, each with a level, the
part that it comes from, and a text. An exchange is what one call to the outside comes to: its
result, the request that was sent if there was one, and what was noted down on the way. There is
never more than one request.
-/

namespace SiteStats

/-! ## Log records -/

namespace Log

/-- How serious a record is. -/
inductive Level where
  | debug | info | error
deriving DecidableEq, Repr

/-- The word for a level. -/
def Level.text : Level → String
  | debug => "DEBUG"
  | info => "INFO"
  | error => "ERROR"

/-- The parts of the library that note something down. -/
inductive Source where
  | gateway | reports
deriving DecidableEq, Repr

/-- One entry of the log. -/
structure Record where
  level : Level
  source : Source
  text : Text
deriving DecidableEq, Repr

end Log

/-! ## Exchanges -/

namespace Http

/-- What a call comes to. -/
structure Exchange (α : Type) where
  result : Except Failure α
  request : Option Request
  log : List Log.Record

namespace Exchange

variable {α β : Type}

/-- A call that ended before anything was sent. -/
def unsent (failure : Failure) : Exchange α :=
  ⟨.error failure, none, []⟩

/-- The call whose result is worked on further. -/
def andThen (exchange : Exchange α) (f : α → Except Failure β) : Exchange β where
  result := exchange.result.bind f
  request := exchange.request
  log := exchange.log

/-- The call with a record of its failure, if it failed. -/
def noting (exchange : Exchange α) (record : Failure → Log.Record) : Exchange α :=
  match exchange.result with
  | .ok _ => exchange
  | .error failure => { exchange with log := exchange.log ++ [record failure] }

end Exchange

end Http

end SiteStats
