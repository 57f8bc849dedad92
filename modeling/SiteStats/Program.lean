import SiteStats.Http.Exchange
import SiteStats.Query.Held

/-!
# Programs that send requests

A program sends requests, notes things down, and ends with a result or is put to an end by something
that is raised. What it has sent and noted down by then is its course, and nothing that is raised
undoes any of it. How many requests a program sends is up to the program.
-/

namespace SiteStats

open Http

/-- The requests that have been sent, and what has been noted down. -/
structure Course where
  sent : List Request
  log : List Log.Record

/-- How requests are replied to, each in view of those that were sent before. -/
abbrev Link := List Request → Request → Reply

/-- A program with a result. -/
abbrev Program (α : Type) := ExceptT Raised (StateM Course) α

namespace Program

variable {α : Type}

/-- Notes something down. -/
def note (records : List Log.Record) : Program Unit :=
  modify fun course => { course with log := course.log ++ records }

/-- Sends a request. -/
def send (link : Link) (request : Request) : Program Reply := do
  let course ← get
  set { course with sent := course.sent ++ [request] }
  return link course.sent request

/-- A result that has been worked out. -/
def ofResult : Except Raised α → Program α
  | .ok value => pure value
  | .error raised => throw raised

/-- A result that may have failed for a known cause. -/
def ofKnown (result : Except Failure α) : Program α :=
  ofResult (result.mapError .known)

/-- Notes down what puts an end to a program, and lets it do so. What the program was about is found
out only then, and finding it out may raise something else. -/
def reporting (what : Except Raised Text) (program : Program α) : Program α :=
  tryCatch program fun raised => do
    let what ← ofResult what
    note [⟨.error, .reports, "Error fetching " ++ what ++ ": " ++ raised.message⟩]
    throw raised

/-- What a program comes to, and its course, when it goes on from where another has ended. -/
def exec (program : Program α) (course : Course) : Except Raised α × Course :=
  StateT.run (ExceptT.run program) course

end Program

end SiteStats
