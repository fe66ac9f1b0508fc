/-!
# Signals

What an operation reports besides its result: steps of counters and log events. A `Traced` value
is a result together with the signals that were given while it was computed, in order.

## Main definitions

* `Counter` - the counters with their labels
* `Event` - log events
* `Signal` - a counter step or an event
* `Traced` - results with signals
* `counts` - the counters of a list of signals
-/

namespace RequestBinding

/-! ## Counters -/

/-- The counters, each with the values of its labels. -/
inductive Counter where
  | routeMatches (resource action : String)
  | routeMisses
  | paramsMissing (param : String)
  | jobsEnqueued (job : String)
  deriving Repr, DecidableEq

namespace Counter

/-- The name of a counter. -/
def name : Counter → String
  | .routeMatches .. => "ariadne_route_matches_total"
  | .routeMisses => "ariadne_route_misses_total"
  | .paramsMissing _ => "ariadne_params_missing_total"
  | .jobsEnqueued _ => "ariadne_jobs_enqueued_total"

/-- The labels of a counter. -/
def labels : Counter → List (String × String)
  | .routeMatches resource action => [("resource", resource), ("action", action)]
  | .routeMisses => []
  | .paramsMissing param => [("param", param)]
  | .jobsEnqueued job => [("job", job)]

/-- The names of all counters with what they count. -/
def descriptions : List (String × String) := [
  ("ariadne_route_matches_total", "Total number of requests matched to a route"),
  ("ariadne_route_misses_total", "Total number of requests no route matched"),
  ("ariadne_params_missing_total", "Total number of missing required parameters"),
  ("ariadne_jobs_enqueued_total", "Total number of jobs handed off to a queue")]

end Counter

/-! ## Events -/

/-- The severity of an event, the most severe first. -/
inductive Level where
  | error
  | warn
  | info
  | debug
  | trace
  deriving Repr, DecidableEq

/-- A number that grows with verbosity. -/
def Level.verbosity : Level → Nat
  | .error => 1
  | .warn => 2
  | .info => 3
  | .debug => 4
  | .trace => 5

/-- The name of a level in log lines. -/
def Level.name : Level → String
  | .error => "ERROR"
  | .warn => "WARN"
  | .info => "INFO"
  | .debug => "DEBUG"
  | .trace => "TRACE"

/-- The value of a field of an event. -/
inductive FieldValue where
  | text (s : String)
  | count (n : Nat)
  deriving Repr, DecidableEq

/-- A log event: its severity, the part of the program that it comes from, its message and its
fields. -/
structure Event where
  level : Level
  target : String
  message : String
  fields : List (String × FieldValue)
  deriving Repr, DecidableEq

/-! ## Signals -/

/-- A counter step or an event. -/
inductive Signal where
  | count (c : Counter)
  | event (e : Event)
  deriving Repr, DecidableEq

/-- The counter that a signal steps. -/
def Signal.counter? : Signal → Option Counter
  | .count c => some c
  | .event _ => none

/-- The event that a signal carries. -/
def Signal.event? : Signal → Option Event
  | .count _ => none
  | .event e => some e

/-- The counters stepped by a list of signals, in order. -/
def counters (ss : List Signal) : List Counter := ss.filterMap Signal.counter?

/-- The events of a list of signals, in order. -/
def events (ss : List Signal) : List Event := ss.filterMap Signal.event?

/-- How often a counter was stepped. -/
def countOf (c : Counter) (ss : List Signal) : Nat := (counters ss).count c

/-- The counters that were stepped, each once, in the order of their first steps. -/
def stepped (ss : List Signal) : List Counter := (counters ss).eraseDups

/-- A result and the signals given on the way to it. -/
structure Traced (α : Type) where
  value : α
  signals : List Signal
  deriving Repr

namespace Traced

/-- A result without signals. -/
def pure {α : Type} (a : α) : Traced α := ⟨a, []⟩

/-- A result with one event. -/
def logged {α : Type} (a : α) (e : Event) : Traced α := ⟨a, [.event e]⟩

/-- Continues with a result; the signals of both parts follow each other. -/
def bind {α β : Type} (t : Traced α) (f : α → Traced β) : Traced β :=
  let u := f t.value
  ⟨u.value, t.signals ++ u.signals⟩

/-- Applies a function to a result. -/
def map {α β : Type} (f : α → β) (t : Traced α) : Traced β := ⟨f t.value, t.signals⟩

instance : Monad Traced where
  pure := Traced.pure
  bind := Traced.bind

end Traced

end RequestBinding
