import Telemetry.Store

/-!
# Collectors

A collector is polled at fixed intervals and says each time what is to be
changed in the store.  Its first poll is due once one interval has passed.
-/

namespace Telemetry
namespace Agent

/-- A source of metrics. -/
structure Collector where
  /-- Its name. -/
  name : String
  /-- The time between two polls; a collector without any is never polled. -/
  interval : Nat
  /-- What a poll changes; polls are numbered from zero. -/
  poll : Nat -> List Update

/-- A poll that has been made. -/
structure Poll where
  /-- When it was planned. -/
  planned : Nat
  /-- When it was due. -/
  due : Nat
  /-- What it changes. -/
  updates : List Update

/-- Of two polls the one that is due first goes first, else the one that was planned first. -/
def Poll.isBefore (left right : Poll) : Bool :=
  left.due < right.due || left.due == right.due && left.planned ≤ right.planned

namespace Collector

/-- The poll of a number. -/
def pollAt (collector : Collector) (number : Nat) : Poll where
  planned := number * collector.interval
  due := (number + 1) * collector.interval
  updates := collector.poll number

/-- How many polls are due up to an instant. -/
def pollsUntil (collector : Collector) (instant : Nat) : Nat :=
  instant / collector.interval

/--
How many polls come before something that is due at an instant after a wait of
`wait`.  A poll due at the same instant comes before it when it was planned
earlier, thus when its interval is the longer wait.
-/
def pollsBefore (collector : Collector) (instant wait : Nat) : Nat :=
  if wait < collector.interval then collector.pollsUntil instant
  else collector.pollsUntil (instant - 1)

/-- The first polls of a collector. -/
def firstPolls (collector : Collector) (count : Nat) : List Poll :=
  (List.range count).map collector.pollAt

end Collector

/-- A store after polls, which are made in the order in which they are due. -/
def pollAll (store : Store) (polls : List Poll) : Store :=
  store.applyAll ((polls.mergeSort Poll.isBefore).flatMap Poll.updates)

end Agent
end Telemetry
