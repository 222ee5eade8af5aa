/-
  This file defines a log that counts everything reported to
  it and keeps only the first entries.

  Key definitions include:
    * `Gantry.Log`
    * `Gantry.Log.capacity`
    * `Gantry.Log.push`
    * `Gantry.Log.isFull`
-/

------------------------------------------------------------
-- Capped Logs
------------------------------------------------------------

namespace Gantry

/-
  Entries in the order in which they were reported, and how
  many were reported in all.
-/
structure Log (α : Type) where
  kept : List α := []
  total : Nat := 0
deriving DecidableEq, Repr

namespace Log

variable {α β : Type}

/- The number of entries that are kept. -/
def capacity : Nat := 20

/- The log to which nothing was reported. -/
def empty : Log α := {}

/-
  Report one entry. Beyond the capacity it is only counted.
-/
def push
    (log : Log α)
    (entry : α) : Log α :=
  { kept :=
      if log.kept.length < capacity then
        log.kept ++ [entry]
      else
        log.kept
    total := log.total + 1 }

/- Report several entries in order. -/
def pushAll
    (log : Log α)
    (entries : List α) : Log α :=
  entries.foldl push log

/- Nothing was reported. -/
def isEmpty
    (log : Log α) : Bool :=
  log.total == 0

/- The capacity has been used up. -/
def isFull
    (log : Log α) : Bool :=
  capacity ≤ log.total

/- The entry reported first. -/
def first?
    (log : Log α) : Option α :=
  log.kept.head?

/- The same log with a function applied to every kept entry. -/
def map
    (f : α → β)
    (log : Log α) : Log β :=
  { kept := log.kept.map f
    total := log.total }

end Log

end Gantry
