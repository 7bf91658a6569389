import MockCluster.IdSet

/-!
Names that are not taken: candidates are tried one after another, and the first free one is chosen.

Candidates that differ in pairs cannot all be taken, so one more try than there are taken names is
enough.
-/

namespace MockCluster

namespace FreshName

/-- The first candidate from `n` on that is not taken, with at most `tries` failures. -/
def probe (taken : IdSet) (candidate : Nat → String) : (tries n : Nat) → String
  | 0, n => candidate n
  | tries + 1, n =>
    if taken.contains (candidate n) then probe taken candidate tries (n + 1) else candidate n

end FreshName

def freshName (taken : IdSet) (candidate : Nat → String) (start : Nat) : String :=
  FreshName.probe taken candidate (taken.toList.length + 1) start

structure Rename where
  old : String
  new : String
  deriving DecidableEq, Repr

end MockCluster
