import TokenTables.Text.Basic

/-!
Sets of code points as runs, first and last of each. Built with `insert`, the runs are in order and do
not touch, so a set is empty only as the empty list, and its complement is read off the gaps.
-/

namespace TokenTables

abbrev Runs := List (Nat × Nat)

namespace Runs

/-- Adds the run from `first` to `last`, joined with the runs that it touches. -/
def insert (first last : Nat) : Runs → Runs
  | [] => [(first, last)]
  | (a, b) :: rest =>
    if last + 1 < a then (first, last) :: (a, b) :: rest
    else if b + 1 < first then (a, b) :: insert first last rest
    else insert (min a first) (max b last) rest

def single (n : Nat) : Runs := [(n, n)]

def union (r s : Runs) : Runs := s.foldl (fun acc run => insert run.1 run.2 acc) r

def ofList (runs : List (Nat × Nat)) : Runs := union [] runs

/-- What lies from `start` to `top` between the runs. -/
def gaps (start top : Nat) : Runs → Runs
  | [] => if start ≤ top then [(start, top)] else []
  | (a, b) :: rest =>
    if start < a then (start, a - 1) :: gaps (b + 1) top rest else gaps (b + 1) top rest

def complement (top : Nat) (r : Runs) : Runs := gaps 0 top r

def intersection (top : Nat) (r s : Runs) : Runs :=
  complement top (union (complement top r) (complement top s))

def difference (top : Nat) (r s : Runs) : Runs := intersection top r (complement top s)

def symmetricDifference (top : Nat) (r s : Runs) : Runs :=
  union (difference top r s) (difference top s r)

def single? : Runs → Option Nat
  | [(first, last)] => if first = last then some first else none
  | _ => none

def isWithin (top : Nat) (r : Runs) : Bool := r.all fun run => run.2 ≤ top

end Runs

end TokenTables
