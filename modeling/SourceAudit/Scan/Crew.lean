import SourceAudit.Scan.Files

/-! Many workers on one list of paths. A worker takes a path, then looks whether the scan was called off,
and scans the file only if it was not. The paths are taken and finished in any order, and someone else may
call the scan off at any moment; nobody can take that back. A worker whose file gives no outcome crashes,
and then there is no report. -/
namespace SourceAudit

/-- The state of a scan that workers are on. -/
structure Crew where
  waiting : List Path
  /-- Taken by a worker who has not looked yet whether to go on. -/
  taken : List Path
  underway : List Path
  collected : List Outcome
  calledOff : Bool
  /-- A worker left a path out. -/
  skipped : Bool
  /-- A worker crashed. -/
  crashed : Bool

namespace Crew

inductive Event where
  | take (path : Path)
  | check (path : Path)
  /-- The outcome of a file, if it has one, is put at some place among those collected. -/
  | finish (path : Path) (place : Nat)
  | callOff
deriving DecidableEq, Repr

def start (paths : List Path) (calledOff : Bool) : Crew := ⟨paths, [], [], [], calledOff, false, false⟩

/-- What an event does, if it can happen. -/
def step? (scan : Path → Option Outcome) (crew : Crew) : Event → Option Crew
  | .take p =>
    if p ∈ crew.waiting then
      some { crew with waiting := crew.waiting.erase p, taken := p :: crew.taken }
    else none
  | .check p =>
    if p ∈ crew.taken then
      if crew.calledOff then some { crew with taken := crew.taken.erase p, skipped := true }
      else some { crew with taken := crew.taken.erase p, underway := p :: crew.underway }
    else none
  | .finish p n =>
    if p ∈ crew.underway then
      match scan p with
      | none => some { crew with underway := crew.underway.erase p, crashed := true }
      | some outcome =>
        some { crew with
          underway := crew.underway.erase p
          collected := crew.collected.take n ++ outcome :: crew.collected.drop n }
    else none
  | .callOff => some { crew with calledOff := true }

def run? (scan : Path → Option Outcome) (crew : Crew) : List Event → Option Crew
  | [] => some crew
  | e :: es => (crew.step? scan e).bind fun next => next.run? scan es

/-- Every path was scanned or left out, unless a crash has stopped the scan before. -/
def isDone (crew : Crew) : Bool :=
  crew.crashed || crew.waiting.isEmpty && crew.taken.isEmpty && crew.underway.isEmpty

def report? (crew : Crew) : Option Report :=
  if crew.crashed then none else some (.build crew.collected crew.skipped)

/-- The paths for which a worker looked and saw `saw`, in a scan that starts out as `calledOff`. -/
def checkedWhen (saw calledOff : Bool) : List Event → List Path
  | [] => []
  | .callOff :: es => checkedWhen saw true es
  | .check p :: es =>
    if calledOff = saw then p :: checkedWhen saw calledOff es else checkedWhen saw calledOff es
  | _ :: es => checkedWhen saw calledOff es

/-- One worker alone takes the paths in order, and puts every outcome in the same place. -/
def oneByOne (calledOff : Bool) (place : Nat) (paths : List Path) : List Event :=
  paths.flatMap fun p => .take p :: .check p :: if calledOff then [] else [.finish p place]

end Crew
end SourceAudit
