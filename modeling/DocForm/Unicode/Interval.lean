import DocForm.Unicode.CharSet

/-! Sets of code points as intervals: in ascending order, with gaps between them. -/

namespace DocForm.Unicode

abbrev Interval := Nat × Nat

def lastCode : Nat := 0x10FFFF

/-- Joins an interval to those behind it that overlap or touch. -/
def joinFrom (current : Interval) : List Interval → List Interval
  | [] => [current]
  | next :: rest =>
    if next.1 ≤ current.2 + 1 then joinFrom (current.1, max current.2 next.2) rest
    else current :: joinFrom next rest

def joinIntervals : List Interval → List Interval
  | [] => []
  | first :: rest => joinFrom first rest

def intervalsOf (intervals : List Interval) : List Interval :=
  joinIntervals (intervals.mergeSort fun first second => first.1 ≤ second.1)

def gapsFrom (start : Nat) : List Interval → List Interval
  | [] => if start ≤ lastCode then [(start, lastCode)] else []
  | interval :: rest =>
    if start < interval.1 then (start, interval.1 - 1) :: gapsFrom (interval.2 + 1) rest
    else gapsFrom (interval.2 + 1) rest

def CodeRun.intervals (run : CodeRun) : List Interval :=
  if run.step = 1 then [(run.first, run.last)]
  else
    (List.range ((run.last - run.first) / run.step + 1)).map fun index =>
      let code := run.first + index * run.step
      (code, code)

/-- The code points that differ in case from some other one. -/
def casedIntervals : List Interval :=
  foldRuns.flatMap fun run =>
    run.source.intervals ++
      (CodeRun.intervals ⟨run.target, run.target + (run.source.last - run.source.first),
        run.source.step⟩)

namespace CharSet

def unionIntervals (first second : List Interval) : List Interval := intervalsOf (first ++ second)

def interIntervals (first second : List Interval) : List Interval :=
  gapsFrom 0 (unionIntervals (gapsFrom 0 first) (gapsFrom 0 second))

/-- The single code points of some intervals that a set contains. -/
def selected (set : CharSet) (candidates : List Interval) : List Interval :=
  candidates.flatMap fun interval =>
    ((List.range (interval.2 + 1 - interval.1)).filterMap fun index =>
      let code := interval.1 + index
      if set.containsCode code then some (code, code) else none)

def intervals : CharSet → List Interval
  | runs members => intervalsOf (members.flatMap CodeRun.intervals)
  | union first second => unionIntervals first.intervals second.intervals
  | inter first second => interIntervals first.intervals second.intervals
  | diff first second => interIntervals first.intervals (gapsFrom 0 second.intervals)
  | xor first second =>
    unionIntervals (interIntervals first.intervals (gapsFrom 0 second.intervals))
      (interIntervals second.intervals (gapsFrom 0 first.intervals))
  | complement inner => gapsFrom 0 inner.intervals
  | folded inner => unionIntervals inner.intervals ((folded inner).selected casedIntervals)
  | asciiFolded inner =>
    unionIntervals inner.intervals ((asciiFolded inner).selected [(0x41, 0x5A), (0x61, 0x7A)])

end CharSet

end DocForm.Unicode
