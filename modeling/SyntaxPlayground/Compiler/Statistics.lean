import SyntaxPlayground.Compiler.Operation

/-!
# Statistics of compiler calls

Every call is recorded with its time, its duration and whether it failed. Calls older than the
window are forgotten whenever their operation is recorded or summarised. A summary has the number
of calls and of failures, the extreme durations, their mean and three percentiles.

Durations are 64 bits wide, and so is their sum, which wraps around.
-/

namespace SyntaxPlayground

/-- One recorded call. Times are in nanoseconds, the duration in milliseconds. -/
structure CallRecord where
  operation : Text
  time : Int
  duration : Int
  failed : Bool
deriving DecidableEq, Repr

/-- The calls that are remembered, oldest first, and for how long. -/
structure Statistics where
  window : Int
  calls : List CallRecord := []
deriving DecidableEq, Repr

/-- A summary of calls. Durations are in milliseconds. -/
structure Summary where
  count : Nat := 0
  failures : Nat := 0
  shortest : Int := 0
  longest : Int := 0
  mean : Float := 0
  median : Float := 0
  p95 : Float := 0
  p99 : Float := 0

/-! ## Arithmetic of durations -/

/-- A 64-bit integer as a floating-point number. -/
def floatOfInt (n : Int) : Float :=
  (Int64.ofInt n).toFloat

/-- The value below which `percent` per cent of the sorted values lie, between two of them if need
be. -/
def percentile (sorted : List Int) (percent : Float) : Float :=
  match sorted with
  | [] => 0
  | first :: _ =>
    if percent ≤ 0 then floatOfInt first
    else if 100 ≤ percent then floatOfInt (sorted.getLastD 0)
    else
      let index := floatOfInt (sorted.length - 1) * percent / 100
      let lower := index.toUInt64.toNat
      let low := floatOfInt (sorted.getD lower 0)
      match sorted[lower + 1]? with
      | none => low
      | some above => low + (floatOfInt above - low) * (index - floatOfInt lower)

namespace Statistics

/-- An hour, in nanoseconds. -/
def hour : Int := 3600000000000

/-- Nothing recorded yet. A window that is not positive means an hour. -/
def empty (window : Int) : Statistics :=
  { window := if window ≤ 0 then hour else window }

/-- Forgets the calls of an operation that are older than the window. -/
def prune (s : Statistics) (operation : Text) (now : Int) : Statistics :=
  { s with
    calls := s.calls.filter fun c => c.operation != operation || decide (now - s.window ≤ c.time) }

/-- Records a call. A negative duration counts as none. -/
def record (s : Statistics) (operation : Text) (now duration : Int) (failed : Bool) : Statistics :=
  let s := s.prune operation now
  { s with calls := s.calls ++ [⟨operation, now, max duration 0, failed⟩] }

/-- The remembered calls of an operation. -/
def callsOf (s : Statistics) (operation : Text) : List CallRecord :=
  s.calls.filter (·.operation == operation)

/-- The durations of calls, in order of size. -/
def durations (calls : List CallRecord) : List Int :=
  (calls.map CallRecord.duration).mergeSort

/-- The sum of durations, in 64 bits. -/
def total (calls : List CallRecord) : Int :=
  wrapInt64 (calls.foldr (fun c n => c.duration + n) 0)

/-- Summarises calls. -/
def summarize (calls : List CallRecord) : Summary :=
  match durations calls with
  | [] => {}
  | first :: rest =>
    let sorted := first :: rest
    { count := calls.length
      failures := calls.countP CallRecord.failed
      shortest := first
      longest := sorted.getLastD 0
      mean := floatOfInt (total calls) / floatOfInt calls.length
      median := percentile sorted 50
      p95 := percentile sorted 95
      p99 := percentile sorted 99 }

/-- The summary of an operation at a time; calls older than the window are forgotten. -/
def summary (s : Statistics) (operation : Text) (now : Int) : Summary × Statistics :=
  let s := s.prune operation now
  (summarize (s.callsOf operation), s)

/-- The summaries of all operations, one after the other. The clock is read for each of them. -/
def summarizeAll (s : Statistics) (clock : Operation → Int) :
    List (Operation × Summary) × Statistics :=
  Operation.all.foldl
    (fun (done, s) op =>
      let (summary, s) := s.summary op.name (clock op)
      (done ++ [(op, summary)], s))
    ([], s)

/-- The summaries of all operations when the clock stands still. -/
def summaries (s : Statistics) (now : Int) : List (Operation × Summary) × Statistics :=
  s.summarizeAll fun _ => now

end Statistics

end SyntaxPlayground
