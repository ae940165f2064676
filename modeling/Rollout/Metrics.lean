import Rollout.Document.Json
import Rollout.Resource.Fields

/-!
# Rollout.Metrics

Usage over time, as the metrics service reports it: buckets of samples, times in milliseconds since
1970.

* `Bucket.listOf?`, `Bucket.ofJson` — the buckets of a report, and of one in JSON;
* `trim` — the buckets of a window: without a last one that reaches past the end, and of the others
  the newest ones up to a limit;
* `Sample.ofBucket` — the average of a bucket at its start;
* `endpoints` — the first and the last time of several series.
-/

namespace Rollout

open Document

/-- Values of a gauge over an interval.  An empty bucket has no values; its average counts as
zero. -/
structure Bucket where
  start : Int
  finish : Int
  average : Binary64
  least : Option Binary64
  greatest : Option Binary64
  samples : Int
  empty : Bool
  deriving DecidableEq, Repr

namespace Bucket

/-- A bucket; a member that is there may not be null, the extremes apart. -/
def read? (d : Document) : Option Bucket := d.record do
  let member {α : Type} (name : String) (reading : Document → Option α) (usual : α) : Option α :=
    (d.get? name).elim (some usual) reading
  let orNull (v : Document) : Option (Option Binary64) :=
    if v.isNull then some none else v.asReal?.map some
  return {
    start := ← (d.get? "start").bind asWhole?
    finish := ← (d.get? "end").bind asWhole?
    average := ← member "avg" asReal? .zero
    least := ← member "min" orNull none
    greatest := ← member "max" orNull none
    samples := ← member "samples" asWhole? 0
    empty := ← member "empty" asFlag? false }

/-- The buckets of a report. -/
def listOf? (d : Document) : Option (List Bucket) := d.asList? read?

/-- How many collections of a report may stand inside each other. -/
def mostNested : Nat := 200

/-- The buckets of a report in JSON, which has no texts with surrogates. -/
def ofJson (report : String) : Outcome (List Bucket) :=
  match readJson mostNested report.toList with
  | .ok d =>
    match if d.hasHalves then none else listOf? d with
    | some buckets => .ok buckets
    | none => .error (.malformed .buckets)
  | .error _ => .error (.malformed .buckets)

end Bucket

/-- A value at a time, the time in milliseconds since 1970. -/
structure Sample where
  time : Binary64
  value : Binary64
  deriving DecidableEq, Repr

namespace Sample

/-- The average of a bucket, scaled, at its start. -/
def ofBucket (scale : Binary64) (b : Bucket) : Outcome Sample :=
  match Binary64.ofInt? b.start with
  | some t => .ok ⟨t, b.average * scale⟩
  | none => .error .tooLarge

def view (s : Sample) : Document := .object [("time", .float s.time), ("value", .float s.value)]

end Sample

/-! ## windows -/

/-- The milliseconds since 1970 of a moment. -/
def millisOf (t : DateTime) : Outcome Int :=
  match t.unixMillis? with
  | some n => .ok n
  | none => .error .tooEarly

/-- The moment a minute later, if the calendar has it. -/
def minuteAfter (t : DateTime) : Outcome DateTime :=
  (t.later? DateTime.minute).elim (.error .tooLarge) .ok

/-- The newest buckets up to a limit; all of them if the limit is negative. -/
def newest (limit : Int) (buckets : List Bucket) : List Bucket :=
  if 0 ≤ limit ∧ limit < buckets.length then buckets.drop (buckets.length - limit.toNat)
  else buckets

/-- The buckets of a window. -/
def trim (buckets : List Bucket) (finish : DateTime) (limit : Int) : Outcome (List Bucket) :=
  match buckets.getLast? with
  | none => .ok []
  | some last => do
    let millis ← millisOf finish
    return newest limit (if millis < last.finish then buckets.dropLast else buckets)

/-! ## the times of series -/

/-- The earlier of two times, the first one unless the second is smaller. -/
def earlier (found : Option Binary64) (t : Binary64) : Option Binary64 :=
  match found with
  | none => some t
  | some u => some (if t.lt u then t else u)

/-- The later of two times, the first one unless the second is larger. -/
def later (found : Option Binary64) (t : Binary64) : Option Binary64 :=
  match found with
  | none => some t
  | some u => some (if u.lt t then t else u)

/-- The first and the last time of several series, each in order of time. -/
def endpoints (series : List (List Sample)) : Option Binary64 × Option Binary64 :=
  ((series.filterMap List.head?).foldl (fun found s => earlier found s.time) none,
    (series.filterMap List.getLast?).foldl (fun found s => later found s.time) none)

/-! ## signals -/

/-- What is measured. -/
inductive Signal where
  | cpu
  | memory
  | sent
  | received
  deriving DecidableEq, Repr

namespace Signal

/-- The name of the gauge. -/
def descriptor : Signal → String
  | cpu => "cpu/usage_rate"
  | memory => "memory/usage"
  | sent => "network/tx_rate"
  | received => "network/rx_rate"

/-- What values are multiplied by: the use of processors is reported in thousandths of a core. -/
def scale : Signal → Binary64
  | cpu => .ofQuotient false 1 1000
  | _ => .ofQuotient false 1 1

end Signal

end Rollout
