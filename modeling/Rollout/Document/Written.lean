import Rollout.Failure
import Rollout.Number.Numeral

/-!
# Rollout.Document.Written

What stands in the way of writing a document as a text.

Any value can be written, but for a whole number of more than `mostDigits` digits, and for what stands
too deep inside of others: each level of a document takes its share of the stack.
-/

namespace Rollout

/-- Whether a whole number can be written. -/
@[irreducible]
def isShort (n : Int) : Bool := n.natAbs < Nat.pow 10 mostDigits

/-- A whole number that is written down. -/
def written (n : Int) : Outcome Int := if isShort n then .ok n else .error .tooLong

theorem eq_of_written {n m : Int} (h : written n = .ok m) : m = n := by
  unfold written at h
  split at h
  · exact (Except.ok.inj h).symm
  · contradiction

namespace Document

/-- Why a document cannot be written where so many levels fit, if it cannot.  Keys come before their
values. -/
def obstacle? : Nat → Document → Option Failure
  | 0, _ => some .tooDeep
  | room + 1, d =>
    match d with
    | int n => if isShort n then none else some .tooLong
    | list items | set items => items.findSome? (obstacle? room)
    | map _ entries => entries.findSome? fun (k, v) => (obstacle? room k).or (obstacle? room v)
    | _ => none

/-- How many levels of a document can be written. -/
def mostWritten : Nat := 327

/-- Why a document cannot be written, if it cannot. -/
def fault? (d : Document) : Option Failure := d.obstacle? mostWritten

example : (list [null, int (Nat.pow 10 mostDigits)]).fault? matches some .tooLong := by decide +kernel

end Document

end Rollout
