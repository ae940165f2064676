import Rollout.Failure
import Rollout.Document.Lenient
import Rollout.Number.Decimal

/-!
# Rollout.Quantity

Quantities of resources: a decimal number with an optional unit, such as `500m` for half a core or
`1Gi` for 2 ^ 30 bytes.

* `Quantity.Reader`, `Quantity.standard` — what reads quantities: a number, or why there is none;
* `Quantity.ofText` — the floating point number that a quantity spells;
* `Quantity.ofDocument` — the same for any document, with a missing quantity as zero;
* `Quantity.named` — a quantity among others, by its name.
-/

namespace Rollout.Quantity

/-- The decimal units, with the power of ten that each stands for. -/
def decimalUnits : List (Char × Int) := [('n', -9), ('u', -6), ('m', -3), ('K', 3), ('k', 3),
  ('M', 6), ('G', 9), ('T', 12), ('P', 15), ('E', 18)]

/-- The letters of the binary units, with the power of 1024 that each stands for; an `i` follows. -/
def binaryUnits : List (Char × Nat) := [('K', 1), ('M', 2), ('G', 3), ('T', 4), ('P', 5), ('E', 6)]

/-- What the number of a quantity is multiplied by: `factor * 10 ^ power`. -/
structure Unit where
  factor : Nat
  power : Int
  deriving DecidableEq, Repr

/-- The number of a quantity and its unit, if it has one.  Of the units with an `i`, only the binary
ones exist. -/
def split? (cs : List Char) : Option (List Char × Option Unit) :=
  match cs.reverse with
  | 'i' :: c :: rest =>
    if (decimalUnits.lookup c).isSome then do
      let k ← binaryUnits.lookup c
      return (rest.reverse, some ⟨Nat.pow 1024 k, 0⟩)
    else some (cs, none)
  | c :: rest =>
    match decimalUnits.lookup c with
    | some power => some (rest.reverse, some ⟨1, power⟩)
    | none => some (cs, none)
  | [] => some ([], none)

/-- Why a reader has no number for a text. -/
inductive Refusal where
  /-- The text is no quantity. -/
  | form
  /-- Its arithmetic has no result. -/
  | trapped (trap : Decimal.Trap)
  deriving DecidableEq, Repr

/-- A reader of quantities. -/
abbrev Reader := String → Except Refusal Decimal

/-- The reader that refuses a text without a number as one that is no quantity. -/
def standard : Reader := fun s =>
  match split? s.toList with
  | none => .error .form
  | some (number, unit) =>
    match Decimal.ofText? (String.ofList number), unit with
    | none, _ => .error .form
    | some d, none => .ok d
    | some d, some u => (d.mul u.factor u.power).mapError fun _ => .form

/-- The floating point number that a quantity spells, as it is read. -/
def ofText (read : Reader) (s : String) : Outcome Binary64 :=
  let malformed := Failure.malformed (.quantity (.text s))
  match read s with
  | .ok d => d.toBinary64?.elim (.error malformed) .ok
  | .error .form => .error malformed
  | .error (.trapped trap) => .error (.trapped trap)

/-- The number of a quantity; zero if it is missing or empty. -/
def ofDocument (d : Document) (read : Reader := standard) : Outcome Binary64 :=
  match d with
  | .null | .text "" => .ok .zero
  | .bool b => .ok (.ofQuotient false (if b then 1 else 0) 1)
  | .int i => .ok (.ofQuotient (i < 0) i.natAbs 1)
  | .float x => .ok x
  | .text s => ofText read s
  | _ => .error (.malformed (.quantity d))

/-- A quantity by its name; zero if there is none. -/
def named (quantities : Labels) (name : String) (read : Reader := standard) : Outcome Binary64 :=
  ofDocument ((quantities.lookup name).elim .null .text) read

end Rollout.Quantity
