import Rollout.Document

/-!
# Rollout.Document.Order

Maps sorted by their keys.

* `keyLt?` — whether a key comes before another;
* `sorted` — a list in an order, of which nothing has to be known;
* `inKeyOrder` — the document with every map sorted by its keys, where these have an order.

A number that is none comes neither before nor after others, so the order of keys is in general not
transitive, and which of its results sorting has depends on the comparisons that it makes: the
longest start of the list that is in order, or in the opposite order, is kept, and the others are put
into their places one after the other, each place found by halving.
-/

namespace Rollout

/-! ## sorting -/

section

variable {α : Type} (before : α → α → Bool)

/-- The longest start of a list `a :: rest` in which `follows x y` holds for all neighbours, and what
comes after it. -/
def stretch (follows : α → α → Bool) (a : α) : List α → List α × List α
  | [] => ([a], [])
  | b :: rest =>
    if follows a b then
      let (run, more) := stretch follows b rest
      (a :: run, more)
    else ([a], b :: rest)

/-- The longest start of a list that is in order, or in the opposite order and then reversed, and
what comes after it. -/
def firstRun : List α → List α × List α
  | a :: b :: rest =>
    if before b a then
      let (run, more) := stretch (fun x y => before y x) a (b :: rest)
      (run.reverse, more)
    else stretch (fun x y => !before y x) a (b :: rest)
  | short => (short, [])

/-- The place from `low` to `high` for `a` among others, after those it does not come before. -/
def placeFor (a : α) (others : Array α) (low high : Nat) : Nat :=
  if low < high then
    let middle := low + (high - low) / 2
    if (others[middle]?).any (before a) then placeFor a others low middle
    else placeFor a others (middle + 1) high
  else low
termination_by high - low

/-- The list with another member in its place. -/
def putInPlace (others : List α) (a : α) : List α :=
  let place := placeFor before a others.toArray 0 others.length
  others.take place ++ a :: others.drop place

/-- The members of a list in an order. -/
def sorted (members : List α) : List α :=
  let (run, more) := firstRun before members
  more.foldl (putInPlace before) run

end

namespace Document

/-! ## the order of keys -/

/-- Whether a size is smaller than another one. -/
def Size.lt : Size → Size → Bool
  | units a, units b => a < b
  | units _, infinite negative => !negative
  | infinite negative, units _ => negative
  | infinite a, infinite b => a && !b

/-- A number or a truth value. -/
def isNumber : Document → Bool
  | bool _ | int _ | float _ => true
  | _ => false

/-- Whether one key comes before another; none if the two have no order. -/
def keyLt? : Document → Document → Option Bool
  | text a, text b => some (decide (Text.codesOf a.toList < Text.codesOf b.toList))
  | bytes a, bytes b => some (decide (a < b))
  | date a, date b => some (a < b)
  | time a, time b => (DateTime.notBefore? a b).map (!·)
  | a, b =>
    if a.isNumber ∧ b.isNumber then
      match a.size?, b.size? with
      | some x, some y => some (x.lt y)
      | _, _ => some false
    else none

/-- The entries sorted by their keys, if all of these have an order. -/
def sortEntries (entries : List (Document × Document)) : List (Document × Document) :=
  if entries.all fun a => entries.all fun b => (keyLt? a.1 b.1).isSome then
    sorted (fun a b => (keyLt? a.1 b.1).getD false) entries
  else entries

mutual

/-- The document with the entries of every map in the order of their keys.  Numbers that are none
become one key. -/
def inKeyOrder : Document → Document
  | list items => list (inKeyOrderList items)
  | set members => set ((ofEntries (members.map (·, null))).map (·.1))
  | map mark entries => map mark (ofEntries (sortEntries (inKeyOrderEntries entries)))
  | d => d

def inKeyOrderList : List Document → List Document
  | [] => []
  | d :: ds => inKeyOrder d :: inKeyOrderList ds

def inKeyOrderEntries : List (Document × Document) → List (Document × Document)
  | [] => []
  | (k, v) :: rest => (k, inKeyOrder v) :: inKeyOrderEntries rest

end

end Document

end Rollout
