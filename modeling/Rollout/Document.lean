import Rollout.Text.Codes
import Rollout.Time.DateTime

/-!
# Rollout.Document

Documents: what an API body, an annotation or a stored record holds once it has been read.

Maps keep the order of their entries, and their keys may be any value that does not contain others.
A map that may be reached from several places of a document carries a `mark`; the places share one
object, so a change made through one of them shows at all.  A collection that contains itself has no
end; `endless` stands where it is written out no further.

* `get?` — the value under a text key;
* `insert` — adding an entry: a key that is there already keeps its place and gets the new value;
* `set?` — replacing the value at a path of text keys, in every place that shares the map.
-/

namespace Rollout

/-- A document. -/
inductive Document where
  | null
  | bool (b : Bool)
  | int (i : Int)
  | float (x : Binary64)
  | text (s : String)
  | bytes (bs : List UInt8)
  | date (day : Nat)
  | time (t : DateTime)
  | list (items : List Document)
  | set (members : List Document)
  | map (mark : Option Nat) (entries : List (Document × Document))
  | endless
  deriving Repr, Inhabited

namespace Document

/-- A map with text keys that nothing else shares. -/
def object (entries : List (String × Document)) : Document :=
  map none (entries.map fun (k, v) => (text k, v))

/-- The text of code points. -/
def ofCodes (codes : List Nat) : Document := text (Text.ofCodes codes)

/-- The word for the kind of a document, as it stands in a message. -/
def kindWord : Document → String
  | null => "NoneType"
  | bool _ => "bool"
  | int _ => "int"
  | float _ => "float"
  | text _ => "str"
  | bytes _ => "bytes"
  | date _ => "date"
  | time _ => "datetime"
  | list _ => "list"
  | set _ => "set"
  | map _ _ | endless => "dict"

/-- A map. -/
def isMap : Document → Bool
  | map _ _ => true
  | _ => false

/-- The null document. -/
def isNull : Document → Bool
  | null => true
  | _ => false

mutual

/-- Whether a document contains a collection that contains itself. -/
def isEndless : Document → Bool
  | endless => true
  | list items => anyEndless items
  | map _ entries => anyEndlessValue entries
  | _ => false

def anyEndless : List Document → Bool
  | [] => false
  | d :: ds => d.isEndless || anyEndless ds

def anyEndlessValue : List (Document × Document) → Bool
  | [] => false
  | (_, v) :: rest => v.isEndless || anyEndlessValue rest

end

mutual

/-- Whether a document contains a text with surrogates. -/
def hasHalves : Document → Bool
  | text s => Text.hasHalves s
  | list items | set items => anyHalves items
  | map _ entries => anyHalvesEntry entries
  | _ => false

def anyHalves : List Document → Bool
  | [] => false
  | d :: ds => d.hasHalves || anyHalves ds

def anyHalvesEntry : List (Document × Document) → Bool
  | [] => false
  | (k, v) :: rest => k.hasHalves || v.hasHalves || anyHalvesEntry rest

end

/-! ## looking up -/

/-- The value under a text key. -/
def valueOf? (key : String) : List (Document × Document) → Option Document
  | [] => none
  | (text k, v) :: rest => if k = key then some v else valueOf? key rest
  | _ :: rest => valueOf? key rest

/-- The value under a text key of a map. -/
def get? (d : Document) (key : String) : Option Document :=
  match d with
  | map _ entries => valueOf? key entries
  | _ => none

@[simp] theorem get?_map (mark : Option Nat) (key : String)
    (entries : List (Document × Document)) :
    (map mark entries).get? key = valueOf? key entries := rfl

/-! ## building maps -/

/-- The size of a number. -/
inductive Size where
  /-- A count of units of the floating point format. -/
  | units (count : Int)
  | infinite (negative : Bool)
  deriving DecidableEq, Repr

/-- The size of a number or a truth value. -/
def size? : Document → Option Size
  | bool b => some (.units (if b then Binary64.one else 0))
  | int i => some (.units (i * Binary64.one))
  | float (.finite s u) => some (.units (Binary64.signed s u))
  | float (.infinite s) => some (.infinite s)
  | _ => none

/-- Whether two numbers or truth values have one size. -/
def sameSize (a b : Document) : Bool :=
  match a.size?, b.size? with
  | some x, some y => x = y
  | _, _ => false

/-- Whether two keys are the same key of a map.  A whole number, a floating point number and a
truth value of one size are. -/
def sameKey : Document → Document → Bool
  | null, null => true
  | text a, text b => a = b
  | bytes a, bytes b => a = b
  | date a, date b => a = b
  | time a, time b => DateTime.comparable a b && a.instant == b.instant
  | float .nan, float .nan => true
  | int a, int b => a = b
  | a, b => sameSize a b

/-- Adds an entry.  A key that is there already keeps its place and gets the new value. -/
def insert (key value : Document) : List (Document × Document) → List (Document × Document)
  | [] => [(key, value)]
  | (k, v) :: rest => if sameKey k key then (k, value) :: rest else (k, v) :: insert key value rest

/-- The entries of a map written out one after the other. -/
def ofEntries (entries : List (Document × Document)) : List (Document × Document) :=
  entries.foldl (fun done (k, v) => insert k v done) []

/-! ## changing a value -/

mutual

/-- The document with the map of the given mark replaced. -/
def substitute (m : Nat) (whole : Document) : Document → Document
  | list items => list (substituteList m whole items)
  | map mark entries =>
    if mark = some m then whole else map mark (substituteEntries m whole entries)
  | d => d

def substituteList (m : Nat) (whole : Document) : List Document → List Document
  | [] => []
  | d :: ds => substitute m whole d :: substituteList m whole ds

def substituteEntries (m : Nat) (whole : Document) :
    List (Document × Document) → List (Document × Document)
  | [] => []
  | (k, v) :: rest => (k, substitute m whole v) :: substituteEntries m whole rest

end

/-- The entries with the value under a text key set. -/
def setEntry (key : String) (value : Document) (entries : List (Document × Document)) :
    List (Document × Document) :=
  insert (text key) value entries

/-- The document with `d[outer][inner]` set to `value`; none unless both are maps.  If the inner
map is shared, the change shows wherever it stands. -/
def set? (d : Document) (outer inner : String) (value : Document) : Option Document :=
  match d, d.get? outer with
  | map mark entries, some (map none innerEntries) =>
    some (map mark (setEntry outer (map none (setEntry inner value innerEntries)) entries))
  | _, some (map (some m) innerEntries) =>
    some (substitute m (map (some m) (setEntry inner value innerEntries)) d)
  | _, _ => none

end Document

end Rollout
