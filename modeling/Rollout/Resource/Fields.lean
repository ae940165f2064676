import Rollout.Document.Lenient
import Rollout.Failure

/-!
# Rollout.Resource.Fields

Records as the cluster's API writes them: maps whose members are read one by one.

* `field?` — a member under one of its names; a null counts as absent;
* `record`, `required`, `optional`, `defaulted` — the shape of a record;
* `Resource` — the records with a reading, and the view of one as a document with all of its fields;
* `decode` — the record that a document holds, or why it holds none.

A member may stand under its name in the API, which comes first, or under its plain name.
-/

namespace Rollout

namespace Document

/-- The member under the first of the names that has one. -/
def field? (d : Document) (names : List String) : Option Document :=
  names.findSome? fun name => (d.get? name).filter (!·.isNull)

/-- What is read of a record; nothing of a document that is no map. -/
def record {α : Type} (d : Document) (fields : Option α) : Option α :=
  if d.isMap then fields else none

variable {α : Type} (d : Document) (names : List String) (read : Document → Option α)

/-- A member that has to be there. -/
def required : Option α := (d.field? names).bind read

/-- A member that may be missing. -/
def optional : Option (Option α) :=
  match d.field? names with
  | none => some none
  | some v => (read v).map some

/-- A member with a value that counts where it is missing. -/
def defaulted (default : α) : Option α :=
  match d.field? names with
  | none => some default
  | some v => read v

/-- A text that has to be the given one. -/
def word? (w : String) : Document → Option String
  | text s => if s = w then some s else none
  | _ => none

/-! ## views -/

/-- A text, or null. -/
def ofText? (s : Option String) : Document := (s.map text).getD null

/-- A moment, or null. -/
def ofTime? (t : Option DateTime) : Document := (t.map time).getD null

/-- A whole number, or null. -/
def ofWhole? (i : Option Int) : Document := (i.map int).getD null

/-- A floating point number, or null. -/
def ofReal? (x : Option Binary64) : Document := (x.map float).getD null

/-- Texts under names, as a map. -/
def ofLabels (labels : Labels) : Document := object (labels.map fun (k, v) => (k, text v))

/-- A list of texts. -/
def ofTexts (texts : List String) : Document := list (texts.map text)

end Document

/-- A kind of record: how it is read, and how it is shown. -/
class Resource (α : Type) where
  read? : Document → Option α
  view : α → Document

namespace Resource

/-- Records in a list. -/
def list? {α : Type} [Resource α] (d : Document) : Option (List α) := d.asList? read?

/-- The views of records in a list. -/
def viewList {α : Type} [Resource α] (items : List α) : Document := .list (items.map view)

/-- The view of a record, or null. -/
def viewOption {α : Type} [Resource α] (item : Option α) : Document := (item.map view).getD .null

/-- The record that a document holds. -/
def decode {α : Type} [Resource α] (d : Document) (what : String) : Outcome α :=
  if d.isNull then .error (.malformed (.empty what))
  else
    match read? d with
    | some a => .ok a
    | none => .error (.malformed (.shape what))

/-- A document holds a record if it is not null and can be read as one. -/
theorem decode_eq_ok_iff {α : Type} [Resource α] {d : Document} {what : String} {a : α} :
    (decode d what : Outcome α) = .ok a ↔ d.isNull = false ∧ (read? d : Option α) = some a := by
  unfold decode
  cases d.isNull <;> cases read? (α := α) d <;> simp

end Resource

end Rollout
