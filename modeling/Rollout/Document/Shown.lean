import Rollout.Document
import Rollout.Number.Shortest
import Rollout.Text.Quoted

/-!
# Rollout.Document.Shown

Documents as they stand inside a message: texts between quotes, lists in brackets, maps in braces.
-/

namespace Rollout.Document

/-- Parts with a comma and a blank between them. -/
def shownParts (parts : List String) : String := String.intercalate ", " parts

mutual

/-- A document inside a message. -/
def shown : Document → String
  | null => "None"
  | bool b => if b then "True" else "False"
  | int i => toString i
  | float .nan => "nan"
  | float (.infinite s) => if s then "-inf" else "inf"
  | float x => x.text
  | text s => Text.quoted s
  | bytes _ => "bytes"
  | date day => DateTime.dayText day
  | time t => t.text
  | list items => "[" ++ shownParts (shownList items) ++ "]"
  | set items => "\x7b" ++ shownParts (shownList items) ++ "\x7d"
  | map _ entries => "\x7b" ++ shownParts (shownEntries entries) ++ "\x7d"
  | endless => "\x7b...\x7d"

def shownList : List Document → List String
  | [] => []
  | d :: ds => shown d :: shownList ds

def shownEntries : List (Document × Document) → List String
  | [] => []
  | (k, v) :: rest => (shown k ++ ": " ++ shown v) :: shownEntries rest

end

end Rollout.Document
