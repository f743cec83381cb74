import Stencil.Value

/-!
# Reports

What a run over a folder has done, as fields and as lines for a reader.
-/

namespace Stencil

/-- What a run over a folder has done, with the files in the order of their paths. -/
structure Report where
  totalFiles : Int
  filesModified : Int
  totalDirectives : Int
  filesWithErrors : List Text
  warnings : List Text
  modifiedFiles : List Text
  deriving DecidableEq, Repr

namespace Report

/-- The report of a run over so many files that has done nothing yet. -/
def start (totalFiles : Nat) : Report := ⟨totalFiles, 0, 0, [], [], []⟩

def hasErrors (r : Report) : Bool := !r.filesWithErrors.isEmpty

def toFields (r : Report) : Fields :=
  [(text "total_files", .int r.totalFiles),
   (text "files_modified", .int r.filesModified),
   (text "total_directives", .int r.totalDirectives),
   (text "files_with_errors", .list (r.filesWithErrors.map .str)),
   (text "warnings", .list (r.warnings.map .str)),
   (text "modified_files", .list (r.modifiedFiles.map .str))]

def shownWarnings : Nat := 5

/-- A list with one entry a line under a headline; nothing for an empty one. -/
def listing (headline : Text) (entries : List Text) : List Text :=
  if entries.isEmpty then [] else [] :: headline :: entries.map (text "  • " ++ ·)

/-- The text with spaces behind it up to a width. -/
def padEnd (width : Nat) (s : Text) : Text := s ++ List.replicate (width - s.length) (chr ' ')

/-- The text with spaces in front of it up to a width. -/
def padStart (width : Nat) (s : Text) : Text := List.replicate (width - s.length) (chr ' ') ++ s

/-- Names and numbers in two columns, the numbers flush right. -/
def table (rows : List (Text × Int)) : List Text :=
  let cells := rows.map fun (name, n) => (name, Text.ofInt n)
  let width (column : List Text) := column.foldl (fun w s => max w s.length) 0
  let names := width (cells.map (·.1))
  let numbers := width (cells.map (·.2))
  cells.map fun (name, n) => [chr ' '] ++ padEnd names name ++ text "  " ++ padStart numbers n

/-- What stands above the warnings; it tells how many are not shown. -/
def warningsHeadline (count : Nat) : Text :=
  if shownWarnings < count then
    Text.ofNat count ++ text " warnings (showing first " ++ Text.ofNat shownWarnings ++ text "):"
  else text "Warnings:"

def lines (r : Report) : List Text :=
  [[], text "Template Processing Report"] ++
  table [(text "Files scanned", r.totalFiles), (text "Files modified", r.filesModified),
    (text "Directives processed", r.totalDirectives)] ++
  listing (text "Files with errors:") r.filesWithErrors ++
  listing (warningsHeadline r.warnings.length) (r.warnings.take shownWarnings)

end Report

end Stencil
