import FiatRamp.Toml.Basic

/-!
# FiatRamp.Toml.Table

Tables as they grow, line by line.

While a file is read it matters how a table came to be (`Origin`).  A table
is filled in one place: by its own header, by entries whose paths lead through
it, or as a value in braces.  A header may come after the headers of tables
inside its own, but it does not open a table a second time.
-/

namespace FiatRamp.Toml

/-- How a table came to be. -/
inductive Origin where
  /-- By a header of its own. -/
  | header
  /-- It stands on the path of a header, and may still get one of its own. -/
  | onHeader
  /-- It stands on the path of an entry, and other entries may add to it. -/
  | onEntry
  deriving DecidableEq

/-- Something with a name, while a file is read. -/
inductive Node where
  | value (v : Value)
  | table (origin : Origin) (entries : List (String × Node))
  /-- The tables of a list, the last one first. -/
  | tables (items : List (List (String × Node)))
  deriving Inhabited

/-- What a table holds while a file is read. -/
abbrev Entries := List (String × Node)

namespace Entries

/-- Puts a node under a name, in place of what stood there. -/
def put (name : String) (node : Node) : Entries → Entries
  | [] => [(name, node)]
  | (other, old) :: rest =>
    if other = name then (name, node) :: rest else (other, old) :: put name node rest

/-- Adds an entry.  Its name is new, and the tables on its path come from
entries, too. -/
def insert (value : Value) : Path → Entries → Option Entries
  | [], _ => none
  | [name], entries =>
    match entries.lookup name with
    | some _ => none
    | none => some (entries.put name (.value value))
  | name :: path, entries =>
    match entries.lookup name with
    | none => (insert value path []).map fun inner => entries.put name (.table .onEntry inner)
    | some (.table .onEntry inner) =>
      (insert value path inner).map fun inner => entries.put name (.table .onEntry inner)
    | some (.table .onHeader inner) =>
      if path.length = 1 then none
      else (insert value path inner).map fun inner => entries.put name (.table .onHeader inner)
    | some (.tables (last :: items)) =>
      if path.length = 1 then none
      else (insert value path last).map fun last => entries.put name (.tables (last :: items))
    | some _ => none

/-- Goes down the path of a header and lets `fill` make what its last name
stands for from what stands there. -/
def descend (fill : Option Node → Option Node) : Path → Entries → Option Entries
  | [], _ => none
  | [name], entries => (fill (entries.lookup name)).map fun node => entries.put name node
  | name :: path, entries =>
    match entries.lookup name with
    | none => (descend fill path []).map fun inner => entries.put name (.table .onHeader inner)
    | some (.table origin inner) =>
      (descend fill path inner).map fun inner => entries.put name (.table origin inner)
    | some (.tables (last :: items)) =>
      (descend fill path last).map fun last => entries.put name (.tables (last :: items))
    | some _ => none

/-- Adds several entries. -/
def insertAll (lines : List (Path × Value)) (entries : Entries) : Option Entries :=
  lines.foldlM (fun entries (path, value) => insert value path entries) entries

end Entries

/-- The table of a header with the entries below it. -/
def openTable (lines : List (Path × Value)) : Option Node → Option Node
  | none => (Entries.insertAll lines []).map (.table .header)
  | some (.table .onHeader inner) => (Entries.insertAll lines inner).map (.table .header)
  | some _ => none

/-- A list of tables with one more, of the entries below its header. -/
def openItem (lines : List (Path × Value)) : Option Node → Option Node
  | none => (Entries.insertAll lines []).map fun item => .tables [item]
  | some (.tables items) => (Entries.insertAll lines []).map fun item => .tables (item :: items)
  | some _ => none

/-! ## Finished tables -/

mutual

/-- The value of a node. -/
def Node.toValue : Node → Value
  | .value v => v
  | .table _ entries => .table (entriesToFields entries)
  | .tables items => .list (itemsToValues items).reverse

/-- The values of what a table holds. -/
def entriesToFields : List (String × Node) → List (String × Value)
  | [] => []
  | (name, node) :: entries => (name, node.toValue) :: entriesToFields entries

/-- The values of the tables of a list. -/
def itemsToValues : List (List (String × Node)) → List Value
  | [] => []
  | item :: items => .table (entriesToFields item) :: itemsToValues items

end

/-- The table of some entries, if they do not contradict each other. -/
def Value.ofEntries? (lines : List (Path × Value)) : Option Value :=
  (Entries.insertAll lines []).map fun entries => .table (entriesToFields entries)

/-! ## Files -/

/-- A header with the entries below it. -/
structure Section where
  /-- The table is one more item of a list. -/
  isItem : Bool
  path : Path
  entries : List (Path × Value)
  deriving Inhabited

/-- The entries before the first header, and what comes from there on. -/
def sections : List Line → List (Path × Value) × List Section
  | [] => ([], [])
  | .entry path value :: lines =>
    let (leading, rest) := sections lines
    ((path, value) :: leading, rest)
  | .header path :: lines =>
    let (leading, rest) := sections lines
    ([], ⟨false, path, leading⟩ :: rest)
  | .item path :: lines =>
    let (leading, rest) := sections lines
    ([], ⟨true, path, leading⟩ :: rest)

/-- Adds a header and the entries below it. -/
def Entries.addSection (entries : Entries) (s : Section) : Option Entries :=
  entries.descend (if s.isItem then openItem s.entries else openTable s.entries) s.path

/-- What the lines of a file say together, if they do not contradict each other. -/
def Value.ofLines? (lines : List Line) : Option Value := do
  let (leading, rest) := sections lines
  let entries ← rest.foldlM Entries.addSection (← Entries.insertAll leading [])
  return .table (entriesToFields entries)

end FiatRamp.Toml
