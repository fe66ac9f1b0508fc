import RequestBinding.Settings.Document

/-!
# Tables of TOML documents

A document is a list of statements: headers, which open a table, and pairs of a dotted key and a
value, which go into the table opened last. A table may be opened once, and dotted keys go only
through tables that are not opened by a header.

## Main definitions

* `Toml.Node` - tables under construction
* `Toml.Statement` - the statements
* `Toml.assemble` - the table of a list of statements
* `Toml.inline?` - the table of an inline list of pairs
-/

namespace RequestBinding.Toml

/-- How a table came about. -/
inductive Origin where
  /-- It was opened by a header, or is the document itself. -/
  | opened
  /-- It stands in the header of another table. -/
  | implied
  /-- It stands in a dotted key. -/
  | dotted
  deriving Repr, DecidableEq

/-- A value, a table under construction, or an array of such tables, the latest first. -/
inductive Node where
  | value (v : Document)
  | table (origin : Origin) (members : List (String × Node))
  | tables (items : List (List (String × Node)))
  deriving Inhabited

/-- The members of a table under construction. -/
abbrev Table := List (String × Node)

/-- A statement of a document. -/
inductive Statement where
  | header (path : List String)
  | element (path : List String)
  | pair (path : List String) (key : String) (v : Document)

/-- Changes the table at the end of a path. Tables that are missing come about on the way; an array
leads to its latest table. Paths in dotted keys do not lead through opened tables. -/
def within (made : Origin) (change : Origin → Table → Option Table) :
    List String → Origin → Table → Option Table
  | [], origin, t => change origin t
  | k :: rest, _, t =>
    match Members.get? k t with
    | none => (within made change rest made []).map fun inner => Members.put k (.table made inner) t
    | some (.value _) => none
    | some (.table origin inner) =>
      if made == .dotted && origin == .opened then none
      else
        (within made change rest origin inner).map fun inner =>
          Members.put k (.table origin inner) t
    | some (.tables []) => none
    | some (.tables (latest :: earlier)) =>
      (within made change rest .opened latest).map fun latest =>
        Members.put k (.tables (latest :: earlier)) t

/-- Opens a table with a key, which may be implied by then. -/
def openTable (k : String) (t : Table) : Option Table :=
  match Members.get? k t with
  | none => some (Members.put k (.table .opened []) t)
  | some (.table .implied inner) => some (Members.put k (.table .opened inner) t)
  | some _ => none

/-- Adds an empty table to the array with a key. -/
def addElement (k : String) (t : Table) : Option Table :=
  match Members.get? k t with
  | none => some (Members.put k (.tables [[]]) t)
  | some (.tables items) => some (Members.put k (.tables ([] :: items)) t)
  | some _ => none

/-- Puts a value under a new key. -/
def putValue (k : String) (v : Document) (t : Table) : Option Table :=
  if Members.contains k t then none else some (Members.put k (.value v) t)

/-- Puts a value under a dotted key. The table it ends in has to come from dotted keys too. -/
def putPair (path : List String) (k : String) (v : Document) (origin : Origin) (t : Table) :
    Option Table :=
  within .dotted
    (fun origin t => if path.isEmpty || origin == .dotted then putValue k v t else none)
    path origin t

/-- Applies a change to the table under the last key of a path. -/
def atLast (change : String → Table → Option Table) (path : List String) (t : Table) :
    Option Table :=
  match path.getLast? with
  | none => none
  | some k => within .implied (fun _ t => change k t) path.dropLast .opened t

/-- Carries statements out; `current` is the path of the table opened last. -/
def assembleFrom (current : List String) (t : Table) : List Statement → Option Table
  | [] => some t
  | .header path :: rest =>
    match atLast openTable path t with
    | some t => assembleFrom path t rest
    | none => none
  | .element path :: rest =>
    match atLast addElement path t with
    | some t => assembleFrom path t rest
    | none => none
  | .pair path k v :: rest =>
    match within .implied (putPair path k v) current .opened t with
    | some t => assembleFrom current t rest
    | none => none

mutual

/-- A finished node. -/
def Node.document : Node → Document
  | .value v => v
  | .table _ ms => .table (documents ms)
  | .tables items => .list (tableDocuments items).reverse

/-- The finished members of a table. -/
def documents : List (String × Node) → List (String × Document)
  | [] => []
  | (k, n) :: rest => (k, n.document) :: documents rest

/-- The finished tables of an array. -/
def tableDocuments : List (List (String × Node)) → List Document
  | [] => []
  | ms :: rest => .table (documents ms) :: tableDocuments rest

end

/-- The table of a list of statements. -/
def assemble (ss : List Statement) : Option Document :=
  (assembleFrom [] [] ss).map fun t => .table (documents t)

/-- The table of pairs in braces. -/
def inline? (pairs : List (List String × String × Document)) : Option Document :=
  (pairs.foldlM (fun t (path, k, v) => putPair path k v .opened t) []).map fun t =>
    .table (documents t)

end RequestBinding.Toml
