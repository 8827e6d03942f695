import MergeScribe.Toml.Basic

/-!
# Building tables

A document names its tables by headers and by dotted keys, and a table is built up over several
places. What has been made in one way must not be made again in another; which ways go together is
said here.
-/

namespace MergeScribe

namespace Toml

/-- How a table came to be: by a header of its own, by the header of a table inside it, or by a
dotted key. -/
inductive Origin where
  | header
  | implied
  | dotted
  deriving DecidableEq

/-- A part of a document that is being built. -/
inductive Node where
  | value (v : Toml)
  | table (origin : Origin) (members : List (Text × Node))
  /-- An array of tables; the last one is open. -/
  | tables (elements : List (List (Text × Node)))

/-- The members of a table that is being built. -/
abbrev Members : Type :=
  List (Text × Node)

/-! ## 1. Finished tables -/

mutual

/-- The finished value of a part. -/
def Node.finish : Node → Toml
  | .value v => v
  | .table _ members => .table (finishMembers members)
  | .tables elements => .array (finishTables elements)

/-- The finished members of a table. -/
def finishMembers : List (Text × Node) → List (Text × Toml)
  | [] => []
  | (name, node) :: more => (name, node.finish) :: finishMembers more

/-- The finished tables of an array. -/
def finishTables : List (List (Text × Node)) → List Toml
  | [] => []
  | members :: more => .table (finishMembers members) :: finishTables more

end

/-! ## 2. Changing tables -/

/-- Put a part under a name, in the place of the one that was there. -/
def Members.set (name : Text) (node : Node) : Members → Members
  | [] => [(name, node)]
  | (k, v) :: more =>
    if k = name then (k, node) :: more else (k, v) :: Members.set name node more

/-- Change the table that an array of tables has open. -/
def changeLast (f : Members → Option Members) : List Members → Option (List Members)
  | [] => none
  | [last] => (f last).map fun last => [last]
  | first :: more => (changeLast f more).map fun more => first :: more

/-- Change the table at a path of headers. Tables on the way are made on demand. -/
def Members.within (f : Members → Option Members) : List Text → Members → Option Members
  | [], members => f members
  | name :: path, members =>
    match members.lookup name with
    | none =>
      (Members.within f path []).map fun inner =>
        Members.set name (.table .implied inner) members
    | some (.table origin inner) =>
      (Members.within f path inner).map fun inner =>
        Members.set name (.table origin inner) members
    | some (.tables elements) =>
      (changeLast (Members.within f path) elements).map fun elements =>
        Members.set name (.tables elements) members
    | some (.value _) => none

/-- Give a dotted key a value. The key must be new. A table on its way must not have a header of its
own, and the table that gets the value must have come about by dotted keys alone. -/
def Members.assign (value : Toml) : List Text → Members → Option Members
  | [], _ => none
  | [name], members =>
    match members.lookup name with
    | none => some (members ++ [(name, .value value)])
    | some _ => none
  | name :: path, members =>
    match members.lookup name with
    | none =>
      (Members.assign value path []).map fun inner =>
        members ++ [(name, .table .dotted inner)]
    | some (.table .dotted inner) =>
      (Members.assign value path inner).map fun inner =>
        Members.set name (.table .dotted inner) members
    | some (.table .implied inner) =>
      if path.length = 1 then none
      else
        (Members.assign value path inner).map fun inner =>
          Members.set name (.table .implied inner) members
    | some (.tables elements) =>
      if path.length = 1 then none
      else
        (changeLast (Members.assign value path) elements).map fun elements =>
          Members.set name (.tables elements) members
    | some _ => none

/-- Make the table of a header. It may exist only as one that other headers implied. -/
def Members.openTable (name : Text) (members : Members) : Option Members :=
  match members.lookup name with
  | none => some (members ++ [(name, .table .header [])])
  | some (.table .implied inner) => some (Members.set name (.table .header inner) members)
  | some _ => none

/-- Make one more table of an array of tables. -/
def Members.openElement (name : Text) (members : Members) : Option Members :=
  match members.lookup name with
  | none => some (members ++ [(name, .tables [[]])])
  | some (.tables elements) => some (Members.set name (.tables (elements ++ [[]])) members)
  | some _ => none

/-- The table of pairs of dotted keys and values, closed to additions. -/
def ofPairs? (pairs : List (List Text × Toml)) : Option Toml :=
  (pairs.foldlM (fun members pair => Members.assign pair.2 pair.1 members) []).map fun members =>
    .table (finishMembers members)

end Toml

end MergeScribe
