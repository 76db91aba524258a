import NetSweep.Json.Basic

/-!
# Tables under construction

A TOML document names its tables in any order, and a table may come into being in three ways: by
a header of its own, by a longer header, or by a dotted key.  Each table is defined once, so the
way it came into being decides what may still be added to it.
-/

namespace NetSweep.Toml

inductive Origin where
  /-- by its own header, or as the document itself -/
  | defined
  /-- by the header of a table inside it -/
  | implied
  /-- by a dotted key -/
  | dotted
deriving DecidableEq, Repr

inductive Node where
  /-- a value that is complete -/
  | value (v : Json)
  | table (origin : Origin) (members : List (String × Node))
  /-- an array whose items are tables with headers of their own -/
  | tables (items : List (List (String × Node)))

/-- A table, with its members in ascending key order. -/
structure Table where
  origin : Origin
  members : List (String × Node)

namespace Table

def root : Table := { origin := .defined, members := [] }

def bindKey (t : Table) (key : String) (n : Node) : Table :=
  { t with members := Assoc.insert key n t.members }

/-- Changes the table at a path.  Tables on the way that are missing come into being; a dotted
key does not go through tables that have headers. -/
def descend (dotted : Bool) (change : Table → Option Table) : List String → Table → Option Table
  | [], t => change t
  | key :: path, t =>
    match Assoc.find? key t.members with
    | none =>
      let fresh : Table := { origin := if dotted then .dotted else .implied, members := [] }
      (descend dotted change path fresh).map fun inner =>
        t.bindKey key (.table inner.origin inner.members)
    | some (.table origin members) =>
      if dotted ∧ origin = .defined then none
      else
        (descend dotted change path { origin, members }).map fun inner =>
          t.bindKey key (.table inner.origin inner.members)
    | some (.tables items) =>
      match items.reverse with
      | last :: before =>
        (descend dotted change path { origin := .defined, members := last }).map fun inner =>
          t.bindKey key (.tables (inner.members :: before).reverse)
      | [] => none
    | some (.value _) => none

/-- Binds a key, reached by a dotted path, to a value.  A table that a header stands for takes
single keys only, one that a dotted key made takes dotted keys only. -/
def addPair (path : List String) (key : String) (v : Json) : Table → Option Table :=
  descend true (fun t =>
    if (t.origin = .dotted) = path.isEmpty ∨ Assoc.contains key t.members then none
    else some (t.bindKey key (.value v))) path

def openTable (path : List String) (key : String) : Table → Option Table :=
  descend false (fun t =>
    match Assoc.find? key t.members with
    | none => some (t.bindKey key (.table .defined []))
    | some (.table .implied members) => some (t.bindKey key (.table .defined members))
    | _ => none) path

def openItem (path : List String) (key : String) : Table → Option Table :=
  descend false (fun t =>
    match Assoc.find? key t.members with
    | none => some (t.bindKey key (.tables [[]]))
    | some (.tables items) => some (t.bindKey key (.tables (items ++ [[]])))
    | _ => none) path

end Table

/-! ## As JSON -/

mutual

def Node.toJson : Node → Json
  | .value v => v
  | .table _ members => .object (membersToJson members)
  | .tables items => .array (tablesToJson items)

def membersToJson : List (String × Node) → List (String × Json)
  | [] => []
  | (key, n) :: rest => (key, n.toJson) :: membersToJson rest

def tablesToJson : List (List (String × Node)) → List Json
  | [] => []
  | members :: rest => .object (membersToJson members) :: tablesToJson rest

end

def Table.toJson (t : Table) : Json := .object (membersToJson t.members)

end NetSweep.Toml
