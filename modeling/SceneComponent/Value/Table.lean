import SceneComponent.Failure

/-!
# Tables

Entries under keys that need not be texts, in the order in which the keys were
first set.
-/

set_option autoImplicit false

namespace SceneComponent

abbrev Table := List (Value × Value)

namespace Table

/-- Sets an entry: a new key goes to the end, a known key keeps its place. -/
def put (table : Table) (key content : Value) : Table :=
  match table with
  | [] => [(key, content)]
  | entry :: rest =>
      if entry.1.sameScalar key then (entry.1, content) :: rest
      else entry :: put rest key content

def get? (table : Table) (key : Value) : Option Value :=
  (table.find? fun entry => entry.1.sameScalar key).map (·.2)

/-- An entry from something of two elements. -/
def entryOf (value : Value) : Except Failure (Value × Value) :=
  match value.elements? with
  | some [key, content] =>
      if key.isKey then .ok (key, content) else .error .unsuitableKind
  | some _ => .error .meaningless
  | none => .error .unsuitableKind

/-- A table given as a map or entry after entry; what does not count as given is
empty. -/
def ofValue (value : Value) : Except Failure Table :=
  match value with
  | .map entries => .ok (entries.map fun entry => (.text entry.1, entry.2))
  | _ =>
      if value.isTruthy then
        match value.elements? with
        | some elements => do
            let entries ← elements.mapM entryOf
            return entries.foldl (fun known entry => put known entry.1 entry.2) []
        | none => .error .unsuitableKind
      else .ok []

def named (table : Table) : List (String × Value) :=
  table.filterMap fun entry =>
    match entry.1 with
    | .text name => some (name, entry.2)
    | _ => none

end Table

end SceneComponent
