/-!
# Names of collections

A database and a collection in it. The qualified name puts a dot between the two
and is read from its first dot, so a collection may hold dots itself. Commands
are sent to a collection of their own.
-/

namespace CommandLink

/-- A database and a collection. -/
structure CollectionName where
  database : String
  collection : String
  deriving DecidableEq, Repr

namespace CollectionName

/-- The collection that commands are sent to. -/
def commandTarget : String := "$cmd"

/-- Where the commands of a database go. -/
def ofCommand (database : String) : CollectionName := ⟨database, commandTarget⟩

/-- The qualified name. -/
def qualified (space : CollectionName) : String := space.database ++ "." ++ space.collection

/-- Read a qualified name. Neither part may be empty. -/
def parse? (qualified : String) : Option CollectionName :=
  let chars := qualified.toList
  match chars.takeWhile (· ≠ '.'), chars.dropWhile (· ≠ '.') with
  | first :: database, _ :: next :: collection =>
    some ⟨String.ofList (first :: database), String.ofList (next :: collection)⟩
  | _, _ => none

end CollectionName

end CommandLink
