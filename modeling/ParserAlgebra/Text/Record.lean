/-!
# Records as texts

A record is described by its name and its fields: the name, then in braces each field as
its name, a colon and its text, with a comma between two fields.
-/

namespace ParserAlgebra.Text

/-- One field of a described record. -/
def field (name text : String) : String :=
  name ++ ": " ++ text

/-- The description of a record with at least one field. -/
def record (name : String) (fields : List (String × String)) : String :=
  name ++ " \x7b " ++
    String.intercalate ", " (fields.map fun entry => field entry.1 entry.2) ++ " \x7d"

end ParserAlgebra.Text
