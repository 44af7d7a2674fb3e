/-!
# JSON values

JSON texts as trees. String literals and numbers are kept as they are written,
since a reader may want to know more than what they stand for, and members keep
their order and their repetitions.
-/

namespace TemplateVars

/-- A JSON value; literals are kept as written, string literals without their quotes. -/
inductive Json where
  | null
  | bool (value : Bool)
  /-- A number as written. -/
  | number (literal : List Char)
  /-- A string as written between its quotes. -/
  | string (literal : List Char)
  | array (elements : List Json)
  /-- Members in the order written, each with its key as written between quotes. -/
  | object (members : List (List Char × Json))
  deriving Inhabited

end TemplateVars
