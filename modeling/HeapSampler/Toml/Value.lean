/-!
# TOML values

A value as it stands on the right of an equals sign. Numbers with a fraction and dates are kept as
they were written: nothing here computes with them.
-/

namespace HeapSampler.Toml

/-- A value. The fields of an inline table are in the order in which they were written. -/
inductive Value where
  | string (text : String)
  | integer (n : Int)
  | float (text : String)
  | boolean (b : Bool)
  | dateTime (text : String)
  | array (items : List Value)
  | inlineTable (fields : List (String × Value))
  deriving Repr

/-- One line of a document that says something: a key with its value, the header of a table, or
the header of an element of an array of tables. Keys are given with the names they are dotted
from. -/
inductive Statement where
  | assign (path : List String) (key : String) (value : Value)
  | table (path : List String) (key : String)
  | element (path : List String) (key : String)
  deriving Repr

end HeapSampler.Toml
