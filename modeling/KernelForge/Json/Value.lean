/-!
Contract: the JSON documents that this library writes and reads.

Owns: the value type. Numbers are integers: nothing here measures in fractions.
An object keeps its members in the order in which they are listed.

Does not own: the text of a value; that is `KernelForge.Json.Printer`.
-/

namespace KernelForge

inductive Json where
  | null
  | boolean (value : Bool)
  | integer (value : Int)
  | text (value : String)
  | array (items : List Json)
  | object (members : List (String × Json))
deriving Repr

end KernelForge
