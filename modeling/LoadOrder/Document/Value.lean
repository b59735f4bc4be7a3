/-!
# Values to be written

What a document holds, whatever its format: a tree of lists and of records with fields in order.
-/

namespace LoadOrder.Document

inductive Value where
  | bool (value : Bool)
  | int (value : Int)
  | text (value : String)
  | list (items : List Value)
  | record (fields : List (String × Value))
deriving Repr

end LoadOrder.Document
