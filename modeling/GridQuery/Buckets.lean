/-!
Buckets: the items of one key together, keys and items in the order in which they first
came.
-/

namespace GridQuery

abbrev Buckets (Key Item : Type) := List (Key × List Item)

namespace Buckets

variable {Key Item : Type}

/-- An item put with the others of its key. -/
def put (same : Key → Key → Bool) (key : Key) (item : Item) :
    Buckets Key Item → Buckets Key Item
  | [] => [(key, [item])]
  | (other, items) :: rest =>
      if same other key then (other, items ++ [item]) :: rest
      else (other, items) :: put same key item rest

def ofList (same : Key → Key → Bool) (items : List (Key × Item)) : Buckets Key Item :=
  items.foldl (fun buckets (key, item) => put same key item buckets) []

def get (same : Key → Key → Bool) (key : Key) : Buckets Key Item → List Item
  | [] => []
  | (other, items) :: rest => if same other key then items else get same key rest

end Buckets

end GridQuery
