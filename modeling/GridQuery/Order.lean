import GridQuery.Cell.Order

/-!
Ordering, thinning out and paging of rows by their cells.
-/

namespace GridQuery

/-- The order of two rows of keys, at the first keys that differ, each in its direction. -/
def compareKeys : List Bool → List SortKey → List SortKey → Ordering
  | descending :: directions, left :: lefts, right :: rights =>
      let first := left.order right
      (if descending then first.swap else first).then (compareKeys directions lefts rights)
  | _, _, _ => .eq

/-- Whether the first of two numbered rows comes no later than the second. Rows of equal
keys keep their order, or are reversed if the last key descends. -/
def precedes (directions : List Bool) (left right : List SortKey × Nat) : Bool :=
  match compareKeys directions left.1 right.1 with
  | .lt => true
  | .gt => false
  | .eq =>
      if directions.getLast?.getD false then decide (right.2 ≤ left.2)
      else decide (left.2 ≤ right.2)

def sortPlaces (directions : List Bool) (keys : List (List SortKey)) : List Nat :=
  (keys.zipIdx.mergeSort (precedes directions)).map (·.2)

/-- The places of rows in the order of their cells, a descending flag for each cell. -/
def sortPositions (directions : List Bool) (rows : List (List Cell)) :
    Except DataFault (List Nat) := do
  let keys ← rows.mapM fun cells => cells.mapM Cell.sortKey
  return sortPlaces directions keys

def pick {Item : Type} (items : List Item) (places : List Nat) : List Item :=
  places.filterMap (items[·]?)

def sameCells : List Cell → List Cell → Bool
  | [], [] => true
  | left :: lefts, right :: rights => left.sameValue right && sameCells lefts rights
  | _, _ => false

/-- The first item of each row of cells. -/
def distinctItems {Item : Type} (items : List (List Cell × Item)) : List Item :=
  (items.foldl (fun kept (cells, item) =>
    if kept.any fun (other, _) => sameCells other cells then kept
    else kept ++ [(cells, item)]) []).map (·.2)

/-- At most so many items after those that are skipped. -/
def page {Item : Type} (offset : Nat) (limit : Option Nat) (items : List Item) : List Item :=
  match limit with
  | some count => (items.drop offset).take count
  | none => items.drop offset

end GridQuery
