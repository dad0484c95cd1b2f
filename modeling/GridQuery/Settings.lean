/-!
Settings of the engine and of the services that it asks.
-/

namespace GridQuery

structure Settings where
  /-- The leading rows of a range that hold the labels of its columns. -/
  headerRows : Nat := 1
  /-- Whether texts are searched with regard to case. -/
  caseSensitive : Bool := false
  /-- Whether a grid may be asked in its own query language. -/
  nativeQueries : Bool := true
  /-- Whether rows may be inserted into virtual tables. -/
  virtualInserts : Bool := true
  sheetsAddress : String := "https://sheets.googleapis.com/v4"
  queryAddress : String := "https://docs.google.com/spreadsheets/d"
  deriving Repr

end GridQuery
