import GridQuery.Proofs.Table.Built
import Mathlib

/-!
# Names that both sides of a join have

A name without a table means a column by its id before anything else. Whether several columns
of that id make it ambiguous is told by the names of the tables that they come from, not by
the sides of the join. So a name that both sides have is refused if these names differ, and
else means the first of the columns on the left.
-/

namespace GridQuery.Table

variable {table left right joined : Table} {clause : JoinClause} {name : String}

/-- The names of the tables that the columns of an id come from, column by column. -/
def owners (table : Table) (name : String) : List (Option String) :=
  (table.columns.filter (·.id == name)).map (·.aliasName)

/-- All columns of an id come from tables of one name, or from tables without a name. -/
def OwnedAlike (table : Table) (name : String) : Prop :=
  ∀ owner ∈ table.owners name, ∀ other ∈ table.owners name, owner = other

theorem mem_owners {column : Column} (among : column ∈ table.columns) (called : column.id = name) :
    column.aliasName ∈ table.owners name :=
  List.mem_map_of_mem (List.mem_filter.mpr ⟨among, by simp [called]⟩)

/-! ### What a name means by the ids of columns -/

theorem owners_eq_map_places (table : Table) (name : String) :
    table.owners name =
      (table.places.filter fun (column, _) => column.id == name).map (·.1.aliasName) := by
  have columns := List.zipIdx_map_fst 0 table.columns
  rw [owners, ← columns, List.filter_map, List.map_map]
  rfl

/-- A name that is the id of a column means the first of them, or none if they come from
tables of several names. -/
theorem resolve_of_id (known : ∃ column ∈ table.columns, column.id = name) :
    ∃ first place rest, table.owners name = first :: rest ∧
      table.columns.findIdx? (·.id == name) = some place ∧
      table.resolve ⟨none, name⟩ =
        if rest.all (· == first) then .ok place
        else .error (.ambiguousColumn name (choices name (table.owners name).eraseDups)) := by
  obtain ⟨column, among, called⟩ := known
  obtain ⟨place, inPlaces⟩ := mem_places_of_mem among
  have found : firstHits (nameTests name) table.places =
      table.places.filter fun (other, _) => other.id == name :=
    firstHits_of_mem inPlaces called
  have owners := owners_eq_map_places table name
  cases hits : table.places.filter fun (other, _) => other.id == name with
  | nil =>
      have hit : (column, place) ∈ table.places.filter fun (other, _) => other.id == name :=
        List.mem_filter.mpr ⟨inPlaces, by simp [called]⟩
      rw [hits] at hit
      cases hit
  | cons pair rest =>
      obtain ⟨first, start⟩ := pair
      rw [hits] at owners found
      have position : (table.columns.findIdx? (·.id == name)).map (· + 0) = some start :=
        findIdx?_eq_of_filter_zipIdx hits
      rw [List.map_cons] at owners
      refine ⟨_, start, _, owners, by simpa using position, ?_⟩
      rw [owners, List.all_map]
      simp only [resolve, candidates, found, bind, Except.bind, List.map_cons, Function.comp_def]
      split <;> rfl

theorem resolve_of_ownedAlike (known : ∃ column ∈ table.columns, column.id = name)
    (alike : table.OwnedAlike name) :
    ∃ place, table.columns.findIdx? (·.id == name) = some place ∧
      table.resolve ⟨none, name⟩ = .ok place := by
  obtain ⟨first, place, rest, owners, position, resolved⟩ := resolve_of_id known
  have agree : rest.all (· == first) = true := by
    rw [List.all_eq_true]
    intro other among
    apply beq_iff_eq.mpr
    apply alike
    · exact owners ▸ List.mem_cons_of_mem first among
    · exact owners ▸ List.mem_cons_self
  rw [agree, if_pos rfl] at resolved
  exact ⟨place, position, resolved⟩

theorem resolve_of_not_ownedAlike (known : ∃ column ∈ table.columns, column.id = name)
    (apart : ¬ table.OwnedAlike name) :
    table.resolve ⟨none, name⟩ =
      .error (.ambiguousColumn name (choices name (table.owners name).eraseDups)) := by
  obtain ⟨first, place, rest, owners, position, resolved⟩ := resolve_of_id known
  rw [resolved]
  apply if_neg
  intro agree
  have same (owner : Option String) (among : owner ∈ table.owners name) : owner = first := by
    rw [owners] at among
    rcases List.mem_cons.mp among with isFirst | later
    · exact isFirst
    · exact beq_iff_eq.mp (List.all_eq_true.mp agree owner later)
  apply apart
  intro owner among other otherAmong
  rw [same owner among, same other otherAmong]

/-! ### Joined tables -/

theorem columns_of_join (made : left.join right clause = .ok joined) :
    joined.columns = left.columns ++ right.columns := by
  obtain ⟨_, _, _, -, -, -, rfl⟩ := (join_eq_ok_iff _).mp made
  rfl

/-- The columns of a table that is not joined come from the table itself. -/
theorem aliasName_of_unjoined (built : table.Built) (unjoined : table.joined = false)
    {column : Column} (among : column ∈ table.columns) : column.aliasName = table.aliasName := by
  cases built with
  | virtual made =>
      obtain ⟨header, raw, rfl⟩ := ofVirtual_eq_ok made
      obtain ⟨pair, -, rfl⟩ := List.mem_map.mp among
      rfl
  | grid made =>
      simp only [ofGrid, bind_eq_ok_iff, lift_data_eq_ok_iff, pure_eq_ok, Except.ok.injEq] at made
      obtain ⟨raw, -, rfl⟩ := made
      obtain ⟨pair, -, rfl⟩ := List.mem_map.mp among
      rfl
  | join _ _ made =>
      obtain ⟨_, _, _, -, -, -, rfl⟩ := (join_eq_ok_iff _).mp made
      cases unjoined

/-- The columns of an id that two loaded tables have come from tables of one name just if the
tables have one name. -/
theorem ownedAlike_iff_of_unjoined (leftBuilt : left.Built) (rightBuilt : right.Built)
    (leftLoaded : left.joined = false) (rightLoaded : right.joined = false)
    (columns : joined.columns = left.columns ++ right.columns)
    (inLeft : ∃ column ∈ left.columns, column.id = name)
    (inRight : ∃ column ∈ right.columns, column.id = name) :
    joined.OwnedAlike name ↔ left.aliasName = right.aliasName := by
  constructor
  · intro alike
    obtain ⟨column, here, called⟩ := inLeft
    obtain ⟨other, there, otherCalled⟩ := inRight
    have same : column.aliasName = other.aliasName := by
      apply alike
      · exact mem_owners (columns ▸ List.mem_append_left _ here) called
      · exact mem_owners (columns ▸ List.mem_append_right _ there) otherCalled
    rwa [aliasName_of_unjoined leftBuilt leftLoaded here,
      aliasName_of_unjoined rightBuilt rightLoaded there] at same
  · intro same
    have all (owner : Option String) (among : owner ∈ joined.owners name) :
        owner = left.aliasName := by
      obtain ⟨column, held, rfl⟩ := List.mem_map.mp among
      have inJoined := (List.mem_filter.mp held).1
      rw [columns] at inJoined
      rcases List.mem_append.mp inJoined with here | there
      · exact aliasName_of_unjoined leftBuilt leftLoaded here
      · rw [aliasName_of_unjoined rightBuilt rightLoaded there, same]
    intro owner among other otherAmong
    rw [all owner among, all other otherAmong]

/-- A name that is an id on both sides of a join is ambiguous if its columns come from tables
of different names, which two loaded tables of different names always are. If all come from
tables of one name, or from tables without a name, it means the first of the columns on the
left. -/
theorem resolve_of_shared (leftBuilt : left.Built) (rightBuilt : right.Built)
    (made : left.join right clause = .ok joined)
    (inLeft : ∃ column ∈ left.columns, column.id = name)
    (inRight : ∃ column ∈ right.columns, column.id = name) :
    (¬ joined.OwnedAlike name → joined.resolve ⟨none, name⟩ =
      .error (.ambiguousColumn name (choices name (joined.owners name).eraseDups))) ∧
    (joined.OwnedAlike name → ∃ place, left.columns.findIdx? (·.id == name) = some place ∧
      joined.resolve ⟨none, name⟩ = .ok place) ∧
    (left.joined = false → right.joined = false →
      (joined.OwnedAlike name ↔ left.aliasName = right.aliasName)) := by
  have columns := columns_of_join made
  have known : ∃ column ∈ joined.columns, column.id = name := by
    obtain ⟨column, among, called⟩ := inLeft
    exact ⟨column, columns ▸ List.mem_append_left _ among, called⟩
  refine ⟨resolve_of_not_ownedAlike known, fun alike => ?_, fun leftLoaded rightLoaded => ?_⟩
  · obtain ⟨place, position, resolved⟩ := resolve_of_ownedAlike known alike
    obtain ⟨first, start, rest, -, onLeft, -⟩ := resolve_of_id inLeft
    rw [columns, List.findIdx?_append, onLeft] at position
    exact ⟨place, onLeft.trans position, resolved⟩
  · exact ownedAlike_iff_of_unjoined leftBuilt rightBuilt leftLoaded rightLoaded columns inLeft
      inRight

/-! ### A stock beside what was sold of it, and beside itself -/

def stock (aliasName : Option String) : Table :=
  ofHeader "stock" aliasName [.text "item", .text "price"]
    [[.text "ink", .int 3], [.text "ink", .int 4]]

def sold : Table :=
  ofHeader "sold" none [.text "item", .text "count"] [[.text "ink", .int 10]]

/-- A table joined on the item. -/
def onItem (name : String) : JoinClause :=
  ⟨.inner, ⟨name, true, none⟩, ⟨none, "item"⟩, ⟨none, "item"⟩⟩

theorem stock_built (aliasName : Option String) : (stock aliasName).Built :=
  built_ofHeader

theorem sold_built : sold.Built :=
  built_ofHeader

/-- The item of a stock under another name, beside what was sold of it. -/
theorem stock_item_ambiguous :
    ∃ joined, (stock (some "s")).join sold (onItem "sold") = .ok joined ∧
      joined.resolve ⟨none, "item"⟩ =
        .error (.ambiguousColumn "item" ["s.item", "sold.item"]) := by
  have done : ((stock (some "s")).join sold (onItem "sold")).toOption.isSome = true := by
    cbv
  cases made : (stock (some "s")).join sold (onItem "sold") with
  | error failure =>
      rw [made] at done
      cases done
  | ok joined =>
      have columns := columns_of_join made
      have inLeft : ∃ column ∈ (stock (some "s")).columns, column.id = "item" := by decide
      have inRight : ∃ column ∈ sold.columns, column.id = "item" := by decide
      obtain ⟨refused, -, loaded⟩ :=
        resolve_of_shared (stock_built (some "s")) sold_built made inLeft inRight
      have apart : ¬ joined.OwnedAlike "item" := by
        rw [loaded rfl rfl]
        decide
      refine ⟨joined, rfl, ?_⟩
      rw [refused apart, owners, columns]
      cbv

/-- The price of a stock beside itself, which both sides have, means that of the left. -/
theorem stock_price_not_ambiguous :
    ∃ joined, (stock none).join (stock none) (onItem "stock") = .ok joined ∧
      (∃ column ∈ (stock none).columns, column.id = "price") ∧
      ∀ names, joined.resolve ⟨none, "price"⟩ ≠ .error (.ambiguousColumn "price" names) := by
  have meant : ((stock none).join (stock none) (onItem "stock")).map
      (fun joined => joined.resolve ⟨none, "price"⟩) = .ok (.ok 1) := by
    cbv
  cases made : (stock none).join (stock none) (onItem "stock") with
  | error failure =>
      rw [made] at meant
      cases meant
  | ok joined =>
      rw [made] at meant
      refine ⟨joined, rfl, by decide, fun names refused => ?_⟩
      rw [Except.map, refused] at meant
      cases meant

end GridQuery.Table
