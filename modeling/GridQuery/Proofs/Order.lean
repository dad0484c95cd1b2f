import GridQuery.Proofs.Group

/-!
# The order of sorting

Each type of keys has an order of its own, and the types stand one after the other. Only what
is not a number, being on a par with every number, does not fit in. Rows of other keys are set
in order by the first keys that differ, and rows that are on a par by their places. So no two
rows of a table are on a par in the end, and turning all directions round turns the sorted
rows round.
-/

namespace GridQuery

variable {Item Other : Type}

/-! ### Orders -/

/-- A comparison sets the items of a kind in an order: it tells the same of two items
whichever comes first, and what follows on an item follows on all before it. -/
structure Orders (given : Item → Prop) (compares : Item → Item → Ordering) : Prop where
  swap : ∀ left right, compares right left = (compares left right).swap
  trans : ∀ {first second third}, given first → given second → given third →
    (compares first second).isLE = true → (compares second third).isLE = true →
      (compares first third).isLE = true

namespace Orders

variable {given others : Item → Prop} {compares : Item → Item → Ordering}

theorem of_transCmp [Std.TransCmp compares] : Orders (fun _ => True) compares where
  swap _ _ := Std.OrientedCmp.eq_swap
  trans _ _ _ := Std.TransCmp.isLE_trans

theorem mono (orders : Orders given compares) (fewer : ∀ item, others item → given item) :
    Orders others compares where
  swap := orders.swap
  trans here there beyond := orders.trans (fewer _ here) (fewer _ there) (fewer _ beyond)

/-- An order of what items are seen as is one of the items. -/
theorem comap (orders : Orders given compares) (view : Other → Item) :
    Orders (fun item => given (view item)) (fun left right => compares (view left) (view right))
    where
  swap _ _ := orders.swap _ _
  trans := orders.trans

/-- An order turned round. -/
theorem reversed (orders : Orders given compares) :
    Orders given (fun left right => (compares left right).swap) where
  swap left right := by rw [orders.swap left right]
  trans here there beyond before after := by
    rw [← orders.swap] at before after ⊢
    exact orders.trans beyond there here after before

theorem order_self (orders : Orders given compares) (item : Item) : compares item item = .eq := by
  have same := orders.swap item item
  cases told : compares item item <;> simp_all

theorem total (orders : Orders given compares) (left right : Item) :
    (compares left right).isLE = true ∨ (compares right left).isLE = true := by
  rw [orders.swap left right]
  cases compares left right <;> simp

/-- Of two items on a par, one follows on an item just if the other does. -/
theorem eq_trans (orders : Orders given compares) {first second third : Item}
    (here : given first) (there : given second) (beyond : given third)
    (before : compares first second = .eq) (after : compares second third = .eq) :
    compares first third = .eq := by
  have forward : (compares first third).isLE = true :=
    orders.trans here there beyond (by simp [before]) (by simp [after])
  have backward : (compares third first).isLE = true := by
    apply orders.trans beyond there here
    · simp [orders.swap second third, after]
    · simp [orders.swap first second, before]
  rw [orders.swap first third] at backward
  exact Ordering.eq_eq_of_isLE_of_isLE_swap forward backward

theorem isLE_of_not_lt (orders : Orders given compares) {left right : Item}
    (late : ¬ compares left right = .lt) : (compares right left).isLE = true := by
  rw [orders.swap left right]
  cases told : compares left right <;> simp_all

theorem lt_of_lt_of_isLE (orders : Orders given compares) {first second third : Item}
    (here : given first) (there : given second) (beyond : given third)
    (before : compares first second = .lt) (after : (compares second third).isLE = true) :
    compares first third = .lt := by
  by_contra late
  have back := orders.isLE_of_not_lt late
  have turned := orders.trans there beyond here after back
  rw [orders.swap first second, before] at turned
  cases turned

theorem lt_of_isLE_of_lt (orders : Orders given compares) {first second third : Item}
    (here : given first) (there : given second) (beyond : given third)
    (before : (compares first second).isLE = true) (after : compares second third = .lt) :
    compares first third = .lt := by
  by_contra late
  have back := orders.isLE_of_not_lt late
  have turned := orders.trans beyond here there back before
  rw [orders.swap second third, after] at turned
  cases turned

/-- Pairs are in order by their first items, and by their second ones where these are on a
par. -/
theorem lexicographic {givenOther : Other → Prop} {comparesOther : Other → Other → Ordering}
    (orders : Orders given compares) (later : Orders givenOther comparesOther) :
    Orders (fun pair : Item × Other => given pair.1 ∧ givenOther pair.2)
      (fun left right => (compares left.1 right.1).then (comparesOther left.2 right.2)) where
  swap left right := by
    rw [orders.swap left.1 right.1, later.swap left.2 right.2, Ordering.swap_then]
  trans := by
    rintro first second third ⟨here, hereLater⟩ ⟨there, thereLater⟩ ⟨beyond, beyondLater⟩
      before after
    rw [Ordering.isLE_then_iff_or] at before after ⊢
    rcases before with less | ⟨equal, before⟩
    · refine .inl (orders.lt_of_lt_of_isLE here there beyond less ?_)
      rcases after with again | ⟨again, -⟩ <;> simp [again]
    · rcases after with less | ⟨again, after⟩
      · exact .inl (orders.lt_of_isLE_of_lt here there beyond (by simp [equal]) less)
      · exact .inr ⟨orders.eq_trans here there beyond equal again,
          later.trans hereLater thereLater beyondLater before after⟩

end Orders

/-! ### Sorting -/

section

variable {given : Item → Prop} {compares : Item → Item → Ordering}

/-- Items that are all in an order are sorted by it. -/
theorem pairwise_mergeSort_of_orders (orders : Orders given compares) {items : List Item}
    (all : ∀ item ∈ items, given item) :
    (items.mergeSort fun left right => (compares left right).isLE).Pairwise
      fun left right => (compares left right).isLE = true := by
  have sorted : ((items.attachWith given all).mergeSort
      fun left right => (compares left.val right.val).isLE).Pairwise
        fun left right => (compares left.val right.val).isLE = true := by
    apply List.pairwise_mergeSort
    · intro first second third
      exact orders.trans first.property second.property third.property
    · intro left right
      rw [Bool.or_eq_true]
      exact orders.total left right
  have same : (items.mergeSort fun left right => (compares left right).isLE) =
      ((items.attachWith given all).mergeSort
        fun left right => (compares left.val right.val).isLE).map Subtype.val := by
    have mapped := List.map_mergeSort (f := Subtype.val) (l := items.attachWith given all)
      (r := fun left right => (compares left.val right.val).isLE)
      (s := fun left right => (compares left right).isLE) fun _ _ _ _ => rfl
    rw [mapped, List.attachWith_map_subtype_val]
  rw [same, List.pairwise_map]
  exact sorted

/-- Sorting by an order turned round turns the sorted items round, if no two of them are on a
par. -/
theorem mergeSort_swap (orders : Orders given compares) {items : List Item}
    (all : ∀ item ∈ items, given item)
    (apart : ∀ left ∈ items, ∀ right ∈ items, compares left right = .eq → left = right) :
    (items.mergeSort fun left right => (compares left right).swap.isLE) =
      (items.mergeSort fun left right => (compares left right).isLE).reverse := by
  have forward := pairwise_mergeSort_of_orders orders all
  have backward := pairwise_mergeSort_of_orders orders.reversed all
  have same : ((items.mergeSort fun left right => (compares left right).isLE).reverse).Pairwise
      fun left right => (compares left right).swap.isLE = true := by
    rw [List.pairwise_reverse]
    refine forward.imp fun {left right} before => ?_
    rwa [← orders.swap]
  refine List.Perm.eq_of_pairwise (fun left right inLeft inRight before after => ?_) backward
    same ?_
  · have here := List.mem_mergeSort.mp inLeft
    have there := List.mem_mergeSort.mp (List.mem_reverse.mp inRight)
    apply apart left here right there
    apply Ordering.eq_eq_of_isLE_of_isLE_swap
    · rwa [← orders.swap] at after
    · exact before
  · exact (List.mergeSort_perm _ _).trans
      ((List.mergeSort_perm _ _).symm.trans (List.reverse_perm _).symm)

end

/-! ### Keys -/

instance : Std.TransCmp Number.Place.compare where
  eq_swap {left right} := by
    cases left <;> cases right <;> try rfl
    exact Std.OrientedOrd.eq_swap
  isLE_trans {first second third} before after := by
    cases first <;> cases second <;> cases third <;>
      first
      | exact Std.TransOrd.isLE_trans before after
      | simp_all [Number.Place.compare]

theorem Number.orders : Orders (· ≠ .float .nan) Number.order where
  swap left right := by
    unfold Number.order
    cases left.place? <;> cases right.place? <;> try rfl
    exact (Std.OrientedCmp.eq_swap : Number.Place.compare _ _ = _)
  trans {first second third} here there beyond before after := by
    obtain ⟨place, firstPlace⟩ := exists_place here
    obtain ⟨middle, secondPlace⟩ := exists_place there
    obtain ⟨last, thirdPlace⟩ := exists_place beyond
    simp only [Number.order, firstPlace, secondPlace, thirdPlace] at before after ⊢
    exact Std.TransCmp.isLE_trans before after

theorem Moment.orders : Orders (fun _ => True) Moment.order :=
  Orders.of_transCmp.comap Moment.rank

namespace SortKey

/-- Not what is not a number. -/
def IsGiven (key : SortKey) : Prop :=
  key ≠ .number (.float .nan)

theorem order_of_level_ne {left right : SortKey} (apart : left.level ≠ right.level) :
    left.order right = compare left.level right.level := by
  cases left <;> cases right <;> first | rfl | exact absurd rfl apart

theorem level_le_of_isLE {left right : SortKey} (before : (left.order right).isLE = true) :
    left.level ≤ right.level := by
  by_cases same : left.level = right.level
  · exact Nat.le_of_eq same
  · rw [order_of_level_ne same] at before
    exact Nat.isLE_compare.mp before

/-- Keys of one level are in the order of their type. -/
theorem trans_of_level_eq {first second third : SortKey} (here : first.IsGiven)
    (there : second.IsGiven) (beyond : third.IsGiven) (start : first.level = second.level)
    (finish : second.level = third.level) (before : (first.order second).isLE = true)
    (after : (second.order third).isLE = true) : (first.order third).isLE = true := by
  cases first <;> cases second <;> cases start <;> cases third <;> cases finish
  case null => rfl
  case boolean => exact Std.TransOrd.isLE_trans before after
  case number =>
    apply Number.orders.trans _ _ _ before after
    · exact fun same => here (congrArg number same)
    · exact fun same => there (congrArg number same)
    · exact fun same => beyond (congrArg number same)
  case date => exact Moment.orders.trans trivial trivial trivial before after
  case text => exact Std.TransOrd.isLE_trans before after

theorem orders : Orders IsGiven order where
  swap left right := by
    cases left <;> cases right
    case number.number left right => exact Number.orders.swap left right
    case date.date left right => exact Moment.orders.swap left right
    all_goals exact Std.OrientedOrd.eq_swap
  trans {first second third} here there beyond before after := by
    have start := level_le_of_isLE before
    have finish := level_le_of_isLE after
    by_cases same : first.level = third.level
    · exact trans_of_level_eq here there beyond (by omega) (by omega) before after
    · rw [order_of_level_ne same]
      exact Nat.isLE_compare.mpr (by omega)

end SortKey

/-- The key of a cell that is a number, or none, is one too. -/
theorem SortKey.isGiven_of_sortKey {cell : Cell} {key : SortKey} (given : ¬ cell.isNaN)
    (read : cell.sortKey = .ok key) : key.IsGiven := by
  cases cell with
  | number value =>
      obtain rfl := Except.ok.inj read
      intro same
      exact given (congrArg Cell.number (SortKey.number.inj same))
  | text content =>
      simp only [Cell.sortKey, map_eq_ok_iff] at read
      obtain ⟨value?, found, rfl⟩ := read
      cases value? with
      | none => exact SortKey.noConfusion
      | some value =>
          intro same
          exact Number.ne_nan_of_read found (SortKey.number.inj same)
  | null | boolean _ | date _ =>
      obtain rfl := Except.ok.inj read
      exact SortKey.noConfusion

/-! ### Rows of keys -/

/-- An order in the direction of a key. -/
def directed (descending : Bool) (ordering : Ordering) : Ordering :=
  if descending then ordering.swap else ordering

@[simp]
theorem directed_not (descending : Bool) (ordering : Ordering) :
    directed (!descending) ordering = (directed descending ordering).swap := by
  cases descending <;> simp [directed]

theorem directed_eq_iff {descending : Bool} {ordering wanted : Ordering} :
    directed descending ordering = wanted ↔ ordering = directed descending wanted := by
  cases descending <;> cases ordering <;> cases wanted <;> decide

theorem Orders.directed {given : Item → Prop} {compares : Item → Item → Ordering}
    (orders : Orders given compares) (descending : Bool) :
    Orders given (fun left right => GridQuery.directed descending (compares left right)) := by
  cases descending with
  | true => exact orders.reversed
  | false => exact orders

/-- A row has a key for each direction, and each of them can be set in order. -/
def IsKeyRow (directions : List Bool) (keys : List SortKey) : Prop :=
  keys.length = directions.length ∧ ∀ key ∈ keys, key.IsGiven

theorem isKeyRow_of_cells {directions : List Bool} {cells : List Cell} {keys : List SortKey}
    (width : cells.length = directions.length) (given : ∀ cell ∈ cells, ¬ cell.isNaN)
    (read : cells.mapM Cell.sortKey = .ok keys) : IsKeyRow directions keys := by
  refine ⟨(length_of_mapM_eq_ok read).trans width, fun key among => ?_⟩
  obtain ⟨cell, inCells, found⟩ := exists_of_mem_mapM read among
  exact SortKey.isGiven_of_sortKey (given cell inCells) found

theorem orders_compareKeys (directions : List Bool) :
    Orders (IsKeyRow directions) (compareKeys directions) := by
  induction directions with
  | nil => exact ⟨fun _ _ => rfl, fun _ _ _ _ _ => rfl⟩
  | cons descending directions inductionHypothesis =>
      have pairs := (SortKey.orders.directed descending).lexicographic inductionHypothesis
      constructor
      case swap =>
        intro left right
        cases left with
        | nil => cases right <;> rfl
        | cons key keys =>
            cases right with
            | nil => rfl
            | cons other others => exact pairs.swap (key, keys) (other, others)
      case trans =>
        rintro first second third ⟨here, allHere⟩ ⟨there, allThere⟩ ⟨beyond, allBeyond⟩ before after
        obtain ⟨key, keys, rfl⟩ := List.exists_cons_of_length_eq_add_one here
        obtain ⟨other, others, rfl⟩ := List.exists_cons_of_length_eq_add_one there
        obtain ⟨last, lasts, rfl⟩ := List.exists_cons_of_length_eq_add_one beyond
        have row {key : SortKey} {keys : List SortKey}
            (size : (key :: keys).length = (descending :: directions).length)
            (all : ∀ item ∈ key :: keys, item.IsGiven) :
            key.IsGiven ∧ IsKeyRow directions keys :=
          ⟨all key List.mem_cons_self, Nat.succ.inj size,
            fun item among => all item (List.mem_cons_of_mem key among)⟩
        exact @pairs.trans (key, keys) (other, others) (last, lasts) (row here allHere)
          (row there allThere) (row beyond allBeyond) before after

/-- The order of numbered rows: that of their keys, and for rows on a par that of their
places, in the direction of the last key. -/
def comparePlaced (directions : List Bool) (left right : List SortKey × Nat) : Ordering :=
  (compareKeys directions left.1 right.1).then
    (directed (directions.getLast?.getD false) (compare left.2 right.2))

theorem precedes_eq_isLE (directions : List Bool) (left right : List SortKey × Nat) :
    precedes directions left right = (comparePlaced directions left right).isLE := by
  rw [precedes, comparePlaced]
  cases compareKeys directions left.1 right.1 with
  | lt | gt => rfl
  | eq =>
      cases directions.getLast?.getD false with
      | false => simp [directed, ← Nat.isLE_compare]
      | true => simp [directed, ← Nat.isGE_compare]

theorem orders_comparePlaced (directions : List Bool) :
    Orders (fun row => IsKeyRow directions row.1) (comparePlaced directions) := by
  have places : Orders (fun _ : Nat => True) (fun left right =>
      directed (directions.getLast?.getD false) (compare left right)) :=
    Orders.of_transCmp.directed _
  refine ((orders_compareKeys directions).lexicographic places).mono ?_
  exact fun row keys => ⟨keys, trivial⟩

/-- Only rows at one place are on a par. -/
theorem place_eq_of_comparePlaced {directions : List Bool} {left right : List SortKey × Nat}
    (level : comparePlaced directions left right = .eq) : left.2 = right.2 := by
  rw [comparePlaced, Ordering.then_eq_eq] at level
  have last := level.2
  rw [directed] at last
  split at last <;> simpa using last

/-- The places of rows of keys in their order: those of equal keys as they come, or the other
way round if the last key descends. -/
theorem pairwise_sortPlaces {directions : List Bool} {keys : List (List SortKey)}
    (rows : ∀ row ∈ keys, IsKeyRow directions row) :
    (sortPlaces directions keys).Pairwise fun place other =>
      comparePlaced directions (keys.getD place [], place) (keys.getD other [], other) = .lt := by
  have sorted : (keys.zipIdx.mergeSort (precedes directions)).Pairwise
      fun left right => (comparePlaced directions left right).isLE = true := by
    rw [funext₂ (precedes_eq_isLE directions)]
    exact pairwise_mergeSort_of_orders (orders_comparePlaced directions) fun row among =>
      rows row.1 (List.fst_mem_of_mem_zipIdx among)
  have apart : (keys.zipIdx.mergeSort (precedes directions)).Pairwise
      fun left right => left.2 ≠ right.2 := by
    have places : (sortPlaces directions keys).Nodup :=
      (sortPlaces_perm directions keys).nodup_iff.mpr List.nodup_range
    exact List.pairwise_map.mp places
  rw [sortPlaces, List.pairwise_map]
  refine (sorted.and apart).imp_of_mem fun {left right} inLeft inRight before => ?_
  have atPlace {row : List SortKey × Nat}
      (among : row ∈ keys.zipIdx.mergeSort (precedes directions)) :
      keys.getD row.2 [] = row.1 := by
    have found := List.mem_zipIdx_iff_getElem?.mp (List.mem_mergeSort.mp among)
    rw [List.getD_eq_getElem?_getD, found, Option.getD_some]
  rw [atPlace inLeft, atPlace inRight]
  refine ((Ordering.isLE_iff_eq_lt_or_eq_eq).mp before.1).resolve_right fun level => ?_
  exact before.2 (place_eq_of_comparePlaced level)

/-! ### Directions turned round -/

theorem compareKeys_map_not (directions : List Bool) (left right : List SortKey) :
    compareKeys (directions.map (!·)) left right = (compareKeys directions left right).swap := by
  induction directions generalizing left right with
  | nil => rfl
  | cons descending directions inductionHypothesis =>
      cases left with
      | nil => rfl
      | cons key keys =>
          cases right with
          | nil => rfl
          | cons other others =>
              rw [List.map_cons, compareKeys, compareKeys, inductionHypothesis,
                Ordering.swap_then]
              exact congrArg (Ordering.then · _) (directed_not descending (key.order other))

theorem comparePlaced_map_not {directions : List Bool} (given : directions ≠ [])
    (left right : List SortKey × Nat) :
    comparePlaced (directions.map (!·)) left right =
      (comparePlaced directions left right).swap := by
  rw [comparePlaced, comparePlaced, compareKeys_map_not, Ordering.swap_then,
    List.getLast?_map, List.getLast?_eq_some_getLast given, Option.map_some, Option.getD_some,
    Option.getD_some, directed_not]

/-- With all directions turned round the places are turned round, also those of rows on a
par. -/
theorem sortPlaces_map_not {directions : List Bool} (given : directions ≠ [])
    {keys : List (List SortKey)} (rows : ∀ row ∈ keys, IsKeyRow directions row) :
    sortPlaces (directions.map (!·)) keys = (sortPlaces directions keys).reverse := by
  have all : ∀ row ∈ keys.zipIdx, IsKeyRow directions row.1 := fun row among =>
    rows row.1 (List.fst_mem_of_mem_zipIdx among)
  have apart : ∀ left ∈ keys.zipIdx, ∀ right ∈ keys.zipIdx,
      comparePlaced directions left right = .eq → left = right := by
    rintro ⟨row, place⟩ here ⟨other, otherPlace⟩ there level
    obtain rfl : place = otherPlace := place_eq_of_comparePlaced level
    rw [List.mem_zipIdx_iff_getElem?] at here there
    have same : row = other := Option.some.inj (here.symm.trans there)
    rw [same]
  have turned := mergeSort_swap (orders_comparePlaced directions) all apart
  simp only [sortPlaces, funext₂ (precedes_eq_isLE _), ← List.map_reverse, ← turned,
    comparePlaced_map_not given]

theorem pick_reverse (items : List Item) (places : List Nat) :
    pick items places.reverse = (pick items places).reverse :=
  List.filterMap_reverse

end GridQuery
