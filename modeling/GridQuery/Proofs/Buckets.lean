import GridQuery.Buckets
import Mathlib.Data.List.Induction

/-!
# What a bucket holds

The bucket of a key holds the items that were put with a key of the same kind, in the order
in which they came, whatever was put between them.
-/

namespace GridQuery.Buckets

variable {Key Item : Type} {same : Key → Key → Bool}

/-- Keys that are the same as one key are the same as each other. A key need not be the
same as itself: then nothing is found by it. -/
structure Sameness (same : Key → Key → Bool) : Prop where
  symm : ∀ {left right}, same left right = true → same right left = true
  trans : ∀ {first second third}, same first second = true → same second third = true →
    same first third = true

theorem get_put (sameness : Sameness same) (key other : Key) (item : Item)
    (buckets : Buckets Key Item) :
    get same key (put same other item buckets) =
      if same other key then get same key buckets ++ [item] else get same key buckets := by
  induction buckets with
  | nil => by_cases equal : same other key <;> simp [put, get, equal]
  | cons bucket rest inductionHypothesis =>
      obtain ⟨first, items⟩ := bucket
      by_cases putHere : same first other = true
      · by_cases equal : same other key = true
        · have found := sameness.trans putHere equal
          simp [put, get, putHere, equal, found]
        · have apart : same first key = false := by
            refine Bool.eq_false_iff.mpr fun found => equal ?_
            exact sameness.trans (sameness.symm putHere) found
          simp [put, get, putHere, equal, apart]
      · by_cases found : same first key = true
        · have apart : same other key = false := by
            refine Bool.eq_false_iff.mpr fun equal => putHere ?_
            exact sameness.trans found (sameness.symm equal)
          simp [put, get, putHere, found, apart]
        · simp [put, get, putHere, found, inductionHypothesis]

theorem get_foldl_put (sameness : Sameness same) (key : Key) (items : List (Key × Item))
    (buckets : Buckets Key Item) :
    get same key (items.foldl (fun buckets (other, item) => put same other item buckets)
        buckets) =
      get same key buckets ++ (items.filter fun (other, _) => same other key).map (·.2) := by
  induction items generalizing buckets with
  | nil => simp
  | cons first rest inductionHypothesis =>
      rw [List.foldl_cons, inductionHypothesis, get_put sameness]
      by_cases equal : same first.1 key <;> simp [equal]

/-- What is found by a key is what was put under it. -/
theorem get_ofList (sameness : Sameness same) (key : Key) (items : List (Key × Item)) :
    get same key (ofList same items) =
      (items.filter fun (other, _) => same other key).map (·.2) := by
  rw [ofList, get_foldl_put sameness]
  rfl

/-! ### Keys -/

/-- Putting an item adds a key only where no bucket has one that is the same. -/
theorem map_key_put (key : Key) (item : Item) (buckets : Buckets Key Item) :
    (put same key item buckets).map (·.1) =
      if buckets.any fun bucket => same bucket.1 key then buckets.map (·.1)
      else buckets.map (·.1) ++ [key] := by
  induction buckets with
  | nil => rfl
  | cons bucket rest inductionHypothesis =>
      obtain ⟨first, items⟩ := bucket
      by_cases putHere : same first key = true
      · simp [put, putHere]
      · simp only [put, putHere, Bool.false_eq_true, if_false, List.map_cons,
          inductionHypothesis, List.any_cons, Bool.false_or]
        split <;> rfl

/-- The buckets that something was put into have keys that are not the same. -/
theorem pairwise_ofList (items : List (Key × Item)) :
    ((ofList same items).map (·.1)).Pairwise fun earlier later => same earlier later = false := by
  have general (buckets : Buckets Key Item)
      (apart : (buckets.map (·.1)).Pairwise fun earlier later => same earlier later = false) :
      ((items.foldl (fun buckets (key, item) => put same key item buckets) buckets).map
        (·.1)).Pairwise fun earlier later => same earlier later = false := by
    induction items generalizing buckets with
    | nil => exact apart
    | cons first rest inductionHypothesis =>
        refine inductionHypothesis _ ?_
        rw [map_key_put]
        split
        · exact apart
        · next unmet =>
            refine List.pairwise_append.mpr ⟨apart, List.pairwise_singleton _ _, ?_⟩
            simpa using unmet
  exact general [] List.Pairwise.nil

theorem mem_put {key : Key} {item : Item} {buckets : Buckets Key Item}
    {bucket : Key × List Item} (among : bucket ∈ put same key item buckets) {other : Item}
    (held : other ∈ bucket.2) :
    (∃ earlier ∈ buckets, earlier.1 = bucket.1 ∧ other ∈ earlier.2) ∨
      other = item ∧ (bucket.1 = key ∨ same bucket.1 key = true) := by
  induction buckets with
  | nil =>
      obtain rfl := List.mem_singleton.mp among
      exact .inr ⟨List.mem_singleton.mp held, .inl rfl⟩
  | cons first rest inductionHypothesis =>
      by_cases putHere : same first.1 key = true
      · simp only [put, putHere, if_true, List.mem_cons] at among
        rcases among with rfl | later
        · rcases List.mem_append.mp held with before | now
          · exact .inl ⟨first, List.mem_cons_self, rfl, before⟩
          · exact .inr ⟨List.mem_singleton.mp now, .inr putHere⟩
        · exact .inl ⟨bucket, List.mem_cons_of_mem first later, rfl, held⟩
      · simp only [put, putHere, Bool.false_eq_true, if_false, List.mem_cons] at among
        rcases among with rfl | later
        · exact .inl ⟨first, List.mem_cons_self, rfl, held⟩
        · rcases inductionHypothesis later with ⟨earlier, before, kept⟩ | now
          · exact .inl ⟨earlier, List.mem_cons_of_mem first before, kept⟩
          · exact .inr now

theorem mem_of_mem_foldl_put {items : List (Key × Item)} {buckets : Buckets Key Item}
    {bucket : Key × List Item}
    (among : bucket ∈ items.foldl (fun buckets (key, item) => put same key item buckets) buckets)
    {item : Item} (held : item ∈ bucket.2) :
    (∃ earlier ∈ buckets, earlier.1 = bucket.1 ∧ item ∈ earlier.2) ∨
      ∃ key, (key, item) ∈ items ∧ (bucket.1 = key ∨ same bucket.1 key = true) := by
  induction items generalizing buckets with
  | nil => exact .inl ⟨bucket, among, rfl, held⟩
  | cons first rest inductionHypothesis =>
      rcases inductionHypothesis among with ⟨earlier, before, key, kept⟩ | ⟨key, later, met⟩
      · rcases mem_put before kept with ⟨older, found, equal, kept⟩ | ⟨rfl, met⟩
        · exact .inl ⟨older, found, equal.trans key, kept⟩
        · exact .inr ⟨first.1, List.mem_cons_self, key ▸ met⟩
      · exact .inr ⟨key, List.mem_cons_of_mem first later, met⟩

/-- What a bucket holds was put under its key or under one that is the same. -/
theorem mem_of_mem_ofList {items : List (Key × Item)} {bucket : Key × List Item}
    (among : bucket ∈ ofList same items) {item : Item} (held : item ∈ bucket.2) :
    ∃ key, (key, item) ∈ items ∧ (bucket.1 = key ∨ same bucket.1 key = true) := by
  rcases mem_of_mem_foldl_put among held with ⟨_, impossible, -⟩ | found
  · cases impossible
  · exact found

/-- The keys of the buckets are keys that something was put under. -/
theorem map_key_ofList_subset (items : List (Key × Item)) :
    (ofList same items).map (·.1) ⊆ items.map (·.1) := by
  have general (buckets : Buckets Key Item) :
      (items.foldl (fun buckets (key, item) => put same key item buckets) buckets).map (·.1) ⊆
        buckets.map (·.1) ++ items.map (·.1) := by
    induction items generalizing buckets with
    | nil => simp
    | cons first rest inductionHypothesis =>
        refine List.Subset.trans (inductionHypothesis (put same first.1 first.2 buckets)) ?_
        rw [map_key_put]
        split <;> simp
  exact general []

/-! ### First items -/

/-- An item kept with its key, unless one of a key that is the same is kept already. -/
def keepFirst (same : Key → Key → Bool) (kept : List (Key × Item)) (entry : Key × Item) :
    List (Key × Item) :=
  if kept.any fun other => same other.1 entry.1 then kept else kept ++ [entry]

/-- The first item of each key, with the key. -/
def firsts (same : Key → Key → Bool) (items : List (Key × Item)) : List (Key × Item) :=
  items.foldl (keepFirst same) []

/-- The buckets of some keys have these items in front. -/
def StartWith (buckets : Buckets Key Item) (kept : List (Key × Item)) : Prop :=
  buckets.map (fun bucket => (bucket.1, bucket.2.head?)) =
    kept.map fun entry => (entry.1, some entry.2)

theorem startWith_put {entry : Key × Item} {buckets : Buckets Key Item}
    {kept : List (Key × Item)} (start : StartWith buckets kept) :
    StartWith (put same entry.1 entry.2 buckets) (keepFirst same kept entry) := by
  induction buckets generalizing kept with
  | nil =>
      obtain rfl := List.map_eq_nil_iff.mp start.symm
      rfl
  | cons bucket rest inductionHypothesis =>
      cases kept with
      | nil => cases start
      | cons first kept =>
          obtain ⟨other, items⟩ := bucket
          simp only [StartWith, List.map_cons, List.cons.injEq, Prod.mk.injEq] at start
          obtain ⟨⟨rfl, front⟩, later⟩ := start
          have rest := inductionHypothesis later
          by_cases putHere : same first.1 entry.1 = true
          · simp [StartWith, put, keepFirst, putHere, front, later]
          · simp only [StartWith, put, keepFirst, putHere, Bool.false_eq_true, if_false,
              List.map_cons, front, List.any_cons, Bool.false_or] at rest ⊢
            rw [rest]
            split <;> rfl

/-- The buckets have the first items of their keys in front. -/
theorem startWith_ofList (items : List (Key × Item)) :
    StartWith (ofList same items) (firsts same items) := by
  have general (buckets : Buckets Key Item) (kept : List (Key × Item))
      (start : StartWith buckets kept) :
      StartWith (items.foldl (fun buckets (key, item) => put same key item buckets) buckets)
        (items.foldl (keepFirst same) kept) := by
    induction items generalizing buckets kept with
    | nil => exact start
    | cons first rest inductionHypothesis => exact inductionHypothesis _ _ (startWith_put start)
  exact general [] [] rfl

theorem firsts_subset (items : List (Key × Item)) : firsts same items ⊆ items := by
  have general (kept : List (Key × Item)) :
      items.foldl (keepFirst same) kept ⊆ kept ++ items := by
    induction items generalizing kept with
    | nil => simp
    | cons first rest inductionHypothesis =>
        refine List.Subset.trans (inductionHypothesis (keepFirst same kept first)) ?_
        rw [keepFirst]
        split <;> simp
  exact general []

/-- Items in another form have the first items in that form. -/
theorem firsts_map {Other : Type} (convert : Item → Other) (items : List (Key × Item)) :
    firsts same (items.map fun entry => (entry.1, convert entry.2)) =
      (firsts same items).map fun entry => (entry.1, convert entry.2) := by
  have general (kept : List (Key × Item)) :
      (items.map fun entry => (entry.1, convert entry.2)).foldl (keepFirst same)
          (kept.map fun entry => (entry.1, convert entry.2)) =
        (items.foldl (keepFirst same) kept).map fun entry => (entry.1, convert entry.2) := by
    induction items generalizing kept with
    | nil => rfl
    | cons first rest inductionHypothesis =>
        rw [List.map_cons, List.foldl_cons, List.foldl_cons, ← inductionHypothesis]
        congr 1
        simp only [keepFirst, List.any_map, Function.comp_def]
        split <;> simp
  exact general []

/-- Among buckets of keys that are not the same, each is found by its own key. -/
theorem get_of_mem (sameness : Sameness same) {buckets : Buckets Key Item}
    (apart : (buckets.map (·.1)).Pairwise fun earlier later => same earlier later = false)
    {bucket : Key × List Item} (among : bucket ∈ buckets) {key : Key}
    (met : same bucket.1 key = true) : get same key buckets = bucket.2 := by
  induction buckets with
  | nil => cases among
  | cons first rest inductionHypothesis =>
      rw [List.map_cons, List.pairwise_cons] at apart
      rcases List.mem_cons.mp among with rfl | later
      · simp [get, met]
      · have unmet : same first.1 key = false := by
          refine Bool.eq_false_iff.mpr fun equal => ?_
          have crossed := apart.1 bucket.1 (List.mem_map_of_mem later)
          rw [sameness.trans equal (sameness.symm met)] at crossed
          cases crossed
        simpa [get, unmet] using inductionHypothesis apart.2 later

theorem exists_of_mem_get {buckets : Buckets Key Item} {key : Key} {item : Item}
    (found : item ∈ get same key buckets) :
    ∃ bucket ∈ buckets, same bucket.1 key = true ∧ item ∈ bucket.2 := by
  induction buckets with
  | nil => cases found
  | cons first rest inductionHypothesis =>
      by_cases met : same first.1 key = true
      · exact ⟨first, List.mem_cons_self, met, by simpa [get, met] using found⟩
      · obtain ⟨bucket, among, held⟩ := inductionHypothesis (by simpa [get, met] using found)
        exact ⟨bucket, List.mem_cons_of_mem first among, held⟩

/-! ### Items put together -/

theorem flatMap_put_perm (key : Key) (item : Item) (buckets : Buckets Key Item) :
    ((put same key item buckets).flatMap (·.2)).Perm (buckets.flatMap (·.2) ++ [item]) := by
  induction buckets with
  | nil => exact List.Perm.refl _
  | cons bucket rest inductionHypothesis =>
      obtain ⟨first, items⟩ := bucket
      by_cases putHere : same first key = true
      · simp only [put, putHere, if_true, List.flatMap_cons, List.append_assoc]
        exact List.perm_append_comm.append_left items
      · simp only [put, putHere, Bool.false_eq_true, if_false, List.flatMap_cons,
          List.append_assoc]
        exact inductionHypothesis.append_left items

/-- The buckets hold each item as often as it was put. -/
theorem flatMap_ofList_perm (items : List (Key × Item)) :
    ((ofList same items).flatMap (·.2)).Perm (items.map (·.2)) := by
  have general (buckets : Buckets Key Item) :
      ((items.foldl (fun buckets (key, item) => put same key item buckets) buckets).flatMap
        (·.2)).Perm (buckets.flatMap (·.2) ++ items.map (·.2)) := by
    induction items generalizing buckets with
    | nil => simp
    | cons first rest inductionHypothesis =>
        refine (inductionHypothesis (put same first.1 first.2 buckets)).trans ?_
        have here : ((put same first.1 first.2 buckets).flatMap (·.2) ++ rest.map (·.2)).Perm
            (buckets.flatMap (·.2) ++ [first.2] ++ rest.map (·.2)) :=
          (flatMap_put_perm first.1 first.2 buckets).append_right _
        simpa using here
  exact general []

/-- Keys that are the same as themselves stand in the order in which they first came. -/
theorem pairwise_findIdx_ofList (sameness : Sameness same) (items : List (Key × Item))
    (defined : ∀ entry ∈ items, same entry.1 entry.1 = true) :
    ((ofList same items).map (·.1)).Pairwise fun earlier later =>
      items.findIdx (fun entry => same earlier entry.1) <
        items.findIdx (fun entry => same later entry.1) := by
  induction items using List.reverseRecOn with
  | nil => exact List.Pairwise.nil
  | append_singleton items last inductionHypothesis =>
      have before := inductionHypothesis fun entry among =>
        defined entry (List.mem_append_left _ among)
      have known (key : Key) (among : key ∈ (ofList same items).map (·.1)) :
          items.findIdx (fun entry => same key entry.1) < items.length := by
        obtain ⟨entry, inItems, rfl⟩ := List.mem_map.mp (map_key_ofList_subset items among)
        exact List.findIdx_lt_length_of_exists
          ⟨entry, inItems, defined entry (List.mem_append_left _ inItems)⟩
      have kept (key : Key) (among : key ∈ (ofList same items).map (·.1)) :
          (items ++ [last]).findIdx (fun entry => same key entry.1) =
            items.findIdx (fun entry => same key entry.1) := by
        rw [List.findIdx_append, if_pos (known key among)]
      have same' : ((ofList same items).map (·.1)).Pairwise fun earlier later =>
          (items ++ [last]).findIdx (fun entry => same earlier entry.1) <
            (items ++ [last]).findIdx (fun entry => same later entry.1) := by
        refine before.imp_of_mem fun {earlier later} here there less => ?_
        rwa [kept earlier here, kept later there]
      rw [ofList, List.foldl_append, List.foldl_cons, List.foldl_nil, map_key_put]
      split
      · exact same'
      · next unmet =>
          refine List.pairwise_append.mpr ⟨same', List.pairwise_singleton _ _, ?_⟩
          intro key among other isLast
          obtain rfl := List.mem_singleton.mp isLast
          have unknown : ¬ items.findIdx (fun entry => same last.1 entry.1) < items.length := by
            rw [List.findIdx_lt_length]
            rintro ⟨entry, inItems, met⟩
            have found : entry.2 ∈ get same entry.1 (ofList same items) := by
              rw [get_ofList sameness]
              refine List.mem_map.mpr ⟨entry, List.mem_filter.mpr ⟨inItems, ?_⟩, rfl⟩
              exact defined entry (List.mem_append_left _ inItems)
            obtain ⟨bucket, inBuckets, bucketMet, -⟩ := exists_of_mem_get found
            refine unmet (List.any_eq_true.mpr ⟨bucket, inBuckets, ?_⟩)
            exact sameness.trans bucketMet (sameness.symm met)
          rw [kept key among, List.findIdx_append, if_neg unknown]
          exact Nat.lt_of_lt_of_le (known key among) (Nat.le_add_left _ _)

end GridQuery.Buckets
