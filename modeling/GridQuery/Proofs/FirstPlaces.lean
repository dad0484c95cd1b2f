import GridQuery.Proofs.Buckets
import GridQuery.Proofs.Selection
import Mathlib.Data.List.Sort

/-!
# The places of first items

Items with keys are thinned out by keeping the first one of each key. Those that are kept stand
at some places, in their order: each item is kept, or has before it a kept one with the same
key, and no two kept ones have the same key.
-/

namespace GridQuery

variable {Key Item : Type} {same : Key → Key → Prop} {keys : List Key} {places : List Nat}

theorem getElem?_append_last {items : List Item} {last item : Item} {place : Nat}
    (found : (items ++ [last])[place]? = some item) :
    items[place]? = some item ∨ place = items.length ∧ last = item := by
  rcases Nat.lt_trichotomy place items.length with before | rfl | after
  · rw [List.getElem?_append_left before] at found
    exact .inl found
  · simp at found
    exact .inr ⟨rfl, found⟩
  · have bound := (List.getElem?_eq_some_iff.mp found).1
    rw [List.length_append, List.length_singleton] at bound
    omega

/-- Each key stands at one of the places, or has before it one there that is the same; and
the keys at the places are not the same. -/
structure FirstPlaces (same : Key → Key → Prop) (keys : List Key) (places : List Nat) : Prop
    where
  ascending : places.Pairwise (· < ·)
  inside : ∀ place ∈ places, place < keys.length
  apart : (pick keys places).Pairwise fun earlier later => ¬ same earlier later
  covered : ∀ place key, keys[place]? = some key → place ∉ places →
    ∃ first ∈ places, first < place ∧ ∃ earlier, keys[first]? = some earlier ∧ same earlier key

namespace FirstPlaces

theorem getElem?_append (firsts : FirstPlaces same keys places) (more : List Key) {place : Nat}
    (among : place ∈ places) : (keys ++ more)[place]? = keys[place]? :=
  List.getElem?_append_left (firsts.inside place among)

/-- A key that is the same as one at the places is left out. -/
theorem leaveOut (firsts : FirstPlaces same keys places) {key : Key}
    (known : ∃ earlier ∈ pick keys places, same earlier key) :
    FirstPlaces same (keys ++ [key]) places := by
  constructor
  case ascending => exact firsts.ascending
  case inside =>
    intro place among
    rw [List.length_append]
    exact Nat.lt_add_right 1 (firsts.inside place among)
  case apart =>
    rw [pick_append keys [key] firsts.inside]
    exact firsts.apart
  case covered =>
    intro place other stands dropped
    rcases getElem?_append_last stands with before | ⟨rfl, rfl⟩
    · obtain ⟨first, kept, less, earlier, found, met⟩ := firsts.covered place other before dropped
      exact ⟨first, kept, less, earlier, (firsts.getElem?_append [key] kept).trans found, met⟩
    · obtain ⟨earlier, among, met⟩ := known
      obtain ⟨first, kept, found⟩ := mem_pick.mp among
      exact ⟨first, kept, firsts.inside first kept, earlier,
        (firsts.getElem?_append [key] kept).trans found, met⟩

/-- A key that is not the same as any at the places gets a place of its own. -/
theorem keep (firsts : FirstPlaces same keys places) {key : Key}
    (unknown : ¬ ∃ earlier ∈ pick keys places, same earlier key) :
    FirstPlaces same (keys ++ [key]) (places ++ [keys.length]) := by
  constructor
  case ascending =>
    refine List.pairwise_append.mpr ⟨firsts.ascending, List.pairwise_singleton _ _, ?_⟩
    intro place among last isLast
    obtain rfl := List.mem_singleton.mp isLast
    exact firsts.inside place among
  case inside =>
    intro place among
    rw [List.length_append, List.length_singleton]
    rcases List.mem_append.mp among with before | isLast
    · exact Nat.lt_add_right 1 (firsts.inside place before)
    · obtain rfl := List.mem_singleton.mp isLast
      exact Nat.lt_add_one keys.length
  case apart =>
    rw [pick_append_last keys key firsts.inside]
    refine List.pairwise_append.mpr ⟨firsts.apart, List.pairwise_singleton _ _, ?_⟩
    intro earlier among last isLast met
    obtain rfl := List.mem_singleton.mp isLast
    exact unknown ⟨earlier, among, met⟩
  case covered =>
    intro place other stands dropped
    rcases getElem?_append_last stands with before | ⟨rfl, -⟩
    · have unkept : place ∉ places := fun among => dropped (List.mem_append_left _ among)
      obtain ⟨first, kept, less, earlier, found, met⟩ := firsts.covered place other before unkept
      exact ⟨first, List.mem_append_left _ kept, less, earlier,
        (firsts.getElem?_append [key] kept).trans found, met⟩
    · exact absurd (List.mem_append_right places List.mem_cons_self) dropped

/-- Items picked at such places are some of the items, in their order. -/
theorem pick_sublist (firsts : FirstPlaces same keys places) {items : List Item}
    (even : items.length = keys.length) : (pick items places).Sublist items := by
  have among : places ⊆ List.range items.length := by
    intro place kept
    rw [List.mem_range, even]
    exact firsts.inside place kept
  have apart : places.Nodup := firsts.ascending.imp fun less => Nat.ne_of_lt less
  have ordered : places.Sublist (List.range items.length) := by
    have subperm := List.subperm_of_subset apart among
    exact List.sublist_of_subperm_of_pairwise subperm firsts.ascending List.pairwise_lt_range
  have picked := ordered.filterMap (items[·]?)
  rwa [filterMap_getElem?_range] at picked

end FirstPlaces

/-- The first items of keys stand at the first places of these keys. -/
theorem Buckets.exists_firstPlaces (test : Key → Key → Bool) (items : List (Key × Item)) :
    ∃ places, FirstPlaces (fun left right => test left right = true) (items.map (·.1)) places ∧
      Buckets.firsts test items = pick items places := by
  induction items using List.reverseRecOn with
  | nil => exact ⟨[], ⟨List.Pairwise.nil, by simp, List.Pairwise.nil, by simp⟩, rfl⟩
  | append_singleton items last inductionHypothesis =>
      obtain ⟨places, firsts, kept⟩ := inductionHypothesis
      have inside : ∀ place ∈ places, place < items.length := by
        simpa using firsts.inside
      have step : Buckets.firsts test (items ++ [last]) =
          Buckets.keepFirst test (pick items places) last := by
        rw [Buckets.firsts, List.foldl_append, List.foldl_cons, List.foldl_nil, ← kept]
        rfl
      have known : ((pick items places).any fun other => test other.1 last.1) = true ↔
          ∃ earlier ∈ pick (items.map (·.1)) places, test earlier last.1 = true := by
        simp [pick_map]
      rw [List.map_append, step, Buckets.keepFirst]
      by_cases met : ∃ earlier ∈ pick (items.map (·.1)) places, test earlier last.1 = true
      · refine ⟨places, firsts.leaveOut met, ?_⟩
        rw [if_pos (known.mpr met), pick_append items [last] inside]
      · have apart := firsts.keep met
        rw [List.length_map] at apart
        refine ⟨places ++ [items.length], apart, ?_⟩
        rw [if_neg (mt known.mp met), pick_append_last items last inside]

end GridQuery
