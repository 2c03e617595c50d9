import Mathlib.Data.List.Basic
import Mathlib.Data.List.Induction
import Mathlib.Tactic.Common

/-!
# `ReactorNet.Proofs.Gathering` · gathering items into rows by a key

Connections are gathered into groups, and groups into bundles, in the same way: an item extends the
row that has its key, and opens a new row behind all others if there is none. A `Gathering` says
what is particular to a use; `Gathering.Gathered` says what the rows are then: one for each key in
the order in which the keys first occur, each made of the items of its key in their order.
`gathered_gather` is the statement, and `Gathered.getElem?_gather` says what further items change:
they extend rows and open new ones, but renumber nothing.
-/

namespace ReactorNet

/-- How items are gathered into rows. -/
structure Gathering (α β κ : Type) where
  /-- The key of an item. -/
  keyOf : α → κ
  /-- The key of a row. -/
  rowKey : β → κ
  /-- The row that an item opens at a position. -/
  opens : Nat → α → β
  /-- The row that an item extends. -/
  add : α → β → β
  /-- A row has the key of the item that opens it. -/
  rowKey_opens : ∀ n a, rowKey (opens n a) = keyOf a
  /-- Items do not change the key of a row. -/
  rowKey_add : ∀ a b, rowKey (add a b) = rowKey b

/-- Of a list with another element behind it, duplicates are erased as of the list, and the element
counts if it is new. -/
theorem eraseDups_concat {κ : Type} [DecidableEq κ] (l : List κ) (k : κ) :
    (l ++ [k]).eraseDups = if k ∈ l then l.eraseDups else l.eraseDups ++ [k] := by
  rw [List.eraseDups_append]
  by_cases h : k ∈ l <;> simp [List.removeAll, h, List.eraseDups_cons]

/-- No element is left twice. -/
theorem nodup_eraseDups {κ : Type} [DecidableEq κ] (l : List κ) : l.eraseDups.Nodup := by
  induction l using List.reverseRecOn with
  | nil => simp
  | append_singleton l k ih =>
      rw [eraseDups_concat]
      split
      · exact ih
      · rename_i new
        rw [List.nodup_append]
        refine ⟨ih, by simp, ?_⟩
        intro a ha b hb hab
        rw [List.mem_singleton.mp hb] at hab
        exact new (List.mem_eraseDups.mp (hab ▸ ha))

/-- Erasing duplicates keeps the first element with a property. -/
theorem find?_eraseDups {κ : Type} [DecidableEq κ] (l : List κ) (q : κ → Bool) :
    l.eraseDups.find? q = l.find? q := by
  induction l using List.reverseRecOn with
  | nil => rfl
  | append_singleton l k ih =>
      rw [eraseDups_concat, List.find?_append, ← ih]
      split
      · rename_i seen
        -- an element that was seen has the property only if an earlier one has it
        cases hf : l.eraseDups.find? q with
        | some a => rfl
        | none =>
            have := List.find?_eq_none.mp hf k (List.mem_eraseDups.mpr seen)
            simp [this]
      · rw [List.find?_append]

/-- Erasing duplicates keeps keys in the order of the elements that they first come from. -/
theorem pairwise_eraseDups {α κ : Type} [DecidableEq κ] {r : α → α → Prop} {l : List α}
    (f : α → κ) (sorted : l.Pairwise r) :
    (l.map f).eraseDups.Pairwise fun j k =>
      ∀ x ∈ l.find? (fun a => f a = j), ∀ y ∈ l.find? (fun a => f a = k), r x y := by
  induction l using List.reverseRecOn with
  | nil => simp
  | append_singleton l a ih =>
      rw [List.pairwise_append] at sorted
      obtain ⟨sorted, -, last⟩ := sorted
      -- a key that was seen comes from the same element as before
      have seen : ∀ k ∈ (l.map f).eraseDups,
          (l ++ [a]).find? (fun a => f a = k) = l.find? fun a => f a = k := by
        intro k hk
        obtain ⟨b, hb, rfl⟩ := List.mem_map.mp (List.mem_eraseDups.mp hk)
        have found : (l.find? fun a => f a = f b).isSome := by
          rw [List.find?_isSome]
          exact ⟨b, hb, by simp⟩
        rw [List.find?_append, Option.or_of_isSome found]
      have before : (l.map f).eraseDups.Pairwise fun j k =>
          ∀ x ∈ (l ++ [a]).find? (fun a => f a = j), ∀ y ∈ (l ++ [a]).find? (fun a => f a = k),
            r x y := by
        refine (ih sorted).imp_of_mem fun {j k} hj hk order => ?_
        rwa [seen j hj, seen k hk]
      rw [List.map_append, List.map_singleton, eraseDups_concat]
      split
      · exact before
      · rename_i new
        refine List.pairwise_append.mpr ⟨before, List.pairwise_singleton _ _, ?_⟩
        intro j hj k hk x hx y hy
        obtain rfl := List.mem_singleton.mp hk
        rw [seen j hj] at hx
        have unseen : l.find? (fun b => f b = f a) = none := by
          rw [List.find?_eq_none]
          intro b hb hba
          exact new (List.mem_map.mpr ⟨b, hb, by simpa using hba⟩)
        rw [List.find?_append, unseen, Option.none_or, List.find?_singleton] at hy
        obtain rfl : a = y := by simpa using hy
        exact last x (List.mem_of_find?_eq_some hx) a List.mem_cons_self

/-- Filtering by each of several keys divides the elements that have one of them. -/
theorem perm_flatMap_filter {α κ : Type} [DecidableEq κ] {keys : List κ} {l : List α} {f : α → κ}
    {q : α → Bool} (distinct : keys.Nodup) (hq : ∀ a ∈ l, q a = true ↔ f a ∈ keys) :
    (keys.flatMap fun k => l.filter fun a => f a = k).Perm (l.filter q) := by
  induction keys generalizing q with
  | nil =>
      have none : l.filter q = [] := List.filter_eq_nil_iff.mpr fun a ha h => by
        simpa using (hq a ha).mp h
      rw [none]
      exact List.Perm.refl _
  | cons k keys ih =>
      obtain ⟨new, distinct⟩ := List.nodup_cons.mp distinct
      have first : (l.filter q).filter (fun a => f a = k) = l.filter fun a => f a = k := by
        rw [List.filter_filter]
        refine List.filter_congr fun a ha => ?_
        by_cases hk : f a = k
        · simp [hk, (hq a ha).mpr (hk ▸ List.mem_cons_self)]
        · simp [hk]
      have others : (keys.flatMap fun k => l.filter fun a => f a = k).Perm
          ((l.filter q).filter fun a => !decide (f a = k)) := by
        rw [List.filter_filter]
        refine ih distinct fun a ha => ?_
        simp only [Bool.and_eq_true, Bool.not_eq_true', decide_eq_false_iff_not, hq a ha,
          List.mem_cons]
        constructor
        · rintro ⟨differ, known⟩
          exact known.resolve_left differ
        · intro known
          exact ⟨fun hk => new (hk ▸ known), Or.inr known⟩
      rw [List.flatMap_cons, ← first]
      exact (others.append_left _).trans (List.filter_append_perm (fun a => f a = k) (l.filter q))

namespace Gathering

variable {α β κ : Type} (G : Gathering α β κ)

/-- The row at a position that its first item opens and the rest extend. -/
def row (n : Nat) (first : α) (rest : List α) : β :=
  rest.foldl (fun b a => G.add a b) (G.opens n first)

variable [DecidableEq κ]

/-- Enter an item into rows, the first of which has the given position. -/
def enter (a : α) : (position : Nat) → List β → List β
  | n, [] => [G.opens n a]
  | n, b :: bs => if G.rowKey b = G.keyOf a then G.add a b :: bs else b :: enter a (n + 1) bs

/-- Enter items one after the other. -/
def gather (items : List α) (rows : List β) : List β :=
  items.foldl (fun rows a => G.enter a 0 rows) rows

/-- The items with the key of a row. -/
def share (items : List α) (b : β) : List α := items.filter fun a => G.keyOf a = G.rowKey b

/-- The rows are what gathering makes of the items. -/
structure Gathered (items : List α) (rows : List β) : Prop where
  /-- There is one row for each key, in the order in which the keys first occur. -/
  keys : rows.map G.rowKey = (items.map G.keyOf).eraseDups
  /-- Each row is made of the items with its key, in their order. -/
  row : ∀ n b, rows[n]? = some b →
    ∃ first rest, G.share items b = first :: rest ∧ b = G.row n first rest

variable {G} {a : α} {b : β} {items more : List α} {rows : List β} {n : Nat}

/-! ## The share of a row -/

/-- The share in two lists, one after the other. -/
theorem share_append : G.share (items ++ more) b = G.share items b ++ G.share more b :=
  List.filter_append items more

/-- An item does not change which items belong to a row. -/
theorem share_add : G.share items (G.add a b) = G.share items b := by
  unfold share
  rw [G.rowKey_add]

/-- An item with the key of a row belongs to it. -/
theorem share_single_of_eq (h : G.keyOf a = G.rowKey b) : G.share [a] b = [a] := by
  simp [share, h]

/-- An item with another key does not. -/
theorem share_single_of_ne (h : G.keyOf a ≠ G.rowKey b) : G.share [a] b = [] := by
  simp [share, h]

/-- A row has no share where no item has its key. -/
theorem share_eq_nil (h : ∀ a ∈ items, G.keyOf a ≠ G.rowKey b) : G.share items b = [] := by
  simpa [share] using h

/-! ## One item -/

/-- No two rows have the same key. -/
theorem Gathered.distinct (h : G.Gathered items rows) : (rows.map G.rowKey).Nodup :=
  h.keys ▸ nodup_eraseDups _

/-- There is a row for a key if there is an item for it. -/
theorem Gathered.mem_keys_iff (h : G.Gathered items rows) {k : κ} :
    k ∈ rows.map G.rowKey ↔ k ∈ items.map G.keyOf := by
  rw [h.keys, List.mem_eraseDups]

/-- An item with a new key opens a row behind all others. -/
theorem enter_of_not_mem (new : G.keyOf a ∉ rows.map G.rowKey) :
    G.enter a n rows = rows ++ [G.opens (n + rows.length) a] := by
  induction rows generalizing n with
  | nil => rfl
  | cons b rows ih =>
      rw [List.map_cons, List.mem_cons, not_or] at new
      rw [enter, if_neg (Ne.symm new.1), ih new.2, List.length_cons, List.cons_append]
      congr 4
      omega

/-- An item with the key of a row extends that row and leaves all others as they are. -/
theorem enter_of_mem (distinct : (rows.map G.rowKey).Nodup)
    (known : G.keyOf a ∈ rows.map G.rowKey) :
    G.enter a n rows = rows.map fun b => if G.rowKey b = G.keyOf a then G.add a b else b := by
  induction rows generalizing n with
  | nil => cases known
  | cons b rows ih =>
      rw [List.map_cons, List.nodup_cons] at distinct
      rw [enter, List.map_cons]
      by_cases hb : G.rowKey b = G.keyOf a
      · rw [if_pos hb, if_pos hb]
        -- the rows behind it have other keys
        have others : rows.map (fun b => if G.rowKey b = G.keyOf a then G.add a b else b) = rows := by
          refine (List.map_congr_left fun c hc => if_neg fun hk => ?_).trans (List.map_id rows)
          exact distinct.1 (List.mem_map.mpr ⟨c, hc, hk.trans hb.symm⟩)
        rw [others]
      · rw [if_neg hb, if_neg hb]
        rw [List.map_cons, List.mem_cons] at known
        rw [ih distinct.2 (known.resolve_left (Ne.symm hb))]

/-- What an item does to a row that is there already. -/
theorem getElem?_enter (distinct : (rows.map G.rowKey).Nodup) (hb : rows[n]? = some b) (a : α) :
    (G.enter a 0 rows)[n]? = some (if G.rowKey b = G.keyOf a then G.add a b else b) := by
  by_cases known : G.keyOf a ∈ rows.map G.rowKey
  · rw [enter_of_mem distinct known, List.getElem?_map, hb, Option.map_some]
  · have other : G.rowKey b ≠ G.keyOf a := fun hk =>
      known (List.mem_map.mpr ⟨b, List.mem_of_getElem? hb, hk⟩)
    have hn : n < rows.length := (List.getElem?_eq_some_iff.mp hb).1
    rw [enter_of_not_mem known, List.getElem?_append_left hn, hb, if_neg other]

/-- Gathering one item more. -/
theorem Gathered.enter (h : G.Gathered items rows) (a : α) :
    G.Gathered (items ++ [a]) (G.enter a 0 rows) := by
  have known_iff : G.keyOf a ∈ rows.map G.rowKey ↔ G.keyOf a ∈ items.map G.keyOf := h.mem_keys_iff
  by_cases known : G.keyOf a ∈ rows.map G.rowKey
  · rw [enter_of_mem h.distinct known]
    constructor
    · rw [List.map_append, List.map_singleton, eraseDups_concat, if_pos (known_iff.mp known),
        ← h.keys, List.map_map]
      refine List.map_congr_left fun b _ => ?_
      simp only [Function.comp_apply]
      split
      · exact G.rowKey_add a b
      · rfl
    · intro n b' hb'
      rw [List.getElem?_map, Option.map_eq_some_iff] at hb'
      obtain ⟨b, hb, rfl⟩ := hb'
      obtain ⟨first, rest, share, made⟩ := h.row n b hb
      by_cases hk : G.rowKey b = G.keyOf a
      · rw [if_pos hk]
        refine ⟨first, rest ++ [a], ?_, ?_⟩
        · rw [share_append, share_add, share, share_single_of_eq (by rw [G.rowKey_add, hk]),
            List.cons_append]
        · rw [made, Gathering.row, Gathering.row, List.foldl_append]
          rfl
      · rw [if_neg hk]
        refine ⟨first, rest, ?_, made⟩
        rw [share_append, share, share_single_of_ne (Ne.symm hk), List.append_nil]
  · rw [enter_of_not_mem known, Nat.zero_add]
    have new := mt known_iff.mpr known
    constructor
    · rw [List.map_append, List.map_append, List.map_singleton, List.map_singleton,
        eraseDups_concat, if_neg new, h.keys, G.rowKey_opens]
    · intro n b hb
      rcases Nat.lt_or_ge n rows.length with hn | hn
      · rw [List.getElem?_append_left hn] at hb
        obtain ⟨first, rest, share, made⟩ := h.row n b hb
        have other : G.keyOf a ≠ G.rowKey b := by
          intro hk
          exact known (List.mem_map.mpr ⟨b, List.mem_of_getElem? hb, hk.symm⟩)
        refine ⟨first, rest, ?_, made⟩
        rw [share_append, share, share_single_of_ne other, List.append_nil]
      · rw [List.getElem?_append_right hn, List.getElem?_singleton] at hb
        split at hb
        · obtain rfl := Option.some.inj hb
          obtain rfl : n = rows.length := by omega
          refine ⟨a, [], ?_, rfl⟩
          rw [share_append, share_single_of_eq (G.rowKey_opens _ a).symm, share_eq_nil, List.nil_append]
          intro c hc hk
          exact new (List.mem_map.mpr ⟨c, hc, hk.trans (G.rowKey_opens _ a)⟩)
        · cases hb

/-! ## Many items -/

/-- Gathering goes on where it left off. -/
theorem gather_append (items more : List α) (rows : List β) :
    G.gather (items ++ more) rows = G.gather more (G.gather items rows) :=
  List.foldl_append

/-- Rows that were gathered stay so when more items are gathered into them. -/
theorem Gathered.gather (h : G.Gathered items rows) (more : List α) :
    G.Gathered (items ++ more) (G.gather more rows) := by
  induction more generalizing items rows with
  | nil => simpa [Gathering.gather] using h
  | cons a more ih =>
      have := ih (h.enter a)
      rwa [List.append_assoc, List.singleton_append] at this

/-- Further items extend each row by those with its key, in their order. -/
theorem Gathered.getElem?_gather (h : G.Gathered items rows) (hb : rows[n]? = some b)
    (more : List α) :
    (G.gather more rows)[n]? = some ((G.share more b).foldl (fun b a => G.add a b) b) := by
  induction more generalizing items rows b with
  | nil => simpa [Gathering.gather, share] using hb
  | cons a more ih =>
      have step := getElem?_enter h.distinct hb a
      have rest := ih (h.enter a) step
      rw [Gathering.gather, List.foldl_cons]
      rw [Gathering.gather] at rest
      rw [rest]
      by_cases hk : G.rowKey b = G.keyOf a
      · simp [share, hk, G.rowKey_add]
      · simp [share, hk, Ne.symm hk]

/-- The first row with a property of its key is the one of the first item with that property. -/
theorem Gathered.find?_row (h : G.Gathered items rows) {q : κ → Bool}
    (hb : rows.find? (fun b => q (G.rowKey b)) = some b) :
    ∃ a, items.find? (fun a => q (G.keyOf a)) = some a ∧ (G.share items b).head? = some a := by
  have keys : (items.map G.keyOf).find? q = some (G.rowKey b) := by
    rw [← find?_eraseDups, ← h.keys, List.find?_map]
    simpa using ⟨b, hb, rfl⟩
  rw [List.find?_map, Option.map_eq_some_iff] at keys
  obtain ⟨a, found, hk⟩ := keys
  refine ⟨a, found, ?_⟩
  obtain ⟨hq, before, after, rfl, none_before⟩ := List.find?_eq_some_iff_append.mp found
  -- no item before `a` has the property, so none has the key of the row
  have empty : G.share before b = [] := by
    refine share_eq_nil fun c hc hck => ?_
    have := none_before c hc
    simp only [Function.comp_apply] at hq this
    rw [hck, ← hk, hq] at this
    cases this
  rw [share_append, empty, List.nil_append, ← List.singleton_append, share_append,
    share_single_of_eq hk]
  rfl

/-- Rows stand in the order of the items that open them. -/
theorem Gathered.pairwise_first {r : α → α → Prop} (h : G.Gathered items rows)
    (sorted : items.Pairwise r) :
    rows.Pairwise fun b c =>
      ∀ x ∈ (G.share items b).head?, ∀ y ∈ (G.share items c).head?, r x y := by
  have keys := pairwise_eraseDups G.keyOf sorted
  rw [← h.keys, List.pairwise_map] at keys
  simpa only [share, List.head?_filter] using keys

/-- The rows divide the items. -/
theorem Gathered.perm_share (h : G.Gathered items rows) :
    (rows.flatMap fun b => G.share items b).Perm items := by
  have divided := perm_flatMap_filter (l := items) (f := G.keyOf) (q := fun _ => true) h.distinct
    fun a ha => iff_of_true rfl (h.mem_keys_iff.mpr (List.mem_map.mpr ⟨a, ha, rfl⟩))
  rwa [List.flatMap_map, List.filter_true] at divided

/-- Gathering makes rows of the items, and nothing else. -/
theorem gathered_gather (items : List α) : G.Gathered items (G.gather items []) := by
  have empty : G.Gathered ([] : List α) [] := ⟨rfl, by simp⟩
  simpa using empty.gather items

/-! ## Changed items -/

/-- Whether rows are changed by `g` where items are changed by `f`, all keys staying as they are. -/
structure Carries (G : Gathering α β κ) (f : α → α) (g : β → β) : Prop where
  /-- An item keeps its key. -/
  keyOf : ∀ a, G.keyOf (f a) = G.keyOf a
  /-- A row keeps its key. -/
  rowKey : ∀ b, G.rowKey (g b) = G.rowKey b
  /-- A changed item opens the changed row. -/
  opens : ∀ n a, G.opens n (f a) = g (G.opens n a)
  /-- A changed item extends a changed row to the changed one. -/
  add : ∀ a b, G.add (f a) (g b) = g (G.add a b)

variable {f : α → α} {g : β → β}

/-- Entering a changed item into changed rows. -/
theorem Carries.enter (h : G.Carries f g) (a : α) (n : Nat) (rows : List β) :
    G.enter (f a) n (rows.map g) = (G.enter a n rows).map g := by
  induction rows generalizing n with
  | nil => simp [Gathering.enter, h.opens]
  | cons b rows ih =>
      rw [List.map_cons, Gathering.enter, Gathering.enter, h.keyOf, h.rowKey]
      split
      · rw [h.add, List.map_cons]
      · rw [ih, List.map_cons]

/-- Gathering changed items into changed rows. -/
theorem Carries.gather (h : G.Carries f g) (items : List α) (rows : List β) :
    G.gather (items.map f) (rows.map g) = (G.gather items rows).map g := by
  induction items generalizing rows with
  | nil => rfl
  | cons a items ih =>
      have rest := ih (G.enter a 0 rows)
      rw [← h.enter] at rest
      exact rest

end Gathering

end ReactorNet
