import Mathlib.Data.List.Forall2
import ReactorNet.Json.Value

/-!
# `ReactorNet.Proofs.MemberOrder` · JSON values up to the order of members

The members of an object stand in no order, but a list of them does: a value that is written is a
list in the order of declaration, and the reader of a text keeps members in the order of their
names. `Json.Alike` relates two values that differ in nothing else, at any depth. Items of an array
keep their places.
-/

namespace ReactorNet.Json

/-- Two values with the same members in the objects at every depth, in any order. -/
inductive Alike : Json → Json → Prop where
  /-- A value and itself. -/
  | refl (v : Json) : Alike v v
  /-- Two arrays of items in the same places. -/
  | arr {xs ys : List Json} (items : List.Forall₂ Alike xs ys) : Alike (.arr xs) (.arr ys)
  /-- Two objects, the members of one being brought into another order. -/
  | obj {ms ns os : List (String × Json)} (names : ms.map (·.1) = ns.map (·.1))
    (values : List.Forall₂ Alike (ms.map (·.2)) (ns.map (·.2))) (order : ns.Perm os) :
    Alike (.obj ms) (.obj os)

/-- The same name with alike values. -/
def AlikeMember (m n : String × Json) : Prop := m.1 = n.1 ∧ m.2.Alike n.2

/-- The same names with alike values, in any order. -/
def AlikeMembers (ms os : List (String × Json)) : Prop :=
  ∃ ns, List.Forall₂ AlikeMember ms ns ∧ ns.Perm os

/-- Members are alike one by one if their names are the same and their values are alike. -/
theorem forall₂_alikeMember {ms ns : List (String × Json)} (names : ms.map (·.1) = ns.map (·.1))
    (values : List.Forall₂ Alike (ms.map (·.2)) (ns.map (·.2))) : List.Forall₂ AlikeMember ms ns := by
  rw [List.forall₂_map_left_iff, List.forall₂_map_right_iff] at values
  rw [← List.forall₂_eq_eq_eq, List.forall₂_map_left_iff, List.forall₂_map_right_iff] at names
  exact List.Forall₂.mp (fun m n name value => ⟨name, value⟩) names values

/-- What is alike to an object is an object of alike members. -/
theorem Alike.exists_members {ms : List (String × Json)} {w : Json} (h : Alike (.obj ms) w) :
    ∃ os, w = .obj os ∧ AlikeMembers ms os := by
  cases h with
  | refl => exact ⟨ms, rfl, ms, List.forall₂_same.mpr fun m _ => ⟨rfl, .refl m.2⟩, .refl ms⟩
  | obj names values order => exact ⟨_, rfl, _, forall₂_alikeMember names values, order⟩

/-- What is alike to an array is an array of alike items. -/
theorem Alike.exists_items {xs : List Json} {w : Json} (h : Alike (.arr xs) w) :
    ∃ ys, w = .arr ys ∧ List.Forall₂ Alike xs ys := by
  cases h with
  | refl => exact ⟨xs, rfl, List.forall₂_same.mpr fun x _ => .refl x⟩
  | arr items => exact ⟨_, rfl, items⟩

namespace AlikeMembers

variable {ms os : List (String × Json)}

/-- Members are alike among those whose names are picked out. -/
theorem filter (h : AlikeMembers ms os) (p : String → Bool) :
    AlikeMembers (ms.filter fun m => p m.1) (os.filter fun m => p m.1) := by
  obtain ⟨ns, same, order⟩ := h
  refine ⟨ns.filter fun m => p m.1, ?_, order.filter _⟩
  refine List.rel_filter (fun m n (alike : AlikeMember m n) => ?_) same
  show p m.1 = true ↔ p n.1 = true
  rw [alike.1]

/-- Members that are alike to a single one are a single one. -/
theorem eq_singleton {name : String} {v : Json} (h : AlikeMembers [(name, v)] os) :
    ∃ w, os = [(name, w)] ∧ v.Alike w := by
  obtain ⟨ns, same, order⟩ := h
  obtain ⟨⟨_, w⟩, _, ⟨rfl, alike⟩, none, rfl⟩ := List.forall₂_cons_left_iff.mp same
  rw [List.forall₂_nil_left_iff] at none
  subst none
  exact ⟨w, (List.singleton_perm.mp order).symm, alike⟩

end AlikeMembers

end ReactorNet.Json
