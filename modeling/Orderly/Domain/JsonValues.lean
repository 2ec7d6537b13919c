import Orderly.Domain.Values
import Mathlib.Data.List.Perm.Basic

/-!
# JSON values

Induction over JSON values, what holds of every value inside one, and values
that differ in the order of their objects' members only.
-/

namespace Orderly
namespace Json

/-! ## Induction -/

/-- A property of every value, from those of its items or members. -/
@[elab_as_elim]
theorem induct {motive : Json → Prop} (value : Json) (null : motive null) (bool : ∀ value, motive (bool value))
    (num : ∀ literal, motive (num literal)) (str : ∀ value, motive (str value))
    (arr : ∀ items, (∀ item ∈ items, motive item) → motive (arr items))
    (obj : ∀ members, (∀ member ∈ members, motive member.2) → motive (obj members)) : motive value := by
  refine @Json.rec motive (fun items => ∀ item ∈ items, motive item)
    (fun members => ∀ member ∈ members, motive member.2) (fun member => motive member.2)
    null bool num str arr obj ?_ ?_ ?_ ?_ ?_ value
  · intro item none
    cases none
  · intro first items head tail
    exact List.forall_mem_cons.mpr ⟨head, tail⟩
  · intro member none
    cases none
  · intro first members head tail
    exact List.forall_mem_cons.mpr ⟨head, tail⟩
  · intro _ _ holds
    exact holds

/-! ## Every value inside -/

mutual

/-- Something holds of a value and of all values inside it. -/
def All (P : Json → Prop) : Json → Prop
  | arr items => P (arr items) ∧ AllItems P items
  | obj members => P (obj members) ∧ AllMembers P members
  | value => P value

def AllItems (P : Json → Prop) : List Json → Prop
  | [] => True
  | item :: items => All P item ∧ AllItems P items

def AllMembers (P : Json → Prop) : List (String × Json) → Prop
  | [] => True
  | (_, value) :: members => All P value ∧ AllMembers P members

end

variable {P Q : Json → Prop}

theorem all_arr {items : List Json} : All P (arr items) ↔ P (arr items) ∧ ∀ item ∈ items, All P item := by
  have each : AllItems P items ↔ ∀ item ∈ items, All P item := by
    induction items with
    | nil => exact iff_of_true trivial (fun _ none => nomatch none)
    | cons item items inductionHypothesis => rw [AllItems, inductionHypothesis, List.forall_mem_cons]
  rw [All, each]

theorem all_obj {members : List (String × Json)} :
    All P (obj members) ↔ P (obj members) ∧ ∀ member ∈ members, All P member.2 := by
  have each : AllMembers P members ↔ ∀ member ∈ members, All P member.2 := by
    induction members with
    | nil => exact iff_of_true trivial (fun _ none => nomatch none)
    | cons member members inductionHypothesis => rw [AllMembers, inductionHypothesis, List.forall_mem_cons]
  rw [All, each]

/-- The names in every object inside a value are as they should be. -/
def Named (N : List String → Prop) : Json → Prop := All fun
  | obj members => N (members.map Prod.fst)
  | _ => True

theorem named_obj {N : List String → Prop} {members : List (String × Json)} :
    Named N (obj members) ↔ N (members.map Prod.fst) ∧ ∀ member ∈ members, Named N member.2 := all_obj

theorem named_arr {N : List String → Prop} {items : List Json} :
    Named N (arr items) ↔ ∀ item ∈ items, Named N item :=
  all_arr.trans ⟨fun both => both.2, fun each => ⟨trivial, each⟩⟩

/-- No object inside a value has two members of one name. -/
def Distinct : Json → Prop := Named List.Nodup

theorem distinct_obj {members : List (String × Json)} :
    Distinct (obj members) ↔ (members.map Prod.fst).Nodup ∧ ∀ member ∈ members, Distinct member.2 := named_obj

theorem distinct_arr {items : List Json} : Distinct (arr items) ↔ ∀ item ∈ items, Distinct item := named_arr

/-! ## Reordered members -/

/-- One value is another with the members of some objects, at any depth, in another order. -/
inductive Reorders : Json → Json → Prop where
  | refl (value : Json) : Reorders value value
  | trans {first second third : Json} : Reorders first second → Reorders second third → Reorders first third
  | members {members members' : List (String × Json)} : members.Perm members' → Reorders (obj members) (obj members')
  | value {old new : Json} (before : List (String × Json)) (key : String) (after : List (String × Json)) :
      Reorders old new → Reorders (obj (before ++ (key, old) :: after)) (obj (before ++ (key, new) :: after))
  | item {old new : Json} (before after : List Json) :
      Reorders old new → Reorders (arr (before ++ old :: after)) (arr (before ++ new :: after))

namespace Reorders

theorem symm {first second : Json} (reorders : Reorders first second) : Reorders second first := by
  induction reorders with
  | refl value => exact refl value
  | trans _ _ earlier later => exact later.trans earlier
  | members permuted => exact members permuted.symm
  | value before key after _ inductionHypothesis => exact value before key after inductionHypothesis
  | item before after _ inductionHypothesis => exact item before after inductionHypothesis

/-- Items may be reordered one by one. -/
theorem items {old new : Json → Json} {list : List Json} (each : ∀ item ∈ list, Reorders (old item) (new item)) :
    Reorders (arr (list.map old)) (arr (list.map new)) := by
  have rest : ∀ before : List Json, Reorders (arr (before ++ list.map old)) (arr (before ++ list.map new)) := by
    induction list with
    | nil => exact fun before => refl _
    | cons first list inductionHypothesis =>
        intro before
        have later := inductionHypothesis (fun item member => each item (List.mem_cons_of_mem _ member))
          (before ++ [new first])
        rw [List.append_assoc, List.append_assoc] at later
        exact (item before (list.map old) (each first List.mem_cons_self)).trans later
  exact rest []

/-- So may the values of members. -/
theorem values {old new : Json → Json} {list : List (String × Json)}
    (each : ∀ member ∈ list, Reorders (old member.2) (new member.2)) :
    Reorders (obj (list.map fun member => (member.1, old member.2)))
      (obj (list.map fun member => (member.1, new member.2))) := by
  have rest : ∀ before : List (String × Json),
      Reorders (obj (before ++ list.map fun member => (member.1, old member.2)))
        (obj (before ++ list.map fun member => (member.1, new member.2))) := by
    induction list with
    | nil => exact fun before => refl _
    | cons first list inductionHypothesis =>
        intro before
        have later := inductionHypothesis (fun member inside => each member (List.mem_cons_of_mem _ inside))
          (before ++ [(first.1, new first.2)])
        rw [List.append_assoc, List.append_assoc] at later
        exact (value before first.1 _ (each first List.mem_cons_self)).trans later
  exact rest []

/-- What holds of objects by their names in any order, and of all arrays, survives reordering. -/
theorem all {P : Json → Prop} (objects : ∀ {members members'}, (members.map Prod.fst).Perm (members'.map Prod.fst) →
    P (obj members) → P (obj members')) (arrays : ∀ {items items'}, P (arr items) → P (arr items'))
    {first second : Json} (reorders : Reorders first second) (holds : All P first) : All P second := by
  induction reorders with
  | refl value => exact holds
  | trans _ _ earlier later => exact later (earlier holds)
  | members permuted =>
      rcases all_obj.mp holds with ⟨names, values⟩
      refine all_obj.mpr ⟨objects (permuted.map Prod.fst) names, ?_⟩
      intro member inside
      exact values member (permuted.mem_iff.mpr inside)
  | value before key after _ inductionHypothesis =>
      rcases all_obj.mp holds with ⟨names, values⟩
      refine all_obj.mpr ⟨objects (List.Perm.of_eq (by simp)) names, ?_⟩
      intro member inside
      rcases List.mem_append.mp inside with earlier | later
      · exact values member (List.mem_append_left _ earlier)
      · rcases List.mem_cons.mp later with rfl | rest
        · exact inductionHypothesis (values _ (List.mem_append_right _ List.mem_cons_self))
        · exact values member (List.mem_append_right _ (List.mem_cons_of_mem _ rest))
  | item before after _ inductionHypothesis =>
      rcases all_arr.mp holds with ⟨array, items⟩
      refine all_arr.mpr ⟨arrays array, ?_⟩
      intro item inside
      rcases List.mem_append.mp inside with earlier | later
      · exact items item (List.mem_append_left _ earlier)
      · rcases List.mem_cons.mp later with rfl | rest
        · exact inductionHypothesis (items _ (List.mem_append_right _ List.mem_cons_self))
        · exact items item (List.mem_append_right _ (List.mem_cons_of_mem _ rest))

theorem named {N : List String → Prop} (unordered : ∀ {names names'}, names.Perm names' → N names → N names')
    {first second : Json} (reorders : Reorders first second) (holds : Named N first) : Named N second :=
  reorders.all unordered (fun _ => trivial) holds

/-- Names are as distinct after reordering as before. -/
theorem distinct {first second : Json} (reorders : Reorders first second) (distinct : Distinct first) :
    Distinct second :=
  reorders.named (fun permuted names => permuted.nodup_iff.mp names) distinct

end Reorders

/-! ## Texts of lists -/

theorem stringifyItems_eq (items : List Json) : stringifyItems items = items.map stringify := by
  induction items with
  | nil => rfl
  | cons item items inductionHypothesis => exact congrArg (List.cons (stringify item)) inductionHypothesis

theorem stringifyMembers_eq (members : List (String × Json)) :
    stringifyMembers members = members.map fun member => quote member.1 ++ ":" ++ stringify member.2 := by
  induction members with
  | nil => rfl
  | cons member members inductionHypothesis => exact congrArg (List.cons _) inductionHypothesis

theorem stringify_items (items : List Json) :
    stringify (arr items) = "[" ++ ",".intercalate (items.map stringify) ++ "]" := by
  rw [← stringifyItems_eq]
  rfl

theorem stringify_members (members : List (String × Json)) : stringify (obj members) =
    "\x7b" ++ ",".intercalate (members.map fun member => quote member.1 ++ ":" ++ stringify member.2) ++ "\x7d" := by
  rw [← stringifyMembers_eq]
  rfl

end Json
end Orderly
