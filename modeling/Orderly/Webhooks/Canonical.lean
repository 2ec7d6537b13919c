import Orderly.Domain.JsonRoundTrip
import Orderly.Events.Signature

/-!
# Canonical payloads

What survives of a payload in its canonical form, and in which order its
members stand there.  Members named `__proto__` are lost at every depth; apart
from that canonicalisation reorders, and it forgets the order it was given.
-/

namespace Orderly
namespace WebhookSignature

open Json

/-! ## Canonical members -/

theorem canonicalizeItems_eq (items : List Json) : canonicalizeItems items = items.map canonicalize := by
  induction items with
  | nil => rfl
  | cons item items inductionHypothesis => exact congrArg (List.cons (canonicalize item)) inductionHypothesis

theorem canonicalizeMembers_eq (members : List (String × Json)) :
    canonicalizeMembers members = members.map fun member => (member.1, canonicalize member.2) := by
  induction members with
  | nil => rfl
  | cons member members inductionHypothesis => exact congrArg (List.cons _) inductionHypothesis

theorem canonicalize_arr (items : List Json) : canonicalize (arr items) = arr (items.map canonicalize) := by
  rw [← canonicalizeItems_eq]
  rfl

theorem canonicalize_members (members : List (String × Json)) : canonicalize (obj members) =
    obj (enumerated (((members.map fun member => (member.1, canonicalize member.2)).insertionSort KeyLe).foldl
      assign [])) := by
  rw [← canonicalizeMembers_eq]
  rfl

instance : Std.Total KeyLe := ⟨fun first second => le_total (utf16Text first.1) (utf16Text second.1)⟩

instance : IsTrans (String × Json) KeyLe := ⟨fun _ _ _ first second => le_trans first second⟩

/-- Two members of one name in the same object are the same. -/
theorem eq_of_keyLe {members : List (String × Json)} (distinct : (members.map Prod.fst).Nodup)
    {first second : String × Json} (inside : first ∈ members) (inside' : second ∈ members)
    (le : KeyLe first second) (ge : KeyLe second first) : first = second := by
  have name : first.1 = second.1 := utf16Text_injective (le_antisymm le ge)
  exact List.inj_on_of_nodup_map distinct inside inside' name

/-- Members of distinct names have one sorted order. -/
theorem sorted_unique {first second : List (String × Json)} (distinct : (first.map Prod.fst).Nodup)
    (sorted : first.Pairwise KeyLe) (sorted' : second.Pairwise KeyLe) (permuted : first.Perm second) :
    first = second := by
  refine List.Perm.eq_of_pairwise ?_ sorted sorted' permuted
  intro a b inside inside'
  exact eq_of_keyLe distinct inside (permuted.mem_iff.mpr inside')

/-- `__proto__` sets a prototype instead of a member. -/
abbrev settable (member : String × Json) : Bool := member.1 ≠ "__proto__"

theorem foldl_assign {entries : List (String × Json)} (distinct : (entries.map Prod.fst).Nodup) :
    entries.foldl assign [] = entries.filter settable := by
  have defined : ∀ before, entries.foldl assign before =
      (entries.filter settable).foldl (fun members entry => define entry.1 entry.2 members) before := by
    induction entries with
    | nil => exact fun before => rfl
    | cons entry entries inductionHypothesis =>
        intro before
        have later := inductionHypothesis (List.nodup_cons.mp distinct).2
        rw [List.foldl_cons, later]
        by_cases special : entry.1 = "__proto__"
        · rw [assign, if_pos special, List.filter_cons_of_neg (by simp [special])]
        · rw [assign, if_neg special, List.filter_cons_of_pos (by simp [special]), List.foldl_cons]
  rw [defined]
  exact foldl_define (distinct.sublist (List.filter_sublist.map Prod.fst))

/-- The members of an object as they stand in its canonical form. -/
theorem canonicalize_obj {members : List (String × Json)} (distinct : (members.map Prod.fst).Nodup) :
    canonicalize (obj members) = obj (enumerated
      (((members.map fun member => (member.1, canonicalize member.2)).insertionSort KeyLe).filter settable)) := by
  have names : ((members.map fun member => (member.1, canonicalize member.2)).map Prod.fst).Nodup := by
    rw [List.map_map]
    exact distinct
  rw [canonicalize_members, foldl_assign]
  exact ((List.perm_insertionSort KeyLe _).map Prod.fst).nodup_iff.mpr names

/-- The order of members does not matter. -/
theorem canonicalize_reorders {first second : Json} (reorders : Reorders first second) (distinct : Distinct first) :
    canonicalize first = canonicalize second := by
  induction reorders with
  | refl value => rfl
  | trans earlier later first second => exact (first distinct).trans (second (earlier.distinct distinct))
  | @members members members' permuted =>
      rw [canonicalize_members, canonicalize_members]
      have names : ((members.map fun member => (member.1, canonicalize member.2)).map Prod.fst).Nodup := by
        rw [List.map_map]
        exact (distinct_obj.mp distinct).1
      have same := sorted_unique (((List.perm_insertionSort KeyLe _).map Prod.fst).nodup_iff.mpr names)
        (List.pairwise_insertionSort KeyLe (members.map fun member => (member.1, canonicalize member.2)))
        (List.pairwise_insertionSort KeyLe (members'.map fun member => (member.1, canonicalize member.2)))
        ((List.perm_insertionSort KeyLe _).trans ((permuted.map _).trans (List.perm_insertionSort KeyLe _).symm))
      rw [same]
  | value before key after _ inductionHypothesis =>
      have same := inductionHypothesis ((distinct_obj.mp distinct).2 _ (List.mem_append_right _ List.mem_cons_self))
      rw [canonicalize_members, canonicalize_members, List.map_append, List.map_append, List.map_cons, List.map_cons, same]
  | item before after _ inductionHypothesis =>
      have same := inductionHypothesis (distinct_arr.mp distinct _ (List.mem_append_right _ List.mem_cons_self))
      rw [canonicalize_arr, canonicalize_arr, List.map_append, List.map_append, List.map_cons, List.map_cons, same]

/-! ## What is lost -/

/-- No object inside a value has a member named `__proto__`. -/
def Settable : Json → Prop := Named fun names => "__proto__" ∉ names

theorem settable_obj {members : List (String × Json)} : Settable (obj members) ↔
    "__proto__" ∉ members.map Prod.fst ∧ ∀ member ∈ members, Settable member.2 := named_obj

theorem settable_arr {items : List Json} : Settable (arr items) ↔ ∀ item ∈ items, Settable item := named_arr

theorem filter_settable {members : List (String × Json)} (settable : "__proto__" ∉ members.map Prod.fst) :
    members.filter WebhookSignature.settable = members := by
  apply List.filter_eq_self.mpr
  intro member inside
  apply decide_eq_true
  rintro special
  exact settable (special ▸ List.mem_map_of_mem inside)

/-- Without such members canonicalisation reorders. -/
theorem reorders_canonicalize (value : Json) :
    Distinct value → Settable value → Reorders value (canonicalize value) := by
  induction value using induct with
  | null => exact fun _ _ => .refl _
  | bool value => exact fun _ _ => .refl _
  | num literal => exact fun _ _ => .refl _
  | str value => exact fun _ _ => .refl _
  | arr items inductionHypothesis =>
      intro distinct settable
      have each := @Reorders.items id canonicalize items fun item member =>
        inductionHypothesis item member (distinct_arr.mp distinct item member)
          (settable_arr.mp settable item member)
      rw [List.map_id] at each
      rw [canonicalize_arr]
      exact each
  | obj members inductionHypothesis =>
      intro distinct settable
      rcases distinct_obj.mp distinct with ⟨names, values⟩
      rcases settable_obj.mp settable with ⟨kept, inside⟩
      have each := @Reorders.values id canonicalize members fun member mem =>
        inductionHypothesis member mem (values member mem) (inside member mem)
      have unchanged : (members.map fun member => (member.1, id member.2)) = members := List.map_id members
      rw [unchanged] at each
      rw [canonicalize_obj names]
      refine each.trans (.members (List.Perm.symm ((enumerated_perm _).trans ?_)))
      rw [filter_settable]
      · exact List.perm_insertionSort KeyLe _
      · intro special
        have known := ((List.perm_insertionSort KeyLe _).map Prod.fst).mem_iff.mp special
        rw [List.map_map] at known
        exact kept known

/-! ## What is signed -/

mutual

/-- A value with the members that have a name to keep, and with null for a number that is not finite. -/
def prune (keep : String → Bool) : Json → Json
  | num literal => if isFinite literal then num literal else null
  | arr items => arr (pruneItems keep items)
  | obj members => obj (pruneMembers keep members)
  | value => value

def pruneItems (keep : String → Bool) : List Json → List Json
  | [] => []
  | item :: items => prune keep item :: pruneItems keep items

def pruneMembers (keep : String → Bool) : List (String × Json) → List (String × Json)
  | [] => []
  | (name, value) :: members =>
      if keep name then (name, prune keep value) :: pruneMembers keep members else pruneMembers keep members

end

/-- What of a payload reaches the text that is signed. -/
def visible : Json → Json := prune fun name => name ≠ "__proto__"

/-- A value as its text tells it. -/
def told : Json → Json := prune fun _ => true

theorem pruneItems_eq (keep : String → Bool) (items : List Json) :
    pruneItems keep items = items.map (prune keep) := by
  induction items with
  | nil => rfl
  | cons item items inductionHypothesis => exact congrArg (List.cons (prune keep item)) inductionHypothesis

theorem pruneMembers_eq (keep : String → Bool) (members : List (String × Json)) :
    pruneMembers keep members =
      (members.filter fun member => keep member.1).map fun member => (member.1, prune keep member.2) := by
  induction members with
  | nil => rfl
  | cons member members inductionHypothesis =>
      have step : pruneMembers keep (member :: members) = if keep member.1 then
          (member.1, prune keep member.2) :: pruneMembers keep members else pruneMembers keep members := rfl
      rw [step, inductionHypothesis]
      by_cases kept : keep member.1 = true
      · rw [if_pos kept, List.filter_cons, if_pos kept, List.map_cons]
      · rw [if_neg kept, List.filter_cons, if_neg kept]

theorem prune_num (keep : String → Bool) (literal : String) :
    prune keep (num literal) = if isFinite literal then num literal else null := rfl

theorem prune_arr (keep : String → Bool) (items : List Json) :
    prune keep (arr items) = arr (items.map (prune keep)) := by
  rw [← pruneItems_eq]
  rfl

theorem prune_obj (keep : String → Bool) (members : List (String × Json)) : prune keep (obj members) =
    obj ((members.filter fun member => keep member.1).map fun member => (member.1, prune keep member.2)) := by
  rw [← pruneMembers_eq]
  rfl

theorem told_num (literal : String) : told (num literal) = if isFinite literal then num literal else null := rfl

theorem told_obj (members : List (String × Json)) :
    told (obj members) = obj (members.map fun member => (member.1, told member.2)) := by
  refine (prune_obj _ members).trans ?_
  rw [List.filter_true]
  rfl

theorem told_arr (items : List Json) : told (arr items) = arr (items.map told) := by
  exact prune_arr _ items

variable {keep : String → Bool}

theorem prune_distinct (value : Json) : Distinct value → Distinct (prune keep value) := by
  induction value using induct with
  | null => exact fun distinct => distinct
  | bool value => exact fun distinct => distinct
  | num literal =>
      intro distinct
      rw [prune_num]
      split
      · exact distinct
      · exact trivial
  | str value => exact fun distinct => distinct
  | arr items inductionHypothesis =>
      intro distinct
      rw [prune_arr]
      refine distinct_arr.mpr ?_
      intro item member
      rcases List.mem_map.mp member with ⟨old, known, rfl⟩
      exact inductionHypothesis old known (distinct_arr.mp distinct old known)
  | obj members inductionHypothesis =>
      intro distinct
      rcases distinct_obj.mp distinct with ⟨names, values⟩
      rw [prune_obj]
      refine distinct_obj.mpr ⟨?_, ?_⟩
      · rw [List.map_map]
        exact names.sublist (List.filter_sublist.map Prod.fst)
      · intro member inside
        rcases List.mem_map.mp inside with ⟨old, known, rfl⟩
        have old' := (List.mem_filter.mp known).1
        exact inductionHypothesis old old' (values old old')

theorem stringify_told (value : Json) : (told value).stringify = value.stringify := by
  induction value using induct with
  | null => rfl
  | bool value => rfl
  | num literal =>
      rw [told_num]
      split
      · rfl
      · next infinite => exact (if_neg infinite).symm
  | str value => rfl
  | arr items inductionHypothesis =>
      have each : items.map (fun item => (told item).stringify) = items.map stringify :=
        List.map_congr_left inductionHypothesis
      rw [told_arr, stringify_items, stringify_items, List.map_map, ← each]
      rfl
  | obj members inductionHypothesis =>
      have each : (members.map fun member => quote member.1 ++ ":" ++ (told member.2).stringify) =
          members.map fun member => quote member.1 ++ ":" ++ member.2.stringify := by
        apply List.map_congr_left
        intro member inside
        rw [inductionHypothesis member inside]
      rw [told_obj, stringify_members, stringify_members, List.map_map, ← each]
      rfl

/-- What is read back is what has been told, in the order of enumeration. -/
theorem told_reorders_readBack (value : Json) : Distinct value → Reorders (told value) (readBack value) := by
  induction value using induct with
  | null => exact fun _ => .refl _
  | bool value => exact fun _ => .refl _
  | num literal => exact fun _ => .refl _
  | str value => exact fun _ => .refl _
  | arr items inductionHypothesis =>
      intro distinct
      rw [told_arr, readBack_arr]
      apply Reorders.items
      intro item member
      exact inductionHypothesis item member (distinct_arr.mp distinct item member)
  | obj members inductionHypothesis =>
      intro distinct
      rcases distinct_obj.mp distinct with ⟨names, values⟩
      have renamed : ((members.map fun member => (member.1, readBack member.2)).map Prod.fst).Nodup := by
        rw [List.map_map]
        exact names
      rw [told_obj, readBack_obj, ofEntries, foldl_define renamed]
      have each := Reorders.values fun member inside => inductionHypothesis member inside (values member inside)
      exact each.trans (.members (enumerated_perm _).symm)

/-- Enumeration looks at names only. -/
theorem enumerated_map (change : Json → Json) (members : List (String × Json)) :
    enumerated (members.map fun member => (member.1, change member.2)) =
      (enumerated members).map fun member => (member.1, change member.2) := by
  unfold enumerated
  have sorted := List.map_insertionSort (r := IndexLe) (s := IndexLe)
    (fun member : String × Json => (member.1, change member.2))
    (members.filter fun member => (arrayIndex? member.1).isSome) (fun _ _ _ _ => Iff.rfl)
  rw [List.map_append, List.filter_map, List.filter_map, sorted]
  rfl

/-- Sorting and dropping what cannot be set commute with a change of values. -/
theorem sorted_settable (kept : ∀ name, name ≠ "__proto__" → keep name = true) {change second : Json → Json}
    {members : List (String × Json)} (names : (members.map Prod.fst).Nodup) :
    (((members.filter fun member => keep member.1).map fun member =>
        (member.1, second (change member.2))).insertionSort KeyLe).filter settable =
      (((members.map fun member => (member.1, change member.2)).insertionSort KeyLe).filter settable).map
        fun member => (member.1, second member.2) := by
  have left : (((members.filter fun member => keep member.1).map fun member =>
      (member.1, second (change member.2))).insertionSort KeyLe).filter settable |>.Perm
        ((members.filter settable).map fun member => (member.1, second (change member.2))) := by
    refine ((List.perm_insertionSort KeyLe _).filter _).trans (List.Perm.of_eq ?_)
    rw [List.filter_map, List.filter_filter]
    refine congrArg (List.map _) (List.filter_congr ?_)
    intro member _
    by_cases special : member.1 = "__proto__"
    · simp [special]
    · simp [special, kept member.1 special]
  have right : ((((members.map fun member => (member.1, change member.2)).insertionSort KeyLe).filter settable).map
      fun member => (member.1, second member.2)).Perm
        ((members.filter settable).map fun member => (member.1, second (change member.2))) := by
    refine (((List.perm_insertionSort KeyLe _).filter _).map _).trans (List.Perm.of_eq ?_)
    rw [List.filter_map, List.map_map]
    rfl
  have distinct : (((members.filter settable).map fun member =>
      (member.1, second (change member.2))).map Prod.fst).Nodup := by
    rw [List.map_map]
    exact names.sublist (List.filter_sublist.map Prod.fst)
  refine sorted_unique ((left.map Prod.fst).nodup_iff.mpr distinct) ?_ ?_ (left.trans right.symm)
  · exact (List.pairwise_insertionSort KeyLe _).filter _
  · exact List.pairwise_map.mpr ((List.pairwise_insertionSort KeyLe _).filter _)

/-- Canonicalisation neither sees what is pruned nor restores it. -/
theorem canonicalize_prune (kept : ∀ name, name ≠ "__proto__" → keep name = true) (value : Json) :
    Distinct value → canonicalize (prune keep value) = told (canonicalize value) := by
  induction value using induct with
  | null => exact fun _ => rfl
  | bool value => exact fun _ => rfl
  | num literal =>
      intro _
      have told' : told (canonicalize (num literal)) = if isFinite literal then num literal else null := rfl
      rw [told', prune_num]
      split
      · rfl
      · rfl
  | str value => exact fun _ => rfl
  | arr items inductionHypothesis =>
      intro distinct
      rw [prune_arr, canonicalize_arr, canonicalize_arr, told_arr,
        List.map_map, List.map_map]
      congr 1
      apply List.map_congr_left
      intro item member
      exact inductionHypothesis item member (distinct_arr.mp distinct item member)
  | obj members inductionHypothesis =>
      intro distinct
      rcases distinct_obj.mp distinct with ⟨names, values⟩
      have pruned : (members.filter fun member => keep member.1).map
            (fun member => (member.1, canonicalize (prune keep member.2))) =
          (members.filter fun member => keep member.1).map fun member =>
            (member.1, told (canonicalize member.2)) := by
        apply List.map_congr_left
        intro member inside
        have known := (List.mem_filter.mp inside).1
        rw [inductionHypothesis member known (values member known)]
      have names' : (((members.filter fun member => keep member.1).map fun member =>
          (member.1, prune keep member.2)).map Prod.fst).Nodup := by
        rw [List.map_map]
        exact names.sublist (List.filter_sublist.map Prod.fst)
      rw [prune_obj, canonicalize_obj names', canonicalize_obj names, told_obj, ← enumerated_map,
        List.map_map]
      refine congrArg (fun members => obj (enumerated members)) (Eq.trans ?_
        (sorted_settable kept names))
      exact congrArg (fun members => (members.insertionSort KeyLe).filter settable) pruned

theorem visible_num (literal : String) :
    visible (num literal) = if isFinite literal then num literal else null := rfl

theorem visible_arr (items : List Json) : visible (arr items) = arr (items.map visible) := prune_arr _ items

theorem visible_obj (members : List (String × Json)) : visible (obj members) =
    obj ((members.filter settable).map fun member => (member.1, visible member.2)) := prune_obj _ members

theorem visible_settable (value : Json) : Settable (visible value) := by
  induction value using induct with
  | null => trivial
  | bool value => trivial
  | num literal =>
      rw [visible_num]
      split
      · trivial
      · trivial
  | str value => trivial
  | arr items inductionHypothesis =>
      rw [visible_arr]
      apply settable_arr.mpr
      intro item member
      rcases List.mem_map.mp member with ⟨old, known, rfl⟩
      exact inductionHypothesis old known
  | obj members inductionHypothesis =>
      rw [visible_obj]
      refine settable_obj.mpr ⟨?_, ?_⟩
      · rw [List.map_map]
        intro special
        rcases List.mem_map.mp special with ⟨old, known, same⟩
        exact of_decide_eq_true (List.mem_filter.mp known).2 same
      · intro member inside
        rcases List.mem_map.mp inside with ⟨old, known, rfl⟩
        exact inductionHypothesis old (List.mem_filter.mp known).1

theorem canonicalize_visible {payload : Json} (distinct : Distinct payload) :
    canonicalize (visible payload) = told (canonicalize payload) :=
  canonicalize_prune (fun _ => decide_eq_true) payload distinct

/-- A payload's visible part is what its canonical text tells. -/
theorem visible_reorders {payload : Json} (distinct : Distinct payload) :
    Reorders (visible payload) (told (canonicalize payload)) := by
  rw [← canonicalize_visible distinct]
  exact reorders_canonicalize _ (prune_distinct payload distinct) (visible_settable payload)

/-- What is read back has the canonical form of what was written. -/
theorem canonicalize_readBack {value : Json} (distinct : Distinct value) :
    canonicalize (readBack value) = told (canonicalize value) := by
  have read := canonicalize_reorders (told_reorders_readBack value distinct) (prune_distinct value distinct)
  exact read.symm.trans (canonicalize_prune (fun _ _ => rfl) value distinct)

end WebhookSignature
end Orderly
