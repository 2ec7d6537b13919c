import Orderly.Webhooks.Canonical

/-!
# The order of canonical members

The sorted members of a payload are kept in an object, and the language
enumerates the names of an object that are array indices before all others.
Canonical members therefore stand in the order of their code units exactly
where that order puts the indices first, and among them the smaller ones.
-/

namespace Orderly
namespace WebhookSignature

open Json

/-- The names in every object ascend by their code units. -/
def Ascending : Json → Prop := Named fun names => names.Pairwise fun a b => utf16Text a < utf16Text b

/-- One name is enumerated before another because it is an array index. -/
def Precedes (a b : String) : Prop :=
  match arrayIndex? a, arrayIndex? b with
  | some index, some index' => index < index'
  | some _, none => True
  | none, _ => False

/-- Wherever two names of an object are so enumerated, their code units agree. -/
def IndicesFirst : Json → Prop := Named fun names =>
  ∀ a ∈ names, ∀ b ∈ names, Precedes a b → utf16Text a < utf16Text b

/-! ## Lists in one order and another -/

/-- A list in one order is in another where both orders agree. -/
theorem pairwise_iff {α : Type} {T R : α → α → Prop} {list : List α} (ordered : list.Pairwise T)
    (asymmetric : ∀ a b, T a b → ¬ T b a) :
    list.Pairwise R ↔ ∀ a ∈ list, ∀ b ∈ list, T a b → R a b := by
  constructor
  · intro holds a inside b inside'
    refine List.Pairwise.forall_of_forall_of_flip (R := fun a b => T a b → R a b) ?_ ?_ ?_ inside inside'
    · intro c _ before
      exact absurd before (asymmetric c c before)
    · apply holds.imp
      intro c d related _
      exact related
    · exact ordered.imp fun before back => absurd back (asymmetric _ _ before)
  · intro agree
    exact ordered.imp_of_mem fun inside inside' before => agree _ inside _ inside' before

/-- The order of enumeration. -/
def Enumerates (a b : String) : Prop :=
  Precedes a b ∨ arrayIndex? a = none ∧ arrayIndex? b = none ∧ utf16Text a < utf16Text b

theorem precedes_asymmetric {a b : String} (before : Precedes a b) : ¬ Precedes b a := by
  unfold Precedes at *
  cases first : arrayIndex? a with
  | none =>
      rw [first] at before
      exact absurd before id
  | some index =>
      cases second : arrayIndex? b with
      | none => exact id
      | some index' =>
          rw [first, second] at before
          exact Nat.lt_asymm before

theorem precedes_index {a b : String} (before : Precedes a b) : (arrayIndex? a).isSome = true := by
  unfold Precedes at before
  cases first : arrayIndex? a with
  | none =>
      rw [first] at before
      exact absurd before id
  | some index => rfl

theorem enumerates_asymmetric (a b : String) (before : Enumerates a b) : ¬ Enumerates b a := by
  rintro (back | ⟨none, none', back⟩)
  · rcases before with before | ⟨none, none', _⟩
    · exact precedes_asymmetric before back
    · have index := precedes_index back
      rw [none'] at index
      cases index
  · rcases before with before | ⟨_, _, before⟩
    · have index := precedes_index before
      rw [none'] at index
      cases index
    · exact lt_asymm before back

instance : Std.Total IndexLe := ⟨fun _ _ => Nat.le_total _ _⟩

instance : IsTrans (String × Json) IndexLe := ⟨fun _ _ _ first second => Nat.le_trans first second⟩

theorem unindexed {members : List (String × Json)} {member : String × Json}
    (inside : member ∈ members.filter fun member => !(arrayIndex? member.1).isSome) :
    arrayIndex? member.1 = none := by
  have none := (List.mem_filter.mp inside).2
  cases known : arrayIndex? member.1 with
  | none => rfl
  | some index =>
      rw [known] at none
      cases none

/-- Of two members with different indices the smaller is enumerated first. -/
theorem enumerates_of_index {first second : String × Json} (index : (arrayIndex? first.1).isSome = true)
    (index' : (arrayIndex? second.1).isSome = true) (le : IndexLe first second) (apart : first.1 ≠ second.1) :
    Enumerates first.1 second.1 := by
  rcases Option.isSome_iff_exists.mp index with ⟨i, known⟩
  rcases Option.isSome_iff_exists.mp index' with ⟨j, known'⟩
  unfold IndexLe at le
  rw [known, known', Option.getD_some, Option.getD_some] at le
  have different : i ≠ j := by
    rintro rfl
    exact apart (arrayIndex?_injective known known')
  apply Or.inl
  unfold Precedes
  rw [known, known']
  exact lt_of_le_of_ne le different

/-- Members in the order of their names are enumerated in the order of enumeration. -/
theorem enumerated_pairwise {members : List (String × Json)}
    (sorted : members.Pairwise fun first second => utf16Text first.1 < utf16Text second.1) :
    ((enumerated members).map Prod.fst).Pairwise Enumerates := by
  have names : (members.filter fun member => (arrayIndex? member.1).isSome).Pairwise
      fun first second => first.1 ≠ second.1 := by
    apply (sorted.filter _).imp
    intro first second before same
    rw [same] at before
    exact lt_irrefl _ before
  unfold enumerated
  rw [List.map_append, List.pairwise_append]
  refine ⟨?_, ?_, ?_⟩
  · rw [List.pairwise_map]
    have apart : ((members.filter fun member => (arrayIndex? member.1).isSome).insertionSort IndexLe).Pairwise
        fun first second => first.1 ≠ second.1 :=
      ((List.perm_insertionSort IndexLe _).pairwise_iff Ne.symm).mpr names
    apply ((List.pairwise_insertionSort IndexLe _).and apart).imp_of_mem
    intro first second inside inside' each
    have index := (List.mem_filter.mp ((List.perm_insertionSort IndexLe _).mem_iff.mp inside)).2
    have index' := (List.mem_filter.mp ((List.perm_insertionSort IndexLe _).mem_iff.mp inside')).2
    exact enumerates_of_index index index' each.1 each.2
  · rw [List.pairwise_map]
    apply (sorted.filter _).imp_of_mem
    intro first second inside inside' before
    exact .inr ⟨unindexed inside, unindexed inside', before⟩
  · intro a inside b inside'
    rcases List.mem_map.mp inside with ⟨first, mem, rfl⟩
    rcases List.mem_map.mp inside' with ⟨second, mem', rfl⟩
    have index := (List.mem_filter.mp ((List.perm_insertionSort IndexLe _).mem_iff.mp mem)).2
    rcases Option.isSome_iff_exists.mp index with ⟨i, known⟩
    apply Or.inl
    unfold Precedes
    rw [known, unindexed mem']
    exact trivial

/-! ## Canonical order -/

theorem ascending_obj {members : List (String × Json)} : Ascending (obj members) ↔
    ((members.map Prod.fst).Pairwise fun a b => utf16Text a < utf16Text b) ∧
      ∀ member ∈ members, Ascending member.2 := named_obj

theorem indicesFirst_obj {members : List (String × Json)} : IndicesFirst (obj members) ↔
    (∀ a ∈ members.map Prod.fst, ∀ b ∈ members.map Prod.fst, Precedes a b → utf16Text a < utf16Text b) ∧
      ∀ member ∈ members, IndicesFirst member.2 := named_obj

/-- Sorted members of distinct names ascend strictly. -/
theorem sorted_strictly {members : List (String × Json)} (distinct : (members.map Prod.fst).Nodup) :
    (members.insertionSort KeyLe).Pairwise fun first second => utf16Text first.1 < utf16Text second.1 := by
  have apart : (members.insertionSort KeyLe).Pairwise fun first second => first.1 ≠ second.1 :=
    List.pairwise_map.mp (((List.perm_insertionSort KeyLe _).map Prod.fst).nodup_iff.mpr distinct)
  apply ((List.pairwise_insertionSort KeyLe members).and apart).imp
  intro first second each
  exact lt_of_le_of_ne each.1 fun same => each.2 (utf16Text_injective same)

/-- The members of one object stand in order exactly where the indices belong in front. -/
theorem enumerated_ascending {members : List (String × Json)}
    (sorted : members.Pairwise fun first second => utf16Text first.1 < utf16Text second.1) :
    (((enumerated members).map Prod.fst).Pairwise fun a b => utf16Text a < utf16Text b) ↔
      ∀ a ∈ members.map Prod.fst, ∀ b ∈ members.map Prod.fst, Precedes a b → utf16Text a < utf16Text b := by
  have inside : ∀ name, name ∈ (enumerated members).map Prod.fst ↔ name ∈ members.map Prod.fst :=
    fun name => ((enumerated_perm members).map Prod.fst).mem_iff
  rw [pairwise_iff (enumerated_pairwise sorted) enumerates_asymmetric]
  constructor
  · intro agree a known b known' before
    exact agree a ((inside a).mpr known) b ((inside b).mpr known') (.inl before)
  · intro agree a known b known' before
    rcases before with before | ⟨_, _, before⟩
    · exact agree a ((inside a).mp known) b ((inside b).mp known') before
    · exact before

/-- The same at every depth. -/
theorem canonicalize_ascending (payload : Json) : Distinct payload → Settable payload →
    (Ascending (canonicalize payload) ↔ IndicesFirst payload) := by
  induction payload using induct with
  | null => exact fun _ _ => Iff.rfl
  | bool value => exact fun _ _ => Iff.rfl
  | num literal => exact fun _ _ => Iff.rfl
  | str value => exact fun _ _ => Iff.rfl
  | arr items inductionHypothesis =>
      intro distinct settable
      unfold Ascending IndicesFirst at *
      rw [canonicalize_arr, named_arr, named_arr, List.forall_mem_map]
      apply forall₂_congr
      intro item member
      exact inductionHypothesis item member (distinct_arr.mp distinct item member)
        (settable_arr.mp settable item member)
  | obj members inductionHypothesis =>
      intro distinct settable
      rcases distinct_obj.mp distinct with ⟨names, values⟩
      rcases settable_obj.mp settable with ⟨kept, inside⟩
      have canonical : ((members.map fun member => (member.1, canonicalize member.2)).map Prod.fst) =
          members.map Prod.fst := by
        rw [List.map_map]
        rfl
      have permuted := List.perm_insertionSort KeyLe (members.map fun member => (member.1, canonicalize member.2))
      rw [canonicalize_obj names, filter_settable, ascending_obj, indicesFirst_obj, enumerated_ascending]
      · have same : ∀ name, name ∈ ((members.map fun member => (member.1, canonicalize member.2)).insertionSort
            KeyLe).map Prod.fst ↔ name ∈ members.map Prod.fst := by
          intro name
          rw [(permuted.map Prod.fst).mem_iff, canonical]
        apply and_congr
        · simp only [same]
        · constructor
          · intro ascending member mem
            have listed : (member.1, canonicalize member.2) ∈ enumerated
                ((members.map fun member => (member.1, canonicalize member.2)).insertionSort KeyLe) :=
              (enumerated_perm _).mem_iff.mpr (permuted.mem_iff.mpr (List.mem_map_of_mem mem))
            exact (inductionHypothesis member mem (values member mem) (inside member mem)).mp (ascending _ listed)
          · intro first member listed
            have original := permuted.mem_iff.mp ((enumerated_perm _).mem_iff.mp listed)
            rcases List.mem_map.mp original with ⟨old, mem, rfl⟩
            exact (inductionHypothesis old mem (values old mem) (inside old mem)).mpr (first old mem)
      · exact sorted_strictly (canonical ▸ names)
      · rw [(permuted.map Prod.fst).mem_iff, canonical]
        exact kept

/-! ## Other implementations -/

/-- A value in the order of its names is canonical where the indices belong in front. -/
theorem canonicalize_fixed (value : Json) :
    Distinct value → Settable value → Ascending value → IndicesFirst value → canonicalize value = value := by
  induction value using induct with
  | null => exact fun _ _ _ _ => rfl
  | bool value => exact fun _ _ _ _ => rfl
  | num literal => exact fun _ _ _ _ => rfl
  | str value => exact fun _ _ _ _ => rfl
  | arr items inductionHypothesis =>
      intro distinct settable ascending indices
      have unchanged : items.map canonicalize = items := by
        refine (List.map_congr_left ?_).trans (List.map_id items)
        intro item member
        exact inductionHypothesis item member (distinct_arr.mp distinct item member)
          (settable_arr.mp settable item member) (named_arr.mp ascending item member)
          (named_arr.mp indices item member)
      rw [canonicalize_arr, unchanged]
  | obj members inductionHypothesis =>
      intro distinct settable ascending indices
      rcases distinct_obj.mp distinct with ⟨names, values⟩
      rcases settable_obj.mp settable with ⟨kept, inside⟩
      rcases ascending_obj.mp ascending with ⟨ordered, each⟩
      rcases indicesFirst_obj.mp indices with ⟨first, deep⟩
      have strictly := List.pairwise_map.mp ordered
      have unchanged : (members.map fun member => (member.1, canonicalize member.2)) = members := by
        refine (List.map_congr_left ?_).trans (List.map_id members)
        intro member mem
        exact congrArg (Prod.mk member.1)
          (inductionHypothesis member mem (values member mem) (inside member mem) (each member mem)
            (deep member mem))
      have sorted : members.insertionSort KeyLe = members :=
        sorted_unique (((List.perm_insertionSort KeyLe _).map Prod.fst).nodup_iff.mpr names)
          (List.pairwise_insertionSort KeyLe members) (strictly.imp fun before => le_of_lt before)
          (List.perm_insertionSort KeyLe members)
      have enumerated' : enumerated members = members :=
        sorted_unique (((enumerated_perm _).map Prod.fst).nodup_iff.mpr names)
          ((List.pairwise_map.mp ((enumerated_ascending strictly).mpr first)).imp fun before => le_of_lt before)
          (strictly.imp fun before => le_of_lt before) (enumerated_perm members)
      rw [canonicalize_obj names, unchanged, sorted, filter_settable kept, enumerated']

/-- The canonical text lists the members of every object in strictly ascending order exactly where, in every
object, the names that are array indices come first by their code units, the smaller ones before the larger; and
then whoever sorts the names writes the same text. -/
theorem canonical_text_sorted {payload : Json} (distinct : Distinct payload) (settable : Settable payload) :
    (Ascending (canonicalize payload) ↔ IndicesFirst payload) ∧
      (IndicesFirst payload → ∀ other, Reorders payload other → Ascending other →
        other.stringify = (canonicalize payload).stringify) := by
  refine ⟨canonicalize_ascending payload distinct settable, ?_⟩
  intro indices other reorders ascending
  have settable' : Settable other := reorders.named (fun permuted kept inside => kept (permuted.mem_iff.mpr inside))
    settable
  have indices' : IndicesFirst other := by
    refine reorders.named ?_ indices
    intro names names' permuted first a inside b inside'
    exact first a (permuted.mem_iff.mpr inside) b (permuted.mem_iff.mpr inside')
  rw [canonicalize_reorders reorders distinct,
    canonicalize_fixed other (reorders.distinct distinct) settable' ascending indices']

/-- Two names that are no indices. -/
def unindexedPair : Json := obj [("b", null), ("a", null)]

/-- Two indices of different lengths. -/
def indexed : Json := obj [("9", null), ("10", null)]

theorem canonical_texts : (canonicalize unindexedPair).stringify = "\x7b\"a\":null,\"b\":null\x7d" ∧
    arrayIndex? "9" = some 9 ∧ arrayIndex? "10" = some 10 ∧
    (canonicalize indexed).stringify = "\x7b\"9\":null,\"10\":null\x7d" := by
  decide

theorem canonical_text_sorted_pair : (canonicalize unindexedPair).stringify = "\x7b\"a\":null,\"b\":null\x7d" ∧
    (Ascending (canonicalize unindexedPair) ↔ IndicesFirst unindexedPair) :=
  ⟨canonical_texts.1, (@canonical_text_sorted unindexedPair
    (distinct_obj.mpr ⟨by decide, List.forall_mem_cons.mpr ⟨trivial, List.forall_mem_singleton.mpr trivial⟩⟩)
    (settable_obj.mpr ⟨by decide, List.forall_mem_cons.mpr ⟨trivial, List.forall_mem_singleton.mpr trivial⟩⟩)).1⟩

theorem canonical_text_unsorted : Distinct indexed ∧ Settable indexed ∧ ¬ Ascending (canonicalize indexed) ∧
    (canonicalize indexed).stringify = "\x7b\"9\":null,\"10\":null\x7d" := by
  have distinct : Distinct indexed :=
    distinct_obj.mpr ⟨by decide, List.forall_mem_cons.mpr ⟨trivial, List.forall_mem_singleton.mpr trivial⟩⟩
  have settable : Settable indexed :=
    settable_obj.mpr ⟨by decide, List.forall_mem_cons.mpr ⟨trivial, List.forall_mem_singleton.mpr trivial⟩⟩
  rcases canonical_texts.2 with ⟨nine, ten, text⟩
  refine ⟨distinct, settable, ?_, text⟩
  rw [canonicalize_ascending indexed distinct settable]
  intro indices
  have ascending := (indicesFirst_obj.mp indices).1 "9" (by decide) "10" (by decide)
  have first : Precedes "9" "10" := by
    unfold Precedes
    rw [nine, ten]
    decide
  exact absurd (ascending first) (by decide)

end WebhookSignature
end Orderly
