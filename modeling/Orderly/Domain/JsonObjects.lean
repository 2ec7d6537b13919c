import Orderly.Domain.DecimalTexts
import Orderly.Domain.JsonValues
import Mathlib.Data.List.Lex
import Mathlib.Data.List.Sort

/-!
# Objects of JavaScript

The members of an object are enumerated in an order of the language's own: the
names that are array indices come first, by their numbers, and the others
follow in the order in which they were added.  Texts compare by UTF-16 code
units.
-/

namespace Orderly
namespace Json

/-! ## Code units -/

def utf16 (c : Char) : List Nat :=
  if c.toNat < 0x10000 then [c.toNat]
  else [0xD800 + (c.toNat - 0x10000) / 0x400, 0xDC00 + (c.toNat - 0x10000) % 0x400]

def utf16Text (text : String) : List Nat := text.toList.flatMap utf16

/-- The order of `Array.prototype.sort` on texts. -/
abbrev TextLe (a b : String) : Prop := utf16Text a ≤ utf16Text b

/-- A character is not half a surrogate pair. -/
theorem not_surrogate (c : Char) : c.toNat < 0xD800 ∨ 0xDFFF < c.toNat ∧ c.toNat < 0x110000 := c.valid

/-- Code units determine their characters one after the other. -/
theorem utf16_append {c d : Char} {rest rest' : List Nat} (same : utf16 c ++ rest = utf16 d ++ rest') :
    c = d ∧ rest = rest' := by
  have first := not_surrogate c
  have second := not_surrogate d
  have codes : c.toNat = d.toNat ∧ rest = rest' := by
    unfold utf16 at same
    split at same
    · split at same
      · exact List.cons.inj same
      · have head := (List.cons.inj same).1
        omega
    · split at same
      · have head := (List.cons.inj same).1
        omega
      · rcases List.cons.inj same with ⟨high, tail⟩
        rcases List.cons.inj tail with ⟨low, rest⟩
        refine ⟨?_, rest⟩
        omega
  exact ⟨Char.toNat_inj.mp codes.1, codes.2⟩

theorem utf16_ne_nil (c : Char) : utf16 c ≠ [] := by
  unfold utf16
  split
  · exact List.cons_ne_nil _ _
  · exact List.cons_ne_nil _ _

theorem utf16Text_injective : Function.Injective utf16Text := by
  have texts : ∀ first second : List Char, first.flatMap utf16 = second.flatMap utf16 → first = second := by
    intro first
    induction first with
    | nil =>
        intro second same
        cases second with
        | nil => rfl
        | cons d second => exact absurd (List.append_eq_nil_iff.mp same.symm).1 (utf16_ne_nil d)
    | cons c first inductionHypothesis =>
        intro second same
        cases second with
        | nil => exact absurd (List.append_eq_nil_iff.mp same).1 (utf16_ne_nil c)
        | cons d second =>
            rcases utf16_append same with ⟨rfl, rest⟩
            rw [inductionHypothesis second rest]
  intro a b same
  exact String.toList_injective (texts _ _ same)

/-! ## Members -/

/-- The array index that a name is. -/
def arrayIndex? (name : String) : Option Nat :=
  if Nat.toDigits 10 (Decimal.ofDigits name.toList) = name.toList ∧ Decimal.ofDigits name.toList < 2 ^ 32 - 1 then
    some (Decimal.ofDigits name.toList)
  else none

theorem arrayIndex?_injective {a b : String} {index : Nat} (first : arrayIndex? a = some index)
    (second : arrayIndex? b = some index) : a = b := by
  unfold arrayIndex? at first second
  split at first
  · next canonical =>
      split at second
      · next canonical' =>
          cases first
          have same := Option.some.inj second
          rw [same] at canonical'
          exact String.toList_injective (canonical.1.symm.trans canonical'.1)
      · cases second
  · cases first

/-- `object[name] = value`, for a name that means nothing special. -/
def define (name : String) (value : Json) : List (String × Json) → List (String × Json)
  | [] => [(name, value)]
  | member :: members =>
      if member.1 = name then (name, value) :: members else member :: define name value members

/-- The order of members whose names are array indices. -/
abbrev IndexLe (first second : String × Json) : Prop :=
  (arrayIndex? first.1).getD 0 ≤ (arrayIndex? second.1).getD 0

/-- The members in the order in which they are enumerated. -/
def enumerated (members : List (String × Json)) : List (String × Json) :=
  (members.filter fun member => (arrayIndex? member.1).isSome).insertionSort IndexLe ++
    members.filter fun member => !(arrayIndex? member.1).isSome

/-- An object whose members have been defined one after the other. -/
def ofEntries (entries : List (String × Json)) : Json :=
  obj (enumerated (entries.foldl (fun members entry => define entry.1 entry.2 members) []))

example : (enumerated [("b", null), ("10", null), ("9", null)]).map Prod.fst = ["9", "10", "b"] := by decide +kernel

/-- Enumeration reorders. -/
theorem enumerated_perm (members : List (String × Json)) : (enumerated members).Perm members := by
  have split := List.filter_append_perm (fun member : String × Json => (arrayIndex? member.1).isSome) members
  exact ((List.perm_insertionSort IndexLe _).append_right _).trans split

/-- A new name is added at the end. -/
theorem define_fresh {name : String} {value : Json} {members : List (String × Json)}
    (fresh : name ∉ members.map Prod.fst) : define name value members = members ++ [(name, value)] := by
  induction members with
  | nil => rfl
  | cons member members inductionHypothesis =>
      rw [List.map_cons, List.mem_cons, not_or] at fresh
      rw [define, if_neg (Ne.symm fresh.1), inductionHypothesis fresh.2]
      rfl

/-- Members of distinct names are added one after the other. -/
theorem foldl_define {entries : List (String × Json)} (distinct : (entries.map Prod.fst).Nodup) :
    entries.foldl (fun members entry => define entry.1 entry.2 members) [] = entries := by
  have rest : ∀ before : List (String × Json), ((before ++ entries).map Prod.fst).Nodup →
      entries.foldl (fun members entry => define entry.1 entry.2 members) before = before ++ entries := by
    induction entries with
    | nil => exact fun before _ => (List.append_nil before).symm
    | cons entry entries inductionHypothesis =>
        intro before names
        have fresh : entry.1 ∉ before.map Prod.fst := by
          rw [List.map_append, List.map_cons] at names
          intro known
          exact (List.nodup_append.mp names).2.2 _ known _ List.mem_cons_self rfl
        rw [List.foldl_cons, define_fresh fresh, inductionHypothesis (List.nodup_cons.mp distinct).2]
        · exact List.append_assoc _ _ _
        · rw [List.append_assoc]
          exact names
  exact rest [] distinct

end Json
end Orderly
