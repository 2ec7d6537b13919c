import Orderly.Domain.JsonTexts

/-!
# Reading JSON back

What `JSON.parse` makes of the texts that `JSON.stringify` writes: the same
value, with null for a number that is not finite and with the members of its
objects in the order in which they are enumerated.
-/

namespace Orderly
namespace Json

/-! ## Where a text ends -/

/-- What may follow a value inside an array or object. -/
def Ends (rest : List Char) : Prop := ∀ c text, rest = c :: text → c = ',' ∨ c = ']' ∨ c = '\x7d'

/-- A reader that reads no further than it did where nothing followed. -/
def Local (read : List Char → Option (List Char × List Char)) : Prop :=
  ∀ text taken left rest, Ends rest → read text = some (taken, left) →
    read (text ++ rest) = some (taken, left ++ rest)

theorem Ends.nil : Ends [] := by
  intro c text none
  cases none

theorem Ends.comma (text : List Char) : Ends (',' :: text) := by
  intro c _ same
  exact .inl (List.cons.inj same).1.symm

theorem Ends.bracket (text : List Char) : Ends (']' :: text) := by
  intro c _ same
  exact .inr (.inl (List.cons.inj same).1.symm)

theorem Ends.brace (text : List Char) : Ends ('\x7d' :: text) := by
  intro c _ same
  exact .inr (.inr (List.cons.inj same).1.symm)

theorem Ends.takeWhile {rest : List Char} (ends : Ends rest) {p : Char → Bool}
    (outside : p ',' = false ∧ p ']' = false ∧ p '\x7d' = false) :
    rest.takeWhile p = [] ∧ rest.dropWhile p = rest := by
  cases rest with
  | nil => exact ⟨rfl, rfl⟩
  | cons c rest =>
      have stops : p c = false := by
        rcases ends c rest rfl with rfl | rfl | rfl
        · exact outside.1
        · exact outside.2.1
        · exact outside.2.2
      rw [List.takeWhile_cons, List.dropWhile_cons, stops]
      exact ⟨rfl, rfl⟩

theorem readDigits_local : Local readDigits := by
  intro text taken left rest ends read
  rcases ends.takeWhile (p := Decimal.isDigit) (by decide) with ⟨none, all⟩
  unfold readDigits at *
  rw [List.span_eq_takeWhile_dropWhile] at *
  dsimp only at *
  have taking : (text ++ rest).takeWhile Decimal.isDigit = text.takeWhile Decimal.isDigit := by
    rw [List.takeWhile_append, none, List.append_nil]
    split
    · next whole => exact ((List.takeWhile_prefix _).eq_of_length whole).symm
    · rfl
  have dropping : (text ++ rest).dropWhile Decimal.isDigit = text.dropWhile Decimal.isDigit ++ rest := by
    rw [List.dropWhile_append, all]
    split
    · next whole => rw [List.isEmpty_iff.mp whole, List.nil_append]
    · rfl
  rw [taking, dropping]
  split at read
  · cases read
  · next some =>
      cases read
      rw [if_neg some]

/-- A reader behind a character that has been read. -/
theorem Local.behind {reader : List Char → Option (List Char × List Char)} (isLocal : Local reader) (c : Char)
    {text taken left rest : List Char} (ends : Ends rest)
    (read : (reader text).map (fun (digits, rest) => (c :: digits, rest)) = some (taken, left)) :
    (reader (text ++ rest)).map (fun (digits, rest) => (c :: digits, rest)) = some (taken, left ++ rest) := by
  rcases Option.map_eq_some_iff.mp read with ⟨⟨digits, left⟩, inside, same⟩
  cases same
  rw [isLocal text digits left rest ends inside]
  rfl

theorem readWhole_local : Local readWhole := by
  intro text taken left rest ends read
  unfold readWhole at read
  split at read
  · cases read
    rfl
  · next other =>
      have known := readDigits_local text taken left rest ends read
      unfold readWhole
      split
      · next zero =>
          cases text with
          | nil => cases read
          | cons c text =>
              cases zero
              exact absurd rfl (other text)
      · exact known

/-- A reader of something optional reads nothing where a value ends. -/
theorem Ends.unread {reader : List Char → Option (List Char × List Char)} {rest : List Char} (ends : Ends rest)
    (nil : reader [] = some ([], [])) (comma : ∀ text, reader (',' :: text) = some ([], ',' :: text))
    (bracket : ∀ text, reader (']' :: text) = some ([], ']' :: text))
    (brace : ∀ text, reader ('\x7d' :: text) = some ([], '\x7d' :: text)) : reader rest = some ([], rest) := by
  cases rest with
  | nil => exact nil
  | cons c rest =>
      rcases ends c rest rfl with rfl | rfl | rfl
      · exact comma rest
      · exact bracket rest
      · exact brace rest

theorem readFraction_local : Local readFraction := by
  intro text taken left rest ends read
  cases text with
  | nil =>
      cases read
      exact ends.unread rfl (fun _ => rfl) (fun _ => rfl) (fun _ => rfl)
  | cons c text =>
      by_cases point : c = '.'
      · cases point
        exact readDigits_local.behind '.' ends read
      · have unread : ∀ text, readFraction (c :: text) = some ([], c :: text) := by
          intro text
          unfold readFraction
          split
          · next same => exact absurd (List.cons.inj same).1 point
          · rfl
        rw [unread] at read
        cases read
        exact unread (text ++ rest)

theorem readSigned_local : Local readSigned := by
  intro text taken left rest ends read
  cases text with
  | nil => cases read
  | cons c text =>
      by_cases plus : c = '+'
      · cases plus
        exact readDigits_local.behind '+' ends read
      · by_cases minus : c = '-'
        · cases minus
          exact readDigits_local.behind '-' ends read
        · have unsigned : ∀ text, readSigned (c :: text) = readDigits (c :: text) := by
            intro text
            unfold readSigned
            split
            · next same => exact absurd (List.cons.inj same).1 plus
            · next same => exact absurd (List.cons.inj same).1 minus
            · rfl
          rw [unsigned] at read
          rw [List.cons_append, unsigned]
          exact readDigits_local (c :: text) taken left rest ends read

theorem readPower_local : Local readPower := by
  intro text taken left rest ends read
  cases text with
  | nil =>
      cases read
      exact ends.unread rfl (fun _ => rfl) (fun _ => rfl) (fun _ => rfl)
  | cons c text =>
      by_cases lower : c = 'e'
      · cases lower
        exact readSigned_local.behind 'e' ends read
      · by_cases upper : c = 'E'
        · cases upper
          exact readSigned_local.behind 'E' ends read
        · have unread : ∀ text, readPower (c :: text) = some ([], c :: text) := by
            intro text
            unfold readPower
            split
            · next same => exact absurd (List.cons.inj same).1 lower
            · next same => exact absurd (List.cons.inj same).1 upper
            · rfl
          rw [unread] at read
          cases read
          exact unread (text ++ rest)

theorem Local.andThen {first second : List Char → Option (List Char × List Char)} (firstLocal : Local first)
    (secondLocal : Local second) : Local (Json.andThen first second) := by
  intro text taken left rest ends read
  unfold Json.andThen at *
  cases one : first text with
  | none =>
      rw [one] at read
      cases read
  | some step =>
      rcases step with ⟨taken₁, between⟩
      cases two : second between with
      | none =>
          rw [one] at read
          dsimp only [Option.bind_eq_bind, Option.bind_some] at read
          rw [two] at read
          cases read
      | some step =>
          rcases step with ⟨taken₂, after⟩
          rw [one] at read
          dsimp only [Option.bind_eq_bind, Option.bind_some] at read
          rw [two] at read
          cases read
          rw [firstLocal text taken₁ between rest ends one]
          dsimp only [Option.bind_eq_bind, Option.bind_some]
          rw [secondLocal between taken₂ after rest ends two]
          rfl

theorem readMagnitude_local : Local readMagnitude :=
  readWhole_local.andThen (readFraction_local.andThen readPower_local)

theorem readNumber_local : Local readNumber := by
  intro text taken left rest ends read
  cases text with
  | nil => cases read
  | cons c text =>
      by_cases minus : c = '-'
      · cases minus
        exact readMagnitude_local.behind '-' ends read
      · have unsigned : ∀ text, readNumber (c :: text) = readMagnitude (c :: text) := by
          intro text
          unfold readNumber
          split
          · next same => exact absurd (List.cons.inj same).1 minus
          · rfl
        rw [unsigned] at read
        rw [List.cons_append, unsigned]
        exact readMagnitude_local (c :: text) taken left rest ends read

theorem readUnits_plain {c : Char} (quotation : c ≠ '"') (backslash : c ≠ '\\') (printed : ¬ c.toNat < 32)
    (rest : List Char) :
    readUnits (c :: rest) = (readUnits rest).map fun (units, rest) => (utf16 c ++ units, rest) := by
  rw [readUnits]
  · exact if_neg printed
  · exact quotation
  · intro _ _ _ _ _ same
    exact absurd same backslash
  · intro _ _ same
    exact absurd same backslash

theorem hexUnit?_control (code : Nat) (control : code < 32) :
    hexUnit? '0' '0' (Nat.digitChar (code / 16)) (Nat.digitChar (code % 16)) = some code := by
  revert code
  decide

theorem readUnits_escaped {c shown : Char} (known : unescape? shown = some c) (rest : List Char) :
    readUnits ('\\' :: shown :: rest) = (readUnits rest).map fun (units, rest) => (utf16 c ++ units, rest) := by
  have short : shown ≠ 'u' := by
    rintro rfl
    cases known
  rw [readUnits]
  · rw [known]
    cases readUnits rest with
    | none => rfl
    | some read => rfl
  · intro _ _ _ _ _ same
    exact absurd same short

/-- A character is read back from its escape. -/
theorem readUnits_escape (c : Char) (rest : List Char) :
    readUnits (escape c ++ rest) = (readUnits rest).map fun (units, rest) => (utf16 c ++ units, rest) := by
  unfold escape
  split_ifs with quotation backslash newline carriage tab backspace feed control
  · cases quotation
    exact readUnits_escaped rfl rest
  · cases backslash
    exact readUnits_escaped rfl rest
  · cases newline
    exact readUnits_escaped rfl rest
  · cases carriage
    exact readUnits_escaped rfl rest
  · cases tab
    exact readUnits_escaped rfl rest
  · cases Char.toNat_inj.mp (backspace.trans (by decide : 8 = (Char.ofNat 8).toNat))
    exact readUnits_escaped rfl rest
  · cases Char.toNat_inj.mp (feed.trans (by decide : 12 = (Char.ofNat 12).toNat))
    exact readUnits_escaped rfl rest
  · have single : utf16 c = [c.toNat] := if_pos (by omega)
    dsimp only [List.cons_append, List.nil_append]
    rw [readUnits, hexUnit?_control c.toNat control, single]
    cases readUnits rest with
    | none => rfl
    | some read => rfl
  · exact readUnits_plain quotation backslash control rest

theorem readUnits_quoted (text rest : List Char) :
    readUnits (text.flatMap escape ++ '"' :: rest) = some (text.flatMap utf16, rest) := by
  induction text with
  | nil => rfl
  | cons c text inductionHypothesis =>
      rw [List.flatMap_cons, List.append_assoc, readUnits_escape, inductionHypothesis]
      rfl

/-- Code units of a character are joined to it again. -/
theorem ofUnits_utf16 (c : Char) (rest : List Nat) : ofUnits (utf16 c ++ rest) = c :: ofUnits rest := by
  have whole := not_surrogate c
  unfold utf16
  split
  · next basic =>
      have alone : ofUnit c.toNat = c := by
        unfold ofUnit
        rw [if_neg (by omega), Char.ofNat_toNat]
      cases rest with
      | nil => exact congrArg (fun c => [c]) alone
      | cons unit rest =>
          dsimp only [List.cons_append, List.nil_append]
          rw [ofUnits, if_neg (by omega), alone]
  · next pair =>
      have joined : 0x10000 + (0xD800 + (c.toNat - 0x10000) / 0x400 - 0xD800) * 0x400 +
          (0xDC00 + (c.toNat - 0x10000) % 0x400 - 0xDC00) = c.toNat := by omega
      dsimp only [List.cons_append, List.nil_append]
      rw [ofUnits, if_pos (by omega), joined, Char.ofNat_toNat]

theorem ofUnits_text (text : List Char) : ofUnits (text.flatMap utf16) = text := by
  induction text with
  | nil => rfl
  | cons c text inductionHypothesis => rw [List.flatMap_cons, ofUnits_utf16, inductionHypothesis]

/-- A string is read back from what has been written for it. -/
theorem readString_quote (text : String) (rest : List Char) :
    ∃ written, (quote text).toList ++ rest = '"' :: written ∧ readString written = some (text, rest) := by
  refine ⟨text.toList.flatMap escape ++ '"' :: rest, ?_, ?_⟩
  · unfold quote
    rw [String.toList_ofList, List.cons_append, List.cons_append, List.append_assoc]
    rfl
  · unfold readString
    rw [readUnits_quoted, Option.map_some]
    dsimp only
    rw [ofUnits_text, String.ofList_toList]

/-! ### Values -/

mutual

/-- What `JSON.parse` makes of the text of a value. -/
def readBack : Json → Json
  | arr items => arr (readBackItems items)
  | obj members => ofEntries (readBackMembers members)
  | num literal => if isFinite literal then num literal else null
  | value => value

def readBackItems : List Json → List Json
  | [] => []
  | item :: items => readBack item :: readBackItems items

def readBackMembers : List (String × Json) → List (String × Json)
  | [] => []
  | (name, value) :: members => (name, readBack value) :: readBackMembers members

end

theorem readBackItems_eq (items : List Json) : readBackItems items = items.map readBack := by
  induction items with
  | nil => rfl
  | cons item items inductionHypothesis => exact congrArg (List.cons (readBack item)) inductionHypothesis

theorem readBackMembers_eq (members : List (String × Json)) :
    readBackMembers members = members.map fun member => (member.1, readBack member.2) := by
  induction members with
  | nil => rfl
  | cons member members inductionHypothesis => exact congrArg (List.cons _) inductionHypothesis

theorem readBack_arr (items : List Json) : readBack (arr items) = arr (items.map readBack) := by
  rw [← readBackItems_eq]
  rfl

theorem readBack_obj (members : List (String × Json)) :
    readBack (obj members) = ofEntries (members.map fun member => (member.1, readBack member.2)) := by
  rw [← readBackMembers_eq]
  rfl

variable {numberText : String → String}

/-- The numbers are written as JavaScript prints them. -/
def Printed (numberText : String → String) : Json → Prop
  | num literal =>
      isFinite literal = true →
        readNumber literal.toList = some (literal.toList, []) ∧ numberText literal = literal
  | _ => True

theorem readNumber_starts {text taken left : List Char} (read : readNumber text = some (taken, left)) :
    ∃ c tail, text = c :: tail ∧ (c = '-' ∨ Decimal.isDigit c = true) := by
  cases text with
  | nil => cases read
  | cons c tail =>
      refine ⟨c, tail, rfl, ?_⟩
      by_contra neither
      rcases not_or.mp neither with ⟨minus, digit⟩
      have unread : readWhole (c :: tail) = none := by
        unfold readWhole
        split
        · next same => 
            cases same
            exact absurd rfl digit
        · unfold readDigits
          rw [List.span_eq_takeWhile_dropWhile, List.takeWhile_cons_of_neg digit]
          exact if_pos rfl
      unfold readNumber at read
      split at read
      · next same => exact minus (List.cons.inj same).1
      · unfold readMagnitude andThen at read
        rw [unread] at read
        cases read

theorem blank_digit {c : Char} (digit : Decimal.isDigit c = true) : isBlank c = false := by
  apply Bool.eq_false_iff.mpr
  intro blank
  simp only [isBlank, Bool.or_eq_true, decide_eq_true_eq] at blank
  rcases blank with ((rfl | rfl) | rfl) | rfl
  all_goals cases digit

/-- The text of a value begins with neither a blank nor a bracket that closes. -/
theorem stringify_starts {value : Json} (printed : All (Printed numberText) value) :
    ∃ c tail, (stringify value).toList = c :: tail ∧ isBlank c = false ∧ c ≠ ']' := by
  cases value with
  | null => exact ⟨'n', ['u', 'l', 'l'], rfl, by decide, by decide⟩
  | bool value =>
      cases value with
      | true => exact ⟨'t', ['r', 'u', 'e'], rfl, by decide, by decide⟩
      | false => exact ⟨'f', ['a', 'l', 's', 'e'], rfl, by decide, by decide⟩
  | num literal =>
      unfold stringify
      split
      · next finite =>
          have known : Printed numberText (num literal) := printed
          rcases readNumber_starts (known finite).1 with ⟨c, tail, text, starts⟩
          refine ⟨c, tail, text, ?_, ?_⟩
          · rcases starts with rfl | digit
            · decide
            · exact blank_digit digit
          · rcases starts with rfl | digit
            · decide
            · rintro rfl
              cases digit
      · exact ⟨'n', ['u', 'l', 'l'], rfl, by decide, by decide⟩
  | str value =>
      rcases readString_quote value [] with ⟨written, text, _⟩
      rw [List.append_nil] at text
      exact ⟨'"', written, text, by decide, by decide⟩
  | arr items =>
      rw [stringify_items, String.toList_append, String.toList_append]
      exact ⟨'[', _, rfl, by decide, by decide⟩
  | obj members =>
      rw [stringify_members, String.toList_append, String.toList_append]
      exact ⟨'\x7b', _, rfl, by decide, by decide⟩

/-- A value is read back from its text, whatever follows. -/
def ReadsBack (numberText : String → String) (value : Json) : Prop :=
  ∀ fuel rest, (stringify value).toList.length ≤ fuel → Ends rest →
    readValue numberText fuel ((stringify value).toList ++ rest) = some (readBack value, rest)

/-- The texts of several values or members. -/
abbrev joined (texts : List String) : List Char := [','].intercalate (texts.map String.toList)

theorem joined_singleton (text : String) : joined [text] = text.toList := List.intercalate_singleton

theorem joined_cons (first second : String) (texts : List String) :
    joined (first :: second :: texts) = first.toList ++ ',' :: joined (second :: texts) := by
  refine List.intercalate_cons_cons.trans ?_
  rw [List.append_assoc]
  rfl

theorem joined_starts {text : String} {c : Char} {tail : List Char} (starts : text.toList = c :: tail)
    (texts : List String) : ∃ tail, joined (text :: texts) = c :: tail := by
  cases texts with
  | nil => exact ⟨tail, (joined_singleton text).trans starts⟩
  | cons second texts =>
      rw [joined_cons, starts]
      exact ⟨_, rfl⟩

theorem expect_same {sign : Char} (shown : isBlank sign = false) (text : List Char) :
    expect sign (sign :: text) = some text := by
  unfold expect skipBlanks
  rw [List.dropWhile_cons_of_neg (Bool.eq_false_iff.mp shown)]
  exact if_pos rfl

theorem expect_other {sign c : Char} (shown : isBlank c = false) (other : c ≠ sign) (text : List Char) :
    expect sign (c :: text) = none := by
  unfold expect skipBlanks
  rw [List.dropWhile_cons_of_neg (Bool.eq_false_iff.mp shown)]
  exact if_neg other

theorem readItems_joined {items : List Json} (each : ∀ item ∈ items, ReadsBack numberText item)
    (some : items ≠ []) :
    ∀ fuel rest, (joined (items.map stringify)).length < fuel →
      readItems numberText fuel (joined (items.map stringify) ++ ']' :: rest) =
        .some (items.map readBack, rest) := by
  induction items with
  | nil => exact absurd rfl some
  | cons item items inductionHypothesis =>
      intro fuel rest enough
      have first := each item List.mem_cons_self
      cases fuel with
      | zero => cases enough
      | succ fuel =>
          cases items with
          | nil =>
              rw [List.map_singleton, joined_singleton] at *
              rw [readItems, first fuel _ (by omega) (Ends.bracket rest), Option.bind_eq_bind, Option.bind_some]
              dsimp only
              rw [@expect_other ',' ']' (by decide) (by decide), @expect_same ']' (by decide)]
              rfl
          | cons second items =>
              have later := inductionHypothesis (fun item member => each item (List.mem_cons_of_mem _ member))
                (List.cons_ne_nil _ _) fuel rest
              rw [List.map_cons, List.map_cons, joined_cons] at *
              rw [List.length_append, List.length_cons] at enough
              rw [List.append_assoc, List.cons_append, readItems, first fuel _ (by omega) (Ends.comma _),
                Option.bind_eq_bind, Option.bind_some]
              dsimp only
              rw [@expect_same ',' (by decide)]
              dsimp only
              rw [later (by omega)]
              rfl

/-- The text of a member. -/
def memberText (member : String × Json) : String := quote member.1 ++ ":" ++ stringify member.2

theorem memberText_starts (member : String × Json) : ∃ tail, (memberText member).toList = '"' :: tail := by
  unfold memberText quote
  rw [String.toList_append, String.toList_append, String.toList_ofList]
  exact ⟨_, rfl⟩

/-- One member is read back, and the sign behind it decides how the reading goes on. -/
theorem readMembers_member {member : String × Json} (reads : ReadsBack numberText member.2) {fuel : Nat}
    (enough : (memberText member).toList.length ≤ fuel) {rest : List Char} (ends : Ends rest) :
    readMembers numberText (fuel + 1) ((memberText member).toList ++ rest) = match expect ',' rest with
      | some rest => (readMembers numberText fuel rest).map fun (members, rest) =>
          ((member.1, readBack member.2) :: members, rest)
      | none => (expect '\x7d' rest).map fun rest => ([(member.1, readBack member.2)], rest) := by
  have whole : (memberText member).toList ++ rest =
      (quote member.1).toList ++ (':' :: ((stringify member.2).toList ++ rest)) := by
    unfold memberText
    rw [String.toList_append, String.toList_append, List.append_assoc, List.append_assoc]
    rfl
  have long : (stringify member.2).toList.length ≤ (memberText member).toList.length := by
    unfold memberText
    rw [String.toList_append, List.length_append]
    omega
  rcases readString_quote member.1 (':' :: ((stringify member.2).toList ++ rest)) with ⟨written, text, name⟩
  rw [whole, text, readMembers, @expect_same '"' (by decide), Option.bind_eq_bind, Option.bind_some, name,
    Option.bind_eq_bind, Option.bind_some]
  dsimp only
  rw [@expect_same ':' (by decide), Option.bind_eq_bind, Option.bind_some, reads fuel rest (by omega) ends]
  rfl

theorem readMembers_joined {members : List (String × Json)}
    (each : ∀ member ∈ members, ReadsBack numberText member.2) (some : members ≠ []) :
    ∀ fuel rest, (joined (members.map memberText)).length < fuel →
      readMembers numberText fuel (joined (members.map memberText) ++ '\x7d' :: rest) =
        .some (members.map fun member => (member.1, readBack member.2), rest) := by
  induction members with
  | nil => exact absurd rfl some
  | cons member members inductionHypothesis =>
      intro fuel rest enough
      have first := each member List.mem_cons_self
      cases fuel with
      | zero => cases enough
      | succ fuel =>
          cases members with
          | nil =>
              rw [List.map_singleton, joined_singleton] at *
              rw [readMembers_member first (by omega) (Ends.brace rest),
                @expect_other ',' '\x7d' (by decide) (by decide), @expect_same '\x7d' (by decide)]
              rfl
          | cons second members =>
              have later := inductionHypothesis (fun member inside => each member (List.mem_cons_of_mem _ inside))
                (List.cons_ne_nil _ _) fuel rest
              rw [List.map_cons, List.map_cons, joined_cons] at *
              rw [List.length_append, List.length_cons] at enough
              rw [List.append_assoc, List.cons_append, readMembers_member first (by omega) (Ends.comma _),
                @expect_same ',' (by decide)]
              dsimp only
              rw [later (by omega)]
              rfl

theorem stringify_arr (items : List Json) :
    (stringify (arr items)).toList = '[' :: (joined (items.map stringify) ++ [']']) := by
  rw [stringify_items, String.toList_append, String.toList_append, String.toList_intercalate]
  rfl

theorem stringify_obj (members : List (String × Json)) :
    (stringify (obj members)).toList = '\x7b' :: (joined (members.map memberText) ++ ['\x7d']) := by
  rw [stringify_members, String.toList_append, String.toList_append, String.toList_intercalate]
  rfl

theorem readValue_number {c : Char} (starts : c = '-' ∨ Decimal.isDigit c = true) (fuel : Nat)
    (tail : List Char) :
    readValue numberText (fuel + 1) (c :: tail) =
      (readNumber (c :: tail)).map fun (literal, rest) => (num (numberText (String.ofList literal)), rest) := by
  have shown : isBlank c = false := by
    rcases starts with rfl | digit
    · decide
    · exact blank_digit digit
  have whole : skipBlanks (c :: tail) = c :: tail := List.dropWhile_cons_of_neg (Bool.eq_false_iff.mp shown)
  rw [readValue, whole]
  split
  case h_7 => rfl
  all_goals
    next same =>
      cases same
      rcases starts with minus | digit
      · cases minus
      · cases digit

theorem readValue_quotation (fuel : Nat) (rest : List Char) : readValue numberText (fuel + 1) ('"' :: rest) =
    (readString rest).map fun (value, rest) => (str value, rest) := rfl

theorem readValue_bracket (fuel : Nat) (rest : List Char) :
    readValue numberText (fuel + 1) ('[' :: rest) = match expect ']' rest with
      | some rest => some (arr [], rest)
      | none => (readItems numberText fuel rest).map fun (items, rest) => (arr items, rest) := rfl

theorem readValue_brace (fuel : Nat) (rest : List Char) :
    readValue numberText (fuel + 1) ('\x7b' :: rest) = match expect '\x7d' rest with
      | some rest => some (obj [], rest)
      | none => (readMembers numberText fuel rest).map fun (members, rest) => (ofEntries members, rest) := rfl

theorem readsBack_arr {items : List Json} (each : ∀ item ∈ items, ReadsBack numberText item)
    (printed : ∀ item ∈ items, All (Printed numberText) item) : ReadsBack numberText (arr items) := by
  intro fuel rest enough ends
  rw [stringify_arr] at *
  rw [List.length_cons, List.length_append, List.length_singleton] at enough
  cases fuel with
  | zero => omega
  | succ fuel =>
      rw [List.cons_append, List.append_assoc, readValue_bracket, readBack_arr]
      cases items with
      | nil => rfl
      | cons item items =>
          have read := readItems_joined each (List.cons_ne_nil _ _) fuel rest (by omega)
          rcases stringify_starts (printed item List.mem_cons_self) with ⟨c, tail, text, shown, opens⟩
          rcases joined_starts text (items.map stringify) with ⟨tail, whole⟩
          rw [List.map_cons, whole, List.cons_append] at read
          rw [List.map_cons, whole, List.cons_append, expect_other shown opens]
          dsimp only
          rw [List.singleton_append, read]
          rfl

theorem readsBack_obj {members : List (String × Json)}
    (each : ∀ member ∈ members, ReadsBack numberText member.2) :
    ReadsBack numberText (obj members) := by
  intro fuel rest enough ends
  rw [stringify_obj] at *
  rw [List.length_cons, List.length_append, List.length_singleton] at enough
  cases fuel with
  | zero => omega
  | succ fuel =>
      rw [List.cons_append, List.append_assoc, readValue_brace, readBack_obj]
      cases members with
      | nil => rfl
      | cons member members =>
          have read := readMembers_joined each (List.cons_ne_nil _ _) fuel rest (by omega)
          rcases memberText_starts member with ⟨tail, text⟩
          rcases joined_starts text (members.map memberText) with ⟨tail, whole⟩
          rw [List.map_cons, whole, List.cons_append] at read
          rw [List.map_cons, whole, List.cons_append, @expect_other '\x7d' '"' (by decide) (by decide)]
          dsimp only
          rw [List.singleton_append, read]
          rfl

/-- Every value is read back from its text. -/
theorem readsBack (value : Json) : All (Printed numberText) value → ReadsBack numberText value := by
  induction value using induct with
  | null =>
      intro _ fuel rest enough ends
      cases fuel with
      | zero => cases enough
      | succ fuel => rfl
  | bool value =>
      intro _ fuel rest enough ends
      cases fuel with
      | zero => cases value <;> cases enough
      | succ fuel => cases value <;> rfl
  | num literal =>
      intro printed fuel rest enough ends
      have known : Printed numberText (num literal) := printed
      unfold stringify readBack at *
      split at enough
      · next finite =>
          rcases known finite with ⟨read, same⟩
          rcases readNumber_starts read with ⟨c, tail, text, starts⟩
          cases fuel with
          | zero =>
              rw [text] at enough
              cases enough
          | succ fuel =>
              have whole := readNumber_local _ _ _ rest ends read
              rw [text, List.cons_append, ← text] at whole
              rw [if_pos finite, if_pos finite, text, List.cons_append, readValue_number starts, whole,
                Option.map_some]
              dsimp only
              rw [String.ofList_toList, same]
              rfl
      · next infinite =>
          cases fuel with
          | zero => cases enough
          | succ fuel =>
              rw [if_neg infinite, if_neg infinite]
              rfl
  | str value =>
      intro _ fuel rest enough ends
      rcases readString_quote value rest with ⟨written, text, read⟩
      unfold stringify at *
      cases fuel with
      | zero =>
          unfold quote at enough
          rw [String.toList_ofList] at enough
          cases enough
      | succ fuel =>
          rw [text, readValue_quotation, read]
          rfl
  | arr items inductionHypothesis => 
      intro printed
      have each := (all_arr.mp printed).2
      exact readsBack_arr (fun item member => inductionHypothesis item member (each item member)) each
  | obj members inductionHypothesis =>
      intro printed
      have each := (all_obj.mp printed).2
      exact readsBack_obj fun member inside => inductionHypothesis member inside (each member inside)

/-- `JSON.parse(JSON.stringify(value))`. -/
theorem parse_stringify {value : Json} (printed : All (Printed numberText) value) :
    parse numberText value.stringify = some (readBack value) := by
  have read := readsBack value printed (value.stringify.length + 1) [] (Nat.le_succ _) Ends.nil
  rw [List.append_nil] at read
  unfold parse
  rw [read]
  exact if_pos rfl

/-! ## What can be read -/

/-- A value as `JSON.parse` builds it: the names in an object are distinct and numbers are as printed. -/
def WellFormed (numberText : String → String) (value : Json) : Prop :=
  Distinct value ∧ All (Printed numberText) value

theorem wellFormed_arr {items : List Json} :
    WellFormed numberText (arr items) ↔ ∀ item ∈ items, WellFormed numberText item := by
  unfold WellFormed
  rw [distinct_arr, all_arr]
  constructor
  · intro both item member
    exact ⟨both.1 item member, both.2.2 item member⟩
  · intro each
    exact ⟨fun item member => (each item member).1, trivial, fun item member => (each item member).2⟩

theorem wellFormed_obj {members : List (String × Json)} : WellFormed numberText (obj members) ↔
    (members.map Prod.fst).Nodup ∧ ∀ member ∈ members, WellFormed numberText member.2 := by
  unfold WellFormed
  rw [distinct_obj, all_obj]
  constructor
  · intro both
    exact ⟨both.1.1, fun member inside => ⟨both.1.2 member inside, both.2.2 member inside⟩⟩
  · intro each
    exact ⟨⟨each.1, fun member inside => (each.2 member inside).1⟩, trivial,
      fun member inside => (each.2 member inside).2⟩

theorem define_names (name : String) (value : Json) (members : List (String × Json)) :
    (define name value members).map Prod.fst =
      if name ∈ members.map Prod.fst then members.map Prod.fst else members.map Prod.fst ++ [name] := by
  induction members with
  | nil => rfl
  | cons member members inductionHypothesis =>
      rw [define]
      by_cases same : member.1 = name
      · rw [if_pos same, List.map_cons, List.map_cons, same, if_pos List.mem_cons_self]
      · rw [if_neg same, List.map_cons, inductionHypothesis, List.map_cons]
        by_cases known : name ∈ members.map Prod.fst
        · rw [if_pos known, if_pos (List.mem_cons_of_mem _ known)]
        · have unknown : name ∉ member.1 :: members.map Prod.fst := by
            rw [List.mem_cons, not_or]
            exact ⟨Ne.symm same, known⟩
          rw [if_neg known, if_neg unknown, List.cons_append]

theorem mem_define {name : String} {value : Json} {members : List (String × Json)} {member : String × Json}
    (inside : member ∈ define name value members) : member = (name, value) ∨ member ∈ members := by
  induction members with
  | nil => exact .inl (List.mem_singleton.mp inside)
  | cons first members inductionHypothesis =>
      rw [define] at inside
      split at inside
      · rcases List.mem_cons.mp inside with new | old
        · exact .inl new
        · exact .inr (List.mem_cons_of_mem _ old)
      · rcases List.mem_cons.mp inside with rfl | later
        · exact .inr List.mem_cons_self
        · rcases inductionHypothesis later with new | old
          · exact .inl new
          · exact .inr (List.mem_cons_of_mem _ old)

/-- An object built from well-formed values is well formed. -/
theorem wellFormed_ofEntries {entries : List (String × Json)}
    (each : ∀ entry ∈ entries, WellFormed numberText entry.2) : WellFormed numberText (ofEntries entries) := by
  have built : ∀ members : List (String × Json), WellFormed numberText (obj members) →
      WellFormed numberText
        (obj (entries.foldl (fun members entry => define entry.1 entry.2 members) members)) := by
    induction entries with
    | nil => exact fun members known => known
    | cons entry entries inductionHypothesis =>
        intro members known
        rcases wellFormed_obj.mp known with ⟨names, values⟩
        refine inductionHypothesis (fun entry member => each entry (List.mem_cons_of_mem _ member)) _ ?_
        refine wellFormed_obj.mpr ⟨?_, ?_⟩
        · rw [define_names]
          split
          · exact names
          · next fresh =>
              rw [← List.concat_eq_append]
              exact names.concat fresh
        · intro member inside
          rcases mem_define inside with rfl | old
          · exact each entry List.mem_cons_self
          · exact values member old
  rcases wellFormed_obj.mp (built [] (wellFormed_obj.mpr ⟨List.nodup_nil, fun _ none => nomatch none⟩)) with
    ⟨names, values⟩
  refine wellFormed_obj.mpr ⟨((enumerated_perm _).map Prod.fst).nodup_iff.mpr names, ?_⟩
  intro member inside
  exact values member ((enumerated_perm _).mem_iff.mp inside)

/-- The numbers that can be read are printed so that they are read back. -/
def Prints (numberText : String → String) : Prop :=
  ∀ text literal rest, readNumber text = some (literal, rest) →
    Printed numberText (num (numberText (String.ofList literal)))

/-- What has been read at a depth is well formed. -/
theorem read_wellFormed (prints : Prints numberText) (fuel : Nat) :
    (∀ text value rest, readValue numberText fuel text = some (value, rest) → WellFormed numberText value) ∧
    (∀ text items rest, readItems numberText fuel text = some (items, rest) →
      ∀ item ∈ items, WellFormed numberText item) ∧
    (∀ text members rest, readMembers numberText fuel text = some (members, rest) →
      ∀ member ∈ members, WellFormed numberText member.2) := by
  induction fuel with
  | zero =>
      refine ⟨?_, ?_, ?_⟩
      · intro _ _ _ read
        cases read
      · intro _ _ _ read
        cases read
      · intro _ _ _ read
        cases read
  | succ fuel inductionHypothesis =>
      rcases inductionHypothesis with ⟨values, items, members⟩
      refine ⟨?_, ?_, ?_⟩
      · intro text value rest read
        rw [readValue] at read
        split at read
        · cases read
          exact ⟨trivial, trivial⟩
        · cases read
          exact ⟨trivial, trivial⟩
        · cases read
          exact ⟨trivial, trivial⟩
        · rcases Option.map_eq_some_iff.mp read with ⟨_, _, same⟩
          cases same
          exact ⟨trivial, trivial⟩
        · split at read
          · cases read
            exact wellFormed_arr.mpr fun _ none => nomatch none
          · rcases Option.map_eq_some_iff.mp read with ⟨⟨list, _⟩, known, same⟩
            cases same
            exact wellFormed_arr.mpr (items _ list _ known)
        · split at read
          · cases read
            exact wellFormed_obj.mpr ⟨List.nodup_nil, fun _ none => nomatch none⟩
          · rcases Option.map_eq_some_iff.mp read with ⟨⟨entries, _⟩, known, same⟩
            cases same
            exact wellFormed_ofEntries (members _ entries _ known)
        · rcases Option.map_eq_some_iff.mp read with ⟨⟨literal, _⟩, known, same⟩
          cases same
          exact ⟨trivial, prints _ literal _ known⟩
      · intro text list rest read
        rw [readItems] at read
        rcases Option.bind_eq_some_iff.mp read with ⟨⟨first, after⟩, head, tail⟩
        dsimp only at tail
        split at tail
        · rcases Option.map_eq_some_iff.mp tail with ⟨⟨later, _⟩, known, same⟩
          cases same
          exact List.forall_mem_cons.mpr ⟨values _ _ _ head, items _ _ _ known⟩
        · rcases Option.map_eq_some_iff.mp tail with ⟨_, _, same⟩
          cases same
          exact List.forall_mem_singleton.mpr (values _ _ _ head)
      · intro text list rest read
        rw [readMembers] at read
        rcases Option.bind_eq_some_iff.mp read with ⟨_, _, read⟩
        rcases Option.bind_eq_some_iff.mp read with ⟨⟨name, _⟩, _, read⟩
        rcases Option.bind_eq_some_iff.mp read with ⟨_, _, read⟩
        rcases Option.bind_eq_some_iff.mp read with ⟨⟨first, after⟩, head, tail⟩
        dsimp only at tail
        split at tail
        · rcases Option.map_eq_some_iff.mp tail with ⟨⟨later, _⟩, known, same⟩
          cases same
          exact List.forall_mem_cons.mpr ⟨values _ _ _ head, members _ _ _ known⟩
        · rcases Option.map_eq_some_iff.mp tail with ⟨_, _, same⟩
          cases same
          exact List.forall_mem_singleton.mpr (values _ _ _ head)

/-- Whatever `JSON.parse` returns is well formed. -/
theorem parse_wellFormed (prints : Prints numberText) {text : String} {value : Json}
    (parsed : parse numberText text = some value) : WellFormed numberText value := by
  unfold parse at parsed
  split at parsed
  · next read =>
      split at parsed
      · cases parsed
        exact (read_wellFormed prints _).1 _ _ _ read
      · cases parsed
  · cases parsed

end Json
end Orderly
