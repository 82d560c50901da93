import NoteVault.Proofs.Json.Numeral

namespace NoteVault.Json

open Decimal Text

mutual

-- The texts that spell a value whose arrays and objects stand inside one another in
-- fewer levels than the depth. Blanks may stand around items and fields.
inductive Spells : Nat → Value → List Char → Prop
  | null {depth : Nat} : Spells depth .null ['n', 'u', 'l', 'l']
  | yes {depth : Nat} : Spells depth (.bool true) ['t', 'r', 'u', 'e']
  | no {depth : Nat} : Spells depth (.bool false) ['f', 'a', 'l', 's', 'e']
  | number {depth : Nat} {number : Number} (h : number.ReadsBack) :
      Spells depth (.number number) number.chars
  | string {depth : Nat} (text : String) : Spells depth (.string text) (quoteChars text.toList)
  | emptyArray {depth : Nat} : Spells (depth + 2) (.array []) ['[', ']']
  | array {depth : Nat} {items : List Value} {chars : List Char}
      (h : SpellsItems (depth + 1) items chars) :
      Spells (depth + 2) (.array items) ('[' :: (chars ++ [']']))
  | emptyObject {depth : Nat} : Spells (depth + 2) (.object []) ['\x7b', '\x7d']
  | object {depth : Nat} {fields : List (String × Value)} {chars : List Char}
      (h : SpellsFields (depth + 1) fields chars) :
      Spells (depth + 2) (.object fields) ('\x7b' :: (chars ++ ['\x7d']))

inductive SpellsItems : Nat → List Value → List Char → Prop
  | last {depth : Nat} {item : Value} {before chars after : List Char} (hbefore : IsGaps before)
      (h : Spells depth item chars) (hafter : IsGaps after) :
      SpellsItems depth [item] (before ++ (chars ++ after))
  | more {depth : Nat} {item : Value} {items : List Value} {before chars rest : List Char}
      (hbefore : IsGaps before) (h : Spells depth item chars)
      (hrest : SpellsItems depth items rest) :
      SpellsItems depth (item :: items) (before ++ (chars ++ ',' :: rest))

inductive SpellsFields : Nat → List (String × Value) → List Char → Prop
  | last {depth : Nat} {key : String} {value : Value} {before between chars after : List Char}
      (hbefore : IsGaps before) (hbetween : IsGaps between) (h : Spells depth value chars)
      (hafter : IsGaps after) :
      SpellsFields depth [(key, value)]
        (before ++ (quoteChars key.toList ++ ':' :: (between ++ (chars ++ after))))
  | more {depth : Nat} {key : String} {value : Value} {fields : List (String × Value)}
      {before between chars rest : List Char} (hbefore : IsGaps before) (hbetween : IsGaps between)
      (h : Spells depth value chars) (hrest : SpellsFields depth fields rest) :
      SpellsFields depth ((key, value) :: fields)
        (before ++ (quoteChars key.toList ++ ':' :: (between ++ (chars ++ ',' :: rest))))

end

section

variable {fuel depth : Nat} {chars rest : List Char}

theorem skipGap_skipGap (chars : List Char) : skipGap (skipGap chars) = skipGap chars := by
  induction chars with
  | nil => rfl
  | cons char chars ih =>
      by_cases hgap : isGap char = true
      · simp only [skipGap, List.dropWhile_cons_of_pos hgap]
        exact ih
      · simp only [skipGap, List.dropWhile_cons_of_neg hgap]

theorem readValue_skipGap (fuel depth : Nat) (chars : List Char) :
    readValue fuel depth (skipGap chars) = readValue fuel depth chars := by
  cases fuel with
  | zero => rfl
  | succ fuel => rw [readValue, readValue, skipGap_skipGap]

theorem readItems_skipGap (fuel depth : Nat) (chars : List Char) :
    readItems fuel depth (skipGap chars) = readItems fuel depth chars := by
  cases fuel with
  | zero => rfl
  | succ fuel => rw [readItems, readItems, readValue_skipGap]

theorem readFields_skipGap (fuel depth : Nat) (chars : List Char) :
    readFields fuel depth (skipGap chars) = readFields fuel depth chars := by
  cases fuel with
  | zero => rfl
  | succ fuel => rw [readFields, readFields, readKey, readKey, skipGap_skipGap]

theorem readValue_gaps {gap : List Char} (h : IsGaps gap) :
    readValue fuel depth (gap ++ chars) = readValue fuel depth chars := by
  rw [← readValue_skipGap, skipGap_append h, readValue_skipGap]

-- What a number can start with.
def isNumberStart (char : Char) : Bool :=
  isDigit char || char == '-'

theorem readUnsigned_head {negative : Bool} {numeral : Numeral}
    (h : readUnsigned negative chars = some (numeral, rest)) :
    ∃ first tail, chars = first :: tail ∧ isDigit first = true := by
  cases chars with
  | nil => cases h
  | cons first tail =>
      refine ⟨first, tail, rfl, ?_⟩
      cases hdigit : isDigit first with
      | true => rfl
      | false =>
          have hnone : readWhole (first :: tail) = none := by
            rw [readWhole, readDigits, List.takeWhile_cons_of_neg (by simp [hdigit])]
            rfl
          simp only [readUnsigned, hnone, Option.bind_eq_bind, Option.bind_none] at h
          cases h

theorem readNumber_head {number : Number} (h : readNumber chars = some (number, rest)) :
    ∃ first tail, chars = first :: tail ∧ isNumberStart first = true := by
  obtain ⟨⟨numeral, after⟩, hnumeral, -⟩ := Option.bind_eq_some_iff.mp h
  rw [readNumeral.eq_def] at hnumeral
  split at hnumeral
  · exact ⟨_, _, rfl, rfl⟩
  · obtain ⟨first, tail, rfl, hdigit⟩ := readUnsigned_head hnumeral
    exact ⟨first, tail, rfl, by rw [isNumberStart, hdigit, Bool.true_or]⟩

theorem isGap_of_isNumberStart {char : Char} (h : isNumberStart char = true) : isGap char = false := by
  rw [Bool.eq_false_iff]
  intro hgap
  simp only [isGap, Bool.or_eq_true, beq_iff_eq] at hgap
  rcases hgap with ((rfl | rfl) | rfl) | rfl <;> exact absurd h (by decide)

theorem readValue_number {number : Number} (h : readNumber chars = some (number, rest)) :
    readValue (fuel + 1) depth chars = some (.number number, rest) := by
  obtain ⟨first, tail, rfl, hfirst⟩ := readNumber_head h
  have hstart : ∀ {char : Char} {others : List Char}, first :: tail = char :: others →
      isNumberStart char = true := by
    rintro char others heq
    rw [← (List.cons.inj heq).1]
    exact hfirst
  rw [readValue, skipGap_cons (isGap_of_isNumberStart hfirst)]
  split
  · exact absurd (hstart ‹_›) (by decide)
  · exact absurd (hstart ‹_›) (by decide)
  · exact absurd (hstart ‹_›) (by decide)
  · exact absurd (hstart ‹_›) (by decide)
  · exact absurd (hstart ‹_›) (by decide)
  · exact absurd (hstart ‹_›) (by decide)
  · rw [h]
    rfl

end

section

variable {depth : Nat} {value : Value} {items : List Value} {fields : List (String × Value)}
  {chars : List Char}

-- A value starts with a character that neither is a blank nor ends a list.
theorem Spells.head (h : Spells depth value chars) :
    ∃ first tail, chars = first :: tail ∧ isGap first = false ∧ first ≠ ']' := by
  cases h with
  | null | yes | no | emptyArray | emptyObject => exact ⟨_, _, rfl, by decide, by decide⟩
  | number h =>
      have hread := h [] fun _ hc => nomatch hc
      rw [List.append_nil] at hread
      obtain ⟨first, tail, hchars, hfirst⟩ := readNumber_head hread
      refine ⟨first, tail, hchars, isGap_of_isNumberStart hfirst, ?_⟩
      rintro rfl
      exact absurd hfirst (by decide)
  | string text => exact ⟨_, _, rfl, by decide, by decide⟩
  | array h => exact ⟨_, _, rfl, by decide, by decide⟩
  | object h => exact ⟨_, _, rfl, by decide, by decide⟩

theorem SpellsItems.skipGap_eq (h : SpellsItems depth items chars) (rest : List Char) :
    ∃ first tail, skipGap (chars ++ rest) = first :: tail ∧ first ≠ ']' := by
  cases h with
  | last hbefore h hafter =>
      obtain ⟨first, tail, rfl, hgap, hclose⟩ := h.head
      rw [List.append_assoc, skipGap_append hbefore]
      exact ⟨first, _, skipGap_cons hgap _, hclose⟩
  | more hbefore h hrest =>
      obtain ⟨first, tail, rfl, hgap, hclose⟩ := h.head
      rw [List.append_assoc, skipGap_append hbefore]
      exact ⟨first, _, skipGap_cons hgap _, hclose⟩

theorem SpellsFields.skipGap_eq (h : SpellsFields depth fields chars) (rest : List Char) :
    ∃ tail, skipGap (chars ++ rest) = '"' :: tail := by
  cases h with
  | last hbefore hbetween h hafter =>
      rw [List.append_assoc, skipGap_append hbefore]
      exact ⟨_, skipGap_cons (by decide) _⟩
  | more hbefore hbetween h hrest =>
      rw [List.append_assoc, skipGap_append hbefore]
      exact ⟨_, skipGap_cons (by decide) _⟩

end

section

variable {rest : List Char}

theorem closes_gaps {gap : List Char} (hgap : IsGaps gap) (h : Closes rest) : Closes (gap ++ rest) := by
  cases gap with
  | nil => exact h
  | cons char gap =>
      intro other hother
      obtain rfl := Option.some.inj hother
      exact .inr (.inr (.inr (hgap char List.mem_cons_self)))

theorem closes_cons {char : Char} (h : char = ',' ∨ char = ']' ∨ char = '\x7d') :
    Closes (char :: rest) := by
  intro other hother
  obtain rfl := Option.some.inj hother
  rcases h with h | h | h
  · exact .inl h
  · exact .inr (.inl h)
  · exact .inr (.inr (.inl h))

theorem readKey_quoteChars {gap : List Char} (h : IsGaps gap) (key : String) (rest : List Char) :
    readKey (gap ++ (quoteChars key.toList ++ ':' :: rest)) = some (key, rest) := by
  rw [readKey, skipGap_append h, quoteChars_append, skipGap_cons (by decide)]
  simp only [readString_flatMap, skipGap_cons (show isGap ':' = false by decide),
    String.ofList_toList]

-- The reader gets from a spelled text the value it spells. The induction is on the
-- fuel, since a value, its items and its fields are read in turns.
theorem read_of_spells (fuel : Nat) :
    (∀ depth value chars rest, Spells depth value chars → chars.length < fuel → Closes rest →
      readValue fuel depth (chars ++ rest) = some (value, rest)) ∧
    (∀ depth items chars rest, SpellsItems depth items chars → chars.length + 1 < fuel →
      readItems fuel depth (chars ++ ']' :: rest) = some (items, rest)) ∧
    (∀ depth fields chars rest, SpellsFields depth fields chars → chars.length + 1 < fuel →
      readFields fuel depth (chars ++ '\x7d' :: rest) = some (fields, rest)) := by
  induction fuel with
  | zero =>
      refine ⟨fun _ _ _ _ _ h _ => ?_, fun _ _ _ _ _ h => ?_, fun _ _ _ _ _ h => ?_⟩
      all_goals cases h
  | succ fuel ih =>
      obtain ⟨hvalue, hitems, hfields⟩ := ih
      refine ⟨?_, ?_, ?_⟩
      · intro depth value chars rest h hfuel hrest
        cases h with
        | null => rfl
        | yes => rfl
        | no => rfl
        | number h => exact readValue_number (h rest hrest)
        | string text =>
            rw [quoteChars_append, readValue, skipGap_cons (by decide)]
            simp only [readString_flatMap, Option.map_some, String.ofList_toList]
        | emptyArray => rfl
        | emptyObject => rfl
        | @array depth items chars h =>
            obtain ⟨first, tail, hfirst, hclose⟩ := h.skipGap_eq (']' :: rest)
            have hlen : chars.length + 1 < fuel := by
              simp only [List.length_cons, List.length_append, List.length_nil] at hfuel
              omega
            have hread := hitems (depth + 1) items chars rest h hlen
            rw [← readItems_skipGap, hfirst] at hread
            rw [List.cons_append, List.append_assoc, List.singleton_append, readValue,
              skipGap_cons (by decide)]
            simp only [hfirst]
            rw [if_neg (by omega)]
            split
            · exact absurd (List.cons.inj ‹_›).1 hclose
            · rw [show depth + 2 - 1 = depth + 1 from rfl, hread]
              rfl
        | @object depth fields chars h =>
            obtain ⟨tail, hfirst⟩ := h.skipGap_eq ('\x7d' :: rest)
            have hlen : chars.length + 1 < fuel := by
              simp only [List.length_cons, List.length_append, List.length_nil] at hfuel
              omega
            have hread := hfields (depth + 1) fields chars rest h hlen
            rw [← readFields_skipGap, hfirst] at hread
            rw [List.cons_append, List.append_assoc, List.singleton_append, readValue,
              skipGap_cons (by decide)]
            simp only [hfirst]
            rw [if_neg (by omega)]
            split
            · exact absurd (List.cons.inj ‹_›).1 (by decide)
            · rw [show depth + 2 - 1 = depth + 1 from rfl, hread]
              rfl
      · intro depth items chars rest h hfuel
        cases h with
        | @last depth item before chars after hbefore h hafter =>
            simp only [List.length_append] at hfuel
            have hread := hvalue depth item chars (after ++ ']' :: rest) h (by omega)
              (closes_gaps hafter (closes_cons (.inr (.inl rfl))))
            rw [List.append_assoc, List.append_assoc, readItems, readValue_gaps hbefore, hread]
            simp only [skipGap_append hafter, skipGap_cons (show isGap ']' = false by decide)]
        | @more depth item items before chars others hbefore h hrest =>
            simp only [List.length_append, List.length_cons] at hfuel
            have hread := hvalue depth item chars (',' :: (others ++ ']' :: rest)) h (by omega)
              (closes_cons (.inl rfl))
            rw [List.append_assoc, List.append_assoc, List.cons_append, readItems,
              readValue_gaps hbefore, hread]
            simp only [skipGap_cons (show isGap ',' = false by decide)]
            rw [hitems depth items others rest hrest (by omega)]
            rfl
      · intro depth fields chars rest h hfuel
        cases h with
        | @last depth key value before between chars after hbefore hbetween h hafter =>
            simp only [List.length_append, List.length_cons] at hfuel
            have hread := hvalue depth value chars (after ++ '\x7d' :: rest) h (by omega)
              (closes_gaps hafter (closes_cons (.inr (.inr rfl))))
            rw [List.append_assoc, List.append_assoc, List.cons_append, List.append_assoc,
              List.append_assoc, readFields, readKey_quoteChars hbefore]
            simp only [readValue_gaps hbetween, hread, skipGap_append hafter,
              skipGap_cons (show isGap '\x7d' = false by decide)]
        | @more depth key value fields before between chars others hbefore hbetween h hrest =>
            simp only [List.length_append, List.length_cons] at hfuel
            have hread := hvalue depth value chars (',' :: (others ++ '\x7d' :: rest)) h (by omega)
              (closes_cons (.inl rfl))
            rw [List.append_assoc, List.append_assoc, List.cons_append, List.append_assoc,
              List.append_assoc, List.cons_append, readFields, readKey_quoteChars hbefore]
            simp only [readValue_gaps hbetween, hread,
              skipGap_cons (show isGap ',' = false by decide)]
            rw [hfields depth fields others rest hrest (by omega)]
            rfl

-- A whole text that spells a document is read as that document.
theorem readWritten_of_spells {value : Value} {chars : List Char}
    (h : Spells depthLimit value chars) : readWritten (String.ofList chars) = some value := by
  have hread := (read_of_spells (chars.length + 1)).1 depthLimit value chars [] h (by omega)
    fun _ hc => nomatch hc
  rw [List.append_nil] at hread
  simp only [readWritten, String.toList_ofList, hread]
  rfl

end

end NoteVault.Json
