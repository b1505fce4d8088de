import LocaleSite.Value.JsonReader
import Mathlib.Data.List.Forall2
import Mathlib.Data.List.Nodup

/-!
# Reading back written JSON

Reading the text of a value gives back the value, whether the text is compact or laid out over
lines, so no two values have one text. This holds of the values that sites are written as: strings,
truth values, and lists and tables of these without a repeated key. Numbers are left out, since
some of them are written as `null`.

A reader stops where a part ends, so each part is read in front of an arbitrary rest. It does not
see blanks before a part, in which alone the two texts differ.
-/

namespace LocaleSite

/-- Strings and truth values, and lists and tables of these in which no key comes twice. -/
inductive Value.Plain : Value → Prop where
  | bool (value : Bool) : Plain (.bool value)
  | string (value : String) : Plain (.string value)
  | list {elements : List Value} (each : ∀ value ∈ elements, Plain value) : Plain (.list elements)
  | table {entries : List (String × Value)} (nodup : (entries.map Prod.fst).Nodup)
      (each : ∀ entry ∈ entries, Plain entry.2) : Plain (.table entries)

theorem Value.setEntry_of_not_mem {key : String} {value : Value} {entries : List (String × Value)}
    (fresh : key ∉ entries.map Prod.fst) :
    setEntry key value entries = entries ++ [(key, value)] := by
  induction entries with
  | nil => rfl
  | cons head rest ih =>
      rcases head with ⟨other, old⟩
      simp only [List.map_cons, List.mem_cons, not_or] at fresh
      have different : other ≠ key := fun same => fresh.1 same.symm
      simp [setEntry, different, ih fresh.2]

namespace Json

/-! ## Strings -/

theorem hexValue?_hexDigit {n : Nat} (small : n < 16) : hexValue? (hexDigit n) = some n := by
  have each : ∀ digit : Fin 16, hexValue? (hexDigit digit) = some digit.val := by decide
  exact each ⟨n, small⟩

theorem fourHex?_hexDigit {n : Nat} (small : n < 32) :
    fourHex? '0' '0' (hexDigit (n / 16)) (hexDigit (n % 16)) = some n := by
  have zero : hexValue? '0' = some 0 := by decide
  simp only [fourHex?, zero, hexValue?_hexDigit (show n / 16 < 16 by omega),
    hexValue?_hexDigit (show n % 16 < 16 by omega), Option.bind_eq_bind, Option.bind_some,
    Option.pure_def, Option.some.injEq]
  omega

/-- A character below the blank is read back from its four digits. -/
theorem readStringTail_control {c : Char} (control : c.toNat < 32) (rest : List Char) :
    readStringTail
        (['\\', 'u', '0', '0', hexDigit (c.toNat / 16), hexDigit (c.toNat % 16)] ++ rest) =
      consChar c (readStringTail rest) := by
  have notLow : ¬(0xDC00 ≤ c.toNat ∧ c.toNat < 0xE000) := by omega
  have notHigh : ¬(0xD800 ≤ c.toNat ∧ c.toNat < 0xDC00) := by omega
  simp only [List.cons_append, List.nil_append]
  rw [readStringTail, fourHex?_hexDigit control]
  simp only [notLow, notHigh, if_false, Char.ofNat_toNat]

/-- A character that needs no escape is read as itself. -/
theorem readStringTail_raw {c : Char} (notQuote : c ≠ '"') (notBackslash : c ≠ '\\')
    (notControl : ¬c.toNat < 32) (rest : List Char) :
    readStringTail (c :: rest) = consChar c (readStringTail rest) := by
  rw [readStringTail, if_neg notControl]
  · exact fun quote => absurd quote notQuote
  · intro a b c d rest backslash
    exact absurd backslash notBackslash
  · intro short rest backslash
    exact absurd backslash notBackslash

theorem readStringTail_escaped (c : Char) (rest : List Char) :
    readStringTail (escaped c ++ rest) = consChar c (readStringTail rest) := by
  unfold escaped
  split
  · subst c; rfl
  split
  · subst c; rfl
  split
  · subst c; rfl
  split
  · subst c; rfl
  split
  · subst c; rfl
  split
  · subst c; rfl
  split
  · subst c; rfl
  split
  · exact readStringTail_control ‹_› rest
  · exact readStringTail_raw ‹_› ‹_› ‹_› rest

theorem readStringTail_flatMap_escaped (chars rest : List Char) :
    readStringTail (chars.flatMap escaped ++ '"' :: rest) = some (chars, rest) := by
  induction chars with
  | nil => simp [readStringTail]
  | cons c chars ih =>
      rw [List.flatMap_cons, List.append_assoc, readStringTail_escaped, ih]
      rfl

theorem readString_stringChars (s : String) (rest : List Char) :
    readString (stringChars s ++ rest) = some (s, rest) := by
  unfold stringChars
  simp only [List.cons_append, List.append_assoc, List.nil_append, readString,
    readStringTail_flatMap_escaped, String.ofList_toList]

/-! ## Blanks -/

theorem skipBlanks_append {blanks : List Char} (blank : skipBlanks blanks = []) (rest : List Char) :
    skipBlanks (blanks ++ rest) = skipBlanks rest := by
  induction blanks with
  | nil => rfl
  | cons c blanks ih =>
      rw [skipBlanks] at blank
      split at blank
      · rename_i isBlank
        rw [List.cons_append, skipBlanks, if_pos isBlank, ih blank]
      · cases blank

@[simp]
theorem skipBlanks_skipBlanks (chars : List Char) :
    skipBlanks (skipBlanks chars) = skipBlanks chars := by
  induction chars with
  | nil => rfl
  | cons c rest ih =>
      by_cases isBlank : (c = ' ' || c = '\n' || c = '\t' || c = '\r') = true <;>
        simp_all [skipBlanks]

@[simp]
theorem readValue_skipBlanks (fuel : Nat) (chars : List Char) :
    readValue fuel (skipBlanks chars) = readValue fuel chars := by
  cases fuel with
  | zero => rfl
  | succ fuel => rw [readValue, readValue, skipBlanks_skipBlanks]

@[simp]
theorem readElements_skipBlanks (fuel : Nat) (chars : List Char) :
    readElements fuel (skipBlanks chars) = readElements fuel chars := by
  cases fuel with
  | zero => rfl
  | succ fuel => rw [readElements, readElements, readValue_skipBlanks]

@[simp]
theorem readEntries_skipBlanks (fuel : Nat) (earlier : List (String × Value)) (chars : List Char) :
    readEntries fuel earlier (skipBlanks chars) = readEntries fuel earlier chars := by
  cases fuel with
  | zero => rfl
  | succ fuel => rw [readEntries, readEntries, skipBlanks_skipBlanks]

/-! ## One step of the reader -/

theorem readElements_last {fuel : Nat} {chars tail rest : List Char} {value : Value}
    (reads : readValue fuel chars = some (value, tail)) (closes : skipBlanks tail = ']' :: rest) :
    readElements (fuel + 1) chars = some ([value], rest) := by
  simp only [readElements, reads, closes]

theorem readElements_more {fuel : Nat} {chars tail rest : List Char} {value : Value}
    (reads : readValue fuel chars = some (value, tail))
    (continues : skipBlanks tail = ',' :: rest) :
    readElements (fuel + 1) chars =
      (readElements fuel rest).map fun read => (value :: read.1, read.2) := by
  simp only [readElements, reads, continues]

theorem readEntries_last {fuel : Nat} {earlier : List (String × Value)}
    {chars afterKey valueChars tail rest : List Char} {key : String} {value : Value}
    (readsKey : readString (skipBlanks chars) = some (key, afterKey))
    (colon : skipBlanks afterKey = ':' :: valueChars)
    (reads : readValue fuel valueChars = some (value, tail))
    (closes : skipBlanks tail = '}' :: rest) :
    readEntries (fuel + 1) earlier chars = some (Value.setEntry key value earlier, rest) := by
  simp only [readEntries, readsKey, colon, reads, closes]

theorem readEntries_more {fuel : Nat} {earlier : List (String × Value)}
    {chars afterKey valueChars tail rest : List Char} {key : String} {value : Value}
    (readsKey : readString (skipBlanks chars) = some (key, afterKey))
    (colon : skipBlanks afterKey = ':' :: valueChars)
    (reads : readValue fuel valueChars = some (value, tail))
    (continues : skipBlanks tail = ',' :: rest) :
    readEntries (fuel + 1) earlier chars =
      readEntries fuel (Value.setEntry key value earlier) rest := by
  simp only [readEntries, readsKey, colon, reads, continues]

/-! ## Parts between commas -/

/-- The value is read from the characters, given at least as much fuel as there are of them. -/
def ReadsAs (chars : List Char) (value : Value) : Prop :=
  ∀ fuel rest, chars.length ≤ fuel → readValue fuel (chars ++ rest) = some (value, rest)

/-- The entry is read from the characters: its key, a colon, and its value. -/
def EntryReadsAs (chars : List Char) (entry : String × Value) : Prop :=
  ∃ blanks valueChars, skipBlanks blanks = [] ∧ ReadsAs valueChars entry.2 ∧
    chars = blanks ++ stringChars entry.1 ++ ':' :: valueChars

theorem readElements_intercalate {elements : List Value} {texts : List (List Char)}
    (each : List.Forall₂ ReadsAs texts elements) (nonempty : elements ≠ []) {closing : List Char}
    (blank : skipBlanks closing = []) {fuel : Nat} {rest : List Char}
    (enough : ([','].intercalate texts).length < fuel) :
    readElements fuel ([','].intercalate texts ++ (closing ++ ']' :: rest)) =
      some (elements, rest) := by
  have closes : skipBlanks (closing ++ ']' :: rest) = ']' :: rest := skipBlanks_append blank _
  induction each generalizing fuel with
  | nil => exact absurd rfl nonempty
  | @cons text value moreTexts more reads others ih =>
      rcases fuel with _ | fuel
      · omega
      cases others with
      | nil =>
          rw [List.intercalate_singleton] at enough ⊢
          exact readElements_last (reads fuel _ (by omega)) closes
      | @cons nextText next _ _ _ _ =>
          simp only [List.intercalate_cons_cons, List.append_assoc, List.length_append,
            List.length_cons, List.cons_append, List.nil_append] at enough ⊢
          rw [readElements_more (reads fuel _ (by omega)) rfl, ih (by simp) (by omega)]
          rfl

theorem readEntries_intercalate {entries earlier : List (String × Value)}
    {texts : List (List Char)} (each : List.Forall₂ EntryReadsAs texts entries)
    (nonempty : entries ≠ []) (nodup : ((earlier ++ entries).map Prod.fst).Nodup)
    {closing : List Char} (blank : skipBlanks closing = []) {fuel : Nat} {rest : List Char}
    (enough : ([','].intercalate texts).length < fuel) :
    readEntries fuel earlier ([','].intercalate texts ++ (closing ++ '}' :: rest)) =
      some (earlier ++ entries, rest) := by
  have closes : skipBlanks (closing ++ '}' :: rest) = '}' :: rest := skipBlanks_append blank _
  -- The entries read before are general: the next is set behind them, as its key is none of theirs.
  induction each generalizing earlier fuel with
  | nil => exact absurd rfl nonempty
  | @cons text entry moreTexts more readsEntry others ih =>
      rcases fuel with _ | fuel
      · omega
      rcases entry with ⟨key, value⟩
      rcases readsEntry with ⟨blanks, valueChars, indented, reads, rfl⟩
      have readsKey (chars : List Char) :
          readString (skipBlanks (blanks ++ (stringChars key ++ chars))) = some (key, chars) := by
        rw [skipBlanks_append indented]
        exact readString_stringChars key chars
      have set : Value.setEntry key value earlier = earlier ++ [(key, value)] := by
        apply Value.setEntry_of_not_mem
        intro known
        rw [List.map_append, List.nodup_append] at nodup
        exact nodup.2.2 key known key (by simp) rfl
      cases others with
      | nil =>
          simp only [List.intercalate_singleton, List.append_assoc, List.cons_append,
            List.length_append, List.length_cons] at enough ⊢
          rw [readEntries_last (readsKey _) rfl (reads fuel _ (by omega)) closes, set]
      | @cons nextText next _ _ _ _ =>
          simp only [List.intercalate_cons_cons, List.append_assoc, List.length_append,
            List.length_cons, List.cons_append, List.nil_append] at enough ⊢
          rw [readEntries_more (readsKey _) rfl (reads fuel _ (by omega)) rfl, set,
            ih (by simp) (by simpa using nodup) (by omega), List.append_assoc]
          rfl

/-! ## Values -/

theorem readElements_bracket (fuel : Nat) (rest : List Char) :
    readElements fuel (']' :: rest) = none := by
  rcases fuel with _ | _ | fuel <;> rfl

theorem readEntries_brace (fuel : Nat) (earlier : List (String × Value)) (rest : List Char) :
    readEntries fuel earlier ('}' :: rest) = none := by
  cases fuel <;> rfl

theorem readValue_list {fuel : Nat} {chars rest : List Char} {elements : List Value}
    (read : readElements fuel chars = some (elements, rest)) :
    readValue (fuel + 1) ('[' :: chars) = some (.list elements, rest) := by
  have bracket : skipBlanks ('[' :: chars) = '[' :: chars := rfl
  rw [← readElements_skipBlanks] at read
  rw [readValue, bracket]
  simp only
  split
  · rename_i closes
    rw [closes, readElements_bracket] at read
    cases read
  · rw [read]
    rfl

theorem readValue_table {fuel : Nat} {chars rest : List Char} {entries : List (String × Value)}
    (read : readEntries fuel [] chars = some (entries, rest)) :
    readValue (fuel + 1) ('{' :: chars) = some (.table entries, rest) := by
  have brace : skipBlanks ('{' :: chars) = '{' :: chars := rfl
  rw [← readEntries_skipBlanks] at read
  rw [readValue, brace]
  simp only
  split
  · rename_i closes
    rw [closes, readEntries_brace] at read
    cases read
  · rw [read]
    rfl

theorem readsAs_bool (value : Bool) : ReadsAs (scalarChars (.bool value)) (.bool value) := by
  intro fuel rest enough
  rcases fuel with _ | fuel
  · cases value <;> simp [scalarChars] at enough
  · cases value <;> rfl

theorem readsAs_string (value : String) : ReadsAs (stringChars value) (.string value) := by
  intro fuel rest enough
  rcases fuel with _ | fuel
  · simp [stringChars] at enough
  · change Option.map _ (readString (stringChars value ++ rest)) = _
    rw [readString_stringChars]
    rfl

theorem readsAs_list {elements : List Value} {texts : List (List Char)}
    (each : List.Forall₂ ReadsAs texts elements) (nonempty : elements ≠ []) {closing : List Char}
    (blank : skipBlanks closing = []) :
    ReadsAs ('[' :: [','].intercalate texts ++ closing ++ [']']) (.list elements) := by
  intro fuel rest enough
  simp only [List.length_append, List.length_cons] at enough
  rcases fuel with _ | fuel
  · omega
  · simp only [List.cons_append, List.append_assoc, List.nil_append]
    exact readValue_list (readElements_intercalate each nonempty blank (by omega))

theorem readsAs_table {entries : List (String × Value)} {texts : List (List Char)}
    (each : List.Forall₂ EntryReadsAs texts entries) (nonempty : entries ≠ [])
    (nodup : (entries.map Prod.fst).Nodup) {closing : List Char}
    (blank : skipBlanks closing = []) :
    ReadsAs ('{' :: [','].intercalate texts ++ closing ++ ['}']) (.table entries) := by
  intro fuel rest enough
  simp only [List.length_append, List.length_cons] at enough
  rcases fuel with _ | fuel
  · omega
  · simp only [List.cons_append, List.append_assoc, List.nil_append]
    apply readValue_table
    rw [readEntries_intercalate each nonempty (by simpa using nodup) blank (by omega),
      List.nil_append]

/-! ## The two texts of a value -/

theorem compactElements_eq (elements : List Value) :
    compactElements elements = [','].intercalate (elements.map compactChars) := by
  induction elements with
  | nil => rfl
  | cons value rest ih =>
      cases rest with
      | nil => simp [compactElements]
      | cons next more => simp [compactElements, ih]

theorem compactEntries_eq (entries : List (String × Value)) :
    compactEntries entries = [','].intercalate
      (entries.map fun entry => stringChars entry.1 ++ ':' :: compactChars entry.2) := by
  induction entries with
  | nil => rfl
  | cons entry rest ih =>
      cases rest with
      | nil => simp [compactEntries]
      | cons next more => simp [compactEntries, ih]

theorem readsAs_list_nil : ReadsAs ['[', ']'] (.list []) := by
  intro fuel rest enough
  rcases fuel with _ | fuel
  · simp at enough
  · rfl

theorem readsAs_table_nil : ReadsAs ['{', '}'] (.table []) := by
  intro fuel rest enough
  rcases fuel with _ | fuel
  · simp at enough
  · rfl

/-- A plain value is read from its compact text, whatever comes after it. -/
theorem readsAs_compactChars {value : Value} (plain : value.Plain) :
    ReadsAs (compactChars value) value := by
  induction plain with
  | bool value => exact readsAs_bool value
  | string value => exact readsAs_string value
  | @list elements each ih =>
      cases elements with
      | nil => exact readsAs_list_nil
      | cons first rest =>
          rw [compactChars, compactElements_eq, ← List.append_nil (List.cons _ _)]
          apply readsAs_list _ (by simp) rfl
          rw [List.forall₂_map_left_iff, List.forall₂_same]
          exact ih
  | @table entries nodup each ih =>
      cases entries with
      | nil => exact readsAs_table_nil
      | cons first rest =>
          rw [compactChars, compactEntries_eq, ← List.append_nil (List.cons _ _)]
          apply readsAs_table _ (by simp) nodup rfl
          rw [List.forall₂_map_left_iff, List.forall₂_same]
          intro entry entry_mem
          exact ⟨[], _, rfl, ih entry entry_mem, rfl⟩

theorem read?_ofList {chars : List Char} {value : Value} (reads : ReadsAs chars value) :
    read? (String.ofList chars) = some value := by
  have whole := reads (chars.length + 1) [] (by omega)
  rw [List.append_nil] at whole
  simp [read?, whole, skipBlanks]

/-- Reading the compact text of a plain value gives back the value. -/
theorem read?_compact {value : Value} (plain : value.Plain) :
    read? (compact value) = some value :=
  read?_ofList (readsAs_compactChars plain)

/-- Plain values with one compact text are equal. -/
theorem compact_inj {left right : Value} (leftPlain : left.Plain) (rightPlain : right.Plain)
    (same : compact left = compact right) : left = right := by
  have reads := read?_compact leftPlain
  rw [same, read?_compact rightPlain] at reads
  exact (Option.some.inj reads).symm

end Json

end LocaleSite
