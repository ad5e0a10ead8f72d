import ApiGateway.Json.Node
import ApiGateway.Json.Text
import Mathlib.Tactic.SplitIfs

/-
Texts inside JSON, written and read back.

Each character is written as itself or as an escape, and either is read as the one code unit that is
its code point. Code points of characters are never surrogates, so the units join to the characters
they came from, whatever the text: quotes, backslashes, control characters and all others.

* `Json.Node.scanUnits_escapeChar` - one character.
* `Json.Node.scanString_quoted` - a text, up to the quote that closes it.
* `Text.decode?_encode` - the bytes of a text are its text.
-/

namespace ApiGateway

theorem Text.decode?_encode (s : String) : Text.decode? (Text.encode s) = some s := by
  unfold Text.decode? Text.encode String.fromUTF8?
  rw [Array.toArray_toList]
  exact dif_pos s.isValidUTF8

namespace Json.Node

/-! ### One character -/

theorem hexValue?_hexDigit : ∀ n < 16, hexValue? (hexDigit n) = some n := by decide

/-- The four digits of a control character have its code point as their value. -/
theorem codeUnit?_hexDigits {n : Nat} (control : n < 32) :
    codeUnit? '0' '0' (hexDigit (n / 16)) (hexDigit (n % 16)) = some n := by
  have high := hexValue?_hexDigit (n / 16) (by omega)
  have low := hexValue?_hexDigit (n % 16) (by omega)
  have zero : hexValue? '0' = some 0 := by decide
  simp only [codeUnit?, zero, high, low, Option.bind_eq_bind, Option.bind_some, Option.pure_def]
  congr 1
  omega

/-- A unit in front of those of a text. -/
def consUnit (u : Nat) (scanned : List Nat × List Char) : List Nat × List Char :=
  (u :: scanned.1, scanned.2)

theorem scanUnits_shortEscape {e : Char} {u : Nat} (short : shortEscape? e = some u)
    (cs : List Char) : scanUnits ('\\' :: e :: cs) = (scanUnits cs).map (consUnit u) := by
  have plain : e ≠ 'u' := by
    rintro rfl
    cases short
  rw [scanUnits.eq_4 e cs fun _ _ _ _ _ same => absurd same plain, short]
  cases scanUnits cs <;> rfl

theorem scanUnits_hexEscape {a b c d : Char} {u : Nat} (value : codeUnit? a b c d = some u)
    (cs : List Char) :
    scanUnits ('\\' :: 'u' :: a :: b :: c :: d :: cs) = (scanUnits cs).map (consUnit u) := by
  rw [scanUnits, value]
  cases scanUnits cs <;> rfl

theorem scanUnits_plain {c : Char} (quote : c ≠ '"') (backslash : c ≠ '\\') (visible : 32 ≤ c.toNat)
    (cs : List Char) : scanUnits (c :: cs) = (scanUnits cs).map (consUnit c.toNat) := by
  rw [scanUnits.eq_5 c cs quote (fun _ _ _ _ _ same => absurd same backslash)
    fun _ _ same => absurd same backslash]
  rw [if_neg (by simp [backslash, visible])]
  cases scanUnits cs <;> rfl

/-- However a character is written, it is read as its code point. -/
theorem scanUnits_escapeChar (c : Char) (cs : List Char) :
    scanUnits (escapeChar c ++ cs) = (scanUnits cs).map (consUnit c.toNat) := by
  unfold escapeChar
  split_ifs with quote backslash backspace tab newline formFeed carriage control
  · exact scanUnits_shortEscape (by rw [quote]; rfl) cs
  · exact scanUnits_shortEscape (by rw [backslash]; rfl) cs
  · exact scanUnits_shortEscape (by rw [backspace]; rfl) cs
  · exact scanUnits_shortEscape (by rw [tab]; rfl) cs
  · exact scanUnits_shortEscape (by rw [newline]; rfl) cs
  · exact scanUnits_shortEscape (by rw [formFeed]; rfl) cs
  · exact scanUnits_shortEscape (by rw [carriage]; rfl) cs
  · exact scanUnits_hexEscape (codeUnit?_hexDigits control) cs
  · exact scanUnits_plain quote backslash (Nat.not_lt.mp control) cs

/-! ### Texts -/

/-- The units of a text are its code points, up to the quote that closes it. -/
theorem scanUnits_quoted (cs rest : List Char) :
    scanUnits (cs.flatMap escapeChar ++ '"' :: rest) = some (cs.map Char.toNat, rest) := by
  induction cs with
  | nil => exact scanUnits.eq_2 rest
  | cons c cs ih =>
    rw [List.flatMap_cons, List.append_assoc, scanUnits_escapeChar, ih]
    rfl

/-- No character is a surrogate. -/
theorem not_surrogate (c : Char) : ¬(0xD800 ≤ c.toNat ∧ c.toNat < 0xE000) := by
  have valid : c.toNat < 0xD800 ∨ 0xDFFF < c.toNat ∧ c.toNat < 0x110000 := c.valid
  omega

theorem joinUnits_map_toNat (cs : List Char) : joinUnits (cs.map Char.toNat) = some cs := by
  induction cs with
  | nil => rfl
  | cons c cs ih =>
    have scalar := not_surrogate c
    rw [List.map_cons, joinUnits.eq_def]
    dsimp only
    rw [if_neg, if_neg, ih, Option.map_some, Char.ofNat_toNat]
    · simp only [Bool.and_eq_true, decide_eq_true_eq]
      omega
    · simp only [Bool.and_eq_true, decide_eq_true_eq]
      omega

/-- A text in quotes is read as it was written, and reading stops behind its quote. -/
theorem scanString_quoted (s : String) (rest : List Char) :
    scanString (s.toList.flatMap escapeChar ++ '"' :: rest) = some (some s, rest) := by
  rw [scanString, scanUnits_quoted]
  simp only [Option.bind_eq_bind, Option.bind_some, Option.pure_def, joinUnits_map_toNat,
    Option.map_some, String.ofList_toList]

/-! ### Values and entries -/

theorem skipSpace_of_visible {c : Char} (visible : isSpace c = false) (cs : List Char) :
    skipSpace (c :: cs) = c :: cs :=
  List.dropWhile_cons_of_neg (Bool.eq_false_iff.mp visible)

theorem quoteChars_append (s : String) (rest : List Char) :
    quoteChars s ++ rest = '"' :: (s.toList.flatMap escapeChar ++ '"' :: rest) := by
  simp [quoteChars]

theorem scanValue_string (fuel : Nat) (s : String) (rest : List Char) :
    scanValue (fuel + 1) (quoteChars s ++ rest) = some (.string (some s), rest) := by
  rw [quoteChars_append, scanValue, skipSpace_of_visible (by decide)]
  dsimp only
  rw [if_pos (by decide), scanString_quoted, Option.map_some]

/-- An object that has an entry has what its entries are read as. -/
theorem scanValue_object (fuel : Nat) (k : String) (cs : List Char) :
    scanValue (fuel + 1) ('{' :: (quoteChars k ++ cs)) =
      (scanEntries fuel (quoteChars k ++ cs)).map fun (es, rest) => (.object es, rest) := by
  rw [quoteChars_append, scanValue, skipSpace_of_visible (by decide)]
  dsimp only
  rw [if_neg (by decide), if_neg (by decide), if_pos (by decide), skipSpace_of_visible (by decide)]
  generalize entries : '"' :: (k.toList.flatMap escapeChar ++ '"' :: cs) = opened
  split
  · exact absurd (List.cons.inj entries).1 (by decide)
  · cases scanEntries fuel opened <;> rfl

variable {fuel : Nat} {k : String} {v : Node} {cs rest : List Char}

/-- An entry before a comma is followed by others. -/
theorem scanEntries_comma (value : scanValue fuel cs = some (v, ',' :: rest)) :
    scanEntries (fuel + 1) (quoteChars k ++ ':' :: cs) =
      (scanEntries fuel rest).map fun (es, rest) => ((some k, v) :: es, rest) := by
  rw [quoteChars_append, scanEntries, skipSpace_of_visible (by decide)]
  simp only [scanString_quoted, Option.bind_eq_bind, Option.bind_some,
    skipSpace_of_visible (c := ':') (by decide), value, skipSpace_of_visible (c := ',') (by decide)]
  cases scanEntries fuel rest <;> rfl

/-- An entry before a brace is the last. -/
theorem scanEntries_brace (value : scanValue fuel cs = some (v, '}' :: rest)) :
    scanEntries (fuel + 1) (quoteChars k ++ ':' :: cs) = some ([(some k, v)], rest) := by
  rw [quoteChars_append, scanEntries, skipSpace_of_visible (by decide)]
  simp only [scanString_quoted, Option.bind_eq_bind, Option.bind_some,
    skipSpace_of_visible (c := ':') (by decide), value, skipSpace_of_visible (c := '}') (by decide),
    Option.pure_def]

end Json.Node

end ApiGateway
