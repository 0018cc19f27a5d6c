import RowAccess.Json.Printer
import RowAccess.Json.Reader

/-!
Contract: a list of texts is read back from its JSON text.

Every character has one written form, and the scan of that form yields the
character again. So a scan yields the texts of a list with commas between them,
and from these the list is assembled.

Owns:
- the scan of an escaped character, of a quoted text and of a list of texts.
- the round trip of lists of texts.
-/

namespace RowAccess.Json

/-! ## Quoted texts -/

theorem hexValue?_hexDigit {digit : Nat} (small : digit < 16) :
    hexValue? (Text.Digest.hexDigit digit) = some digit := by
  have each : ∀ digit : Fin 16, hexValue? (Text.Digest.hexDigit digit) = some digit.val := by
    decide
  exact each ⟨digit, small⟩

theorem scan_unicode {character : Char} (control : character.toNat < 0x20)
    (latestFirst rest : List Char) (tokens : List Token) :
    scan (.escaped latestFirst) tokens
        ('u' :: '0' :: '0' :: Text.Digest.hexDigit (character.toNat / 16) ::
          Text.Digest.hexDigit (character.toNat % 16) :: rest) =
      scan (.text (character :: latestFirst)) tokens rest := by
  have high : hexValue? (Text.Digest.hexDigit (character.toNat / 16)) =
      some (character.toNat / 16) := hexValue?_hexDigit (by omega)
  have low : hexValue? (Text.Digest.hexDigit (character.toNat % 16)) =
      some (character.toNat % 16) := hexValue?_hexDigit (by omega)
  have zero : hexValue? '0' = some 0 := by decide
  have value : character.toNat / 16 * 16 + character.toNat % 16 = character.toNat := by omega
  have noHigh : ¬ (0xD800 ≤ character.toNat ∧ character.toNat ≤ 0xDBFF) := by omega
  have noLow : ¬ (0xDC00 ≤ character.toNat ∧ character.toNat ≤ 0xDFFF) := by omega
  simp [scan, step, high, low, zero, value, stepUnicode, noHigh, noLow]

theorem scan_escape (character : Char) (latestFirst rest : List Char) (tokens : List Token) :
    scan (.text latestFirst) tokens ((escape character).toList ++ rest) =
      scan (.text (character :: latestFirst)) tokens rest := by
  unfold escape
  -- The characters that have an escape of their own.
  iterate 7
    split
    next isThis =>
      subst isThis
      rfl
  split
  next control =>
    rw [← scan_unicode control]
    simp [scan, step]
  next noQuote noBackslash _ _ _ _ _ plain =>
    simp [scan, step, noQuote, noBackslash, plain]

theorem toList_quote (text : String) :
    (quote text).toList =
      '"' :: (text.toList.flatMap (fun character => (escape character).toList) ++ ['"']) := by
  have written : ∀ (characters : List Char) (start : String),
      (characters.foldl (fun current character => current ++ escape character) start).toList =
        start.toList ++ characters.flatMap (fun character => (escape character).toList) := by
    intro characters
    induction characters with
    | nil => simp
    | cons head tail inductionHypothesis =>
        intro start
        rw [List.foldl_cons, inductionHypothesis]
        simp
  unfold quote
  rw [String.toList_append, String.foldl_eq_foldl_toList, written]
  rfl

theorem scan_quote (text : String) (rest : List Char) (tokens : List Token) :
    scan .between tokens ((quote text).toList ++ rest) =
      scan .between (.scalar (.string text) :: tokens) rest := by
  have escaped : ∀ (characters latestFirst : List Char),
      scan (.text latestFirst) tokens
          (characters.flatMap (fun character => (escape character).toList) ++ '"' :: rest) =
        scan (.text (characters.reverse ++ latestFirst)) tokens ('"' :: rest) := by
    intro characters
    induction characters with
    | nil => intro latestFirst; rfl
    | cons head tail inductionHypothesis =>
        intro latestFirst
        rw [List.flatMap_cons, List.append_assoc, scan_escape, inductionHypothesis]
        simp
  have opened : scan .between tokens ((quote text).toList ++ rest) =
      scan (.text []) tokens
        (text.toList.flatMap (fun character => (escape character).toList) ++ '"' :: rest) := by
    rw [toList_quote]
    simp [scan, step, stepBetween, isSpace]
  rw [opened, escaped]
  simp [scan, step]

/-! ## Lists of texts -/

/-- The tokens of the texts of a list, commas between them. -/
def textTokens (texts : List String) : List Token :=
  (texts.map (fun text => Token.scalar (.string text))).intersperse .comma

theorem scan_printItems (texts : List String) (rest : List Char) (tokens : List Token) :
    scan .between tokens ((printItems (texts.map .string)).toList ++ rest) =
      scan .between ((textTokens texts).reverse ++ tokens) rest := by
  induction texts generalizing tokens with
  | nil => rfl
  | cons head tail inductionHypothesis =>
      cases tail with
      | nil => exact scan_quote head rest tokens
      | cons next others =>
          have comma : ∀ after, scan .between (.scalar (.string head) :: tokens) (',' :: after) =
              scan .between (.comma :: .scalar (.string head) :: tokens) after := by
            intro after
            simp [scan, step, stepBetween, isSpace, punctuation?]
          have printed : (printItems ((head :: next :: others).map .string)).toList =
              (quote head).toList ++ ',' :: (printItems ((next :: others).map .string)).toList := by
            simp [printItems, print]
          rw [printed, List.append_assoc, scan_quote, List.cons_append, comma,
            inductionHypothesis]
          simp [textTokens]

theorem assemble_cons {assembly next : Assembly} {token : Token} (rest : List Token)
    (taken : assembly.step token = some next) :
    assemble assembly (token :: rest) = assemble next rest := by
  simp only [assemble, taken]

/-- An array that a value may follow in takes the texts of a list up to its end. -/
theorem assemble_textTokens (head : String) (tail : List String) (items : List Json)
    {expected : Expected} (isOpen : expected = .value ∨ expected = .valueOrClose) :
    assemble ⟨[.array items], expected, none⟩ (textTokens (head :: tail) ++ [.closeArray]) =
      some (.array (items.reverse ++ (head :: tail).map .string)) := by
  have placed : Assembly.step ⟨[.array items], expected, none⟩ (.scalar (.string head)) =
      some ⟨[.array (.string head :: items)], .commaOrClose, none⟩ := by
    rcases isOpen with isValue | isValueOrClose
    · subst isValue
      rfl
    · subst isValueOrClose
      rfl
  induction tail generalizing head items expected with
  | nil =>
      show assemble _ (.scalar (.string head) :: [.closeArray]) = _
      rw [assemble_cons _ placed, assemble_cons _ rfl]
      simp [assemble]
  | cons next others inductionHypothesis =>
      show assemble _ (.scalar (.string head) :: .comma :: (textTokens (next :: others) ++ _)) = _
      rw [assemble_cons _ placed, assemble_cons _ rfl,
        inductionHypothesis next (.string head :: items) (Or.inl rfl) rfl]
      simp

/-- A list of texts is read back. -/
theorem parse?_print_strings (texts : List String) :
    parse? (strings texts).print = some (strings texts) := by
  have scanned : scan .between [] (strings texts).print.toList =
      some (.closeArray :: ((textTokens texts).reverse ++ [.openArray])) := by
    have printed : (strings texts).print.toList =
        '[' :: ((printItems (texts.map .string)).toList ++ [']']) := by
      simp [strings, print]
    rw [printed]
    show scan .between [.openArray] _ = _
    rw [scan_printItems]
    rfl
  unfold parse?
  rw [scanned]
  show assemble _ (.closeArray :: ((textTokens texts).reverse ++ [.openArray])).reverse = _
  simp only [List.reverse_cons, List.reverse_append, List.reverse_reverse, List.reverse_nil,
    List.nil_append, List.cons_append]
  rw [assemble_cons _ rfl]
  cases texts with
  | nil => rfl
  | cons head tail => exact assemble_textTokens head tail [] (Or.inr rfl)

theorem mapM_string?_map_string (texts : List String) :
    (texts.map Json.string).mapM Json.string? = some texts := by
  induction texts with
  | nil => rfl
  | cons head tail inductionHypothesis =>
      rw [List.map_cons, List.mapM_cons, inductionHypothesis]
      rfl

end RowAccess.Json
