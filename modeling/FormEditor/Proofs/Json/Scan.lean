import FormEditor.Json.Printer
import FormEditor.Json.Token

/-! The tokens of a printed value. A layout adds nothing but blanks, which end no token and start none, so
the tokens depend on the value alone. Numerals are the one kind of token without an end of its own: what
follows a value must not go on with it. Doubles are left out here: what they are read back as is a matter
of their digits and not of tokens. -/

namespace FormEditor

open Decimal (Digit)

/-- Only the number zero has a zero as its first digit. -/
theorem Decimal.digits_eq_cons (number : Nat) :
    ∃ first more, digits number = first :: more ∧ (first = .zero → more = []) := by
  induction number using digits.induct with
  | case1 number hsmall => exact ⟨Fin.ofNat 10 number, [], by rw [digits, if_pos hsmall], fun _ => rfl⟩
  | case2 number hlarge ih =>
      obtain ⟨first, more, hdigits, hzero⟩ := ih
      refine ⟨first, more ++ [Fin.ofNat 10 number], by rw [digits, if_neg hlarge, hdigits]; rfl, ?_⟩
      intro hfirst
      have hvalue := value_digits (number / 10)
      rw [hdigits, hfirst, hzero hfirst] at hvalue
      have hquotient : number / 10 = 0 := hvalue.symm
      omega

namespace Json

mutual

/-- Whether all numbers of a value are integers. -/
def isIntegral : Json → Bool
  | .number (.double _) => false
  | .array items => areIntegral items
  | .object members => membersAreIntegral members
  | _ => true

def areIntegral : List Json → Bool
  | [] => true
  | item :: items => isIntegral item && areIntegral items

def membersAreIntegral : List (String × Json) → Bool
  | [] => true
  | (_, value) :: members => isIntegral value && membersAreIntegral members

end

@[simp] theorem areIntegral_map {α : Type} (write : α → Json) (values : List α) :
    areIntegral (values.map write) = values.all fun value => (write value).isIntegral := by
  induction values with
  | nil => rfl
  | cons value values ih => rw [List.map_cons, areIntegral, ih, List.all_cons]

@[simp] theorem membersAreIntegral_map {α : Type} (write : α → String × Json) (values : List α) :
    membersAreIntegral (values.map write) = values.all fun value => (write value).2.isIntegral := by
  induction values with
  | nil => rfl
  | cons value values ih => rw [List.map_cons, membersAreIntegral, ih, List.all_cons]

@[simp] theorem membersAreIntegral_append (first second : List (String × Json)) :
    membersAreIntegral (first ++ second) = (membersAreIntegral first && membersAreIntegral second) := by
  induction first with
  | nil => rfl
  | cons member first ih => rw [List.cons_append, membersAreIntegral, membersAreIntegral, ih, Bool.and_assoc]

@[simp] theorem membersAreIntegral_optional {α : Type} (name : String) (write : α → Json)
    (value : Option α) :
    membersAreIntegral (optional name write value) = value.all fun value => (write value).isIntegral := by
  cases value with
  | none => rfl
  | some value => exact Bool.and_true _

mutual

/-- The tokens of a value, whatever the layout. -/
def tokens : Json → List Token
  | .null => [.null]
  | .bool value => [.bool value]
  | .number value => [.number (Numeral.ofNumber value)]
  | .string text => [.string (some text)]
  | .array [] => [.openBracket, .closeBracket]
  | .array (item :: items) => .openBracket :: (tokens item ++ itemTokens items)
  | .object [] => [.openBrace, .closeBrace]
  | .object ((name, value) :: members) =>
    .openBrace :: .string (some name) :: .colon :: (tokens value ++ memberTokens members)

/-- The tokens of the items after the first one, with the end of the array. -/
def itemTokens : List Json → List Token
  | [] => [.closeBracket]
  | item :: items => .comma :: (tokens item ++ itemTokens items)

/-- The tokens of the members after the first one, with the end of the object. -/
def memberTokens : List (String × Json) → List Token
  | [] => [.closeBrace]
  | (name, value) :: members =>
    .comma :: .string (some name) :: .colon :: (tokens value ++ memberTokens members)

end

/-- A layout puts only blanks between tokens. -/
structure Layout.IsBlank (layout : Layout) : Prop where
  afterColon : ∀ char ∈ layout.afterColon, isBlank char
  line : ∀ depth, ∀ char ∈ layout.line depth, isBlank char

theorem Layout.isBlank_indented : Layout.indented.IsBlank := by
  refine ⟨?_, ?_⟩
  · intro char hchar
    cases List.mem_singleton.mp hchar
    rfl
  · intro depth char hchar
    rcases List.mem_cons.mp hchar with hbreak | hblank
    · rw [hbreak]
      rfl
    · rw [List.eq_of_mem_replicate hblank]
      rfl

theorem Layout.isBlank_compact : Layout.compact.IsBlank where
  afterColon := List.forall_mem_nil _
  line _ := List.forall_mem_nil _

namespace Token

open Scanner

theorem scanFrom_cons {scanner next : Scanner} {char : Char} {tokens : List Token}
    (hstep : scanner.step char = (tokens, next)) (chars : List Char) :
    scanFrom scanner (char :: chars) = tokens ++ scanFrom next chars := by
  rw [scanFrom, hstep]

/-! ### Blanks and words -/

theorem scan_blank {blanks : List Char} (hblanks : ∀ char ∈ blanks, isBlank char) (rest : List Char) :
    scanFrom .between (blanks ++ rest) = scanFrom .between rest := by
  induction blanks with
  | nil => rfl
  | cons char blanks ih =>
      obtain ⟨hchar, hchars⟩ := List.forall_mem_cons.mp hblanks
      have hstart : Scanner.between.step char = ([], .between) := if_pos hchar
      rw [List.cons_append, scanFrom_cons hstart]
      exact ih hchars

theorem scan_null (rest : List Char) :
    scanFrom .between ('n' :: 'u' :: 'l' :: 'l' :: rest) = .null :: scanFrom .between rest := rfl

theorem scan_true (rest : List Char) :
    scanFrom .between ('t' :: 'r' :: 'u' :: 'e' :: rest) = .bool true :: scanFrom .between rest := rfl

theorem scan_false (rest : List Char) :
    scanFrom .between ('f' :: 'a' :: 'l' :: 's' :: 'e' :: rest) = .bool false :: scanFrom .between rest := rfl

/-! ### Strings -/

theorem hexValue?_hexDigit {value : Nat} (hvalue : value < 16) : hexValue? (hexDigit value) = some value := by
  have hall : ∀ digit : Fin 16, hexValue? (hexDigit digit.val) = some digit.val := by decide
  exact hall ⟨value, hvalue⟩

theorem Piece.join?_unit {code : Nat} (hcode : code < 0xD800) (pieces : List Piece) :
    Piece.join? (.unit code :: pieces) = (Piece.join? pieces).map (Char.ofNat code :: ·) := by
  have hhigh : Piece.isHighSurrogate code = false := by simp [Piece.isHighSurrogate]; omega
  have hlow : Piece.isLowSurrogate code = false := by simp [Piece.isLowSurrogate]; omega
  rw [Piece.join?.eq_def]
  simp only [hhigh, hlow]
  rfl

theorem scan_codeUnit (before : List Piece) {code : Nat} (hcode : code < 0x20) (rest : List Char) :
    scanFrom (.text before)
        (['\\', 'u', '0', '0', hexDigit (code / 16), hexDigit (code % 16)] ++ rest) =
      scanFrom (.text (.unit code :: before)) rest := by
  have hfirst := hexValue?_hexDigit (show code / 16 < 16 by omega)
  have hsecond := hexValue?_hexDigit (Nat.mod_lt code (show 0 < 16 by decide))
  have hwhole : ((0 * 16 + 0) * 16 + code / 16) * 16 + code % 16 = code := by omega
  have hthird : (Scanner.codeUnit before (0 * 16 + 0) 2).step (hexDigit (code / 16)) =
      ([], .codeUnit before ((0 * 16 + 0) * 16 + code / 16) 1) := by
    simp [step, hfirst]
  have hfourth : (Scanner.codeUnit before ((0 * 16 + 0) * 16 + code / 16) 1).step (hexDigit (code % 16)) =
      ([], .text (.unit code :: before)) := by
    simp only [step, hsecond, hwhole]
    rfl
  calc
    scanFrom (.text before) (['\\', 'u', '0', '0', hexDigit (code / 16), hexDigit (code % 16)] ++ rest)
        = scanFrom (.codeUnit before (0 * 16 + 0) 2) (hexDigit (code / 16) :: hexDigit (code % 16) :: rest) := rfl
    _ = scanFrom (.text (.unit code :: before)) rest := by
      rw [scanFrom_cons hthird, scanFrom_cons hfourth]
      rfl

/-- A character of a string makes one piece, which joins to that character. -/
theorem scan_escape (char : Char) (before : List Piece) :
    ∃ piece, (∀ rest, scanFrom (.text before) (escape char ++ rest) = scanFrom (.text (piece :: before)) rest) ∧
      ∀ pieces, Piece.join? (piece :: pieces) = (Piece.join? pieces).map (char :: ·) := by
  unfold escape
  split
  · exact ⟨.plain '"', fun _ => rfl, fun _ => rfl⟩
  · exact ⟨.plain '\\', fun _ => rfl, fun _ => rfl⟩
  · exact ⟨.plain '\x08', fun _ => rfl, fun _ => rfl⟩
  · exact ⟨.plain '\t', fun _ => rfl, fun _ => rfl⟩
  · exact ⟨.plain '\n', fun _ => rfl, fun _ => rfl⟩
  · exact ⟨.plain '\x0c', fun _ => rfl, fun _ => rfl⟩
  · exact ⟨.plain '\r', fun _ => rfl, fun _ => rfl⟩
  · rename_i hquote hbackslash _ _ _ _ _
    split
    · rename_i hcontrol
      have hsmall : char.toNat < 32 := hcontrol
      refine ⟨.unit char.toNat, scan_codeUnit before hsmall, fun pieces => ?_⟩
      rw [Piece.join?_unit (show char.toNat < 0xD800 by omega), Char.ofNat_toNat]
    · rename_i hprintable
      have hstep : (Scanner.text before).step char = ([], .text (.plain char :: before)) := by
        rw [step, if_neg (by simpa using hquote), if_neg (by simpa using hbackslash), if_neg hprintable]
      exact ⟨.plain char, scanFrom_cons hstep, fun _ => rfl⟩

/-- The characters of a string are read up to its quote. -/
theorem scan_text (chars rest : List Char) :
    ∀ before, ∃ pieces, Piece.join? pieces = some chars ∧
      scanFrom (.text before) (chars.flatMap escape ++ rest) =
        scanFrom (.text (pieces.reverse ++ before)) rest := by
  induction chars with
  | nil => exact fun before => ⟨[], rfl, rfl⟩
  | cons char chars ih =>
      intro before
      obtain ⟨piece, hscan, hjoin⟩ := scan_escape char before
      obtain ⟨pieces, hchars, hrest⟩ := ih (piece :: before)
      refine ⟨piece :: pieces, by rw [hjoin, hchars, Option.map_some], ?_⟩
      rw [List.flatMap_cons, List.append_assoc, hscan, hrest, List.reverse_cons, List.append_assoc,
        List.singleton_append]

theorem scan_quote (text : String) (rest : List Char) :
    scanFrom .between (quote text ++ rest) = .string (some text) :: scanFrom .between rest := by
  obtain ⟨pieces, hjoin, hscan⟩ := scan_text text.toList ('"' :: rest) []
  have hstart : Scanner.between.step '"' = ([], .text []) := rfl
  have hend : (Scanner.text (pieces.reverse ++ [])).step '"' = ([.string (some text)], .between) := by
    simp [step, hjoin]
  calc
    scanFrom .between (quote text ++ rest) = scanFrom (.text []) (text.toList.flatMap escape ++ '"' :: rest) := by
      rw [quote, List.cons_append, List.append_assoc, scanFrom_cons hstart]
      rfl
    _ = .string (some text) :: scanFrom .between rest := by
      rw [hscan, scanFrom_cons hend]
      rfl

/-! ### Numerals -/

/-- Whether a character after the digits of an integer belongs to its numeral. -/
def Scanner.continuesNumeral (char : Char) : Bool :=
  (Digit.ofChar? char).isSome || char == '.' || isExponentMark char

/-- What may follow a value: nothing, or a character that does not belong to a numeral before it. -/
def EndsNumeral (rest : List Char) : Prop :=
  ∀ char, rest.head? = some char → continuesNumeral char = false

theorem endsNumeral_nil : EndsNumeral [] :=
  nofun

theorem endsNumeral_cons {char : Char} (hchar : continuesNumeral char = false) (chars : List Char) :
    EndsNumeral (char :: chars) := by
  rintro _ ⟨rfl⟩
  exact hchar

theorem continuesNumeral_of_isBlank {char : Char} (hblank : isBlank char) : continuesNumeral char = false := by
  simp only [isBlank, Bool.or_eq_true, beq_iff_eq] at hblank
  rcases hblank with ((rfl | rfl) | rfl) | rfl <;> decide

theorem start_digit (digit : Digit) : Scanner.between.step digit.char = ([], .integer false [digit]) := by
  revert digit
  decide

theorem scan_digits (negative : Bool) (digits : List Digit) :
    ∀ {before : List Digit}, before ≠ [] → before ≠ [.zero] → ∀ rest : List Char,
      scanFrom (.integer negative before) (digits.map Digit.char ++ rest) =
        scanFrom (.integer negative (digits.reverse ++ before)) rest := by
  induction digits with
  | nil => exact fun _ _ _ => rfl
  | cons digit digits ih =>
      intro before hsome hnonzero rest
      have hstep : (Scanner.integer negative before).step digit.char =
          ([], .integer negative (digit :: before)) := by
        simp only [step, Digit.ofChar?_char, if_neg hnonzero]
      have hlonger : digit :: before ≠ [.zero] := fun hsingle => hsome (List.cons.inj hsingle).2
      rw [List.map_cons, List.cons_append, scanFrom_cons hstep, List.nil_append,
        ih (List.cons_ne_nil _ _) hlonger, List.reverse_cons, List.append_assoc]
      rfl

theorem scan_endOfInteger (negative : Bool) (digits : List Digit) {rest : List Char}
    (hrest : EndsNumeral rest) :
    scanFrom (.integer negative digits) rest =
      .number ⟨negative, digits.reverse, none, none⟩ :: scanFrom .between rest := by
  cases rest with
  | nil => rfl
  | cons char chars =>
      have hchar := hrest char rfl
      simp only [continuesNumeral, Bool.or_eq_false_iff, Option.isSome_eq_false_iff,
        Option.isNone_iff_eq_none] at hchar
      obtain ⟨⟨hdigit, hpoint⟩, hmark⟩ := hchar
      have hstep : (Scanner.integer negative digits).step char =
          (.number ⟨negative, digits.reverse, none, none⟩ :: (start char).1, (start char).2) := by
        simp [step, hdigit, hpoint, hmark, afterNumeral, numeral?]
      rw [scanFrom_cons hstep]
      rfl

theorem scan_number {value : Number} (hintegral : (Json.number value).isIntegral) {rest : List Char}
    (hrest : EndsNumeral rest) :
    scanFrom .between ((Numeral.ofNumber value).spell ++ rest) =
      .number (Numeral.ofNumber value) :: scanFrom .between rest := by
  cases value with
  | double value => cases hintegral
  | integer value hfits =>
      obtain ⟨first, more, hdigits, hzero⟩ := Decimal.digits_eq_cons value.natAbs
      have hwhole : ∀ negative, scanFrom (.integer negative [first]) (more.map Digit.char ++ rest) =
          .number ⟨negative, first :: more, none, none⟩ :: scanFrom .between rest := by
        intro negative
        by_cases hfirst : first = .zero
        · rw [hzero hfirst]
          exact scan_endOfInteger negative [first] hrest
        · have hsingle : [first] ≠ [.zero] := fun hsame => hfirst (List.cons.inj hsame).1
          rw [scan_digits negative more (List.cons_ne_nil _ _) hsingle, scan_endOfInteger negative _ hrest,
            List.reverse_append, List.reverse_reverse]
          rfl
      have hnumeral : Numeral.ofInt value = ⟨decide (value < 0), first :: more, none, none⟩ := by
        rw [Numeral.ofInt, hdigits]
      rw [Numeral.ofNumber, hnumeral]
      by_cases hnegative : value < 0
      · have hsign : Scanner.between.step '-' = ([], .sign) := rfl
        have hstep : Scanner.sign.step first.char = ([], .integer true [first]) := by
          simp only [step, Digit.ofChar?_char]
        simp only [decide_eq_true hnegative, Numeral.spell, if_true, List.map_cons, List.cons_append,
          List.nil_append, Option.elim_none, List.append_nil]
        rw [scanFrom_cons hsign, scanFrom_cons hstep]
        exact hwhole true
      · simp only [decide_eq_false hnegative, Numeral.spell, List.map_cons, Option.elim_none,
          List.append_nil]
        exact (scanFrom_cons (start_digit first) _).trans (hwhole false)

/-! ### Values -/

variable {layout : Layout}

theorem endsNumeral_line (hlayout : layout.IsBlank) (depth : Nat) {chars : List Char}
    (hchars : EndsNumeral chars) : EndsNumeral (layout.line depth ++ chars) := by
  cases hline : layout.line depth with
  | nil => exact hchars
  | cons blank blanks =>
      have hblank := hlayout.line depth blank (by rw [hline]; exact List.mem_cons_self)
      exact endsNumeral_cons (continuesNumeral_of_isBlank hblank) _

theorem endsNumeral_printItems (hlayout : layout.IsBlank) (depth : Nat) (items : List Json)
    (rest : List Char) : EndsNumeral (printItems layout depth items ++ rest) := by
  cases items with
  | nil =>
      rw [printItems, List.append_assoc]
      exact endsNumeral_line hlayout depth (endsNumeral_cons (by decide) _)
  | cons item items =>
      rw [printItems, List.cons_append]
      exact endsNumeral_cons (by decide) _

theorem endsNumeral_printMembers (hlayout : layout.IsBlank) (depth : Nat) (members : List (String × Json))
    (rest : List Char) : EndsNumeral (printMembers layout depth members ++ rest) := by
  cases members with
  | nil =>
      rw [printMembers, List.append_assoc]
      exact endsNumeral_line hlayout depth (endsNumeral_cons (by decide) _)
  | cons member members =>
      rw [printMembers, List.cons_append]
      exact endsNumeral_cons (by decide) _

theorem scan_openBracket (rest : List Char) :
    scanFrom .between ('[' :: rest) = .openBracket :: scanFrom .between rest := rfl

theorem scan_openBrace (rest : List Char) :
    scanFrom .between ('\x7b' :: rest) = .openBrace :: scanFrom .between rest := rfl

theorem scan_comma (rest : List Char) :
    scanFrom .between (',' :: rest) = .comma :: scanFrom .between rest := rfl

theorem scan_name (hlayout : layout.IsBlank) (name : String) (rest : List Char) :
    scanFrom .between (quote name ++ ':' :: (layout.afterColon ++ rest)) =
      .string (some name) :: .colon :: scanFrom .between rest := by
  have hcolon : Scanner.between.step ':' = ([.colon], .between) := rfl
  rw [scan_quote, scanFrom_cons hcolon, scan_blank hlayout.afterColon]
  rfl

mutual

/-- **A printed value is cut into its tokens.** -/
theorem scan_print (hlayout : layout.IsBlank) (depth : Nat) (value : Json) (hintegral : value.isIntegral)
    {rest : List Char} (hrest : EndsNumeral rest) :
    scanFrom .between (value.print layout depth ++ rest) = value.tokens ++ scanFrom .between rest := by
  match value with
  | .null => exact scan_null rest
  | .bool true => exact scan_true rest
  | .bool false => exact scan_false rest
  | .number value => exact scan_number hintegral hrest
  | .string quoted => exact scan_quote quoted rest
  | .array [] => rfl
  | .array (item :: items) =>
      obtain ⟨hitem, hitems⟩ := Bool.and_eq_true_iff.mp hintegral
      have hafter := endsNumeral_printItems hlayout depth items rest
      simp only [print, tokens, List.cons_append, List.append_assoc]
      rw [scan_openBracket, scan_blank (hlayout.line _), scan_print hlayout (depth + 1) item hitem hafter,
        scan_printItems hlayout depth items hitems rest]
  | .object [] => rfl
  | .object ((name, value) :: members) =>
      obtain ⟨hvalue, hmembers⟩ := Bool.and_eq_true_iff.mp hintegral
      have hafter := endsNumeral_printMembers hlayout depth members rest
      simp only [print, tokens, List.cons_append, List.append_assoc]
      rw [scan_openBrace, scan_blank (hlayout.line _), scan_name hlayout,
        scan_print hlayout (depth + 1) value hvalue hafter,
        scan_printMembers hlayout depth members hmembers rest]

theorem scan_printItems (hlayout : layout.IsBlank) (depth : Nat) (items : List Json)
    (hintegral : areIntegral items) (rest : List Char) :
    scanFrom .between (printItems layout depth items ++ rest) =
      itemTokens items ++ scanFrom .between rest := by
  match items with
  | [] =>
      rw [printItems, List.append_assoc, scan_blank (hlayout.line depth)]
      rfl
  | item :: items =>
      obtain ⟨hitem, hitems⟩ := Bool.and_eq_true_iff.mp hintegral
      have hafter := endsNumeral_printItems hlayout depth items rest
      simp only [printItems, itemTokens, List.cons_append, List.append_assoc]
      rw [scan_comma, scan_blank (hlayout.line _), scan_print hlayout (depth + 1) item hitem hafter,
        scan_printItems hlayout depth items hitems rest]

theorem scan_printMembers (hlayout : layout.IsBlank) (depth : Nat) (members : List (String × Json))
    (hintegral : membersAreIntegral members) (rest : List Char) :
    scanFrom .between (printMembers layout depth members ++ rest) =
      memberTokens members ++ scanFrom .between rest := by
  match members with
  | [] =>
      rw [printMembers, List.append_assoc, scan_blank (hlayout.line depth)]
      rfl
  | (name, value) :: members =>
      obtain ⟨hvalue, hmembers⟩ := Bool.and_eq_true_iff.mp hintegral
      have hafter := endsNumeral_printMembers hlayout depth members rest
      simp only [printMembers, memberTokens, List.cons_append, List.append_assoc]
      rw [scan_comma, scan_blank (hlayout.line _), scan_name hlayout,
        scan_print hlayout (depth + 1) value hvalue hafter,
        scan_printMembers hlayout depth members hmembers rest]

end

end Token

end Json

end FormEditor
