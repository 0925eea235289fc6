import ClusterPool.Proofs.Document.Spelling

/-! What readers make of the spellings of texts and numbers. A reader takes exactly one value from the
front of what it is given, whatever follows, as long as that cannot be a part of the value: gaps, a
comma, a closing bracket, or nothing at all. -/
namespace ClusterPool.Document

/-! How readers are composed, and how they pass over gaps. -/

/-- The reader that follows another starts where that one ends. -/
theorem Reader.bind_eq {reader : Reader α} {next : α → Reader β} {text rest : List Char} {value : α}
    (reads : reader text = .ok (value, rest)) : (reader >>= next) text = next value rest := by
  change (reader text >>= fun read => next read.1 read.2) = _
  rw [reads]
  rfl

theorem Reader.map_eq {reader : Reader α} {change : α → β} {text rest : List Char} {value : α}
    (reads : reader text = .ok (value, rest)) :
    (change <$> reader) text = .ok (change value, rest) := by
  change ((fun read : α × List Char => (change read.1, read.2)) <$> reader text) = _
  rw [reads]
  rfl

theorem isGap_iff {c : Char} : isGap c = true ↔ c ∈ [' ', '\n', '\t', '\r'] := by
  simp [isGap, or_assoc]

namespace Gaps

theorem nil : Gaps [] := List.forall_mem_nil _

theorem append {first second : List Char} (early : Gaps first) (late : Gaps second) :
    Gaps (first ++ second) := fun c member => (List.mem_append.mp member).elim (early c) (late c)

theorem dropped {gaps : List Char} (gap : Gaps gaps) (text : List Char) :
    dropGaps (gaps ++ text) = dropGaps text := by
  induction gaps with
  | nil => rfl
  | cons c rest ih =>
    obtain ⟨now, later⟩ := List.forall_mem_cons.mp gap
    rw [dropGaps, List.cons_append, List.dropWhile_cons_of_pos (isGap_iff.mpr now)]
    exact ih later

end Gaps

theorem dropGaps_cons {c : Char} (solid : isGap c = false) (rest : List Char) :
    dropGaps (c :: rest) = c :: rest := List.dropWhile_cons_of_neg (by simp [solid])

/-- What follows a value: nothing, a gap, a comma or a closing bracket. -/
def Ends (rest : List Char) : Prop :=
  ∀ c, rest.head? = some c → isGap c = true ∨ c ∈ [',', ']', '\x7d']

namespace Ends

theorem nil : Ends [] := nofun

theorem cons {c : Char} (rest : List Char) (ends : c ∈ [',', ']', '\x7d']) : Ends (c :: rest) := by
  rintro _ ⟨⟩
  exact .inr ends

theorem gaps {gaps rest : List Char} (gap : Gaps gaps) (ends : Ends rest) : Ends (gaps ++ rest) := by
  cases gaps with
  | nil => exact ends
  | cons c others =>
    rintro _ ⟨⟩
    exact .inl (isGap_iff.mpr (gap c List.mem_cons_self))

end Ends

/-! Texts, character by character. -/

private theorem hexDigit?_eq {value : Nat} {c : Char} (digit : HexDigit value c) :
    hexDigit? c = some value := by
  have all : ∀ value < 16, hexDigit? (Nat.digitChar value) = some value ∧
      hexDigit? (Nat.digitChar value).toUpper = some value := by decide
  obtain ⟨small, rfl | rfl⟩ := digit
  · exact (all value small).1
  · exact (all value small).2

section
variable {rule : TextRule} {state next : EscapeState} {codes read : List Nat} {rest : List Char}

theorem scanText_goOn {c : Char} (goes : scanChar rule state c rest = .ok (.goOn next read)) :
    scanText rule state codes (c :: rest) = scanText rule next (read.reverseAux codes) rest := by
  rw [scanText, goes]

private theorem scanText_digit {high : Option Nat} {value left digit : Nat} {c : Char}
    (hex : HexDigit digit c) (more : 1 < left) :
    scanText rule (.hex high value left) codes (c :: rest) =
      scanText rule (.hex high (16 * value + digit) (left - 1)) codes rest := by
  have goes : scanChar rule (.hex high value left) c rest =
      .ok (.goOn (.hex high (16 * value + digit) (left - 1)) []) := by
    simp [scanChar, hexDigit?_eq hex, Nat.not_le.mpr more]
  exact scanText_goOn goes

/-- Behind four digits a scanner is where their number brings it. -/
theorem scanText_unit {high : Option Nat} {unit : Nat} {digits : List Char}
    (hex : HexUnit unit digits) (brings : scanUnit rule high unit = .ok (.goOn next read)) :
    scanText rule (.hex high 0 4) codes (digits ++ rest) =
      scanText rule next (read.reverseAux codes) rest := by
  obtain ⟨first, second, third, fourth, rfl, one, two, three, four⟩ := hex
  have whole : 16 * (16 * (16 * (16 * 0 + unit / 4096) + unit / 256 % 16) + unit / 16 % 16) +
      unit % 16 = unit := by
    have small := one.1
    omega
  simp only [List.cons_append, List.nil_append]
  rw [scanText_digit one (by decide), scanText_digit two (by decide),
    scanText_digit three (by decide)]
  refine scanText_goOn ?_
  simp only [scanChar, hexDigit?_eq four, whole]
  exact brings

theorem scanSlash_eq {letter c : Char} (stands : (letter, c) ∈ shortEscapes) :
    scanSlash letter = .ok (.goOn .plain [c.toNat]) := by
  simp only [shortEscapes, List.mem_cons, Prod.mk.injEq, List.not_mem_nil, or_false] at stands
  rcases stands with ⟨rfl, rfl⟩ | ⟨rfl, rfl⟩ | ⟨rfl, rfl⟩ | ⟨rfl, rfl⟩ | ⟨rfl, rfl⟩ | ⟨rfl, rfl⟩ |
    ⟨rfl, rfl⟩ | ⟨rfl, rfl⟩ <;> rfl

theorem scanPlain_eq {c : Char} (printable : 0x20 ≤ c.toNat) (quote : c ≠ '"') (slash : c ≠ '\\') :
    scanPlain rule c = .ok (.goOn .plain [c.toNat]) := by
  simp [scanPlain, quote, slash, Nat.not_lt.mpr printable]

private theorem isLowSurrogate_eq_false {unit : Nat} (outside : unit < 0xDC00 ∨ 0xDFFF < unit) :
    isLowSurrogate unit = false := by
  simp only [isLowSurrogate, Bool.and_eq_false_iff, decide_eq_false_iff_not]
  omega

private theorem isHighSurrogate_eq_false {unit : Nat} (outside : unit < 0xD800 ∨ 0xDBFF < unit) :
    isHighSurrogate unit = false := by
  simp only [isHighSurrogate, Bool.and_eq_false_iff, decide_eq_false_iff_not]
  omega

/-- No character is a surrogate. -/
private theorem scanUnit_char (c : Char) :
    scanUnit rule none c.toNat = .ok (.goOn .plain [c.toNat]) := by
  have valid : c.toNat < 0xD800 ∨ 0xDFFF < c.toNat ∧ c.toNat < 0x110000 := c.valid
  have low : isLowSurrogate c.toNat = false := isLowSurrogate_eq_false (by omega)
  have high : isHighSurrogate c.toNat = false := isHighSurrogate_eq_false (by omega)
  simp [scanUnit, low, high]

private theorem scanUnit_high {unit : Nat} (least : 0xD800 ≤ unit) (most : unit ≤ 0xDBFF) :
    scanUnit rule none unit = .ok (.goOn (.high unit) []) := by
  have low : isLowSurrogate unit = false := isLowSurrogate_eq_false (by omega)
  simp [scanUnit, low, isHighSurrogate, least, most]

private theorem scanUnit_low {high unit : Nat} (least : 0xDC00 ≤ unit) (most : unit ≤ 0xDFFF) :
    scanUnit rule (some high) unit = .ok (.goOn .plain [joinSurrogates high unit]) := by
  simp [scanUnit, isLowSurrogate, least, most]

/-- However a character is spelled, a scanner reads its code point. -/
theorem scanText_char {c : Char} {piece : List Char} (spelled : CharSpelled c piece) :
    scanText rule .plain codes (piece ++ rest) = scanText rule .plain (c.toNat :: codes) rest := by
  cases spelled with
  | plain printable quote slash =>
    have plain : scanChar rule .plain c rest = _ := scanPlain_eq printable quote slash
    exact scanText_goOn plain
  | @short letter _ stands =>
    have slash : scanChar rule .slash letter rest = _ := scanSlash_eq stands
    exact (scanText_goOn rfl).trans (scanText_goOn slash)
  | unit hex =>
    refine (scanText_goOn rfl).trans ((scanText_goOn rfl).trans ?_)
    exact scanText_unit hex (scanUnit_char c)
  | pair beyond first second =>
    have valid : c.toNat < 0xD800 ∨ 0xDFFF < c.toNat ∧ c.toNat < 0x110000 := c.valid
    have joined : joinSurrogates (0xD800 + (c.toNat - 0x10000) / 0x400)
        (0xDC00 + (c.toNat - 0x10000) % 0x400) = c.toNat := by
      rw [joinSurrogates]
      omega
    have high : scanUnit rule none (0xD800 + (c.toNat - 0x10000) / 0x400) = _ :=
      scanUnit_high (by omega) (by omega)
    have low : scanUnit rule (some (0xD800 + (c.toNat - 0x10000) / 0x400))
        (0xDC00 + (c.toNat - 0x10000) % 0x400) = _ := scanUnit_low (by omega) (by omega)
    rw [joined] at low
    simp only [List.cons_append, List.append_assoc]
    refine (scanText_goOn rfl).trans ((scanText_goOn rfl).trans ((scanText_unit first high).trans ?_))
    refine (scanText_goOn rfl).trans ((scanText_goOn rfl).trans ?_)
    exact scanText_unit second low

/-- A text between quotes is read character by character, and its end is where its quote is. -/
theorem scanText_quoted {chars : List Char} {pieces : List (List Char)}
    (spelled : List.Forall₂ CharSpelled chars pieces) :
    scanText rule .plain codes (pieces.flatten ++ '"' :: rest) =
      .ok (codes.reverse ++ chars.map Char.toNat, rest) := by
  induction spelled generalizing codes with
  | nil => simp [scanText, scanChar, scanPlain]
  | cons head _ ih =>
    rw [List.flatten_cons, List.append_assoc, scanText_char head, ih]
    simp

end

theorem stringOfCodes_toList (text : String) :
    stringOfCodes (text.toList.map Char.toNat) = text := by
  have same : Char.ofNat ∘ Char.toNat = id := funext Char.ofNat_toNat
  rw [stringOfCodes, List.map_map, same, List.map_id, String.ofList_toList]

/-! Whole numbers, digit by digit. -/

/-- The value of digits behind others of this value. -/
private def worth (start : Nat) (digits : List Char) : Nat :=
  digits.foldl (fun value c => value * 10 + (Text.digit? c).getD 0) start

private theorem le_worth (start : Nat) (digits : List Char) : start ≤ worth start digits := by
  induction digits generalizing start with
  | nil => exact Nat.le_refl start
  | cons c rest ih =>
    refine Nat.le_trans ?_ (ih (start * 10 + (Text.digit? c).getD 0))
    omega

theorem digit?_digitChar {digit : Nat} (small : digit < 10) :
    Text.digit? (Nat.digitChar digit) = some digit := by
  have all : ∀ digit < 10, Text.digit? (Nat.digitChar digit) = some digit := by decide
  exact all digit small

/-- Characters that decide how to go on. -/
private def guides : List Char := [' ', '\n', '\t', '\r'] ++
  ['+', '-', '.', '"', '[', ']', '\x7b', '\x7d', 'n', 't', 'f']

/-- A digit is none of the characters that decide how to go on. -/
theorem digit_ne {c d : Char} (digit : (Text.digit? c).isSome = true) (other : d ∈ guides) :
    c ≠ d := by
  have all : (guides.all fun guide => (Text.digit? guide).isNone) = true := by decide
  rintro rfl
  have none := List.all_eq_true.mp all c other
  rw [Option.isNone_iff_eq_none.mp none] at digit
  cases digit

theorem digit_solid {c : Char} (digit : (Text.digit? c).isSome = true) : isGap c = false :=
  Bool.eq_false_iff.mpr fun gap =>
    digit_ne digit (List.mem_append_left _ (isGap_iff.mp gap)) rfl

/-- The digits of a number have its value; the first is a zero only if there is no other. -/
private structure Figures (value : Nat) (digits : List Char) : Prop where
  decimal : ∀ c ∈ digits, (Text.digit? c).isSome = true
  total : worth 0 digits = value
  lead : ∃ c rest, digits = c :: rest ∧ (c = '0' → rest = [])

private theorem writtenNat_figures (value : Nat) : Figures value (writtenNat value) := by
  -- Induction on the number without its last digit.
  induction value using Nat.strongRecOn with
  | _ value ih =>
    unfold writtenNat at ih ⊢
    by_cases small : value < 10
    · rw [Nat.toDigits_of_lt_base small]
      refine ⟨?_, ?_, _, _, rfl, fun _ => rfl⟩
      · simp [digit?_digitChar small]
      · simp [worth, digit?_digitChar small]
    · have last : value % 10 < 10 := Nat.mod_lt _ (by decide)
      obtain ⟨decimal, total, c, rest, first, lead⟩ := ih (value / 10) (by omega)
      rw [Nat.toDigits_of_base_le (by decide) (by omega)]
      refine ⟨?_, ?_, c, rest ++ [Nat.digitChar (value % 10)], by rw [first]; rfl, ?_⟩
      · intro d member
        rcases List.mem_append.mp member with earlier | final
        · exact decimal d earlier
        · rw [List.mem_singleton.mp final, digit?_digitChar last]
          rfl
      · unfold worth at total ⊢
        rw [List.foldl_append, total, List.foldl_cons, digit?_digitChar last]
        simp only [Option.getD_some, List.foldl_nil]
        omega
      · rintro rfl
        rw [first, lead rfl] at total
        change 0 = value / 10 at total
        omega

/-- A run of digits whose value fits is taken as a whole. -/
private theorem takeFitting_eq {start : Nat} {digits rest : List Char} (taken : Nat)
    (decimal : ∀ c ∈ digits, (Text.digit? c).isSome = true)
    (fits : worth start digits < UInt64.size) (ends : startsWithDigit rest = false) :
    takeFitting start taken (digits ++ rest) =
      (worth start digits, taken + digits.length, rest) := by
  induction digits generalizing start taken with
  | nil =>
    cases rest with
    | nil => rfl
    | cons c others =>
      have none : Text.digit? c = none := by simpa [startsWithDigit] using ends
      simp [takeFitting, none, worth]
  | cons c others ih =>
    obtain ⟨now, later⟩ := List.forall_mem_cons.mp decimal
    obtain ⟨digit, found⟩ := Option.isSome_iff_exists.mp now
    have next : worth start (c :: others) = worth (start * 10 + digit) others := by
      simp [worth, found]
    rw [next] at fits ⊢
    have small : start * 10 + digit < UInt64.size :=
      Nat.lt_of_le_of_lt (le_worth _ others) fits
    rw [List.cons_append, takeFitting, found]
    simp only [small, ↓reduceIte]
    rw [ih (taken + 1) later fits, List.length_cons]
    congr 2
    omega

/-- What follows a value is no digit, no point and no exponent. -/
theorem Ends.cases {rest : List Char} (ends : Ends rest) :
    rest = [] ∨ ∃ c others, rest = c :: others ∧ Text.digit? c = none ∧ c ≠ '.' ∧ c ≠ 'e' ∧ c ≠ 'E' := by
  have all : ([' ', '\n', '\t', '\r', ',', ']', '\x7d'].all fun c =>
      Text.digit? c = none ∧ c ≠ '.' ∧ c ≠ 'e' ∧ c ≠ 'E') = true := by decide
  cases rest with
  | nil => exact .inl rfl
  | cons c others =>
    have one := ends c rfl
    rw [isGap_iff] at one
    have free := List.all_eq_true.mp all c (by simpa [or_assoc] using one)
    exact .inr ⟨c, others, rfl, of_decide_eq_true free⟩

theorem Ends.notDigit {rest : List Char} (ends : Ends rest) : startsWithDigit rest = false := by
  rcases ends.cases with rfl | ⟨c, others, rfl, none, _⟩
  · rfl
  · simp [startsWithDigit, none]

theorem dropDigits_eq {rest : List Char} (ends : startsWithDigit rest = false) :
    dropDigits rest = rest := by
  cases rest with
  | nil => rfl
  | cons c others =>
    have none : Text.digit? c = none := by simpa [startsWithDigit] using ends
    simp [dropDigits, none]

/-- A number that has no sign, no point and no exponent is read as it is written. -/
private theorem readNumeral_eq {negative : Bool} {value : Nat} {rest : List Char}
    (fits : value < UInt64.size) (ends : Ends rest) :
    readNumeral negative (writtenNat value ++ rest) =
      if negative ∧ (value = 0 ∨ -(value : Int) < Int64.minValue.toInt) then do
        return (← fractional negative value 0, rest)
      else if negative then .ok (.negative value, rest)
      else .ok (.whole value, rest) := by
  obtain ⟨decimal, total, c, others, first, lead⟩ := writtenNat_figures value
  have taken := takeFitting_eq 0 decimal (total ▸ fits) ends.notDigit
  have isDigit : (Text.digit? c).isNone = false := by
    have := decimal c (first ▸ List.mem_cons_self)
    simpa using this
  have noZero : ¬(c = '0' ∧ startsWithDigit (others ++ rest) = true) := by
    rintro ⟨zero, more⟩
    rw [lead zero, List.nil_append, ends.notDigit] at more
    cases more
  rw [total, first, List.cons_append] at taken
  rw [first, List.cons_append, readNumeral]
  simp only [isDigit, Bool.false_eq_true, ↓reduceIte, noZero, taken, dropDigits_eq ends.notDigit,
    Nat.sub_self]
  rcases ends.cases with rfl | ⟨d, more, rfl, _, point, small, capital⟩
  · simp
  · split <;> simp_all

/-! Readers of whole values. -/

/-- The next character behind gaps is seen and stays in place. -/
theorem Reader.peek_eq (c : Char) (rest : List Char) {gaps : List Char} (gap : Gaps gaps)
    (solid : isGap c = false) : Reader.peek (gaps ++ c :: rest) = .ok (some c, c :: rest) := by
  rw [Reader.peek, gap.dropped, dropGaps_cons solid]
  rfl

theorem Reader.advance_eq (c : Char) (rest : List Char) :
    Reader.advance (c :: rest) = .ok ((), rest) := rfl

/-- The reader takes this value from this spelling of it, and leaves what follows. The spelling
begins with no gap, and not like the end of a list. -/
structure Takes (reader : Reader α) (value : α) (core : List Char) : Prop where
  solid : ∃ c rest, core = c :: rest ∧ isGap c = false ∧ c ≠ ']'
  reads : ∀ gaps rest, Gaps gaps → Ends rest → reader (gaps ++ (core ++ rest)) = .ok (value, rest)

theorem Takes.map {reader : Reader α} {value : α} {core : List Char} (takes : Takes reader value core)
    (change : α → β) : Takes (change <$> reader) (change value) core :=
  ⟨takes.solid, fun gaps rest gap ends => Reader.map_eq (takes.reads gaps rest gap ends)⟩

/-- What follows in the program takes nothing more. -/
theorem Takes.bind {reader : Reader α} {next : α → Reader β} {value : α} {answer : β}
    {core : List Char} (takes : Takes reader value core)
    (answers : ∀ rest, next value rest = .ok (answer, rest)) : Takes (reader >>= next) answer core :=
  ⟨takes.solid, fun gaps rest gap ends =>
    (Reader.bind_eq (takes.reads gaps rest gap ends)).trans (answers rest)⟩

/-- What is behind the opening quote of a text. -/
theorem Reader.quoted_eq {rule : TextRule} {chars : List Char} {pieces : List (List Char)}
    (spelled : List.Forall₂ CharSpelled chars pieces) (rest : List Char) :
    Reader.quoted rule (pieces.flatten ++ '"' :: rest) = .ok (chars.map Char.toNat, rest) := by
  rw [Reader.quoted, scanText_quoted spelled]
  rfl

theorem text_takes {text : String} {core : List Char} (spelled : Quoted text core) :
    Takes Reader.text text core := by
  obtain ⟨pieces, characters, rfl⟩ := spelled
  refine ⟨⟨_, _, rfl, rfl, by decide⟩, fun gaps rest gap _ => ?_⟩
  rw [List.cons_append, List.append_assoc, List.singleton_append, Reader.text,
    Reader.bind_eq (Reader.peek_eq '"' _ gap rfl)]
  refine (Reader.bind_eq (Reader.advance_eq _ _)).trans ?_
  refine (Reader.bind_eq (Reader.quoted_eq characters rest)).trans ?_
  rw [stringOfCodes_toList]
  rfl

/-- A number without a sign is read from its digits. -/
theorem numeral_takes (wanted : Wanted) {value : Nat} (fits : value < UInt64.size) :
    Takes (Reader.numeral wanted) (.whole value) (writtenNat value) := by
  obtain ⟨decimal, _, c, others, first, _⟩ := writtenNat_figures value
  have isDigit := decimal c (first ▸ List.mem_cons_self)
  have solid := digit_solid isDigit
  have noSign : c ≠ '-' := digit_ne isDigit (by decide)
  refine ⟨⟨c, others, first, solid, digit_ne isDigit (by decide)⟩, fun gaps rest gap ends => ?_⟩
  have reads : readNumeral false (writtenNat value ++ rest) = .ok (.whole value, rest) := by
    rw [readNumeral_eq fits ends]
    rfl
  rw [first, List.cons_append] at reads ⊢
  rw [Reader.numeral, Reader.bind_eq (Reader.peek_eq c _ gap solid)]
  simp only [isDigit, ↓reduceIte]
  exact reads

/-- A number behind a minus sign is negative, unless it is zero or too large. -/
theorem numeral_takes_negative (wanted : Wanted) {value : Nat} (some : 0 < value)
    (fits : value ≤ Nat.pow 2 63) :
    Takes (Reader.numeral wanted) (.negative value) ('-' :: writtenNat value) := by
  refine ⟨⟨_, _, rfl, rfl, by decide⟩, fun gaps rest gap ends => ?_⟩
  have least : Int64.minValue.toInt = -(2 ^ 63 : Nat) := rfl
  have most : value ≤ 2 ^ 63 := fits
  have whole : ¬(true = true ∧ (value = 0 ∨ -(value : Int) < Int64.minValue.toInt)) := by
    rw [least]
    omega
  have reads : readNumeral true (writtenNat value ++ rest) = .ok (.negative value, rest) := by
    have small : value < UInt64.size := Nat.lt_of_le_of_lt most (by decide)
    rw [readNumeral_eq small ends, if_neg whole]
    rfl
  rw [List.cons_append, Reader.numeral, Reader.bind_eq (Reader.peek_eq '-' _ gap rfl)]
  exact (Reader.bind_eq (Reader.advance_eq _ _)).trans reads

theorem unsigned_takes {width value : Nat} (wide : width ≤ 64) (fits : value < Nat.pow 2 width) :
    Takes (Reader.unsigned width) value (writtenNat value) := by
  have size : Nat.pow 2 width ≤ UInt64.size := Nat.pow_le_pow_right (by decide) wide
  refine (numeral_takes _ (Nat.lt_of_lt_of_le fits size)).bind fun rest => ?_
  simp only [fits, ↓reduceIte]
  rfl

theorem signed_takes {value : Int} (least : Int64.minValue.toInt ≤ value)
    (most : value ≤ Int64.maxValue.toInt) :
    Takes (Reader.signed 64) value (writtenInt value) := by
  have lower : -(Nat.pow 2 63 : Int) ≤ value := least
  have upper : value < Nat.pow 2 63 := Int.lt_of_le_sub_one most
  unfold writtenInt
  split
  · rename_i negative
    have inside : value.natAbs ≤ Nat.pow 2 63 := by omega
    refine (numeral_takes_negative _ (by omega) inside).bind fun rest => ?_
    have same : -(value.natAbs : Int) = value := by omega
    simp only [inside, Nat.reduceSub, ↓reduceIte, same]
    rfl
  · rename_i positive
    have inside : value.natAbs < Nat.pow 2 63 := by omega
    refine (numeral_takes _ (Nat.lt_trans inside (by decide))).bind fun rest => ?_
    have same : (value.natAbs : Int) = value := by omega
    simp only [inside, Nat.reduceSub, ↓reduceIte, same]
    rfl

end ClusterPool.Document
