import ClusterPool.Proofs.Document.Reading

/-! What is well-formed is passed over, and nothing behind it. Skipping has no recursion, only a stack
and a number of turns; each character of a value costs two turns at most, so that the turns that the
reader has suffice. -/
namespace ClusterPool.Document

/-! Texts that need not be texts. -/

/-- A scanner stands between two pieces of a text, perhaps behind a high surrogate. -/
private def Between (state : EscapeState) : Prop := state = .plain ∨ ∃ unit, state = .high unit

private theorem skipped_surrogates : TextRule.skipped.surrogates = true := rfl

private theorem scanUnit_skipped (high : Option Nat) (unit : Nat) : ∃ next read, Between next ∧
    scanUnit .skipped high unit = .ok (.goOn next read) := by
  unfold scanUnit
  cases high with
  | none =>
    simp only [skipped_surrogates, Bool.not_true, Bool.and_false, Bool.false_eq_true, ↓reduceIte]
    split
    · exact ⟨_, _, .inr ⟨unit, rfl⟩, rfl⟩
    · exact ⟨_, _, .inl rfl, rfl⟩
  | some first =>
    simp only [skipped_surrogates, Bool.not_true, Bool.false_eq_true, ↓reduceIte]
    split
    · exact ⟨_, _, .inl rfl, rfl⟩
    · split
      · exact ⟨_, _, .inr ⟨unit, rfl⟩, rfl⟩
      · exact ⟨_, _, .inl rfl, rfl⟩

/-- From between two pieces a piece leads to where it ends. -/
private theorem scanText_piece {piece : List Char} (one : Piece piece) {state : EscapeState}
    (between : Between state) (codes : List Nat) (rest : List Char) : ∃ next read, Between next ∧
      scanText .skipped state codes (piece ++ rest) = scanText .skipped next read rest := by
  cases one with
  | @plain c printable quote slash =>
    have plain : scanPlain .skipped c = _ := scanPlain_eq printable quote slash
    rcases between with rfl | ⟨unit, rfl⟩
    · have goes : scanChar .skipped .plain c rest = _ := plain
      exact ⟨_, _, .inl rfl, scanText_goOn goes⟩
    · have goes : scanChar .skipped (.high unit) c rest = .ok (.goOn .plain [unit, c.toNat]) := by
        simp [scanChar, slash, skipped_surrogates, plain, Except.map, ScanStep.behind]
      exact ⟨_, _, .inl rfl, scanText_goOn goes⟩
  | @short letter c stands =>
    have escape := scanSlash_eq stands
    rcases between with rfl | ⟨unit, rfl⟩
    · have goes : scanChar .skipped .slash letter rest = _ := escape
      exact ⟨_, _, .inl rfl, (scanText_goOn rfl).trans (scanText_goOn goes)⟩
    · have other : letter ≠ 'u' := by
        rintro rfl
        simp [shortEscapes] at stands
      have goes : scanChar .skipped (.highSlash unit) letter rest =
          .ok (.goOn .plain [unit, c.toNat]) := by
        simp [scanChar, other, skipped_surrogates, escape, Except.map, ScanStep.behind]
      exact ⟨_, _, .inl rfl, (scanText_goOn rfl).trans (scanText_goOn goes)⟩
  | @unit value digits hex =>
    rcases between with rfl | ⟨unit, rfl⟩
    · obtain ⟨next, read, onward, goes⟩ := scanUnit_skipped none value
      exact ⟨next, _, onward, (scanText_goOn rfl).trans ((scanText_goOn rfl).trans
        (scanText_unit hex goes))⟩
    · obtain ⟨next, read, onward, goes⟩ := scanUnit_skipped (some unit) value
      exact ⟨next, _, onward, (scanText_goOn rfl).trans ((scanText_goOn rfl).trans
        (scanText_unit hex goes))⟩

private theorem scanText_pieces {pieces : List (List Char)} (all : ∀ piece ∈ pieces, Piece piece)
    {state : EscapeState} (between : Between state) (codes : List Nat) (rest : List Char) :
    ∃ read, scanText .skipped state codes (pieces.flatten ++ '"' :: rest) = .ok (read, rest) := by
  induction pieces generalizing state codes with
  | nil => rcases between with rfl | ⟨unit, rfl⟩ <;> exact ⟨_, rfl⟩
  | cons piece others ih =>
    obtain ⟨now, later⟩ := List.forall_mem_cons.mp all
    rw [List.flatten_cons, List.append_assoc]
    obtain ⟨next, read, onward, goes⟩ :=
      scanText_piece now between codes (others.flatten ++ '"' :: rest)
    rw [goes]
    exact ih later onward read

/-- A text that need not be one is passed over up to its closing quote. -/
theorem scanText_anyQuoted {spelled : List Char} (quoted : AnyQuoted spelled) (rest : List Char) :
    ∃ inner read, spelled = '"' :: inner ∧
      scanText .skipped .plain [] (inner ++ rest) = .ok (read, rest) := by
  obtain ⟨pieces, all, rfl⟩ := quoted
  obtain ⟨read, ends⟩ := scanText_pieces all (.inl rfl) [] rest
  refine ⟨_, read, rfl, ?_⟩
  rw [List.append_assoc, List.singleton_append, ends]

/-! Numbers of any size. -/

private theorem digit?_isSome {c : Char} (decimal : '0' ≤ c ∧ c ≤ '9') :
    (Text.digit? c).isSome = true := by
  simp [Text.digit?, decimal]

theorem dropDigits_append {digits rest : List Char} (decimal : ∀ c ∈ digits, '0' ≤ c ∧ c ≤ '9')
    (ends : startsWithDigit rest = false) : dropDigits (digits ++ rest) = rest := by
  induction digits with
  | nil => exact dropDigits_eq ends
  | cons c others ih =>
    obtain ⟨now, later⟩ := List.forall_mem_cons.mp decimal
    rw [List.cons_append, dropDigits, digit?_isSome now]
    exact ih later

theorem Digits.starts {digits : List Char} (some : Digits digits) (rest : List Char) :
    startsWithDigit (digits ++ rest) = true := by
  obtain ⟨present, decimal⟩ := some
  obtain ⟨c, others, rfl⟩ := List.exists_cons_of_ne_nil present
  exact digit?_isSome (decimal c List.mem_cons_self)

section
variable {whole fraction power rest : List Char}

private theorem PowerPart.notDigit (scaled : PowerPart power) (ends : Ends rest) :
    startsWithDigit (power ++ rest) = false := by
  rcases scaled with rfl | ⟨letter, sign, digits, one, _, _, rfl⟩
  · exact ends.notDigit
  · simp only [List.mem_cons, List.not_mem_nil, or_false] at one
    rcases one with rfl | rfl <;> rfl

private theorem PowerPart.skipped (scaled : PowerPart power) (ends : Ends rest) :
    skipNumeral.skipPower (power ++ rest) = .ok rest := by
  rcases scaled with rfl | ⟨letter, sign, digits, one, signed, some, rfl⟩
  · rcases ends.cases with rfl | ⟨c, others, rfl, _, _, small, capital⟩
    · rfl
    · simp [skipNumeral.skipPower, small, capital]
  · have digit := some.starts rest
    have last := dropDigits_append some.2 ends.notDigit
    obtain ⟨c, others, rfl⟩ := List.exists_cons_of_ne_nil some.1
    have plus : c ≠ '+' := digit_ne digit (by decide)
    have minus : c ≠ '-' := digit_ne digit (by decide)
    simp only [List.mem_cons, List.not_mem_nil, or_false] at one signed
    rcases one with rfl | rfl <;> rcases signed with rfl | rfl | rfl <;>
      simp_all [skipNumeral.skipPower]

private theorem FractionPart.notDigit (part : FractionPart fraction) (scaled : PowerPart power)
    (ends : Ends rest) : startsWithDigit (fraction ++ (power ++ rest)) = false := by
  rcases part with rfl | ⟨digits, _, rfl⟩
  · exact scaled.notDigit ends
  · rfl

theorem skipNumeral_eq (figures : WholePart whole) (part : FractionPart fraction)
    (scaled : PowerPart power) (ends : Ends rest) :
    skipNumeral (whole ++ (fraction ++ (power ++ rest))) = .ok rest := by
  obtain ⟨⟨present, decimal⟩, lead⟩ := figures
  obtain ⟨c, others, rfl⟩ := List.exists_cons_of_ne_nil present
  have digit := digit?_isSome (decimal c List.mem_cons_self)
  have isDigit : (Text.digit? c).isNone = false := by simpa using digit
  have noZero : ¬(c = '0' ∧
      startsWithDigit (others ++ (fraction ++ (power ++ rest))) = true) := by
    rintro ⟨rfl, more⟩
    obtain rfl : others = [] := by simpa using lead rfl
    rw [List.nil_append, part.notDigit scaled ends] at more
    cases more
  have dropped := dropDigits_append decimal (part.notDigit scaled ends)
  rw [List.cons_append] at dropped ⊢
  rw [skipNumeral]
  simp only [isDigit, Bool.false_eq_true, ↓reduceIte, noZero, dropped]
  rcases part with rfl | ⟨digits, some, rfl⟩
  · have noPoint : ∀ others, power ++ rest ≠ '.' :: others := by
      rcases scaled with rfl | ⟨letter, sign, digits, one, _, _, rfl⟩
      · rcases ends.cases with rfl | ⟨d, more, rfl, _, point, _⟩ <;> simp_all
      · rintro others same
        cases same
        exact absurd one (by decide)
    have last := scaled.skipped ends
    rw [List.nil_append]
    split
    · rename_i others same
      exact absurd same (noPoint others)
    · exact last
  · simp only [List.cons_append, some.starts, ↓reduceIte]
    rw [dropDigits_append some.2 (scaled.notDigit ends)]
    exact scaled.skipped ends

end

/-- A value that is no list and no object. -/
private def Scalar (text : List Char) : Prop :=
  text ∈ [['n', 'u', 'l', 'l'], ['t', 'r', 'u', 'e'], ['f', 'a', 'l', 's', 'e']] ∨
    AnyQuoted text ∨ AnyNumber text

/-- A skip starts at the value, and ends behind it. -/
private def Skipped (text : List Char) : Prop := ∃ c others, text = c :: others ∧
  isGap c = false ∧ c ≠ ']' ∧ c ≠ '[' ∧ c ≠ '\x7b' ∧
    ∀ rest, Ends rest → skipScalar (text ++ rest) = .ok rest

private theorem skipScalar_digit {c : Char} (digit : (Text.digit? c).isSome = true)
    (rest : List Char) : skipScalar (c :: rest) = skipNumeral (c :: rest) := by
  have null : c ≠ 'n' := digit_ne digit (by decide)
  have true_ : c ≠ 't' := digit_ne digit (by decide)
  have false_ : c ≠ 'f' := digit_ne digit (by decide)
  have quote : c ≠ '"' := digit_ne digit (by decide)
  have minus : c ≠ '-' := digit_ne digit (by decide)
  have starts : startsWithDigit (c :: rest) = true := digit
  simp [skipScalar, null, true_, false_, quote, minus, starts]

private theorem skipped_number {text : List Char} (number : AnyNumber text) : Skipped text := by
  obtain ⟨sign, whole, fraction, power, signed, figures, part, scaled, rfl⟩ := number
  have skips : ∀ rest, Ends rest →
      skipNumeral (whole ++ (fraction ++ power) ++ rest) = .ok rest := by
    intro rest ends
    rw [List.append_assoc, List.append_assoc]
    exact skipNumeral_eq figures part scaled ends
  simp only [List.mem_cons, List.not_mem_nil, or_false] at signed
  rcases signed with rfl | rfl
  · obtain ⟨c, others, rfl⟩ := List.exists_cons_of_ne_nil figures.1.1
    have digit := digit?_isSome (figures.1.2 c List.mem_cons_self)
    refine ⟨c, _, rfl, digit_solid digit, digit_ne digit (by decide), digit_ne digit (by decide),
      digit_ne digit (by decide), fun rest ends => ?_⟩
    exact (skipScalar_digit digit _).trans (skips rest ends)
  · exact ⟨_, _, rfl, rfl, by decide, by decide, by decide, skips⟩

private theorem skipped_scalar {text : List Char} (scalar : Scalar text) : Skipped text := by
  rcases scalar with one | quoted | number
  · simp only [List.mem_cons, List.not_mem_nil, or_false] at one
    rcases one with rfl | rfl | rfl <;>
      exact ⟨_, _, rfl, rfl, by decide, by decide, by decide, fun _ _ => rfl⟩
  · obtain ⟨inner, _, rfl, _⟩ := scanText_anyQuoted quoted []
    refine ⟨_, _, rfl, rfl, by decide, by decide, by decide, fun rest _ => ?_⟩
    obtain ⟨_, read, same, ends⟩ := scanText_anyQuoted quoted rest
    cases same
    rw [List.cons_append, skipScalar, ends]
    rfl
  · exact skipped_number number

/-! Lists and objects. -/

private theorem skipFrom_value {turns : Nat} {frames : List Frame} {text other : List Char}
    (same : dropGaps text = dropGaps other) :
    skipFrom turns .value frames text = skipFrom turns .value frames other := by
  cases turns with
  | zero => rfl
  | succ turns => rw [skipFrom, skipFrom, same]

private theorem skipFrom_gaps {turns : Nat} {comma : Bool} {frame : Frame} {outer : List Frame}
    {gaps : List Char} (gap : Gaps gaps) (text : List Char) :
    skipFrom turns (.behind comma) (frame :: outer) (gaps ++ text) =
      skipFrom turns (.behind comma) (frame :: outer) text := by
  cases turns with
  | zero => rfl
  | succ turns => rw [skipFrom, skipFrom, gap.dropped]

/-- From before a well-formed part a skip comes to behind it, by at most two turns for a character.
Entries are come to through the frame that they are in. -/
private def Skips : Part → List Char → Prop
  | .value, text => (∃ c others, text = c :: others ∧ isGap c = false ∧ c ≠ ']') ∧
    ∀ rest, Ends rest → ∃ used, used ≤ 2 * text.length ∧ ∀ more frames gaps, Gaps gaps →
      skipFrom (used + more) .value frames (gaps ++ (text ++ rest)) =
        skipFrom more (.behind true) frames rest
  | .entry frame, text | .entries frame, text =>
    (∃ gaps c others, text = gaps ++ c :: others ∧ Gaps gaps ∧ isGap c = false ∧
      c ≠ frame.closing) ∧
    ∀ rest, Ends rest → ∃ used, used ≤ 2 * text.length ∧ ∀ more outer start,
      dropGaps start = dropGaps (text ++ rest) →
        (frame.enter start >>= skipFrom (used + more) .value (frame :: outer)) =
          skipFrom more (.behind true) (frame :: outer) rest

private theorem Skips.scalar {text : List Char} (scalar : Scalar text) : Skips .value text := by
  obtain ⟨c, others, rfl, solid, notEnd, list, object, skips⟩ := skipped_scalar scalar
  have once : 1 ≤ 2 * (c :: others).length := by
    rw [List.length_cons]
    omega
  refine ⟨⟨c, others, rfl, solid, notEnd⟩, fun rest ends => ⟨1, once, ?_⟩⟩
  intro more frames gaps gap
  have skipped := skips rest ends
  rw [List.cons_append] at skipped ⊢
  rw [Nat.add_comm, skipFrom, gap.dropped, dropGaps_cons solid]
  simp [list, object, skipped, bind, Except.bind]

private theorem skipFrom_closing {turns : Nat} {comma : Bool} (frame : Frame) {outer : List Frame}
    {gaps : List Char} (gap : Gaps gaps) (rest : List Char) :
    skipFrom (turns + 1) (.behind comma) (frame :: outer) (gaps ++ frame.closing :: rest) =
      skipFrom turns (.behind true) outer rest := by
  have solid : isGap frame.closing = false := by cases frame <;> rfl
  rw [skipFrom, gap.dropped, dropGaps_cons solid]
  simp

private theorem skipFrom_opening {turns : Nat} (frame : Frame) {frames : List Frame}
    {gaps : List Char} (gap : Gaps gaps) (rest : List Char) :
    skipFrom (turns + 1) .value frames (gaps ++ frame.opening :: rest) =
      skipFrom turns (.behind false) (frame :: frames) rest := by
  have solid : isGap frame.opening = false := by cases frame <;> rfl
  rw [skipFrom, gap.dropped, dropGaps_cons solid]
  cases frame <;> rfl

theorem Frame.closing_ends (frame : Frame) (rest : List Char) : Ends (frame.closing :: rest) := by
  cases frame <;> exact .cons rest (by decide)

private theorem opening_solid (frame : Frame) (rest : List Char) : ∃ c others,
    frame.opening :: rest = c :: others ∧ isGap c = false ∧ c ≠ ']' :=
  ⟨_, _, rfl, by cases frame <;> exact ⟨rfl, by decide⟩⟩

private theorem Skips.empty (frame : Frame) {gaps : List Char} (gap : Gaps gaps) :
    Skips .value (frame.opening :: (gaps ++ [frame.closing])) := by
  refine ⟨opening_solid frame _, fun rest _ => ⟨2, ?_, fun more frames before early => ?_⟩⟩
  · simp only [List.length_cons, List.length_append]
    omega
  · rw [Nat.add_comm, List.cons_append, skipFrom_opening frame early, List.append_assoc]
    exact skipFrom_closing frame gap rest

private theorem Skips.enclosed {frame : Frame} {inner : List Char}
    (entries : Skips (.entries frame) inner) :
    Skips .value (frame.opening :: (inner ++ [frame.closing])) := by
  obtain ⟨⟨lead, c, others, shape, leading, solid, notEnd⟩, skips⟩ := entries
  refine ⟨opening_solid frame _, fun rest _ => ?_⟩
  obtain ⟨used, bound, skipped⟩ := skips _ (frame.closing_ends rest)
  -- Beside the turns of the entries, one for each bracket and one between them that takes nothing.
  refine ⟨used + 3, ?_, fun more frames before early => ?_⟩
  · simp only [List.length_cons, List.length_append, List.length_nil]
    omega
  · have turns : used + 3 + more = used + (more + 1) + 1 + 1 := by omega
    rw [turns, List.cons_append, skipFrom_opening frame early, List.append_assoc,
      List.singleton_append]
    have first : dropGaps (inner ++ frame.closing :: rest) =
        c :: (others ++ frame.closing :: rest) := by
      rw [shape, List.append_assoc, leading.dropped, List.cons_append, dropGaps_cons solid]
    have again : dropGaps (c :: (others ++ frame.closing :: rest)) =
        dropGaps (inner ++ frame.closing :: rest) := by rw [first, dropGaps_cons solid]
    have entered := skipped (more + 1) frames _ again
    rw [skipFrom, first]
    simp only [notEnd, Bool.false_eq_true, ↓reduceIte]
    refine entered.trans ?_
    exact skipFrom_closing frame .nil rest

private theorem Skips.element {before value after : List Char} (early : Gaps before)
    (element : Skips .value value) (late : Gaps after) :
    Skips (.entry .list) (before ++ (value ++ after)) := by
  obtain ⟨⟨c, others, rfl, solid, notEnd⟩, skips⟩ := element
  refine ⟨⟨before, c, others ++ after, rfl, early, solid, notEnd⟩, fun rest ends => ?_⟩
  obtain ⟨used, bound, skipped⟩ := skips (after ++ rest) (ends.gaps late)
  refine ⟨used, ?_, fun more outer start same => ?_⟩
  · simp only [List.length_append] at bound ⊢
    omega
  · change skipFrom (used + more) .value (.list :: outer) start = _
    rw [List.append_assoc, List.append_assoc] at same
    rw [skipFrom_value same, skipped more _ before early, skipFrom_gaps late]

private theorem Skips.member {first key second third value last : List Char} (outer : Gaps first)
    (name : AnyQuoted key) (early : Gaps second) (late : Gaps third) (element : Skips .value value)
    (end_ : Gaps last) : Skips (.entry .object)
      (first ++ (key ++ (second ++ ':' :: (third ++ (value ++ last))))) := by
  obtain ⟨_, skips⟩ := element
  obtain ⟨inner, _, rfl, _⟩ := scanText_anyQuoted name []
  refine ⟨⟨first, '"', _, rfl, outer, rfl, by decide⟩, fun rest ends => ?_⟩
  obtain ⟨used, bound, skipped⟩ := skips (last ++ rest) (ends.gaps end_)
  refine ⟨used, ?_, fun more frames start same => ?_⟩
  · simp only [List.length_append, List.length_cons] at bound ⊢
    omega
  · obtain ⟨_, read, key, ends⟩ :=
      scanText_anyQuoted name (second ++ ':' :: (third ++ (value ++ (last ++ rest))))
    cases key
    have text : first ++ ('"' :: inner ++ (second ++ ':' :: (third ++ (value ++ last)))) ++ rest =
        first ++ '"' :: (inner ++ (second ++ ':' :: (third ++ (value ++ (last ++ rest))))) := by
      simp only [List.cons_append, List.append_assoc]
    rw [text, outer.dropped, dropGaps_cons rfl] at same
    have entered : Frame.object.enter start = .ok (third ++ (value ++ (last ++ rest))) := by
      simp only [Frame.enter, same, ends, bind, Except.bind, early.dropped]
      rfl
    rw [entered]
    exact (skipped more _ third late).trans (skipFrom_gaps end_ rest)

private theorem Skips.more {frame : Frame} {entry others : List Char}
    (head : Skips (.entry frame) entry) (tail : Skips (.entries frame) others) :
    Skips (.entries frame) (entry ++ ',' :: others) := by
  obtain ⟨⟨lead, c, behind, rfl, leading, solid, notEnd⟩, skips⟩ := head
  obtain ⟨_, later⟩ := tail
  refine ⟨⟨lead, c, behind ++ ',' :: others, by simp, leading, solid, notEnd⟩, fun rest ends => ?_⟩
  obtain ⟨first, firstBound, one⟩ := skips (',' :: (others ++ rest)) (.cons _ (by decide))
  obtain ⟨second, secondBound, two⟩ := later rest ends
  refine ⟨first + (1 + second), ?_, fun more outer start same => ?_⟩
  · simp only [List.length_append, List.length_cons] at firstBound secondBound ⊢
    omega
  · rw [List.append_assoc, List.cons_append] at same
    rw [Nat.add_assoc, one _ outer start same]
    have turns : 1 + second + more = second + more + 1 := by omega
    have other : ',' ≠ frame.closing := by cases frame <;> decide
    rw [turns, skipFrom, dropGaps_cons rfl]
    simp only [other, ↓reduceIte]
    exact two more outer _ rfl

private theorem skips {part : Part} {text : List Char} (wellFormed : WellFormed part text) :
    Skips part text := by
  induction wellFormed with
  | word one => exact .scalar (.inl one)
  | quoted quoted => exact .scalar (.inr (.inl quoted))
  | number number => exact .scalar (.inr (.inr number))
  | empty frame gap => exact .empty frame gap
  | enclosed _ entries => exact .enclosed entries
  | element early _ late element => exact .element early element late
  | member outer name early late _ end_ element => exact .member outer name early late element end_
  | last _ only => exact only
  | more _ _ head tail => exact .more head tail

/-- A reader that skips takes every well-formed value that is not longer than it was told. -/
theorem skip_takes {characters : Nat} {text : List Char} (wellFormed : WellFormed .value text)
    (fits : text.length ≤ characters) : Takes (Reader.skip characters) () text := by
  obtain ⟨solid, skipped⟩ := skips wellFormed
  refine ⟨solid, fun gaps rest gap ends => ?_⟩
  obtain ⟨used, bound, ran⟩ := skipped rest ends
  obtain ⟨more, turns⟩ : ∃ more, 2 * characters + 2 = used + (more + 1) :=
    ⟨2 * characters + 1 - used, by omega⟩
  rw [Reader.skip, turns, ran (more + 1) [] gaps gap]
  rfl

end ClusterPool.Document
