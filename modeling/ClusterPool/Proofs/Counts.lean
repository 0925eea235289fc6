import ClusterPool.Text.Count
import Mathlib.Data.List.TakeWhile

/-! Which texts write a count, and what is wrong with the others. The reader goes over the digits
once and keeps a value. The grammar speaks of the whole text, and a fault of the first character
that does not continue it. -/
namespace ClusterPool.Text

/-- `middle` is what is left of a text without the white space at its two ends. -/
structure Trims (text middle : List Char) : Prop where
  apart : ∃ before after, text = before ++ middle ++ after ∧
    (∀ c ∈ before, isBlank c = true) ∧ ∀ c ∈ after, isBlank c = true
  first : ∀ c ∈ middle.head?, isBlank c = false
  last : ∀ c ∈ middle.getLast?, isBlank c = false

/-- The value of a row of digits. -/
def value (digits : List Char) : Nat := Nat.ofDigitChars 10 digits 0

/-- The text is a row of digits that fits into 64 bits, with a plus sign before it or without. -/
def Counts (text : List Char) (count : Nat) : Prop :=
  ∃ sign digits, text = sign ++ digits ∧ (sign = [] ∨ sign = ['+']) ∧ digits ≠ [] ∧
    (∀ c ∈ digits, c.isDigit = true) ∧ value digits = count ∧ count < UInt64.size

/-- What stands behind the sign, if there is one. -/
def unsigned : List Char → List Char
  | '+' :: rest => rest
  | text => text

/-- The character does not continue the digits, for this fault. -/
def Breaks (digits : List Char) (c : Char) : CountFault → Prop
  | .empty => False
  | .invalidDigit => c.isDigit = false
  | .tooLarge => c.isDigit = true ∧ UInt64.size ≤ value (digits ++ [c])

/-- A row of digits goes on in this text, fits as far as it goes, and comes to an end with this
fault before the text does. -/
def Stops (seen text : List Char) (fault : CountFault) : Prop :=
  ∃ digits c rest, text = digits ++ c :: rest ∧ (∀ d ∈ digits, d.isDigit = true) ∧
    value (seen ++ digits) < UInt64.size ∧ Breaks (seen ++ digits) c fault

/-- The fault that comes first in a text, from left to right. -/
def FirstFault (text : List Char) (fault : CountFault) : Prop :=
  text = [] ∧ fault = .empty ∨ text = ['+'] ∧ fault = .invalidDigit ∨
    Stops [] (unsigned text) fault

/-! White space. -/

theorem not_isBlank_of_mem_head? {text : List Char} {c : Char}
    (head : c ∈ (text.dropWhile isBlank).head?) : isBlank c = false := by
  have first := List.head?_dropWhile_not isBlank text
  rwa [Option.mem_def.mp head] at first

theorem trims_trim (text : List Char) : Trims text (trim text) := by
  obtain ⟨after, blank, parts⟩ : ∃ after, (∀ c ∈ after, isBlank c = true) ∧
      trim text ++ after = text.dropWhile isBlank := by
    refine ⟨((text.dropWhile isBlank).reverse.takeWhile isBlank).reverse, ?_, ?_⟩
    · exact fun c member => List.mem_takeWhile_imp (List.mem_reverse.mp member)
    · rw [trim, ← List.reverse_append, List.takeWhile_append_dropWhile, List.reverse_reverse]
  constructor
  · refine ⟨text.takeWhile isBlank, after, ?_, fun c => List.mem_takeWhile_imp, blank⟩
    rw [List.append_assoc, parts, List.takeWhile_append_dropWhile]
  · intro c head
    have front : c ∈ (text.dropWhile isBlank).head? := by
      rw [← parts, List.head?_append, Option.mem_def.mp head]
      rfl
    exact not_isBlank_of_mem_head? front
  · intro c last
    rw [trim, List.getLast?_reverse] at last
    exact not_isBlank_of_mem_head? last

theorem dropWhile_blank {before text : List Char} (blank : ∀ c ∈ before, isBlank c = true)
    (first : ∀ c ∈ text.head?, isBlank c = false) :
    (before ++ text).dropWhile isBlank = text := by
  rw [List.dropWhile_append_of_pos blank]
  cases text with
  | nil => rfl
  | cons c rest => rw [List.dropWhile_cons_of_neg (by simp [first c rfl])]

theorem Trims.unique {text middle : List Char} (trims : Trims text middle) :
    trim text = middle := by
  obtain ⟨⟨before, after, rfl, blank, blankAgain⟩, first, last⟩ := trims
  cases middle with
  | nil =>
    have all : ∀ c ∈ before ++ [] ++ after, isBlank c = true := by
      simpa [or_imp, forall_and] using And.intro blank blankAgain
    rw [trim, List.dropWhile_eq_nil_iff.mpr all]
    rfl
  | cons c rest =>
    have front : ∀ d ∈ (c :: rest ++ after).head?, isBlank d = false := by simpa using first
    have back : ∀ d ∈ (c :: rest).reverse.head?, isBlank d = false := by
      rwa [List.head?_reverse]
    rw [trim, List.append_assoc, dropWhile_blank blank front, List.reverse_append,
      dropWhile_blank (by simpa using blankAgain) back, List.reverse_reverse]

/-- Trimming is the only way to take the white space off both ends. -/
theorem trims_iff {text middle : List Char} : Trims text middle ↔ trim text = middle := by
  refine ⟨Trims.unique, ?_⟩
  rintro rfl
  exact trims_trim text

/-! Digits. -/

theorem value_snoc (digits : List Char) (c : Char) :
    value (digits ++ [c]) = value digits * 10 + (c.toNat - '0'.toNat) := by
  rw [value, Nat.ofDigitChars, List.foldl_append, Nat.mul_comm (value digits)]
  rfl

/-- More digits never make the value less. -/
theorem value_le_append (digits more : List Char) : value digits ≤ value (digits ++ more) := by
  induction more generalizing digits with
  | nil => rw [List.append_nil]
  | cons c rest ih =>
    have next := ih (digits ++ [c])
    rw [value_snoc, List.append_assoc, List.singleton_append] at next
    omega

theorem digit?_eq (c : Char) :
    digit? c = if c.isDigit = true then some (c.toNat - '0'.toNat) else none := by
  simp only [digit?, Char.isDigit, Bool.and_eq_true, decide_eq_true_eq]
  rfl

theorem readDigits_cons (seen : List Char) (c : Char) (rest : List Char) :
    readDigits (value seen) (c :: rest) =
      if c.isDigit = true then
        if value (seen ++ [c]) < UInt64.size then readDigits (value (seen ++ [c])) rest
        else .error .tooLarge
      else .error .invalidDigit := by
  rw [readDigits, digit?_eq, value_snoc]
  by_cases digit : c.isDigit = true
  · simp only [if_pos digit]
  · simp only [if_neg digit]

theorem readDigits_ok_iff {seen text : List Char} {count : Nat}
    (small : value seen < UInt64.size) : readDigits (value seen) text = .ok count ↔
      (∀ c ∈ text, c.isDigit = true) ∧ value (seen ++ text) = count ∧ count < UInt64.size := by
  induction text generalizing seen with
  | nil =>
    rw [readDigits, List.append_nil, Except.ok.injEq]
    refine ⟨?_, fun reads => reads.2.1⟩
    rintro rfl
    exact ⟨nofun, rfl, small⟩
  | cons c rest ih =>
    have longer := value_le_append (seen ++ [c]) rest
    rw [List.append_assoc, List.singleton_append] at longer
    rw [readDigits_cons]
    by_cases digit : c.isDigit = true
    · by_cases fits : value (seen ++ [c]) < UInt64.size
      · rw [if_pos digit, if_pos fits, ih fits]
        simp [digit]
      · simp [digit, fits]
        omega
    · simp [digit]

theorem breaks_iff {digits : List Char} {c : Char} {fault : CountFault} :
    Breaks digits c fault ↔ c.isDigit = false ∧ fault = .invalidDigit ∨
      c.isDigit = true ∧ UInt64.size ≤ value (digits ++ [c]) ∧ fault = .tooLarge := by
  cases fault <;> simp [Breaks]

theorem Stops.small {seen text : List Char} {fault : CountFault} (stops : Stops seen text fault) :
    value seen < UInt64.size := by
  obtain ⟨digits, _, _, _, _, within, _⟩ := stops
  exact Nat.lt_of_le_of_lt (value_le_append seen digits) within

@[simp] theorem not_stops_nil (seen : List Char) (fault : CountFault) : ¬Stops seen [] fault := by
  simp [Stops]

/-- Digits stop at the next character, or that is one more digit and they stop behind it. -/
theorem stops_cons_iff {seen rest : List Char} {c : Char} {fault : CountFault} :
    Stops seen (c :: rest) fault ↔
      value seen < UInt64.size ∧ Breaks seen c fault ∨
        c.isDigit = true ∧ Stops (seen ++ [c]) rest fault := by
  constructor
  · rintro ⟨digits, next, after, split, all, within, breaks⟩
    cases digits with
    | nil =>
      obtain ⟨rfl, rfl⟩ := List.cons.inj split
      rw [List.append_nil] at within breaks
      exact .inl ⟨within, breaks⟩
    | cons first digits =>
      obtain ⟨rfl, rfl⟩ := List.cons.inj split
      obtain ⟨digit, all⟩ := List.forall_mem_cons.mp all
      refine .inr ⟨digit, digits, next, after, rfl, all, ?_, ?_⟩
      · rwa [List.append_assoc]
      · rwa [List.append_assoc]
  · rintro (⟨small, breaks⟩ | ⟨digit, digits, next, after, rfl, all, within, breaks⟩)
    · refine ⟨[], c, rest, rfl, nofun, ?_, ?_⟩
      · rwa [List.append_nil]
      · rwa [List.append_nil]
    · rw [List.append_assoc] at within breaks
      refine ⟨c :: digits, next, after, rfl, ?_, within, breaks⟩
      exact List.forall_mem_cons.mpr ⟨digit, all⟩

theorem readDigits_error_iff {seen text : List Char} {fault : CountFault}
    (small : value seen < UInt64.size) :
    readDigits (value seen) text = .error fault ↔ Stops seen text fault := by
  induction text generalizing seen with
  | nil => simp [readDigits]
  | cons c rest ih =>
    rw [readDigits_cons, stops_cons_iff, breaks_iff]
    by_cases digit : c.isDigit = true
    · by_cases fits : value (seen ++ [c]) < UInt64.size
      · rw [if_pos digit, if_pos fits, ih fits]
        simp [digit, Nat.not_le.mpr fits]
      · have ends : ¬Stops (seen ++ [c]) rest fault := fun stops => fits stops.small
        simp [digit, fits, ends, small, Nat.not_lt.mp fits, eq_comm]
    · simp [digit, small, eq_comm]

/-! Counts. -/

theorem unsigned_eq_nil_iff {text : List Char} :
    unsigned text = [] ↔ text = [] ∨ text = ['+'] := by
  unfold unsigned
  split
  · simp
  · rename_i unsign
    refine ⟨.inl, fun either => either.resolve_right ?_⟩
    exact unsign []

theorem readCount_eq {text : List Char} (more : unsigned text ≠ []) :
    readCount text = readDigits (value []) (unsigned text) := by
  unfold readCount unsigned
  split
  · exact absurd rfl more
  · exact absurd rfl more
  · rfl
  · split
    · rename_i unsign
      exact absurd rfl (unsign _)
    · rfl

/-- Digits are what stands behind the sign. -/
theorem unsigned_append {sign digits : List Char} (signed : sign = [] ∨ sign = ['+'])
    (all : ∀ c ∈ digits, c.isDigit = true) : unsigned (sign ++ digits) = digits := by
  obtain rfl | rfl := signed
  · rw [List.nil_append]
    unfold unsigned
    split
    · exact absurd (all '+' (.head _)) (by decide)
    · rfl
  · rfl

theorem append_unsigned (text : List Char) : ∃ sign, (sign = [] ∨ sign = ['+']) ∧
    text = sign ++ unsigned text := by
  unfold unsigned
  split
  · exact ⟨['+'], .inr rfl, rfl⟩
  · exact ⟨[], .inl rfl, rfl⟩

/-- The reader accepts the texts that write a count, and gives the count. -/
theorem readCount_ok_iff {text : List Char} {count : Nat} :
    readCount text = .ok count ↔ Counts text count := by
  by_cases bare : unsigned text = []
  · have fails : readCount text ≠ .ok count := by
      obtain rfl | rfl := unsigned_eq_nil_iff.mp bare <;> simp [readCount]
    refine iff_of_false fails ?_
    rintro ⟨sign, digits, rfl, signed, more, all, _⟩
    exact more ((unsigned_append signed all).symm.trans bare)
  · rw [readCount_eq bare, readDigits_ok_iff (by decide), List.nil_append]
    constructor
    · rintro ⟨all, counted, small⟩
      obtain ⟨sign, signed, split⟩ := append_unsigned text
      exact ⟨sign, unsigned text, split, signed, bare, all, counted, small⟩
    · rintro ⟨sign, digits, rfl, signed, _, all, counted, small⟩
      rw [unsigned_append signed all]
      exact ⟨all, counted, small⟩

/-- The reader reports the fault that comes first. -/
theorem readCount_error_iff {text : List Char} {fault : CountFault} :
    readCount text = .error fault ↔ FirstFault text fault := by
  by_cases bare : unsigned text = []
  · obtain rfl | rfl := unsigned_eq_nil_iff.mp bare <;>
      cases fault <;> simp [readCount, FirstFault, unsigned]
  · obtain ⟨empty, plus⟩ := not_or.mp (mt unsigned_eq_nil_iff.mpr bare)
    rw [readCount_eq bare, readDigits_error_iff (by decide)]
    simp [FirstFault, empty, plus]

example : readCount "18446744073709551616x".toList = .error .tooLarge := by rfl

end ClusterPool.Text
