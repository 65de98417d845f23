import ColorMarkup.Proofs.Color.Hex

/-!
# ColorMarkup.Proofs.Color.Refusal

Why a text is no color.

1. The leading six characters are judged first.  If they hold one that is no
   digit, the text is refused for the first such character
   (`Color.ofHex_of_firstFault`), whatever its length.
2. If they are digits, only the number of all characters counts
   (`Color.ofHex_of_startsWithDigits`), whatever the others are: three or six
   are a color, and any other number is refused.
3. One of the two holds of every text (`Color.startsWithDigits_or_firstFault`),
   so the three answers are exact conditions on it (`Color.ofHex_answers`).
-/

namespace ColorMarkup.Color

variable {input digits : List Char} {digit : Char}

/-! ## The leading six characters -/

/-- The leading six characters, or all if there are fewer, are digits. -/
def StartsWithDigits (digits : List Char) : Prop :=
  ∀ c ∈ digits.take 6, c.isHexDigit = true

/-- The first character that is no digit is one of the leading six. -/
def FirstFault (digits : List Char) (digit : Char) : Prop :=
  ∃ before after, digits = before ++ digit :: after ∧ before.length < 6 ∧
    (∀ c ∈ before, c.isHexDigit = true) ∧ digit.isHexDigit = false

theorem find?_eq_none_iff_startsWithDigits :
    (digits.take 6).find? (fun c => !c.isHexDigit) = none ↔ StartsWithDigits digits := by
  simp [StartsWithDigits, List.find?_eq_none]

theorem find?_eq_some_iff_firstFault :
    (digits.take 6).find? (fun c => !c.isHexDigit) = some digit ↔ FirstFault digits digit := by
  rw [List.find?_eq_some_iff_append]
  constructor
  · rintro ⟨hdigit, before, after, htake, hbefore⟩
    have hlength := List.length_take_le 6 digits
    rw [htake, List.length_append, List.length_cons] at hlength
    refine ⟨before, after ++ digits.drop 6, ?_, by omega, by simpa using hbefore,
      by simpa using hdigit⟩
    rw [← List.cons_append, ← List.append_assoc, ← htake, List.take_append_drop]
  · rintro ⟨before, after, rfl, hlength, hbefore, hdigit⟩
    refine ⟨by simpa using hdigit, before, after.take (5 - before.length), ?_,
      by simpa using hbefore⟩
    have hroom : 6 - before.length = 5 - before.length + 1 := by omega
    rw [List.take_append, List.take_of_length_le (by omega), hroom, List.take_succ_cons]

theorem startsWithDigits_or_firstFault (digits : List Char) :
    StartsWithDigits digits ∨ ∃ digit, FirstFault digits digit := by
  cases hfind : (digits.take 6).find? (fun c => !c.isHexDigit) with
  | none => exact .inl (find?_eq_none_iff_startsWithDigits.1 hfind)
  | some digit => exact .inr ⟨digit, find?_eq_some_iff_firstFault.1 hfind⟩

/-- As many digits as a color has are all judged. -/
theorem startsWithDigits_iff_of_hasDigits (h : HasDigits digits) :
    StartsWithDigits digits ↔ ∀ c ∈ digits, c.isHexDigit = true := by
  have hlength : digits.length ≤ 6 := by
    unfold HasDigits at h
    omega
  rw [StartsWithDigits, List.take_of_length_le hlength]

/-! ## The three answers -/

/-- A text is refused for the first of its leading characters that is no digit. -/
theorem ofHex_of_firstFault (h : FirstFault (dropHash input) digit) :
    ofHex input = .error (.invalidDigit input digit) := by
  simp only [ofHex, find?_eq_some_iff_firstFault.2 h]

/-- Leading digits are judged by the number of all characters. -/
theorem ofHex_of_startsWithDigits (h : StartsWithDigits (dropHash input)) :
    (HasDigits (dropHash input) ∧ ∃ color, ofHex input = .ok color) ∨
      (¬ HasDigits (dropHash input) ∧
        ofHex input = .error (.invalidLength input (dropHash input).length)) := by
  simp only [ofHex, find?_eq_none_iff_startsWithDigits.2 h]
  generalize dropHash input = digits
  split
  · exact .inl ⟨.inl rfl, _, rfl⟩
  · exact .inl ⟨.inr rfl, _, rfl⟩
  · rename_i hthree hsix
    refine .inr ⟨?_, rfl⟩
    intro hdigits
    match digits, hdigits, hthree, hsix with
    | [r, g, b], _, hthree, _ => exact hthree r g b rfl
    | [r, r', g, g', b, b'], _, _, hsix => exact hsix r r' g g' b b' rfl

/-- Digits are a color, or else refused for their number. -/
theorem ofHex_of_digits (h : ∀ c ∈ digits, c.isHexDigit = true) :
    (HasDigits digits ∧ ∃ color, color.IsSpelled digits ∧ ofHex digits = .ok color) ∨
      (¬ HasDigits digits ∧ ofHex digits = .error (.invalidLength digits digits.length)) := by
  have hhash := dropHash_of_digits h
  have hstarts : StartsWithDigits (dropHash digits) := by
    rw [hhash]
    exact fun c hc => h c (List.mem_of_mem_take hc)
  obtain ⟨hcount, color, hread⟩ | ⟨hcount, hread⟩ := ofHex_of_startsWithDigits hstarts
  · have hspelled := isSpelled_of_ofHex hread
    rw [hhash] at hcount hspelled
    exact .inl ⟨hcount, color, hspelled, hread⟩
  · rw [hhash] at hcount hread
    exact .inr ⟨hcount, hread⟩

/-- Three or six digits are a color. -/
theorem exists_ofHex_eq_ok_iff :
    (∃ color, ofHex input = .ok color) ↔
      HasDigits (dropHash input) ∧ ∀ c ∈ dropHash input, c.isHexDigit = true := by
  constructor
  · rintro ⟨color, h⟩
    have hspelled := isSpelled_of_ofHex h
    exact ⟨hspelled.hasDigits, hspelled.isHexDigit⟩
  · rintro ⟨hcount, hdigits⟩
    obtain ⟨-, h⟩ | ⟨hwrong, -⟩ :=
      ofHex_of_startsWithDigits ((startsWithDigits_iff_of_hasDigits hcount).2 hdigits)
    · exact h
    · exact absurd hcount hwrong

theorem ofHex_eq_invalidDigit_iff {text : List Char} :
    ofHex input = .error (.invalidDigit text digit) ↔
      text = input ∧ FirstFault (dropHash input) digit := by
  constructor
  · intro h
    obtain hstarts | ⟨first, hfault⟩ := startsWithDigits_or_firstFault (dropHash input)
    · obtain ⟨-, color, hread⟩ | ⟨-, hread⟩ := ofHex_of_startsWithDigits hstarts <;>
        rw [hread] at h <;> cases h
    · rw [ofHex_of_firstFault hfault] at h
      cases h
      exact ⟨rfl, hfault⟩
  · rintro ⟨rfl, hfault⟩
    exact ofHex_of_firstFault hfault

theorem ofHex_eq_invalidLength_iff {text : List Char} {length : Nat} :
    ofHex input = .error (.invalidLength text length) ↔
      text = input ∧ length = (dropHash input).length ∧ StartsWithDigits (dropHash input) ∧
        ¬ HasDigits (dropHash input) := by
  constructor
  · intro h
    obtain hstarts | ⟨first, hfault⟩ := startsWithDigits_or_firstFault (dropHash input)
    · obtain ⟨-, color, hread⟩ | ⟨hcount, hread⟩ := ofHex_of_startsWithDigits hstarts
      · rw [hread] at h
        cases h
      · rw [hread] at h
        cases h
        exact ⟨rfl, rfl, hstarts, hcount⟩
    · rw [ofHex_of_firstFault hfault] at h
      cases h
  · rintro ⟨rfl, rfl, hstarts, hcount⟩
    obtain ⟨hright, -⟩ | ⟨-, hread⟩ := ofHex_of_startsWithDigits hstarts
    · exact absurd hright hcount
    · exact hread

/-- A text is a color exactly if three or six digits are left without the `#` in
front, and it is the color that these spell; no two digits exceed a channel.  It
is refused for a character exactly if that is the first one that is no digit and
one of the leading six, and for its length exactly if the leading six are digits
and there are neither three nor six characters. -/
theorem ofHex_answers (input : List Char) :
    ((∃ color, ofHex input = .ok color) ↔
        HasDigits (dropHash input) ∧ ∀ c ∈ dropHash input, c.isHexDigit = true) ∧
      (∀ color, ofHex input = .ok color ↔ color.IsSpelled (dropHash input)) ∧
      (∀ high low : Char, high.isHexDigit = true → low.isHexDigit = true →
        (channelOf high low).toNat = 16 * hexValue high + hexValue low) ∧
      (∀ text digit, ofHex input = .error (.invalidDigit text digit) ↔
        text = input ∧ FirstFault (dropHash input) digit) ∧
      ∀ text length, ofHex input = .error (.invalidLength text length) ↔
        text = input ∧ length = (dropHash input).length ∧
          StartsWithDigits (dropHash input) ∧ ¬ HasDigits (dropHash input) :=
  ⟨exists_ofHex_eq_ok_iff, fun _ => ofHex_eq_ok_iff,
    fun _ _ hhigh hlow => (isChannel_channelOf hhigh hlow).value,
    fun _ _ => ofHex_eq_invalidDigit_iff, fun _ _ => ofHex_eq_invalidLength_iff⟩

/-- A seventh character is only counted, and a second `#` is no digit. -/
example : ofHex "#12345ég".toList = .error (.invalidDigit "#12345ég".toList 'é') ∧
    ofHex "123456é".toList = .error (.invalidLength "123456é".toList 7) ∧
    ofHex "##12345".toList = .error (.invalidDigit "##12345".toList '#') :=
  ⟨rfl, rfl, rfl⟩

end ColorMarkup.Color
