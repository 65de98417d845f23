import ColorMarkup.Proofs.Tag.Gradient
import ColorMarkup.Proofs.Tag.Rainbow
import ColorMarkup.Proofs.Text.Ascii

/-!
# ColorMarkup.Proofs.Tag.Bracket

What stands between the brackets of a tag.

1. It is made of letters, digits and few signs (`IsMadeOf`): of `#` and `:`, and
   in rainbow tags of points as well.
2. Neither bracket is among them, so a tag ends at the first closing bracket
   (`IsBracketed.eq_takeWhile_append`).
3. A word in brackets holds no sign.  No gradient tag is one, and a rainbow tag
   is one only if it is nothing but its name (`RainbowTag.isBare_of_isWord`).
-/

namespace ColorMarkup

/-! ## Letters, digits and signs -/

/-- A text of letters, digits and certain signs. -/
def IsMadeOf (signs text : List Char) : Prop :=
  ∀ c ∈ text, c.isAlphanum = true ∨ c ∈ signs

instance (signs text : List Char) : Decidable (IsMadeOf signs text) :=
  List.decidableBAll (fun c : Char => c.isAlphanum = true ∨ c ∈ signs) text

theorem isMadeOf_append {signs a b : List Char} :
    IsMadeOf signs (a ++ b) ↔ IsMadeOf signs a ∧ IsMadeOf signs b :=
  List.forall_mem_append

theorem isMadeOf_cons {signs text : List Char} {c : Char} :
    IsMadeOf signs (c :: text) ↔ (c.isAlphanum = true ∨ c ∈ signs) ∧ IsMadeOf signs text :=
  List.forall_mem_cons

/-- Members of a class of letters and digits need no sign. -/
theorem isMadeOf_of_forall {isMember : Char → Bool} {signs text : List Char}
    (h : ∀ c ∈ text, isMember c = true)
    (hmember : ∀ {c : Char}, isMember c = true → c.isAlphanum = true) : IsMadeOf signs text :=
  fun c hc => .inl (hmember (h c hc))

namespace IsMadeOf

variable {signs text : List Char}

theorem mono (h : IsMadeOf signs text) {more : List Char} (hsub : signs ⊆ more) :
    IsMadeOf more text :=
  fun c hc => (h c hc).imp_right fun hsign => hsub hsign

/-- Brackets add themselves to the signs. -/
theorem brackets (h : IsMadeOf signs text) :
    IsMadeOf ('<' :: '>' :: signs) ('<' :: text ++ ['>']) := by
  have hinner : IsMadeOf ('<' :: '>' :: signs) text := h.mono (by simp)
  rw [List.cons_append, isMadeOf_cons, isMadeOf_append, isMadeOf_cons]
  exact ⟨.inr (by simp), hinner, .inr (by simp), List.forall_mem_nil _⟩

end IsMadeOf

/-! ## Parts of tags -/

/-- The signs that start the parts of a tag. -/
def partSigns : List Char := ['#', ':']

/-- The signs of parts and fractions. -/
def fractionSigns : List Char := ['#', ':', '.']

theorem partSigns_subset : partSigns ⊆ fractionSigns := by
  simp [partSigns, fractionSigns]

theorem isMadeOf_speedText {speed : Option (List Char)}
    (h : ∀ digits ∈ speed, IsRun Char.isDigit digits) : IsMadeOf partSigns (speedText speed) := by
  cases speed with
  | none => decide
  | some digits =>
      have hdigits : IsMadeOf partSigns digits :=
        isMadeOf_of_forall (h digits rfl).2 isAlphanum_of_isDigit
      exact isMadeOf_cons.2 ⟨by decide, hdigits⟩

theorem isMadeOf_stopsText {stops : List (List Char)}
    (h : ∀ digits ∈ stops, IsRun Char.isHexDigit digits) :
    IsMadeOf partSigns (stopsText stops) := by
  intro c hc
  obtain ⟨digits, hmem, hc⟩ := List.mem_flatMap.1 hc
  have hdigits : IsMadeOf partSigns digits :=
    isMadeOf_of_forall (h digits hmem).2 isAlphanum_of_isHexDigit
  have hstop : IsMadeOf partSigns (stopText digits) :=
    isMadeOf_cons.2 ⟨by decide, isMadeOf_cons.2 ⟨by decide, hdigits⟩⟩
  exact hstop c hc

theorem isMadeOf_loopText (loop : Option LoopFlag) : IsMadeOf partSigns (loopText loop) := by
  cases loop with
  | none => decide
  | some flag => cases flag <;> decide

theorem isMadeOf_levelText {level : Option Fraction}
    (h : ∀ fraction ∈ level, fraction.WellFormed) : IsMadeOf fractionSigns (levelText level) := by
  cases level with
  | none => decide
  | some fraction =>
      obtain ⟨whole, places⟩ := fraction
      obtain ⟨hwhole, hplaces, -⟩ := h _ rfl
      have hwholeMade : IsMadeOf fractionSigns whole :=
        isMadeOf_of_forall hwhole isAlphanum_of_isDigit
      refine isMadeOf_cons.2 ⟨by decide, isMadeOf_append.2 ⟨hwholeMade, ?_⟩⟩
      cases places with
      | none => exact List.forall_mem_nil _
      | some digits =>
          have hdigits : IsMadeOf fractionSigns digits :=
            isMadeOf_of_forall (hplaces digits rfl).2 isAlphanum_of_isDigit
          exact isMadeOf_cons.2 ⟨by decide, hdigits⟩

/-! ## Tags -/

/-- A text in brackets. -/
def IsBracketed (piece : List Char) : Prop :=
  ∃ inner, IsMadeOf fractionSigns inner ∧ piece = '<' :: inner ++ ['>']

namespace IsBracketed

/-- A text in brackets is what stands before the first closing bracket, and that
bracket, whatever follows. -/
theorem eq_takeWhile_append {piece : List Char} (h : IsBracketed piece) (rest : List Char) :
    piece = (piece ++ rest).takeWhile (· ≠ '>') ++ ['>'] := by
  obtain ⟨inner, hinner, rfl⟩ := h
  have hopen : ∀ c ∈ '<' :: inner, decide (c ≠ '>') = true := by
    rw [List.forall_mem_cons]
    refine ⟨by decide, fun c hc => decide_eq_true ?_⟩
    rintro rfl
    exact absurd (hinner _ hc) (by decide)
  rw [List.append_assoc, (takeWhile_dropWhile_append hopen (by simp)).1]

/-- A text in brackets is ASCII. -/
theorem toNat_lt {piece : List Char} (h : IsBracketed piece) : ∀ c ∈ piece, c.toNat < 128 := by
  obtain ⟨inner, hinner, rfl⟩ := h
  intro c hc
  obtain halpha | hsign := hinner.brackets c hc
  · exact Text.lt_of_isAlphanum halpha
  · simp only [fractionSigns, List.mem_cons, List.not_mem_nil, or_false] at hsign
    obtain rfl | rfl | rfl | rfl | rfl := hsign <;> decide

end IsBracketed

/-- A word in brackets. -/
def IsWord (piece : List Char) : Prop :=
  ∃ word, (∀ c ∈ word, c.isAlphanum = true) ∧ piece = '<' :: word ++ ['>']

theorem IsWord.isBracketed {piece : List Char} (h : IsWord piece) : IsBracketed piece := by
  obtain ⟨word, hword, rfl⟩ := h
  exact ⟨word, isMadeOf_of_forall hword id, rfl⟩

/-- A word in brackets holds no sign. -/
theorem IsWord.isAlphanum {inner : List Char} (h : IsWord ('<' :: inner ++ ['>'])) :
    ∀ c ∈ inner, c.isAlphanum = true := by
  obtain ⟨word, hword, heq⟩ := h
  simp only [List.cons_append, List.cons.injEq, List.append_cancel_right_eq, true_and] at heq
  rwa [heq]

namespace GradientTag

/-- What stands between the brackets. -/
def inner (tag : GradientTag) : List Char :=
  nameText longName shortName tag.isLong ++ speedText tag.speed ++ stopsText tag.stops ++
    loopText tag.loop

theorem toText_eq (tag : GradientTag) : tag.toText = '<' :: tag.inner ++ ['>'] := rfl

theorem isMadeOf_inner {tag : GradientTag} (h : tag.WellFormed) : IsMadeOf partSigns tag.inner := by
  have hname : IsMadeOf partSigns (nameText longName shortName tag.isLong) := by
    cases tag.isLong <;> decide
  simp only [inner, isMadeOf_append]
  exact ⟨⟨⟨hname, isMadeOf_speedText h.speed⟩, isMadeOf_stopsText h.stops⟩,
    isMadeOf_loopText tag.loop⟩

theorem isBracketed_toText {tag : GradientTag} (h : tag.WellFormed) : IsBracketed tag.toText :=
  ⟨tag.inner, (isMadeOf_inner h).mono partSigns_subset, tag.toText_eq⟩

/-- A stop holds signs. -/
theorem not_isWord_toText {tag : GradientTag} (h : tag.WellFormed) : ¬ IsWord tag.toText := by
  intro hword
  obtain ⟨digits, hmem⟩ := List.exists_mem_of_ne_nil _ h.hasStop
  have hcolon : ':' ∈ tag.inner := by
    have hstops : ':' ∈ stopsText tag.stops := List.mem_flatMap.2 ⟨digits, hmem, by simp [stopText]⟩
    simp [inner, hstops]
  have halpha := hword.isAlphanum ':' hcolon
  contradiction

end GradientTag

namespace RainbowTag

@[inherit_doc GradientTag.inner] def inner (tag : RainbowTag) : List Char :=
  nameText longName shortName tag.isLong ++ speedText tag.speed ++ levelText tag.saturation ++
    levelText tag.brightness ++ loopText tag.loop

theorem toText_eq (tag : RainbowTag) : tag.toText = '<' :: tag.inner ++ ['>'] := rfl

theorem isMadeOf_inner {tag : RainbowTag} (h : tag.WellFormed) :
    IsMadeOf fractionSigns tag.inner := by
  have hname : IsMadeOf fractionSigns (nameText longName shortName tag.isLong) := by
    cases tag.isLong <;> decide
  simp only [inner, isMadeOf_append]
  exact ⟨⟨⟨⟨hname, (isMadeOf_speedText h.speed).mono partSigns_subset⟩,
    isMadeOf_levelText h.saturation⟩, isMadeOf_levelText h.brightness⟩,
    (isMadeOf_loopText tag.loop).mono partSigns_subset⟩

theorem isBracketed_toText {tag : RainbowTag} (h : tag.WellFormed) : IsBracketed tag.toText :=
  ⟨tag.inner, isMadeOf_inner h, tag.toText_eq⟩

/-- The spellings of a rainbow tag that is nothing but its name. -/
def IsBare (piece : List Char) : Prop :=
  piece = "<r>".toList ∨ piece = "<rainbow>".toList

/-- A rainbow tag that is a word is nothing but its name: every other part starts
with a sign. -/
theorem isBare_of_isWord {tag : RainbowTag} (h : IsWord tag.toText) : IsBare tag.toText := by
  have halpha : ∀ c ∈ tag.inner, c.isAlphanum = true := h.isAlphanum
  obtain ⟨isLong, speed, saturation, brightness, loop⟩ := tag
  simp only [inner, List.forall_mem_append] at halpha
  obtain ⟨⟨⟨⟨-, hspeed⟩, hsaturation⟩, hbrightness⟩, hloop⟩ := halpha
  have hlevel {level : Option Fraction} (h : ∀ c ∈ levelText level, c.isAlphanum = true) :
      level = none := by
    cases level with
    | none => rfl
    | some fraction => exact absurd (h ':' List.mem_cons_self) (by decide)
  obtain rfl : speed = none := by
    cases speed with
    | none => rfl
    | some digits => exact absurd (hspeed '#' List.mem_cons_self) (by decide)
  obtain rfl := hlevel hsaturation
  obtain rfl := hlevel hbrightness
  obtain rfl : loop = none := by
    cases loop with
    | none => rfl
    | some flag => cases flag <;> exact absurd (hloop ':' List.mem_cons_self) (by decide)
  cases isLong with
  | true => exact .inr rfl
  | false => exact .inl rfl

end RainbowTag

end ColorMarkup
