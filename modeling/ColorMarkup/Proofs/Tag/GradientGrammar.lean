import ColorMarkup.Proofs.Color.Refusal
import ColorMarkup.Proofs.Tag.Gradient
import ColorMarkup.Proofs.Tag.Number

/-!
# ColorMarkup.Proofs.Tag.GradientGrammar

What the open tag of a gradient means.

1. A well-formed tag asks for one gradient (`GradientTag.AsksFor`), or it is
   refused for the first of three reasons: a single stop, a stop with a number of
   digits that no color has, a speed that is too large (`GradientTag.IsRefused`).
2. Every gradient with two stops has a tag that asks for it (`Gradient.tag`).
3. A text that does not start with a well-formed tag is malformed, and there is
   no other reason to call it so.

`Gradient.gradientTag_grammar` puts these together.
-/

namespace ColorMarkup

/-! ## Lists of results -/

section Results

variable {ε α β : Type} {f : α → Except ε β}

/-- A list has results if all its members do. -/
theorem mapM_eq_ok_iff {as : List α} {bs : List β} :
    as.mapM f = .ok bs ↔ List.Forall₂ (fun b a => f a = .ok b) bs as := by
  induction as generalizing bs with
  | nil => simp [pure, Except.pure, eq_comm]
  | cons a as ih =>
      rw [List.mapM_cons]
      cases hfirst : f a with
      | error error => simp [bind, Except.bind, List.forall₂_cons_right_iff, hfirst]
      | ok b =>
          cases hothers : as.mapM f with
          | error error =>
              simp [bind, Except.bind, List.forall₂_cons_right_iff, hfirst, ← ih, hothers]
          | ok bs' =>
              simp [bind, Except.bind, pure, Except.pure, List.forall₂_cons_right_iff, hfirst,
                ← ih, hothers, eq_comm]

/-- A list fails with the first of its members that does. -/
theorem mapM_eq_error_iff {as : List α} {error : ε} :
    as.mapM f = .error error ↔
      ∃ before a after, as = before ++ a :: after ∧ (∀ x ∈ before, ∃ b, f x = .ok b) ∧
        f a = .error error := by
  induction as with
  | nil => simp [pure, Except.pure]
  | cons a as ih =>
      rw [List.mapM_cons]
      constructor
      · intro h
        cases hfirst : f a with
        | error error' =>
            simp only [hfirst, bind, Except.bind] at h
            cases h
            exact ⟨[], a, as, rfl, by simp, hfirst⟩
        | ok b =>
            cases hothers : as.mapM f with
            | ok bs => simp [hfirst, hothers, bind, Except.bind, pure, Except.pure] at h
            | error error' =>
                simp only [hfirst, hothers, bind, Except.bind] at h
                obtain ⟨before, a', after, rfl, hbefore, ha'⟩ := ih.1 (hothers.trans h)
                refine ⟨a :: before, a', after, rfl, ?_, ha'⟩
                intro x hx
                rcases List.mem_cons.1 hx with rfl | hx
                · exact ⟨b, hfirst⟩
                · exact hbefore x hx
      · rintro ⟨before, a', after, heq, hbefore, ha'⟩
        cases before with
        | nil =>
            cases heq
            simp [ha', bind, Except.bind]
        | cons first before =>
            cases heq
            obtain ⟨b, hb⟩ := hbefore a List.mem_cons_self
            have hothers := ih.2
              ⟨before, a', after, rfl, fun x hx => hbefore x (List.mem_cons_of_mem _ hx), ha'⟩
            simp only [hb, hothers, bind, Except.bind]

end Results

/-! ## Meaning -/

/-- Stops are colors if all of them are spelled with three or six digits. -/
theorem mapM_ofHex_eq_ok_iff {stops : List (List Char)} {colors : List Color}
    (h : ∀ digits ∈ stops, IsRun Char.isHexDigit digits) :
    stops.mapM Color.ofHex = .ok colors ↔ List.Forall₂ Color.IsSpelled colors stops := by
  rw [mapM_eq_ok_iff]
  induction stops generalizing colors with
  | nil => simp
  | cons digits stops ih =>
      obtain ⟨hdigits, hstops⟩ := List.forall_mem_cons.1 h
      have hfirst (color : Color) : Color.ofHex digits = .ok color ↔ color.IsSpelled digits := by
        rw [Color.ofHex_eq_ok_iff, dropHash_of_digits hdigits.2]
      simp only [List.forall₂_cons_right_iff, hfirst, ih hstops]

theorem hasDigits_of_forall₂ {stops : List (List Char)} {colors : List Color}
    (h : List.Forall₂ Color.IsSpelled colors stops) : ∀ digits ∈ stops, Color.HasDigits digits := by
  induction h with
  | nil => simp
  | cons hfirst _ ih => exact List.forall_mem_cons.2 ⟨hfirst.hasDigits, ih⟩

/-- Stops are refused for the first of them that has another number of digits. -/
theorem mapM_ofHex_eq_error_iff {stops : List (List Char)} {error : ColorError}
    (h : ∀ digits ∈ stops, IsRun Char.isHexDigit digits) :
    stops.mapM Color.ofHex = .error error ↔
      ∃ before digits after, stops = before ++ digits :: after ∧
        (∀ others ∈ before, Color.HasDigits others) ∧ ¬ Color.HasDigits digits ∧
        error = .invalidLength digits digits.length := by
  rw [mapM_eq_error_iff]
  refine exists_congr fun before => exists_congr fun digits => exists_congr fun after =>
    and_congr_right ?_
  rintro rfl
  have hbefore : ∀ others ∈ before, ((∃ color, Color.ofHex others = .ok color) ↔
      Color.HasDigits others) := by
    intro others hmem
    have hrun := h others (by simp [hmem])
    rcases Color.ofHex_of_digits hrun.2 with ⟨hhas, color, -, hread⟩ | ⟨hhas, hread⟩ <;>
      simp [hread, hhas]
  have hdigits : Color.ofHex digits = .error error ↔
      ¬ Color.HasDigits digits ∧ error = .invalidLength digits digits.length := by
    have hrun := h digits (by simp)
    rcases Color.ofHex_of_digits hrun.2 with ⟨hhas, color, -, hread⟩ | ⟨hhas, hread⟩ <;>
      simp [hread, hhas, eq_comm]
  rw [hdigits]
  exact and_congr_left' (forall₂_congr hbefore)

namespace GradientTag

/-- The gradient that a tag asks for: the colors that its stops spell, in their
order, the speed that its digits stand for, and whether it has the flag. -/
structure AsksFor (tag : GradientTag) (gradient : Gradient) : Prop where
  two_le : 2 ≤ tag.stops.length
  stops : List.Forall₂ Color.IsSpelled gradient.stops tag.stops
  speed : gradient.speed.toNat = speedValue tag.speed
  looping : gradient.looping = tag.loop.isSome

/-- Why a tag asks for nothing.  The number of stops comes first, then the
stops from the first one on, and the speed comes last. -/
inductive IsRefused (tag : GradientTag) : TagError → Prop
  | tooFewStops (h : tag.stops.length = 1) : IsRefused tag (.tooFewStops 1)
  | invalidStop {before after : List (List Char)} {digits : List Char}
      (two_le : 2 ≤ tag.stops.length) (stops : tag.stops = before ++ digits :: after)
      (isFirst : ∀ others ∈ before, Color.HasDigits others) (h : ¬ Color.HasDigits digits) :
      IsRefused tag (.invalidStop (.invalidLength digits digits.length))
  | invalidNumber {digits : List Char} (two_le : 2 ≤ tag.stops.length)
      (stops : ∀ others ∈ tag.stops, Color.HasDigits others) (speed : tag.speed = some digits)
      (h : 2 ^ 32 ≤ Nat.ofDigitChars 10 digits 0) : IsRefused tag (.invalidNumber digits)

/-- The stops are asked about before the speed. -/
theorem gradient_of_two_le {tag : GradientTag} (h : 2 ≤ tag.stops.length) :
    tag.gradient =
      match tag.stops.mapM Color.ofHex with
      | .error error => .error (.invalidStop error)
      | .ok colors => (speedOf tag.speed).map fun speed => ⟨colors, speed, tag.loop.isSome⟩ := by
  unfold gradient
  rw [if_neg (by omega)]
  cases tag.stops.mapM Color.ofHex with
  | error error => rfl
  | ok colors => cases speedOf tag.speed <;> rfl

/-- A single stop is refused at once. -/
theorem gradient_of_length_eq_one {tag : GradientTag} (h : tag.stops.length = 1) :
    tag.gradient = .error (.tooFewStops 1) := by
  unfold gradient
  rw [if_pos (by omega), h]
  rfl

theorem WellFormed.one_le {tag : GradientTag} (h : tag.WellFormed) : 1 ≤ tag.stops.length :=
  List.length_pos_iff.2 h.hasStop

/-- A tag gives the gradient that it asks for. -/
theorem gradient_eq_ok_iff {tag : GradientTag} (hwell : tag.WellFormed) {gradient : Gradient} :
    tag.gradient = .ok gradient ↔ tag.AsksFor gradient := by
  constructor
  · intro h
    by_cases htwo : 2 ≤ tag.stops.length
    · rw [gradient_of_two_le htwo] at h
      cases hcolors : tag.stops.mapM Color.ofHex with
      | error error =>
          rw [hcolors] at h
          cases h
      | ok colors =>
          rw [hcolors] at h
          obtain ⟨speed, hspeed, rfl⟩ := exists_of_map_eq_ok h
          exact ⟨htwo, (mapM_ofHex_eq_ok_iff hwell.stops).1 hcolors, speedOf_eq_ok_iff.1 hspeed,
            rfl⟩
    · have hone := hwell.one_le
      rw [gradient_of_length_eq_one (by omega)] at h
      cases h
  · intro h
    rw [gradient_of_two_le h.two_le, (mapM_ofHex_eq_ok_iff hwell.stops).2 h.stops,
      speedOf_eq_ok_iff.2 h.speed, ← h.looping]
    rfl

/-- A tag is refused for its reason. -/
theorem gradient_eq_error_iff {tag : GradientTag} (hwell : tag.WellFormed) {error : TagError} :
    tag.gradient = .error error ↔ tag.IsRefused error := by
  constructor
  · intro h
    by_cases htwo : 2 ≤ tag.stops.length
    · rw [gradient_of_two_le htwo] at h
      cases hcolors : tag.stops.mapM Color.ofHex with
      | error colorError =>
          rw [hcolors] at h
          cases h
          obtain ⟨before, digits, after, hstops, hfirst, hlength, rfl⟩ :=
            (mapM_ofHex_eq_error_iff hwell.stops).1 hcolors
          exact .invalidStop htwo hstops hfirst hlength
      | ok colors =>
          rw [hcolors] at h
          obtain ⟨digits, hspeed, hlarge, rfl⟩ := speedOf_eq_error_iff.1 (map_eq_error_iff.1 h)
          exact .invalidNumber htwo
            (hasDigits_of_forall₂ ((mapM_ofHex_eq_ok_iff hwell.stops).1 hcolors)) hspeed hlarge
    · have hone := hwell.one_le
      rw [gradient_of_length_eq_one (by omega)] at h
      cases h
      exact .tooFewStops (by omega)
  · intro h
    cases h with
    | tooFewStops h => exact gradient_of_length_eq_one h
    | invalidStop htwo hstops hfirst hlength =>
        rw [gradient_of_two_le htwo, (mapM_ofHex_eq_error_iff hwell.stops).2
          ⟨_, _, _, hstops, hfirst, hlength, rfl⟩]
    | invalidNumber htwo hstops hspeed hlarge =>
        rw [gradient_of_two_le htwo]
        cases hcolors : tag.stops.mapM Color.ofHex with
        | ok colors => exact map_eq_error_iff.2 (speedOf_eq_error_iff.2 ⟨_, hspeed, hlarge, rfl⟩)
        | error colorError =>
            obtain ⟨before, digits, after, heq, -, hlength, -⟩ :=
              (mapM_ofHex_eq_error_iff hwell.stops).1 hcolors
            exact absurd (hstops digits (by simp [heq])) hlength

end GradientTag

namespace Gradient

/-! ## Writing -/

/-- A tag for a gradient, with the name and the spelling of the flag left open. -/
def tag (gradient : Gradient) (isLong : Bool) (flag : LoopFlag) : GradientTag where
  isLong := isLong
  speed := some (Nat.toDigits 10 gradient.speed.toNat)
  stops := gradient.stops.map Color.hexDigits
  loop := if gradient.looping then some flag else none

theorem wellFormed_tag {gradient : Gradient} (h : gradient.stops ≠ []) (isLong : Bool)
    (flag : LoopFlag) : (gradient.tag isLong flag).WellFormed := by
  refine ⟨?_, ?_, ?_⟩
  · rintro digits ⟨⟩
    exact isRun_toDigits _
  · intro digits hmem
    obtain ⟨color, -, rfl⟩ := List.mem_map.1 hmem
    exact ⟨by simp [Color.hexDigits, Color.channelDigits], color.isSpelled_hexDigits.isHexDigit⟩
  · simpa [tag] using h

/-- The tag that is written for a gradient asks for it. -/
theorem asksFor_tag {gradient : Gradient} (h : 2 ≤ gradient.stops.length) (isLong : Bool)
    (flag : LoopFlag) : (gradient.tag isLong flag).AsksFor gradient := by
  refine ⟨?_, ?_, ?_, ?_⟩
  · simpa [tag] using h
  · rw [tag, List.forall₂_map_right_iff, List.forall₂_same]
    exact fun color _ => color.isSpelled_hexDigits
  · exact (speedValue_toDigits _).symm
  · cases hloop : gradient.looping <;> simp [tag, hloop]

/-! ## Reading -/

/-- What the spelling of a well-formed tag is read as. -/
theorem readTag_of_wellFormed {tag : GradientTag} (h : tag.WellFormed) (rest : List Char) :
    readTag (tag.toText ++ rest) =
      tag.gradient.map fun gradient => ⟨gradient, tag.toText, rest⟩ := by
  rw [readTag, GradientTag.read_append h]

/-- A text is malformed if it does not start with a well-formed tag. -/
theorem exists_readTag_eq_ofFault_iff {text : List Char} :
    (∃ fault, readTag text = .error (.ofFault fault text)) ↔
      ¬ ∃ (tag : GradientTag) (rest : List Char), tag.WellFormed ∧ text = tag.toText ++ rest := by
  constructor
  · rintro ⟨fault, h⟩ ⟨tag, rest, hwell, rfl⟩
    rw [readTag_of_wellFormed hwell, map_eq_error_iff,
      GradientTag.gradient_eq_error_iff hwell] at h
    cases h
  · intro h
    unfold readTag
    cases hread : GradientTag.read text with
    | error fault => exact ⟨fault, rfl⟩
    | ok shape =>
        obtain ⟨tag, rest⟩ := shape
        exact absurd ⟨tag, rest, GradientTag.read_eq_ok_iff.1 hread⟩ h

/-- The open tag of a gradient is read exactly where the spelling of a tag
stands that asks for one, whatever follows it, and every gradient of two stops
has such a spelling.  Any other text is malformed if it does not start with a
well-formed tag, and otherwise it is refused for the reason that this tag has. -/
theorem gradientTag_grammar (text : List Char) :
    (∀ reading : Reading Gradient, readTag text = .ok reading ↔
      ∃ tag : GradientTag, tag.WellFormed ∧ tag.AsksFor reading.value ∧
        reading.text = tag.toText ∧ reading.Parts text) ∧
    (∀ (gradient : Gradient) (isLong : Bool) (flag : LoopFlag), 2 ≤ gradient.stops.length →
      readTag ((gradient.tag isLong flag).toText ++ text) =
        .ok ⟨gradient, (gradient.tag isLong flag).toText, text⟩) ∧
    ((∃ fault, readTag text = .error (.ofFault fault text)) ↔
      ¬ ∃ (tag : GradientTag) (rest : List Char), tag.WellFormed ∧ text = tag.toText ++ rest) ∧
    (∀ (tag : GradientTag) (rest : List Char), tag.WellFormed → text = tag.toText ++ rest →
      ∀ error, readTag text = .error error ↔ tag.IsRefused error) := by
  refine ⟨?_, ?_, exists_readTag_eq_ofFault_iff, ?_⟩
  · intro reading
    rw [readTag_eq_ok_iff]
    refine exists_congr fun tag => and_congr_right fun hwell => ?_
    rw [GradientTag.gradient_eq_ok_iff hwell]
  · intro gradient isLong flag h
    have hne : gradient.stops ≠ [] := List.ne_nil_of_length_pos (by omega)
    have hwell := wellFormed_tag hne isLong flag
    have hgradient := (GradientTag.gradient_eq_ok_iff hwell).2 (asksFor_tag h isLong flag)
    rw [readTag_of_wellFormed hwell, hgradient]
    rfl
  · rintro tag rest hwell rfl error
    rw [readTag_of_wellFormed hwell, map_eq_error_iff, GradientTag.gradient_eq_error_iff hwell]

/-- A tag that is written for a gradient reads back in front of one that is
refused for its speed. -/
theorem gradientTag_grammar_overflow :
    readTag "<gradient#3:#FF0000:#0000FF:l><g#4294967296:#000:#fff>".toList =
        .ok ⟨⟨[⟨255, 0, 0⟩, ⟨0, 0, 255⟩], 3, true⟩, "<gradient#3:#FF0000:#0000FF:l>".toList,
          "<g#4294967296:#000:#fff>".toList⟩ ∧
      readTag "<g#4294967296:#000:#fff>".toList = .error (.invalidNumber "4294967296".toList) := by
  obtain ⟨-, hwritten, -, hrefused⟩ := gradientTag_grammar "<g#4294967296:#000:#fff>".toList
  have hwell : GradientTag.WellFormed
      ⟨false, some "4294967296".toList, ["000".toList, "fff".toList], none⟩ := by
    refine ⟨?_, ?_, by simp⟩
    · rintro digits ⟨⟩
      exact ⟨by simp, List.all_eq_true.1 (by decide)⟩
    · rw [List.forall_mem_cons, List.forall_mem_singleton]
      exact ⟨⟨by simp, List.all_eq_true.1 (by decide)⟩, by simp, List.all_eq_true.1 (by decide)⟩
  refine ⟨hwritten ⟨[⟨255, 0, 0⟩, ⟨0, 0, 255⟩], 3, true⟩ true .lower (by decide), ?_⟩
  refine (hrefused _ [] hwell (by decide) _).2 (.invalidNumber (by decide) ?_ rfl (by decide))
  rw [List.forall_mem_cons, List.forall_mem_singleton]
  exact ⟨.inl rfl, .inl rfl⟩

end Gradient

end ColorMarkup
