import ColorMarkup.Tag.Part

/-!
# ColorMarkup.Proofs.Tag.Part

What the readers of tag parts accept, in both directions:

1. what a reader takes is well formed: its runs are not empty and hold
   characters of their class only (`IsRun`, `Fraction.WellFormed`);
2. a well-formed part reads back from its spelling, whatever stands after the
   tag.  A part is always followed by a colon or by the closing bracket
   (`AtPartEnd`), neither of which can extend it, so the readers lose nothing
   by never giving a character back.
-/

namespace ColorMarkup

/-- A mapped result comes from a result. -/
theorem exists_of_map_eq_ok {ε α β : Type} {f : α → β} {result : Except ε α} {b : β}
    (h : result.map f = .ok b) : ∃ a, result = .ok a ∧ f a = b := by
  cases result with
  | error error => cases h
  | ok a => exact ⟨a, rfl, Except.ok.inj h⟩

/-- A mapped failure is a failure. -/
theorem map_eq_error_iff {ε α β : Type} {f : α → β} {result : Except ε α} {error : ε} :
    result.map f = .error error ↔ result = .error error := by
  cases result <;> simp [Except.map]

/-! ## Runs -/

/-- A run of characters of a class, at least one. -/
def IsRun (isMember : Char → Bool) (run : List Char) : Prop :=
  run ≠ [] ∧ ∀ c ∈ run, isMember c = true

theorem isRun_of_readRun {isMember : Char → Bool} {text run rest : List Char}
    (h : readRun isMember text = some (run, rest)) : IsRun isMember run := by
  refine ⟨(eq_append_of_readRun h).1, ?_⟩
  unfold readRun at h
  split at h
  · cases h
  · cases h
    have hall := List.all_takeWhile (p := isMember) (l := text)
    rwa [List.all_eq_true] at hall

/-- Members of a class are split off where a character of another class stands. -/
theorem takeWhile_dropWhile_append {isMember : Char → Bool} {run rest : List Char}
    (hrun : ∀ c ∈ run, isMember c = true) (hrest : ∀ c ∈ rest.head?, isMember c = false) :
    (run ++ rest).takeWhile isMember = run ∧ (run ++ rest).dropWhile isMember = rest := by
  rw [List.takeWhile_append_of_pos hrun, List.dropWhile_append_of_pos hrun]
  cases rest with
  | nil => exact ⟨List.append_nil run, rfl⟩
  | cons c rest =>
      have hc : ¬ isMember c = true := by simp [hrest c rfl]
      rw [List.takeWhile_cons_of_neg hc, List.dropWhile_cons_of_neg hc, List.append_nil]
      exact ⟨rfl, rfl⟩

/-- A run ends where a character of another class stands. -/
theorem readRun_append {isMember : Char → Bool} {run rest : List Char}
    (hrun : IsRun isMember run) (hrest : ∀ c ∈ rest.head?, isMember c = false) :
    readRun isMember (run ++ rest) = some (run, rest) := by
  obtain ⟨hne, hall⟩ := hrun
  obtain ⟨htake, hdrop⟩ := takeWhile_dropWhile_append hall hrest
  unfold readRun
  rw [htake, hdrop]
  cases run with
  | nil => contradiction
  | cons c run => rfl

/-! ## Where parts end -/

/-- A text at the end of a tag part: before a colon or the closing bracket. -/
def AtPartEnd (text : List Char) : Prop :=
  ∃ rest, text = ':' :: rest ∨ text = '>' :: rest

namespace AtPartEnd

/-- Neither of the two characters belongs to a class that holds no sign. -/
theorem head?_of {isMember : Char → Bool} {text : List Char} (h : AtPartEnd text)
    (hcolon : isMember ':' = false) (hclose : isMember '>' = false) :
    ∀ c ∈ text.head?, isMember c = false := by
  obtain ⟨rest, rfl | rfl⟩ := h <;> simp [hcolon, hclose]

theorem loopText_append (loop : Option LoopFlag) (rest : List Char) :
    AtPartEnd (loopText loop ++ '>' :: rest) := by
  cases loop with
  | none => exact ⟨rest, .inr rfl⟩
  | some flag => cases flag <;> exact ⟨_, .inl rfl⟩

theorem levelText_append {rest : List Char} (level : Option Fraction) (h : AtPartEnd rest) :
    AtPartEnd (levelText level ++ rest) := by
  cases level with
  | none => exact h
  | some fraction => exact ⟨_, .inl rfl⟩

theorem stopsText_append {rest : List Char} (stops : List (List Char)) (h : AtPartEnd rest) :
    AtPartEnd (stopsText stops ++ rest) := by
  cases stops with
  | nil => exact h
  | cons digits stops => exact ⟨_, .inl rfl⟩

end AtPartEnd

/-! ## Names -/

/-- A name reads back unless the long spelling also fits. -/
theorem readName_append {long short rest : List Char} {isLong : Bool}
    (h : isLong = false → long.isPrefixOf (short ++ rest) = false) :
    readName long short (nameText long short isLong ++ rest) = .ok (isLong, rest) := by
  have hprefix (word : List Char) : word.isPrefixOf (word ++ rest) = true :=
    List.isPrefixOf_iff_prefix.2 (List.prefix_append word rest)
  cases isLong with
  | true =>
      simp only [readName, nameText, if_pos, hprefix, List.drop_left]
  | false =>
      simp only [readName, nameText, Bool.false_eq_true, if_false, h rfl, if_pos, hprefix,
        List.drop_left]

/-! ## Speeds -/

theorem isRun_of_readSpeed {text rest : List Char} {speed : Option (List Char)}
    (h : readSpeed text = (speed, rest)) : ∀ digits ∈ speed, IsRun Char.isDigit digits := by
  unfold readSpeed at h
  split at h
  · split at h
    · rename_i hrun
      cases h
      rintro digits ⟨⟩
      exact isRun_of_readRun hrun
    · cases h
      simp
  · cases h
    simp

theorem readSpeed_append {speed : Option (List Char)} {rest : List Char}
    (hspeed : ∀ digits ∈ speed, IsRun Char.isDigit digits) (hrest : AtPartEnd rest) :
    readSpeed (speedText speed ++ rest) = (speed, rest) := by
  cases speed with
  | none =>
      obtain ⟨rest, rfl | rfl⟩ := hrest <;> rfl
  | some digits =>
      have hrun := readRun_append (hspeed digits rfl) (hrest.head?_of rfl rfl)
      simp [speedText, readSpeed, hrun]

/-! ## Color stops -/

theorem isRun_of_readStop {text digits rest : List Char}
    (h : readStop text = .ok (digits, rest)) : IsRun Char.isHexDigit digits := by
  unfold readStop at h
  split at h
  · split at h
    · rename_i hrun
      cases h
      exact isRun_of_readRun hrun
    · cases h
  · cases h

theorem isRun_of_readStops {text rest : List Char} {stops : List (List Char)}
    (h : readStops text = (stops, rest)) : ∀ digits ∈ stops, IsRun Char.isHexDigit digits := by
  fun_induction readStops text generalizing stops rest with
  | case1 => cases h; simp
  | case2 text digits after hstop stops' rest' hstops ih =>
      cases h
      intro digits' hmem
      rcases List.mem_cons.1 hmem with rfl | hmem
      · exact isRun_of_readStop hstop
      · exact ih hstops _ hmem

theorem readStop_append {digits rest : List Char} (hdigits : IsRun Char.isHexDigit digits)
    (hrest : AtPartEnd rest) : readStop (stopText digits ++ rest) = .ok (digits, rest) := by
  have hrun := readRun_append hdigits (hrest.head?_of rfl rfl)
  simp [stopText, readStop, hrun]

/-- After the last stop there is none: a loop flag does not start like one. -/
theorem readStop_loopText_append (loop : Option LoopFlag) (rest : List Char) :
    readStop (loopText loop ++ '>' :: rest) = .error .word := by
  cases loop with
  | none => rfl
  | some flag => cases flag <;> rfl

theorem readStops_append {stops : List (List Char)}
    (hstops : ∀ digits ∈ stops, IsRun Char.isHexDigit digits) (loop : Option LoopFlag)
    (rest : List Char) :
    readStops (stopsText stops ++ (loopText loop ++ '>' :: rest)) =
      (stops, loopText loop ++ '>' :: rest) := by
  induction stops with
  | nil =>
      rw [readStops]
      split
      · rfl
      · rename_i hstop
        simp [stopsText, readStop_loopText_append] at hstop
  | cons digits stops ih =>
      have hend := AtPartEnd.stopsText_append stops (.loopText_append loop rest)
      have hread := readStop_append (hstops digits List.mem_cons_self) hend
      have hrest := ih fun digits' hmem => hstops digits' (List.mem_cons_of_mem _ hmem)
      have htext : stopsText (digits :: stops) ++ (loopText loop ++ '>' :: rest) =
          stopText digits ++ (stopsText stops ++ (loopText loop ++ '>' :: rest)) := by
        simp [stopsText]
      rw [htext, readStops]
      split
      · rename_i hstop
        rw [hread] at hstop
        cases hstop
      · rename_i hstop
        rw [hread] at hstop
        cases hstop
        rw [hrest]

/-! ## Fractions -/

/-- A fraction has digits before the point, after it, or both. -/
structure Fraction.WellFormed (fraction : Fraction) : Prop where
  whole : ∀ c ∈ fraction.whole, c.isDigit = true
  places : ∀ digits ∈ fraction.places, IsRun Char.isDigit digits
  hasDigits : fraction.whole = [] → fraction.places ≠ none

theorem isRun_of_readPlaces {text digits rest : List Char}
    (h : readPlaces text = some (digits, rest)) : IsRun Char.isDigit digits := by
  unfold readPlaces at h
  split at h
  · exact isRun_of_readRun h
  · cases h

theorem wellFormed_of_readFraction {text rest : List Char} {fraction : Fraction}
    (h : readFraction text = some (fraction, rest)) : fraction.WellFormed := by
  unfold readFraction at h
  split at h
  · rename_i hrun
    obtain ⟨hne, hall⟩ := isRun_of_readRun hrun
    split at h
    · rename_i hplaces
      cases h
      exact ⟨hall, by rintro _ ⟨⟩; exact isRun_of_readPlaces hplaces, fun hnil => absurd hnil hne⟩
    · cases h
      exact ⟨hall, by simp, fun hnil => absurd hnil hne⟩
  · split at h
    · rename_i hplaces
      cases h
      exact ⟨by simp, by rintro _ ⟨⟩; exact isRun_of_readPlaces hplaces, by simp⟩
    · cases h

/-- No digits after a part's end: there is no point. -/
theorem readPlaces_of_atPartEnd {text : List Char} (h : AtPartEnd text) :
    readPlaces text = none := by
  obtain ⟨rest, rfl | rfl⟩ := h <;> rfl

theorem readPlaces_append {digits rest : List Char} (hdigits : IsRun Char.isDigit digits)
    (hrest : AtPartEnd rest) : readPlaces ('.' :: (digits ++ rest)) = some (digits, rest) :=
  readRun_append hdigits (hrest.head?_of rfl rfl)

theorem readFraction_append {fraction : Fraction} {rest : List Char}
    (hfraction : fraction.WellFormed) (hrest : AtPartEnd rest) :
    readFraction (fraction.toText ++ rest) = some (fraction, rest) := by
  obtain ⟨whole, places⟩ := fraction
  obtain ⟨hwhole, hplaces, hdigits⟩ := hfraction
  cases places with
  | none =>
      have hrun : IsRun Char.isDigit whole := ⟨fun hnil => hdigits hnil rfl, hwhole⟩
      have hread := readRun_append hrun (hrest.head?_of rfl rfl)
      simp [Fraction.toText, readFraction, hread, readPlaces_of_atPartEnd hrest]
  | some digits =>
      have hread := readPlaces_append (hplaces digits rfl) hrest
      cases whole with
      | nil =>
          have hnone : readRun Char.isDigit ('.' :: (digits ++ rest)) = none := rfl
          simp [Fraction.toText, readFraction, hread, hnone]
      | cons c whole =>
          have hrun : IsRun Char.isDigit (c :: whole) := ⟨by simp, hwhole⟩
          have hwholeRead : readRun Char.isDigit (c :: (whole ++ '.' :: (digits ++ rest))) =
              some (c :: whole, '.' :: (digits ++ rest)) := readRun_append hrun (by simp)
          simp [Fraction.toText, readFraction, hwholeRead, hread]

/-! ## Levels -/

theorem wellFormed_of_readLevel {text rest : List Char} {level : Option Fraction}
    (h : readLevel text = (level, rest)) : ∀ fraction ∈ level, fraction.WellFormed := by
  unfold readLevel at h
  split at h
  · split at h
    · rename_i hfraction
      cases h
      rintro fraction ⟨⟩
      exact wellFormed_of_readFraction hfraction
    · cases h
      simp
  · cases h
    simp

theorem readLevel_append {fraction : Fraction} {rest : List Char}
    (hfraction : fraction.WellFormed) (hrest : AtPartEnd rest) :
    readLevel (levelText (some fraction) ++ rest) = (some fraction, rest) := by
  simp [levelText, readLevel, readFraction_append hfraction hrest]

/-- A loop flag does not start like a level. -/
theorem readLevel_loopText_append (loop : Option LoopFlag) (rest : List Char) :
    readLevel (loopText loop ++ '>' :: rest) = (none, loopText loop ++ '>' :: rest) := by
  cases loop with
  | none => rfl
  | some flag => cases flag <;> rfl

/-! ## Loop flags -/

theorem readLoop_append (loop : Option LoopFlag) (rest : List Char) :
    readLoop (loopText loop ++ '>' :: rest) = (loop, '>' :: rest) := by
  cases loop with
  | none => rfl
  | some flag => cases flag <;> rfl

end ColorMarkup
