import ColorMarkup.Binary32.Arithmetic
import ColorMarkup.Tag.Basic

/-!
# ColorMarkup.Tag.Part

The parts that tags are made of.  Each part has a reader, which takes as much
of the text as it can and never gives any of it back, and a spelling.  What a
reader takes is the spelling of what it gives, so the spelling and the rest
are the text again.

An optional part that is not there, or not whole, takes nothing.
-/

namespace ColorMarkup

/-! ## Fixed characters and runs -/

/-- Reads one certain character. -/
def readChar (c : Char) : List Char → Except TagFault (List Char)
  | [] => .error .character
  | d :: rest => if d = c then .ok rest else .error .character

theorem eq_cons_of_readChar {c : Char} {text rest : List Char}
    (h : readChar c text = .ok rest) : text = c :: rest := by
  unfold readChar at h
  split at h
  · cases h
  · split at h
    · cases h; simp_all
    · cases h

/-- Reads the longest run of characters of a class, at least one. -/
def readRun (isMember : Char → Bool) (text : List Char) : Option (List Char × List Char) :=
  match text.takeWhile isMember with
  | [] => none
  | run => some (run, text.dropWhile isMember)

theorem eq_append_of_readRun {isMember : Char → Bool} {text run rest : List Char}
    (h : readRun isMember text = some (run, rest)) : run ≠ [] ∧ text = run ++ rest := by
  unfold readRun at h
  split at h
  · cases h
  · rename_i hne
    cases h
    exact ⟨hne, List.takeWhile_append_dropWhile.symm⟩

/-! ## Whole numbers -/

/-- The greatest speed. -/
def speedLimit : Nat := 0xFFFFFFFF

/-- The speed that digits stand for; none at all stand for zero. -/
def speedOf : Option (List Char) → Except TagError UInt32
  | none => .ok 0
  | some digits =>
    let speed := Nat.ofDigitChars 10 digits 0
    if speed ≤ speedLimit then .ok (UInt32.ofNat speed) else .error (.invalidNumber digits)

/-- Reads a speed: `#` and digits. -/
def readSpeed (text : List Char) : Option (List Char) × List Char :=
  match text with
  | '#' :: after =>
    match readRun Char.isDigit after with
    | some (digits, rest) => (some digits, rest)
    | none => (none, text)
  | _ => (none, text)

/-- A speed as it stands in a tag. -/
def speedText : Option (List Char) → List Char
  | none => []
  | some digits => '#' :: digits

theorem eq_append_of_readSpeed {text rest : List Char} {speed : Option (List Char)}
    (h : readSpeed text = (speed, rest)) : text = speedText speed ++ rest := by
  unfold readSpeed at h
  split at h
  · split at h
    · rename_i hrun
      cases h
      simp [speedText, (eq_append_of_readRun hrun).2]
    · cases h; rfl
  · cases h; rfl

/-! ## Color stops -/

/-- Reads a color stop: `:#` and hexadecimal digits, however many. -/
def readStop : List Char → Except TagFault (List Char × List Char)
  | ':' :: '#' :: after =>
    match readRun Char.isHexDigit after with
    | some stop => .ok stop
    | none => .error .run
  | _ => .error .word

/-- A color stop as it stands in a tag. -/
def stopText (digits : List Char) : List Char :=
  ':' :: '#' :: digits

theorem eq_append_of_readStop {text digits rest : List Char}
    (h : readStop text = .ok (digits, rest)) : text = stopText digits ++ rest := by
  unfold readStop at h
  split at h
  · split at h
    · rename_i hrun
      cases h
      simp [stopText, (eq_append_of_readRun hrun).2]
    · cases h
  · cases h

theorem length_lt_of_readStop {text digits rest : List Char}
    (h : readStop text = .ok (digits, rest)) : rest.length < text.length := by
  rw [eq_append_of_readStop h, stopText, List.length_append, List.length_cons]
  omega

/-- Reads color stops as long as there are any. -/
def readStops (text : List Char) : List (List Char) × List Char :=
  match _h : readStop text with
  | .error _ => ([], text)
  | .ok (digits, after) =>
    let (stops, rest) := readStops after
    (digits :: stops, rest)
termination_by text.length
decreasing_by exact length_lt_of_readStop _h

/-- Color stops as they stand in a tag. -/
def stopsText (stops : List (List Char)) : List Char :=
  stops.flatMap stopText

theorem eq_append_of_readStops {text rest : List Char} {stops : List (List Char)}
    (h : readStops text = (stops, rest)) : text = stopsText stops ++ rest := by
  fun_induction readStops text generalizing stops rest with
  | case1 => cases h; rfl
  | case2 text digits after hstop stops' rest' hstops ih =>
    cases h
    rw [eq_append_of_readStop hstop, ih hstops]
    simp [stopsText]

/-! ## Fractions -/

/-- A number with digits after the point, before it, or both. -/
structure Fraction where
  whole : List Char
  places : Option (List Char)
deriving DecidableEq, Repr

/-- A fraction as it stands in a tag. -/
def Fraction.toText (fraction : Fraction) : List Char :=
  fraction.whole ++
    match fraction.places with
    | none => []
    | some digits => '.' :: digits

/-- The number nearest to a fraction. -/
def Fraction.value (fraction : Fraction) : Binary32 :=
  let places := fraction.places.getD []
  Binary32.ofDecimal (Nat.ofDigitChars 10 (fraction.whole ++ places) 0) places.length

/-- Reads the point and the digits after it. -/
def readPlaces : List Char → Option (List Char × List Char)
  | '.' :: after => readRun Char.isDigit after
  | _ => none

theorem eq_append_of_readPlaces {text digits rest : List Char}
    (h : readPlaces text = some (digits, rest)) : text = '.' :: digits ++ rest := by
  unfold readPlaces at h
  split at h
  · simp [(eq_append_of_readRun h).2]
  · cases h

/-- Reads a fraction.  A point without digits after it does not belong to
it. -/
def readFraction (text : List Char) : Option (Fraction × List Char) :=
  match readRun Char.isDigit text with
  | some (whole, after) =>
    match readPlaces after with
    | some (digits, rest) => some (⟨whole, some digits⟩, rest)
    | none => some (⟨whole, none⟩, after)
  | none =>
    match readPlaces text with
    | some (digits, rest) => some (⟨[], some digits⟩, rest)
    | none => none

theorem eq_append_of_readFraction {text rest : List Char} {fraction : Fraction}
    (h : readFraction text = some (fraction, rest)) : text = fraction.toText ++ rest := by
  unfold readFraction at h
  split at h
  · rename_i hrun
    split at h
    · rename_i hplaces
      cases h
      simp [Fraction.toText, (eq_append_of_readRun hrun).2, eq_append_of_readPlaces hplaces]
    · cases h
      simp [Fraction.toText, (eq_append_of_readRun hrun).2]
  · split at h
    · rename_i hplaces
      cases h
      simp [Fraction.toText, eq_append_of_readPlaces hplaces]
    · cases h

/-- Reads a colon and a fraction. -/
def readLevel (text : List Char) : Option Fraction × List Char :=
  match text with
  | ':' :: after =>
    match readFraction after with
    | some (fraction, rest) => (some fraction, rest)
    | none => (none, text)
  | _ => (none, text)

/-- A level as it stands in a tag. -/
def levelText : Option Fraction → List Char
  | none => []
  | some fraction => ':' :: fraction.toText

/-- The number for a level; one that is not there is one. -/
def levelOf : Option Fraction → Binary32
  | none => .one
  | some fraction => fraction.value

theorem eq_append_of_readLevel {text rest : List Char} {level : Option Fraction}
    (h : readLevel text = (level, rest)) : text = levelText level ++ rest := by
  unfold readLevel at h
  split at h
  · split at h
    · rename_i hfraction
      cases h
      simp [levelText, eq_append_of_readFraction hfraction]
    · cases h; rfl
  · cases h; rfl

/-! ## Loop flags -/

/-- The spellings of the flag that makes an effect loop. -/
inductive LoopFlag where
  | word
  | lower
  | upper
deriving DecidableEq, Repr

/-- A loop flag as it stands in a tag. -/
def LoopFlag.toText : LoopFlag → List Char
  | .word => ":loop".toList
  | .lower => ":l".toList
  | .upper => ":L".toList

/-- Reads a loop flag, by its long spelling if that is there. -/
def readLoop (text : List Char) : Option LoopFlag × List Char :=
  match text with
  | ':' :: 'l' :: 'o' :: 'o' :: 'p' :: rest => (some .word, rest)
  | ':' :: 'l' :: rest => (some .lower, rest)
  | ':' :: 'L' :: rest => (some .upper, rest)
  | _ => (none, text)

/-- An optional loop flag as it stands in a tag. -/
def loopText : Option LoopFlag → List Char
  | none => []
  | some flag => flag.toText

theorem eq_append_of_readLoop {text rest : List Char} {flag : Option LoopFlag}
    (h : readLoop text = (flag, rest)) : text = loopText flag ++ rest := by
  unfold readLoop at h
  split at h <;> cases h <;> rfl

/-! ## Names -/

/-- Reads a name, by its long spelling if that is there. -/
def readName (long short : List Char) (text : List Char) : Except TagFault (Bool × List Char) :=
  if long.isPrefixOf text then .ok (true, text.drop long.length)
  else if short.isPrefixOf text then .ok (false, text.drop short.length)
  else .error .word

/-- A name as it stands in a tag. -/
def nameText (long short : List Char) (isLong : Bool) : List Char :=
  if isLong then long else short

theorem eq_append_of_readName {long short text rest : List Char} {isLong : Bool}
    (h : readName long short text = .ok (isLong, rest)) :
    text = nameText long short isLong ++ rest := by
  have hsplit {word : List Char} (hword : word.isPrefixOf text = true) :
      text = word ++ text.drop word.length :=
    (List.prefix_iff_eq_append.1 (List.isPrefixOf_iff_prefix.1 hword)).symm
  unfold readName at h
  split at h
  · rename_i hlong
    cases h
    exact hsplit hlong
  · split at h
    · rename_i hshort
      cases h
      exact hsplit hshort
    · cases h

end ColorMarkup
