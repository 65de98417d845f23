import ColorMarkup.Effect.Basic
import ColorMarkup.Tag.Part

/-!
# ColorMarkup.Tag.Rainbow

The open tag of a rainbow, such as `<rainbow#2:0.8:1:l>`:

1. `rainbow` or `r`;
2. a speed, if any;
3. a saturation, and after it a brightness, if any;
4. a loop flag, if any.
-/

namespace ColorMarkup

/-- The shape of a rainbow tag. -/
structure RainbowTag where
  isLong : Bool
  speed : Option (List Char)
  saturation : Option Fraction
  brightness : Option Fraction
  loop : Option LoopFlag
deriving DecidableEq, Repr

namespace RainbowTag

/-- The two names of the tag. -/
def longName : List Char := "rainbow".toList

@[inherit_doc longName] def shortName : List Char := "r".toList

/-- The tag as it is written. -/
def toText (tag : RainbowTag) : List Char :=
  '<' :: nameText longName shortName tag.isLong ++ speedText tag.speed ++
    levelText tag.saturation ++ levelText tag.brightness ++ loopText tag.loop ++ ['>']

/-- Reads the shape of a tag. -/
def read (text : List Char) : Except TagFault (RainbowTag × List Char) := do
  let text ← readChar '<' text
  let (isLong, text) ← readName longName shortName text
  let (speed, text) := readSpeed text
  let (saturation, text) := readLevel text
  let (brightness, text) := readLevel text
  let (loop, text) := readLoop text
  let rest ← readChar '>' text
  return (⟨isLong, speed, saturation, brightness, loop⟩, rest)

/-- The rainbow that a tag asks for. -/
def rainbow (tag : RainbowTag) : Except TagError Rainbow :=
  (speedOf tag.speed).map fun speed =>
    .held speed (levelOf tag.saturation) (levelOf tag.brightness) tag.loop.isSome

/-- What is read is how the tag is written. -/
theorem eq_append_of_read {text rest : List Char} {tag : RainbowTag}
    (h : read text = .ok (tag, rest)) : text = tag.toText ++ rest := by
  unfold read at h
  simp only [bind, Except.bind, pure, Except.pure] at h
  split at h <;> try cases h
  rename_i text₁ hchar
  split at h <;> try cases h
  rename_i name hname
  obtain ⟨isLong, text₂⟩ := name
  cases hspeed : readSpeed text₂ with | mk speed text₃ => ?_
  cases hsaturation : readLevel text₃ with | mk saturation text₄ => ?_
  cases hbrightness : readLevel text₄ with | mk brightness text₅ => ?_
  cases hloop : readLoop text₅ with | mk loop text₆ => ?_
  simp only [hspeed, hsaturation, hbrightness, hloop] at h
  split at h <;> try cases h
  rename_i hclose
  rw [eq_cons_of_readChar hchar, eq_append_of_readName hname, eq_append_of_readSpeed hspeed,
    eq_append_of_readLevel hsaturation, eq_append_of_readLevel hbrightness,
    eq_append_of_readLoop hloop, eq_cons_of_readChar hclose]
  simp [toText]

end RainbowTag

/-- Reads a rainbow from its open tag. -/
def Rainbow.readTag (text : List Char) : Except TagError (Reading Rainbow) :=
  match RainbowTag.read text with
  | .error fault => .error (.ofFault fault text)
  | .ok (tag, rest) => tag.rainbow.map fun rainbow => ⟨rainbow, tag.toText, rest⟩

/-- The tag and what follows it are the text. -/
theorem Rainbow.parts_of_readTag {text : List Char} {reading : Reading Rainbow}
    (h : Rainbow.readTag text = .ok reading) : reading.Parts text := by
  unfold Rainbow.readTag at h
  split at h
  · cases h
  · rename_i tag rest hread
    cases hrainbow : tag.rainbow with
    | error => simp [hrainbow, Except.map] at h
    | ok rainbow =>
      simp only [hrainbow, Except.map, Except.ok.injEq] at h
      subst h
      exact RainbowTag.eq_append_of_read hread

/-- An open tag is not empty. -/
theorem Rainbow.text_ne_nil_of_readTag {text : List Char} {reading : Reading Rainbow}
    (h : Rainbow.readTag text = .ok reading) : reading.text ≠ [] := by
  unfold Rainbow.readTag at h
  split at h
  · cases h
  · rename_i tag rest hread
    cases hrainbow : tag.rainbow with
    | error => simp [hrainbow, Except.map] at h
    | ok rainbow =>
      simp only [hrainbow, Except.map, Except.ok.injEq] at h
      subst h
      simp [RainbowTag.toText]

end ColorMarkup
