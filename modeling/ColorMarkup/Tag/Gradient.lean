import ColorMarkup.Effect.Basic
import ColorMarkup.Tag.Part

/-!
# ColorMarkup.Tag.Gradient

The open tag of a gradient, such as `<gradient#3:#ff0000:#00f:loop>`:

1. `gradient` or `g`;
2. a speed, if any;
3. color stops, of which two are needed;
4. a loop flag, if any.

A text is first read for its shape alone, as a `GradientTag`; whether the
stops and the speed make sense is asked afterwards.
-/

namespace ColorMarkup

/-- The shape of a gradient tag. -/
structure GradientTag where
  isLong : Bool
  speed : Option (List Char)
  stops : List (List Char)
  loop : Option LoopFlag
deriving DecidableEq, Repr

namespace GradientTag

/-- The two names of the tag. -/
def longName : List Char := "gradient".toList

@[inherit_doc longName] def shortName : List Char := "g".toList

/-- The tag as it is written. -/
def toText (tag : GradientTag) : List Char :=
  '<' :: nameText longName shortName tag.isLong ++ speedText tag.speed ++ stopsText tag.stops ++
    loopText tag.loop ++ ['>']

/-- Reads the shape of a tag. -/
def read (text : List Char) : Except TagFault (GradientTag × List Char) := do
  let text ← readChar '<' text
  let (isLong, text) ← readName longName shortName text
  let (speed, text) := readSpeed text
  let (first, text) ← readStop text
  let (others, text) := readStops text
  let (loop, text) := readLoop text
  let rest ← readChar '>' text
  return (⟨isLong, speed, first :: others, loop⟩, rest)

/-- The gradient that a tag asks for. -/
def gradient (tag : GradientTag) : Except TagError Gradient := do
  if tag.stops.length < 2 then
    throw (.tooFewStops tag.stops.length)
  let stops ← (tag.stops.mapM Color.ofHex).mapError .invalidStop
  let speed ← speedOf tag.speed
  return { stops := stops, speed := speed, looping := tag.loop.isSome }

/-- What is read is how the tag is written. -/
theorem eq_append_of_read {text rest : List Char} {tag : GradientTag}
    (h : read text = .ok (tag, rest)) : text = tag.toText ++ rest := by
  unfold read at h
  simp only [bind, Except.bind, pure, Except.pure] at h
  split at h <;> try cases h
  rename_i text₁ hchar
  split at h <;> try cases h
  rename_i name hname
  obtain ⟨isLong, text₂⟩ := name
  cases hspeed : readSpeed text₂ with | mk speed text₃ => ?_
  simp only [hspeed] at h
  split at h <;> try cases h
  rename_i stop hstop
  obtain ⟨first, text₄⟩ := stop
  cases hstops : readStops text₄ with | mk others text₅ => ?_
  cases hloop : readLoop text₅ with | mk loop text₆ => ?_
  simp only [hstops, hloop] at h
  split at h <;> try cases h
  rename_i hclose
  rw [eq_cons_of_readChar hchar, eq_append_of_readName hname, eq_append_of_readSpeed hspeed,
    eq_append_of_readStop hstop, eq_append_of_readStops hstops, eq_append_of_readLoop hloop,
    eq_cons_of_readChar hclose]
  simp [toText, stopsText]

end GradientTag

/-- Reads a gradient from its open tag. -/
def Gradient.readTag (text : List Char) : Except TagError (Reading Gradient) :=
  match GradientTag.read text with
  | .error fault => .error (.ofFault fault text)
  | .ok (tag, rest) => tag.gradient.map fun gradient => ⟨gradient, tag.toText, rest⟩

/-- The tag and what follows it are the text. -/
theorem Gradient.parts_of_readTag {text : List Char} {reading : Reading Gradient}
    (h : Gradient.readTag text = .ok reading) : reading.Parts text := by
  unfold Gradient.readTag at h
  split at h
  · cases h
  · rename_i tag rest hread
    cases hgradient : tag.gradient with
    | error => simp [hgradient, Except.map] at h
    | ok gradient =>
      simp only [hgradient, Except.map, Except.ok.injEq] at h
      subst h
      exact GradientTag.eq_append_of_read hread

/-- An open tag is not empty. -/
theorem Gradient.text_ne_nil_of_readTag {text : List Char} {reading : Reading Gradient}
    (h : Gradient.readTag text = .ok reading) : reading.text ≠ [] := by
  unfold Gradient.readTag at h
  split at h
  · cases h
  · rename_i tag rest hread
    cases hgradient : tag.gradient with
    | error => simp [hgradient, Except.map] at h
    | ok gradient =>
      simp only [hgradient, Except.map, Except.ok.injEq] at h
      subst h
      simp [GradientTag.toText]

end ColorMarkup
