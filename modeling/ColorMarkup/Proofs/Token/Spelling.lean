import ColorMarkup.Proofs.Tag.Effect
import ColorMarkup.Proofs.Tag.Inline
import ColorMarkup.Proofs.Token.CloseTag
import ColorMarkup.Token.Basic

/-!
# ColorMarkup.Proofs.Token.Spelling

How markup is written, said without a scanner.

1. `Config.Spells` relates a token of one kind of markup to the text that
   stands for it, and `Config.Matches` says that such a text stands at the
   front of another.
2. `Config.read?` reads markup of one kind alone.  It reads exactly what is
   spelled (`read?_eq_some_iff`), wherever the kind matches
   (`matches_iff`), and whatever follows (`read?_append`).
-/

namespace ColorMarkup

/-! ## Spellings -/

/-- The kind of markup that an effect is. -/
def EffectKind.tagKind : EffectKind → TagKind
  | gradient => .gradient
  | rainbow => .rainbow

theorem EffectKind.tagKind_inj {a b : EffectKind} : a.tagKind = b.tagKind ↔ a = b := by
  cases a <;> cases b <;> decide

/-- What may stand inside an effect is none. -/
theorem EffectKind.ne_tagKind_of_inline {kind : TagKind} (h : TagKinds.inline.has kind = true)
    (effect : EffectKind) : kind ≠ effect.tagKind := by
  rintro rfl
  cases effect <;> cases h

/-- A text is markup of one kind and stands for a token. -/
inductive Config.Spells (config : Config) : TagKind → Token → List Char → Prop
  /-- A marker and a standard code. -/
  | standard {marker code : Char} (hmarker : config.isMarker marker = true)
      (hcode : isStandardCode code = true) :
      Spells config .standard (.code code) [marker, code]
  /-- A word in angle brackets, which stands for its first character. -/
  | shorthand {first : Char} {others : List Char}
      (hword : IsRun Char.isAlphanum (first :: others)) :
      Spells config .shorthand (.code first.toLower) ('<' :: first :: others ++ ['>'])
  /-- Six digits after `<#`. -/
  | hex {digits : List Char} {color : Color} (hlength : digits.length = 6)
      (hdigits : ∀ c ∈ digits, c.isHexDigit = true) (hcolor : Color.ofHex digits = .ok color) :
      Spells config .hex (.color color) ('<' :: '#' :: digits ++ ['>'])
  /-- An open tag, a body and a close tag of the same effect. -/
  | span {kind : TagKind} {effect : Effect} {opening body closing : List Char}
      (hkind : kind = effect.kind.tagKind)
      (hopening : Effect.readTag effect.kind opening = .ok ⟨effect, opening, []⟩)
      (hclosing : closing ∈ effect.kind.closeTags) :
      Spells config kind (.span effect body) (opening ++ body ++ closing)

namespace Config.Spells

variable {config : Config} {token : Token} {piece : List Char}

theorem standard_iff :
    config.Spells .standard token piece ↔
      ∃ marker code, config.isMarker marker = true ∧ isStandardCode code = true ∧
        token = .code code ∧ piece = [marker, code] := by
  constructor
  · intro h
    cases h with
    | standard hmarker hcode => exact ⟨_, _, hmarker, hcode, rfl, rfl⟩
    | span hkind => exact absurd hkind (EffectKind.ne_tagKind_of_inline rfl _)
  · rintro ⟨marker, code, hmarker, hcode, rfl, rfl⟩
    exact .standard hmarker hcode

theorem shorthand_iff :
    config.Spells .shorthand token piece ↔
      ∃ first others, IsRun Char.isAlphanum (first :: others) ∧ token = .code first.toLower ∧
        piece = '<' :: first :: others ++ ['>'] := by
  constructor
  · intro h
    cases h with
    | shorthand hword => exact ⟨_, _, hword, rfl, rfl⟩
    | span hkind => exact absurd hkind (EffectKind.ne_tagKind_of_inline rfl _)
  · rintro ⟨first, others, hword, rfl, rfl⟩
    exact .shorthand hword

theorem hex_iff :
    config.Spells .hex token piece ↔
      ∃ digits color, digits.length = 6 ∧ (∀ c ∈ digits, c.isHexDigit = true) ∧
        Color.ofHex digits = .ok color ∧ token = .color color ∧
        piece = '<' :: '#' :: digits ++ ['>'] := by
  constructor
  · intro h
    cases h with
    | hex hlength hdigits hcolor => exact ⟨_, _, hlength, hdigits, hcolor, rfl, rfl⟩
    | span hkind => exact absurd hkind (EffectKind.ne_tagKind_of_inline rfl _)
  · rintro ⟨digits, color, hlength, hdigits, hcolor, rfl, rfl⟩
    exact .hex hlength hdigits hcolor

theorem effect_iff {kind : EffectKind} :
    config.Spells kind.tagKind token piece ↔
      ∃ effect opening body closing, effect.kind = kind ∧
        Effect.readTag kind opening = .ok ⟨effect, opening, []⟩ ∧ closing ∈ kind.closeTags ∧
        token = .span effect body ∧ piece = opening ++ body ++ closing := by
  constructor
  · generalize htag : kind.tagKind = tagKind
    intro h
    cases h with
    | span hkind hopening hclosing =>
        rw [hkind, EffectKind.tagKind_inj] at htag
        subst htag
        exact ⟨_, _, _, _, rfl, hopening, hclosing, rfl, rfl⟩
    | standard | shorthand | hex => cases kind <;> cases htag
  · rintro ⟨effect, opening, body, closing, rfl, hopening, hclosing, rfl, rfl⟩
    exact .span rfl hopening hclosing

/-- Markup is not empty. -/
theorem ne_nil {kind : TagKind} (h : config.Spells kind token piece) : piece ≠ [] := by
  cases h with
  | standard | shorthand | hex => exact List.cons_ne_nil _ _
  | span hkind hopening =>
      have hne := Effect.text_ne_nil_of_readTag hopening
      simp [hne]

end Config.Spells

/-- A span ends at the first close tag: none starts within its body, whichever
close tag and text follow. -/
def Token.ClosesFirst : Token → Prop
  | .span effect body =>
    ∀ closing ∈ effect.kind.closeTags, ∀ rest, effect.kind.StaysOpen body (closing ++ rest)
  | _ => True

/-- Markup of one kind stands at the front of a text. -/
def Config.Matches (config : Config) (kind : TagKind) (text : List Char) : Prop :=
  ∃ token piece rest, config.Spells kind token piece ∧ text = piece ++ rest

/-! ## Readers of one kind -/

/-- The reading with another value. -/
def Reading.map {α β : Type} (f : α → β) (reading : Reading α) : Reading β :=
  ⟨f reading.value, reading.text, reading.rest⟩

/-- Reads a span: an open tag, and the text up to the first close tag. -/
def EffectKind.readSpan? (kind : EffectKind) (text : List Char) : Option (Reading Token) :=
  match Effect.readTag kind text with
  | .error _ => none
  | .ok opening =>
    (findClose kind.closeTags 0 opening.rest).map fun hit =>
      { value := .span opening.value (opening.rest.take hit.start)
        text := opening.text ++ opening.rest.take (hit.start + hit.length)
        rest := opening.rest.drop (hit.start + hit.length) }

/-- Reads a marker and a standard code. -/
def Config.readStandard? (config : Config) (text : List Char) : Option (Reading Token) :=
  match text with
  | marker :: code :: rest =>
    if config.isMarker marker && isStandardCode code then
      some ⟨.code code, [marker, code], rest⟩
    else none
  | _ => none

/-- Reads markup of one kind, whether or not the kind is on. -/
def Config.read? (config : Config) (kind : TagKind) (text : List Char) : Option (Reading Token) :=
  match kind with
  | .standard => config.readStandard? text
  | .shorthand => (readShorthand text).map (Reading.map .code)
  | .hex => (Color.readTag text).map (Reading.map .color)
  | .gradient => EffectKind.gradient.readSpan? text
  | .rainbow => EffectKind.rainbow.readSpan? text

private theorem take_length_add (a b rest : List Char) :
    (a ++ (b ++ rest)).take (a.length + b.length) = a ++ b := by
  rw [← List.append_assoc, ← List.length_append, List.take_left]

/-- A span that is read is spelled by its text. -/
theorem EffectKind.exists_of_readSpan?_eq_some {kind : EffectKind} {text : List Char}
    {reading : Reading Token} (h : kind.readSpan? text = some reading) :
    ∃ effect opening body closing, effect.kind = kind ∧
      Effect.readTag kind opening = .ok ⟨effect, opening, []⟩ ∧ closing ∈ kind.closeTags ∧
      (Token.span effect body).ClosesFirst ∧ reading.value = .span effect body ∧
      reading.text = opening ++ body ++ closing ∧ reading.Parts text := by
  unfold readSpan? at h
  split at h
  · cases h
  · rename_i opening hopening
    obtain ⟨hit, hhit, rfl⟩ := Option.map_eq_some_iff.1 h
    obtain ⟨body, closing, rest, hrest, hclosing, hopen, rfl⟩ := findClose_eq_some_iff.1 hhit
    have hkind := Effect.kind_of_readTag hopening
    have halone := Effect.readTag_append hopening []
    rw [List.append_nil] at halone
    have hparts := Effect.parts_of_readTag hopening
    obtain ⟨effect, taken, after⟩ := opening
    dsimp only at hrest hkind halone hparts ⊢
    subst hrest
    refine ⟨effect, taken, body, closing, hkind, halone, hclosing, ?_, ?_, ?_, ?_⟩
    · -- What follows the first close tag cannot complete an earlier one.
      intro other hother after
      rw [hkind] at hother ⊢
      obtain ⟨name, rfl, -⟩ := exists_of_mem_closeTags hother
      exact hopen.before_sign (name ++ after)
    · simp
    · simp [take_length_add]
    · rw [hparts]
      simp [Reading.Parts, take_length_add]

/-- What spells a span is read as that span, whatever follows. -/
theorem EffectKind.readSpan?_append {effect : Effect} {opening body closing : List Char}
    (hopening : Effect.readTag effect.kind opening = .ok ⟨effect, opening, []⟩)
    (hclosing : closing ∈ effect.kind.closeTags) (hfirst : (Token.span effect body).ClosesFirst)
    (rest : List Char) :
    effect.kind.readSpan? (opening ++ body ++ closing ++ rest) =
      some ⟨.span effect body, opening ++ body ++ closing, rest⟩ := by
  have hread := Effect.readTag_append hopening (body ++ (closing ++ rest))
  have hhit : findClose effect.kind.closeTags 0 (body ++ (closing ++ rest)) =
      some ⟨body.length, closing.length⟩ :=
    findClose_eq_some_iff.2
      ⟨body, closing, rest, rfl, hclosing, hfirst closing hclosing rest, by rw [Nat.zero_add]⟩
  simp only [List.append_assoc] at hread ⊢
  simp only [readSpan?, hread, hhit, Option.map_some]
  simp [take_length_add]

/-- Spans are read exactly where they are spelled. -/
theorem EffectKind.readSpan?_eq_some_iff {config : Config} {kind : EffectKind} {text : List Char}
    {reading : Reading Token} :
    kind.readSpan? text = some reading ↔
      config.Spells kind.tagKind reading.value reading.text ∧ reading.value.ClosesFirst ∧
        reading.Parts text := by
  constructor
  · intro h
    obtain ⟨effect, opening, body, closing, rfl, hopening, hclosing, hfirst, hvalue, htext,
      hparts⟩ := exists_of_readSpan?_eq_some h
    refine ⟨?_, hvalue ▸ hfirst, hparts⟩
    rw [hvalue, htext]
    exact .span rfl hopening hclosing
  · rintro ⟨hspells, hfirst, hparts⟩
    obtain ⟨effect, opening, body, closing, rfl, hopening, hclosing, hvalue, htext⟩ :=
      Config.Spells.effect_iff.1 hspells
    obtain ⟨value, taken, rest⟩ := reading
    subst hvalue htext
    rw [hparts]
    exact readSpan?_append hopening hclosing hfirst rest

namespace Config

theorem readStandard?_eq_some_iff {config : Config} {text : List Char} {reading : Reading Token} :
    config.readStandard? text = some reading ↔
      ∃ marker code, config.isMarker marker = true ∧ isStandardCode code = true ∧
        reading.value = .code code ∧ reading.text = [marker, code] ∧ reading.Parts text := by
  constructor
  · intro h
    unfold readStandard? at h
    split at h
    · split at h
      · rename_i marker code rest hmarkup
        cases h
        rw [Bool.and_eq_true] at hmarkup
        exact ⟨marker, code, hmarkup.1, hmarkup.2, rfl, rfl, rfl⟩
      · cases h
    · cases h
  · rintro ⟨marker, code, hmarker, hcode, hvalue, htext, hparts⟩
    obtain ⟨value, taken, rest⟩ := reading
    subst hvalue htext
    rw [hparts]
    simp [readStandard?, hmarker, hcode]

/-- Markup of one kind is read exactly where it is spelled. -/
theorem read?_eq_some_iff {config : Config} {kind : TagKind} {text : List Char}
    {reading : Reading Token} :
    config.read? kind text = some reading ↔
      config.Spells kind reading.value reading.text ∧ reading.value.ClosesFirst ∧
        reading.Parts text := by
  cases kind with
  | standard =>
      rw [read?, readStandard?_eq_some_iff, Spells.standard_iff]
      constructor
      · rintro ⟨marker, code, hmarker, hcode, hvalue, htext, hparts⟩
        exact ⟨⟨marker, code, hmarker, hcode, hvalue, htext⟩, hvalue ▸ trivial, hparts⟩
      · rintro ⟨⟨marker, code, hmarker, hcode, hvalue, htext⟩, -, hparts⟩
        exact ⟨marker, code, hmarker, hcode, hvalue, htext, hparts⟩
  | shorthand =>
      rw [read?, Option.map_eq_some_iff, Spells.shorthand_iff]
      constructor
      · rintro ⟨word, hword, rfl⟩
        obtain ⟨first, others, hrun, hvalue, htext, hparts⟩ := readShorthand_eq_some_iff.1 hword
        exact ⟨⟨first, others, hrun, congrArg Token.code hvalue, htext⟩, trivial, hparts⟩
      · rintro ⟨⟨first, others, hrun, hvalue, htext⟩, -, hparts⟩
        refine ⟨⟨first.toLower, reading.text, reading.rest⟩, ?_, ?_⟩
        · exact readShorthand_eq_some_iff.2 ⟨first, others, hrun, rfl, htext, hparts⟩
        · rw [Reading.map, ← hvalue]
  | hex =>
      rw [read?, Option.map_eq_some_iff, Spells.hex_iff]
      constructor
      · rintro ⟨tag, htag, rfl⟩
        obtain ⟨digits, hlength, hdigits, hcolor, htext, hparts⟩ := Color.readTag_eq_some_iff.1 htag
        exact ⟨⟨digits, tag.value, hlength, hdigits, hcolor, rfl, htext⟩, trivial, hparts⟩
      · rintro ⟨⟨digits, color, hlength, hdigits, hcolor, hvalue, htext⟩, -, hparts⟩
        refine ⟨⟨color, reading.text, reading.rest⟩, ?_, ?_⟩
        · exact Color.readTag_eq_some_iff.2 ⟨digits, hlength, hdigits, hcolor, htext, hparts⟩
        · rw [Reading.map, ← hvalue]
  | gradient => exact EffectKind.readSpan?_eq_some_iff
  | rainbow => exact EffectKind.readSpan?_eq_some_iff

/-- A kind is read wherever it matches: of several close tags the first one is
taken. -/
theorem matches_iff {config : Config} {kind : TagKind} {text : List Char} :
    config.Matches kind text ↔ ∃ reading, config.read? kind text = some reading := by
  constructor
  · rintro ⟨token, piece, rest, hspells, rfl⟩
    cases hspells with
    | standard hmarker hcode =>
        exact ⟨⟨_, _, rest⟩, read?_eq_some_iff.2 ⟨.standard hmarker hcode, trivial, rfl⟩⟩
    | shorthand hword => exact ⟨⟨_, _, rest⟩, read?_eq_some_iff.2 ⟨.shorthand hword, trivial, rfl⟩⟩
    | hex hlength hdigits hcolor =>
        exact ⟨⟨_, _, rest⟩, read?_eq_some_iff.2 ⟨.hex hlength hdigits hcolor, trivial, rfl⟩⟩
    | @span _ effect opening body closing hkind hopening hclosing =>
        have hread := Effect.readTag_append hopening (body ++ (closing ++ rest))
        obtain ⟨hit, hhit⟩ := EffectKind.exists_findClose hclosing 0 body rest
        have hspan : ∃ reading, effect.kind.readSpan? (opening ++ (body ++ (closing ++ rest))) =
            some reading := by
          dsimp only at hread
          simp only [EffectKind.readSpan?, hread, hhit, Option.map_some]
          exact ⟨_, rfl⟩
        simp only [List.append_assoc]
        subst hkind
        cases hof : effect.kind <;> rwa [hof] at hspan
  · rintro ⟨reading, hread⟩
    obtain ⟨hspells, -, hparts⟩ := read?_eq_some_iff.1 hread
    exact ⟨reading.value, reading.text, reading.rest, hspells, hparts⟩

theorem read?_eq_none_iff {config : Config} {kind : TagKind} {text : List Char} :
    config.read? kind text = none ↔ ¬ config.Matches kind text := by
  rw [matches_iff, not_exists, Option.eq_none_iff_forall_ne_some]

/-- Markup means the same before any text. -/
theorem read?_append {config : Config} {kind : TagKind} {text : List Char}
    {reading : Reading Token} (h : config.read? kind text = some reading) (rest : List Char) :
    config.read? kind (reading.text ++ rest) = some { reading with rest := rest } := by
  obtain ⟨hspells, hfirst, -⟩ := read?_eq_some_iff.1 h
  exact read?_eq_some_iff.2 ⟨hspells, hfirst, rfl⟩

/-- What matches still does when text is added at the end. -/
theorem Matches.append {config : Config} {kind : TagKind} {text : List Char}
    (h : config.Matches kind text) (more : List Char) : config.Matches kind (text ++ more) := by
  obtain ⟨token, piece, rest, hspells, rfl⟩ := h
  exact ⟨token, piece, rest ++ more, hspells, List.append_assoc piece rest more⟩

end Config

end ColorMarkup
