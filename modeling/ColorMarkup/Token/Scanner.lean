import ColorMarkup.Token.Basic
import ColorMarkup.Token.CloseTag
import ColorMarkup.Token.Note

/-!
# ColorMarkup.Token.Scanner

Scanning: markup is cut into tokens from left to right.

1. Where an open tag of an effect stands and a close tag of that effect
   follows it, they and the text between them are a span.
2. Anywhere else the token is one that needs no close tag.

An open tag that is refused or never closed leaves a note.  Every step takes
at least one character, so a scan ends.
-/

namespace ColorMarkup

/-! ## State -/

/-- A place in a text that is being scanned. -/
structure Scanner where
  /-- The text from here on. -/
  rest : List Char
  /-- How many characters were taken. -/
  offset : Nat
  /-- How many bytes they are. -/
  position : Nat
  /-- The last search for the end of a gradient. -/
  gradientMemo : CloseMemo
  /-- The last search for the end of a rainbow. -/
  rainbowMemo : CloseMemo
deriving DecidableEq, Repr

/-- A token and the note that its start gave rise to. -/
structure Scanned where
  token : Token
  note : Option Note
deriving DecidableEq, Repr

namespace Scanner

/-- The start of a text. -/
def start (text : List Char) : Scanner :=
  ⟨text, 0, 0, {}, {}⟩

/-- The last search for the end of an effect. -/
def memo (scanner : Scanner) : EffectKind → CloseMemo
  | .gradient => scanner.gradientMemo
  | .rainbow => scanner.rainbowMemo

/-- Keeps a search for the end of an effect. -/
def withMemo (scanner : Scanner) (memo : CloseMemo) : EffectKind → Scanner
  | .gradient => { scanner with gradientMemo := memo }
  | .rainbow => { scanner with rainbowMemo := memo }

/-- Takes some text, and goes on with what follows it. -/
def take (scanner : Scanner) (text rest : List Char) : Scanner :=
  { scanner with
    rest := rest
    offset := scanner.offset + text.length
    position := scanner.position + Text.byteSize text }

/-- Takes a token that needs no close tag. -/
def takeToken (scanner : Scanner) (reading : Reading Token) (note : Option Note) :
    Scanned × Scanner :=
  (⟨reading.value, note⟩, scanner.take reading.text reading.rest)

/-! ## Steps -/

/-- The effect whose open tag may stand at the front of a text. -/
def effectAhead? (config : Config) (text : List Char) : Option EffectKind :=
  (EffectKind.ofText? text).filter fun kind =>
    match kind with
    | .gradient => config.tags.gradient
    | .rainbow => config.tags.rainbow

/-- Takes a span: its open tag, its body and the close tag that was found. -/
def takeSpan (scanner : Scanner) (opening : Reading Effect) (hit : CloseHit) :
    Scanned × Scanner :=
  let bodyLength := hit.start - (scanner.offset + opening.text.length)
  let body := opening.rest.take bodyLength
  let closing := (opening.rest.drop bodyLength).take hit.length
  (⟨.span opening.value body, none⟩,
    scanner.take (opening.text ++ body ++ closing) (opening.rest.drop (bodyLength + hit.length)))

/-- Takes one token of a text that starts with a given character. -/
def step (config : Config) (scanner : Scanner) (first : Char) (after : List Char) :
    Scanned × Scanner :=
  let plain := config.readToken first after
  match effectAhead? config (first :: after) with
  | none => scanner.takeToken plain none
  | some kind =>
    match Effect.readTag kind (first :: after) with
    | .error error => scanner.takeToken plain (some (.rejected kind scanner.position error))
    | .ok opening =>
      let origin := scanner.offset + opening.text.length
      let (hit?, memo) := (scanner.memo kind).find kind.closeTags origin opening.rest
      let scanner := scanner.withMemo memo kind
      match hit? with
      | none => scanner.takeToken plain (some (.unclosed kind scanner.position))
      | some hit => scanner.takeSpan opening hit

theorem rest_step_lt (config : Config) (scanner : Scanner) (first : Char) (after : List Char) :
    (step config scanner first after).2.rest.length < (first :: after).length := by
  have hparts := config.parts_readToken first after
  have hpos := List.length_pos_iff.2 (config.text_readToken_ne_nil first after)
  have hplain : (config.readToken first after).rest.length < (first :: after).length := by
    rw [hparts, List.length_append]
    omega
  unfold step
  dsimp only
  split
  · exact hplain
  · split
    · exact hplain
    · rename_i opening hopening
      have hopen := Effect.parts_of_readTag hopening
      have hopenPos := List.length_pos_iff.2 (Effect.text_ne_nil_of_readTag hopening)
      split
      · exact hplain
      · rw [hopen, List.length_append]
        simp only [takeSpan, take, List.length_drop]
        omega

/-! ## Scans -/

/-- Scans on to the end of the text, after what was found already, in
reverse. -/
def scanOn (config : Config) (scanner : Scanner) (found : List Scanned) : List Scanned :=
  match _h : scanner.rest with
  | [] => found.reverse
  | first :: after =>
    let result := step config scanner first after
    scanOn config result.2 (result.1 :: found)
termination_by scanner.rest.length
decreasing_by
  rw [_h]
  exact rest_step_lt config scanner first after

/-- The tokens from here to the end of the text, with their notes. -/
def scan (config : Config) (scanner : Scanner) : List Scanned :=
  scanOn config scanner []

private theorem scanOn_eq (config : Config) (scanner : Scanner) (found : List Scanned) :
    scanOn config scanner found = found.reverse ++ scanOn config scanner [] := by
  match h : scanner.rest with
  | [] =>
    conv => lhs; unfold scanOn
    conv => rhs; unfold scanOn
    split <;> simp_all
  | first :: after =>
    have hlt : (step config scanner first after).2.rest.length < scanner.rest.length := by
      rw [h]
      exact rest_step_lt config scanner first after
    conv => lhs; unfold scanOn
    conv => rhs; unfold scanOn
    split
    · simp_all
    · rename_i first' after' h'
      obtain ⟨rfl, rfl⟩ : first = first' ∧ after = after' := by simp_all
      dsimp only
      rw [scanOn_eq config _ (_ :: found), scanOn_eq config _ [_]]
      simp
termination_by scanner.rest.length

/-- At the end of the text there is nothing more. -/
theorem scan_of_rest_eq_nil {config : Config} {scanner : Scanner} (h : scanner.rest = []) :
    scan config scanner = [] := by
  unfold scan scanOn
  split <;> simp_all

/-- Anywhere else there is a token, and the scan goes on after it. -/
theorem scan_of_rest_eq_cons {config : Config} {scanner : Scanner} {first : Char}
    {after : List Char} (h : scanner.rest = first :: after) :
    scan config scanner =
      (step config scanner first after).1 :: scan config (step config scanner first after).2 := by
  conv => lhs; unfold scan scanOn
  split
  · simp_all
  · rename_i first' after' h'
    obtain ⟨rfl, rfl⟩ : first = first' ∧ after = after' := by simp_all
    rw [scanOn_eq]
    rfl

end Scanner

/-! ## Tokens of a text -/

namespace Config

/-- The tokens of a text with their notes. -/
def scan (config : Config) (text : List Char) : List Scanned :=
  Scanner.scan config (.start text)

/-- The tokens of a text. -/
def tokens (config : Config) (text : List Char) : List Token :=
  (config.scan text).map Scanned.token

/-- The tokens of the body of a span, where effects are off. -/
def bodyTokens (config : Config) (body : List Char) : List Token :=
  config.inline.tokens body

end Config

end ColorMarkup
