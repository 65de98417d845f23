import ColorMarkup.Proofs.Token.Scanner

/-!
# ColorMarkup.Proofs.Token.Lossless

Scanning loses nothing and makes nothing up.

1. A `Config.Lexeme` is a token with the piece of text that it was read from,
   which spells it under a kind of markup that is on.
2. Every step of the scanner moves over the piece of a lexeme
   (`Scanner.Covers`), so the pieces of a whole scan are the text
   (`tokenizes`), both for a text and for the body of a span.
-/

namespace ColorMarkup

/-! ## Lexemes -/

/-- A piece of text may be read as a token. -/
inductive Config.Reads (config : Config) : Token → List Char → Prop
  /-- Plain text stands for itself. -/
  | text (shown : List Char) : Reads config (.text shown) shown
  /-- Markup is of a kind that is on, and a span ends at its first close tag. -/
  | markup {kind : TagKind} {token : Token} {piece : List Char}
      (hon : config.tags.has kind = true) (hspells : config.Spells kind token piece)
      (hfirst : token.ClosesFirst) : Reads config token piece

/-- Text is read from itself. -/
theorem Config.Reads.text_eq {config : Config} {shown piece : List Char}
    (h : config.Reads (.text shown) piece) : piece = shown := by
  cases h with
  | text => rfl
  | markup hon hspells hfirst => cases hspells

/-- A span is read from its body between two tags of an effect that is on. -/
theorem Config.Reads.span_eq {config : Config} {effect : Effect} {body piece : List Char}
    (h : config.Reads (.span effect body) piece) :
    config.tags.has effect.kind.tagKind = true ∧
      ∃ opening closing, piece = opening ++ body ++ closing := by
  cases h with
  | markup hon hspells hfirst =>
      cases hspells with
      | span hkind hopening hclosing =>
          rw [hkind] at hon
          exact ⟨hon, _, _, rfl⟩

/-- A token with the piece of text that it was read from. -/
structure Config.Lexeme (config : Config) where
  token : Token
  piece : List Char
  reads : config.Reads token piece
  piece_ne_nil : piece ≠ []

/-- The next token is read from its text. -/
theorem Config.reads_readNext (config : Config) (first : Char) (after : List Char) :
    config.Reads (config.readNext first after).value (config.readNext first after).text := by
  unfold readNext
  cases hread : config.readMarkup? first after with
  | none => exact .text _
  | some reading =>
      obtain ⟨kind, -, hkind⟩ := List.exists_of_findSome?_eq_some hread
      obtain ⟨hon, hkind⟩ := readIfOn?_eq_some_iff.1 hkind
      obtain ⟨hspells, hfirst, -⟩ := read?_eq_some_iff.1 hkind
      exact .markup hon hspells hfirst

/-- Every token of a text is read from a piece of it. -/
theorem Config.exists_reads_of_mem_tokens {config : Config} {text : List Char} {token : Token}
    (h : token ∈ config.tokens text) : ∃ piece, config.Reads token piece ∧ piece <:+: text := by
  induction text using config.token_induction with
  | nil =>
      rw [tokens_nil] at h
      cases h
  | cons first after ih =>
      rw [tokens_cons, List.mem_cons] at h
      have hparts := config.parts_readNext first after
      rcases h with rfl | h
      · refine ⟨_, config.reads_readNext first after, ?_⟩
        rw [hparts]
        exact (List.prefix_append _ _).isInfix
      · obtain ⟨piece, hreads, hpiece⟩ := ih h
        refine ⟨piece, hreads, hpiece.trans ?_⟩
        rw [hparts]
        exact (List.suffix_append _ _).isInfix

/-- The next token and its text. -/
def Config.nextLexeme (config : Config) (first : Char) (after : List Char) : config.Lexeme where
  token := (config.readNext first after).value
  piece := (config.readNext first after).text
  reads := config.reads_readNext first after
  piece_ne_nil := config.text_readNext_ne_nil first after

/-! ## Scans over lexemes -/

/-- The scanner takes the tokens of some lexemes one after the other, and with
each of them moves over its piece. -/
inductive Scanner.Covers (config : Config) : Scanner → List config.Lexeme → Scanner → Prop
  | refl (here : Scanner) : Covers config here [] here
  | step {here next there : Scanner} {item : Scanned} {lexeme : config.Lexeme}
      {lexemes : List config.Lexeme} (htake : Takes config here item next)
      (htoken : lexeme.token = item.token) (hpiece : here.rest = lexeme.piece ++ next.rest)
      (hposition : next.position = here.position + Text.byteSize lexeme.piece)
      (hcover : Covers config next lexemes there) : Covers config here (lexeme :: lexemes) there

namespace Scanner

/-- What the scanner moved over are the pieces. -/
theorem Covers.rest_eq {config : Config} {here there : Scanner} {lexemes : List config.Lexeme}
    (hcover : Covers config here lexemes there) :
    here.rest = lexemes.flatMap (·.piece) ++ there.rest := by
  induction hcover with
  | refl => rfl
  | step _ _ hpiece _ _ ih => rw [hpiece, ih, List.flatMap_cons, List.append_assoc]

/-- Every run covers lexemes with its tokens. -/
theorem Runs.exists_covers {config : Config} {text : List Char} {here there : Scanner}
    {items : List Scanned} (hrun : Runs config here items there) (h : here.Sound text) :
    ∃ lexemes, Covers config here lexemes there ∧
      lexemes.map (·.token) = items.map Scanned.token := by
  induction hrun with
  | refl here => exact ⟨[], .refl here, rfl⟩
  | step htake _ ih =>
      obtain ⟨hnext, first, after, hrest, htoken, hnextRest, hposition⟩ := htake.spec h
      obtain ⟨lexemes, hcover, htokens⟩ := ih hnext
      have hpiece := hrest.trans (config.parts_readNext first after)
      rw [← hnextRest] at hpiece
      refine ⟨config.nextLexeme first after :: lexemes, ?_, ?_⟩
      · exact .step htake htoken.symm hpiece hposition hcover
      · rw [List.map_cons, List.map_cons, htokens, htoken]
        rfl

end Scanner

/-! ## Whole scans -/

/-- Scanning a text ends, and gives the tokens of lexemes whose pieces, one
after the other, are the text. -/
structure Config.Tokenizes (config : Config) (text : List Char) (tokens : List Token) : Prop where
  /-- There are never more steps than characters. -/
  bounded : ∀ items there, Scanner.Runs config (.start text) items there →
    items.length ≤ text.length
  /-- The scanner moves over the pieces to the end of the text. -/
  covered : ∃ lexemes last, Scanner.Covers config (.start text) lexemes last ∧ last.rest = [] ∧
    lexemes.map (·.token) = tokens ∧ lexemes.flatMap (·.piece) = text

namespace Config

theorem tokenizes_tokens (config : Config) (text : List Char) :
    config.Tokenizes text (config.tokens text) where
  bounded := by
    intro items there hrun
    have hle : items.length + there.rest.length ≤ text.length := hrun.length_le
    omega
  covered := by
    obtain ⟨last, hrun, hlast⟩ := Scanner.exists_runs_scan config (.start text)
    obtain ⟨lexemes, hcover, htokens⟩ := hrun.exists_covers (Scanner.sound_start text)
    have htext : text = lexemes.flatMap (·.piece) ++ last.rest := hcover.rest_eq
    rw [hlast, List.append_nil] at htext
    exact ⟨lexemes, last, hcover, hlast, htokens, htext.symm⟩

/-- Scanning is lossless and sound under every configuration, for a text and
for the body of a span, where effects are off. -/
theorem tokenizes (config : Config) (text : List Char) :
    config.Tokenizes text (config.tokens text) ∧
      config.inline.Tokenizes text (config.bodyTokens text) :=
  ⟨config.tokenizes_tokens text, config.inline.tokenizes_tokens text⟩

end Config

end ColorMarkup
