import ColorMarkup.Proofs.Render.Span
import ColorMarkup.Proofs.Text.Cluster
import ColorMarkup.Proofs.Token.Precedence

/-!
# ColorMarkup.Proofs.Render.Settled

Output that holds no markup but codes with the host's own marker.

1. A text is `Config.Settled` if no other markup that is on stands anywhere in
   it.  Such a text is its own output (`Settled.transform_eq`).
2. A part of an output is `Config.Sealed` if this holds at all its places,
   whatever follows, and no close tag starts in it either.  Codes and escapes
   are sealed (`Valid.sealed_code`, `Valid.sealed_escape`).
3. A glyph is sealed by the escape of the next one: in a cluster nothing that
   goes on with a tag follows `<`, and the marker of the escape does not either
   (`Valid.writes_paint`).
-/

namespace ColorMarkup

/-! ## Behind the sign of a tag -/

/-- A tag goes on behind its `<` with such a character. -/
def goesOn (c : Char) : Bool :=
  c.isAlphanum || c = '#' || c = '/'

theorem isReserved_of_goesOn {c : Char} (h : goesOn c = true) : Config.isReserved c = true := by
  simp only [goesOn, Bool.or_eq_true, decide_eq_true_eq] at h
  rcases h with (h | rfl) | rfl
  · exact Config.isReserved_of_isAlphanum h
  · decide
  · decide

theorem isPrintableAscii_of_goesOn {c : Char} (h : goesOn c = true) : Text.IsPrintableAscii c := by
  simp only [goesOn, Bool.or_eq_true, decide_eq_true_eq] at h
  rcases h with (h | rfl) | rfl
  · delta Char.isAlphanum Char.isAlpha Char.isUpper Char.isLower Char.isDigit at h
    simp only [Bool.or_eq_true, Bool.and_eq_true, decide_eq_true_eq, ge_iff_le,
      UInt32.le_iff_toNat_le] at h
    change ((65 ≤ c.toNat ∧ c.toNat ≤ 90) ∨ (97 ≤ c.toNat ∧ c.toNat ≤ 122)) ∨
      (48 ≤ c.toNat ∧ c.toNat ≤ 57) at h
    unfold Text.IsPrintableAscii
    omega
  · decide
  · decide

/-- Behind its `<` a tag goes on. -/
theorem Config.Spells.exists_second {config : Config} {kind : TagKind} {token : Token}
    {piece : List Char} (h : config.Spells kind token piece) (hkind : kind ≠ .standard) :
    ∃ second others, piece = '<' :: second :: others ∧ goesOn second = true := by
  cases h with
  | standard => exact absurd rfl hkind
  | @shorthand first others hword =>
      have hfirst := hword.2 first List.mem_cons_self
      exact ⟨first, others ++ ['>'], rfl, by rw [goesOn, hfirst, Bool.true_or, Bool.true_or]⟩
  | hex => exact ⟨'#', _, rfl, rfl⟩
  | span hkind hopening hclosing =>
      have hahead := Effect.ofText?_of_readTag hopening
      unfold EffectKind.ofText? at hahead
      split at hahead
      · exact ⟨_, _, rfl, rfl⟩
      · exact ⟨_, _, rfl, rfl⟩
      · cases hahead

theorem EffectKind.exists_second_of_mem_closeTags {kind : EffectKind} {tag : List Char}
    (h : tag ∈ kind.closeTags) :
    ∃ second others, tag = '<' :: second :: others ∧ goesOn second = true := by
  cases kind <;> simp only [closeTags, List.mem_cons, List.not_mem_nil, or_false] at h <;>
    rcases h with rfl | rfl <;> exact ⟨'/', _, rfl, rfl⟩

namespace Config

variable {config : Config}

/-! ## Texts that stay as they are -/

/-- No markup that is on stands at a place, but for a code with the host's own
marker. -/
def NativeAt (config : Config) (first : Char) (after : List Char) : Prop :=
  ∀ kind, config.tags.has kind = true → config.Matches kind (first :: after) →
    kind = .standard ∧ first = config.marker.char

/-- At no place of the text stands markup that is on, but for codes with the
host's own marker. -/
def Settled (config : Config) : List Char → Prop
  | [] => True
  | first :: after => config.NativeAt first after ∧ config.Settled after

theorem Settled.of_append {front back : List Char} (h : config.Settled (front ++ back)) :
    config.Settled back := by
  induction front with
  | nil => exact h
  | cons c front ih => exact ih h.2

/-- The first token of a settled text is written as it stands. -/
theorem Settled.renderToken_eq {first : Char} {after : List Char}
    (h : config.Settled (first :: after)) :
    config.renderToken (config.readNext first after).value =
      (config.readNext first after).text := by
  unfold readNext
  cases hread : config.readMarkup? first after with
  | none => rfl
  | some reading =>
      obtain ⟨kind, -, hkind⟩ := List.exists_of_findSome?_eq_some hread
      obtain ⟨hon, hkind⟩ := readIfOn?_eq_some_iff.1 hkind
      obtain ⟨hspells, -, hparts⟩ := read?_eq_some_iff.1 hkind
      have hmatches : config.Matches kind (first :: after) := ⟨_, _, _, hspells, hparts⟩
      obtain ⟨rfl, hfirst⟩ := h.1 kind hon hmatches
      obtain ⟨marker, code, -, -, hvalue, htext⟩ := Spells.standard_iff.1 hspells
      rw [Reading.Parts, htext, List.cons_append, List.cons.injEq] at hparts
      rw [Option.getD_some, hvalue, htext, ← hparts.1, hfirst]
      rfl

/-- A settled text is its own output. -/
theorem Settled.transform_eq {text : List Char} (h : config.Settled text) :
    config.transform text = text := by
  induction text using config.token_induction with
  | nil => rw [transform, tokens_nil, List.flatMap_nil]
  | cons first after ih =>
      have hparts := config.parts_readNext first after
      have hall := h
      rw [hparts] at hall
      have hrest := ih hall.of_append
      rw [transform] at hrest
      rw [transform, tokens_cons, List.flatMap_cons, h.renderToken_eq, hrest]
      exact hparts.symm

/-! ## Places where nothing starts -/

/-- No close tag and no markup that is on stands at a place, but for a code
with the host's own marker. -/
structure Quiet (config : Config) (first : Char) (after : List Char) : Prop where
  native : config.NativeAt first after
  closes : ∀ kind : EffectKind, ∀ tag ∈ kind.closeTags, ¬ tag <+: first :: after

/-- Whether something starts at a place is told by the two characters there. -/
theorem quiet_of_head? {first : Char} {after : List Char}
    (hsign : first = '<' → ∀ second ∈ after.head?, goesOn second = false)
    (hmarker : config.tags.has .standard = true → config.isMarker first = true →
      first ≠ config.marker.char → ∀ second ∈ after.head?, isStandardCode second = false) :
    config.Quiet first after := by
  have hnone {tag rest : List Char} (htag : first :: after = tag ++ rest)
      (h : ∃ second others, tag = '<' :: second :: others ∧ goesOn second = true) : False := by
    obtain ⟨second, others, rfl, hgoes⟩ := h
    rw [List.cons_append, List.cons_append, List.cons.injEq] at htag
    obtain ⟨rfl, rfl⟩ := htag
    rw [hsign rfl second rfl] at hgoes
    cases hgoes
  refine ⟨?_, ?_⟩
  · rintro kind hon ⟨token, piece, rest, hspells, htext⟩
    by_cases hkind : kind = .standard
    · subst hkind
      obtain ⟨marker, code, hfirst, hcode, -, rfl⟩ := Spells.standard_iff.1 hspells
      rw [List.cons_append, List.cons_append, List.cons.injEq] at htext
      obtain ⟨rfl, rfl⟩ := htext
      by_contra hother
      have hnot := hmarker hon hfirst (fun heq => hother ⟨rfl, heq⟩) code rfl
      rw [hnot] at hcode
      cases hcode
    · exact (hnone htext (hspells.exists_second hkind)).elim
  · rintro kind tag htag ⟨rest, htext⟩
    exact hnone htext.symm (EffectKind.exists_second_of_mem_closeTags htag)

/-! ## Sealed output -/

/-- At no place of the output starts anything, whatever follows, but for codes
with the host's own marker. -/
def Sealed (config : Config) : List Char → Prop
  | [] => True
  | first :: output => (∀ rest, config.Quiet first (output ++ rest)) ∧ config.Sealed output

theorem Sealed.append {front back : List Char} (hfront : config.Sealed front)
    (hback : config.Sealed back) : config.Sealed (front ++ back) := by
  induction front with
  | nil => exact hback
  | cons c front ih =>
      rw [List.cons_append]
      refine ⟨fun rest => ?_, ih hfront.2⟩
      rw [List.append_assoc]
      exact hfront.1 (back ++ rest)

/-- Sealed output leaves what follows it settled. -/
theorem Sealed.settled_append {front back : List Char} (hfront : config.Sealed front)
    (hback : config.Settled back) : config.Settled (front ++ back) := by
  induction front with
  | nil => exact hback
  | cons c front ih => exact ⟨(hfront.1 back).native, ih hfront.2⟩

/-- No close tag starts in sealed output. -/
theorem Sealed.isInfix_of_closes {kind : EffectKind} {tag front back : List Char}
    (h : config.Sealed front) (htag : tag ∈ kind.closeTags) (hin : tag <:+: front ++ back) :
    tag <:+: back := by
  induction front with
  | nil => exact hin
  | cons c front ih =>
      rcases List.infix_cons_iff.1 hin with hprefix | hin
      · exact absurd hprefix ((h.1 back).closes kind tag htag)
      · exact ih h.2 hin

/-- Output without `<` and markers is sealed. -/
theorem sealed_of_forall {output : List Char}
    (h : ∀ c ∈ output, c ≠ '<' ∧ config.isMarker c = false) : config.Sealed output := by
  induction output with
  | nil => trivial
  | cons first output ih =>
      obtain ⟨hsign, hmarker⟩ := h first List.mem_cons_self
      refine ⟨fun rest => ?_, ih fun c hc => h c (List.mem_cons_of_mem first hc)⟩
      refine quiet_of_head? (fun heq => absurd heq hsign) fun _ heq => ?_
      rw [hmarker] at heq
      cases heq

/-- A letter or digit is neither `<` nor a marker. -/
theorem Valid.plain_of_isAlphanum (hvalid : config.Valid) {c : Char} (h : c.isAlphanum = true) :
    c ≠ '<' ∧ config.isMarker c = false := by
  refine ⟨?_, hvalid.isMarker_eq_false (isReserved_of_isAlphanum h)⟩
  rintro rfl
  cases h

/-- The host's own marker starts nothing else. -/
theorem Valid.quiet_marker (hvalid : config.Valid) (after : List Char) :
    config.Quiet config.marker.char after :=
  quiet_of_head? (fun heq => absurd heq.symm (hvalid.ne_marker (by decide)))
    fun _ _ hne => absurd rfl hne

theorem Valid.sealed_code (hvalid : config.Valid) {c : Char} (h : c.isAlphanum = true) :
    config.Sealed (config.marker.code c) := by
  refine ⟨fun rest => hvalid.quiet_marker _, sealed_of_forall ?_⟩
  intro d hd
  rw [List.mem_singleton.1 hd]
  exact hvalid.plain_of_isAlphanum h

theorem Valid.sealed_codes (hvalid : config.Valid) {codes : List Char}
    (h : ∀ c ∈ codes, c.isAlphanum = true) :
    config.Sealed (codes.flatMap config.marker.code) := by
  induction codes with
  | nil => trivial
  | cons c codes ih =>
      rw [List.flatMap_cons]
      exact (hvalid.sealed_code (h c List.mem_cons_self)).append
        (ih fun d hd => h d (List.mem_cons_of_mem c hd))

theorem Valid.sealed_escape (hvalid : config.Valid) (color : Color) :
    config.Sealed (config.marker.escape color) := by
  refine hvalid.sealed_codes fun c hc => ?_
  rcases List.mem_cons.1 hc with rfl | hc
  · rfl
  · exact Color.isAlphanum_of_mem_hexDigits hc

/-! ## Sealed glyphs -/

/-- No two neighbours in the text go on as a tag or are a code. -/
def Loose (config : Config) (text : List Char) : Prop :=
  ∀ c d, [c, d] <:+: text → (c = '<' → goesOn d = false) ∧
    (config.tags.has .standard = true → config.isMarker c = true → isStandardCode d = false)

/-- A marker seals what is before it. -/
theorem Loose.sealed_append (hvalid : config.Valid) {text output : List Char}
    (h : config.Loose text) (houtput : config.Sealed (config.marker.char :: output)) :
    config.Sealed (text ++ config.marker.char :: output) := by
  induction text with
  | nil => exact houtput
  | cons c text ih =>
      have hrest : config.Loose text :=
        fun a b hab => h a b (hab.trans (List.suffix_cons c text).isInfix)
      refine ⟨fun rest => ?_, ih hrest⟩
      cases text with
      | nil =>
          refine quiet_of_head? ?_ ?_
          · rintro - _ ⟨⟩
            by_contra hgoes
            exact hvalid.ne_marker (isReserved_of_goesOn (by simpa using hgoes)) rfl
          · rintro - - - _ ⟨⟩
            by_contra hcode
            have halphanum := isAlphanum_of_isStandardCode (by simpa using hcode)
            exact hvalid.ne_marker (isReserved_of_isAlphanum halphanum) rfl
      | cons d text =>
          obtain ⟨hsign, hmarker⟩ := h c d (List.prefix_append [c, d] text).isInfix
          refine quiet_of_head? ?_ ?_
          · rintro heq _ ⟨⟩
            exact hsign heq
          · rintro hon hc - _ ⟨⟩
            exact hmarker hon hc

/-- A marker is written first, and nothing starts in what is written. -/
def Writes (config : Config) (output : List Char) : Prop :=
  ∃ others, output = config.marker.char :: others ∧ config.Sealed output

theorem Writes.append {front back : List Char} (hfront : config.Writes front)
    (hback : config.Sealed back) : config.Writes (front ++ back) := by
  obtain ⟨others, rfl, hsealed⟩ := hfront
  exact ⟨others ++ back, rfl, hsealed.append hback⟩

theorem Valid.writes_code (hvalid : config.Valid) {c : Char} (h : c.isAlphanum = true) :
    config.Writes (config.marker.code c) :=
  ⟨[c], rfl, hvalid.sealed_code h⟩

theorem Valid.writes_escape (hvalid : config.Valid) (color : Color) :
    config.Writes (config.marker.escape color) :=
  ⟨_, rfl, hvalid.sealed_escape color⟩

/-- Painted glyphs are sealed if the last one has neither `<` nor a marker. -/
theorem Valid.writes_paint (hvalid : config.Valid) {glyphs : List StyledGlyph}
    {colors : List Color} {last : StyledGlyph} (hcolors : colors.length = glyphs.length)
    (hloose : ∀ glyph ∈ glyphs, config.Loose glyph.text)
    (hlast : glyphs.getLast? = some last)
    (hplain : ∀ c ∈ last.text, c ≠ '<' ∧ config.isMarker c = false) :
    config.Writes (paint config.marker colors glyphs) := by
  induction glyphs generalizing colors with
  | nil => cases hlast
  | cons glyph rest ih =>
      cases colors with
      | nil => cases hcolors
      | cons color colors =>
          have hcodes : config.Sealed (glyph.formats.codes.flatMap config.marker.code) := by
            refine hvalid.sealed_codes fun c hc => ?_
            obtain ⟨format, -, rfl⟩ := List.mem_map.1 hc
            cases format <;> rfl
          -- The last glyph is plain, and any other is sealed by the escape of the next one.
          have htext : config.Sealed (glyph.text ++ paint config.marker colors rest) := by
            cases rest with
            | nil =>
                cases hlast
                rw [paint, List.append_nil]
                exact sealed_of_forall hplain
            | cons next rest =>
                obtain ⟨others, hothers, hsealed⟩ := ih (Nat.succ.inj hcolors)
                  (fun g hg => hloose g (List.mem_cons_of_mem glyph hg)) hlast
                rw [hothers] at hsealed ⊢
                exact (hloose glyph List.mem_cons_self).sealed_append hvalid hsealed
          rw [paint, StyledGlyph.toText, List.append_assoc, List.append_assoc]
          exact (hvalid.writes_escape color).append (hcodes.append htext)

/-! ## Glyphs of a body -/

/-- No markup that is on stands anywhere in a plain text. -/
theorem Lexes.not_matches_of_mem {text shown before within : List Char} {tokens : List Token}
    (h : config.Lexes text tokens) (hmem : .text shown ∈ tokens) (hshown : shown = before ++ within)
    (hne : within ≠ []) {kind : TagKind} (hon : config.tags.has kind = true) :
    ¬ config.Matches kind within := by
  induction h with
  | nil => cases hmem
  | @text piece rest tokens _ hplain _ ih =>
      rcases List.mem_cons.1 hmem with heq | hmem
      · cases heq
        exact fun hmatches => hplain before within hshown hne kind hon (hmatches.append rest)
      · exact ih hmem
  | markup _ hspells _ _ _ ih =>
      rcases List.mem_cons.1 hmem with rfl | hmem
      · cases hspells
      · exact ih hmem

/-- In a cluster no tag goes on behind `<`, and in plain text no code stands
behind a marker. -/
theorem Valid.loose_of_mem_bodyGlyphs (hvalid : config.Valid) {body : List Char}
    {glyph : StyledGlyph} (h : glyph ∈ config.bodyGlyphs body) : config.Loose glyph.text := by
  have htext : glyph.text ∈ (config.bodyGlyphs body).map StyledGlyph.text :=
    List.mem_map_of_mem h
  rw [map_text_bodyGlyphs] at htext
  obtain ⟨token, htoken, hcluster⟩ := List.mem_flatMap.1 htext
  rintro c d ⟨before, after, hglyph⟩
  rw [List.append_assoc] at hglyph
  rw [← hglyph] at hcluster
  cases token with
  | text shown =>
      refine ⟨?_, fun hon hc => ?_⟩
      · rintro rfl
        by_contra hgoes
        have hd := isPrintableAscii_of_goesOn (by simpa using hgoes)
        exact Text.not_ascii_neighbours (by decide) hd hcluster
      · by_contra hcode
        obtain ⟨left, right, hshown⟩ := Text.isInfix_of_mem_clusters hcluster
        have hon' : config.inline.tags.has .standard = true := by
          rw [has_tags_inline, hon]
          rfl
        have hplace : shown = (left ++ before) ++ c :: d :: (after ++ right) := by
          change _ = shown at hshown
          rw [← hshown]
          simp
        have hmatches : config.inline.Matches .standard (c :: d :: (after ++ right)) :=
          ⟨_, _, after ++ right, .standard hc (by simpa using hcode), rfl⟩
        have hlexes := lexes_tokens hvalid.inline body
        exact hlexes.not_matches_of_mem htoken hplace (List.cons_ne_nil _ _) hon' hmatches
  | code | color | span => cases hcluster

end Config

end ColorMarkup
