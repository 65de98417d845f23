import ColorMarkup.Proofs.Render.Settled

/-!
# ColorMarkup.Proofs.Render.Echo

Output is not read as markup again.

1. An output `Config.Echoes` a text: characters that start no markup are
   copied, and every other piece of the text is replaced by something sealed
   that starts with the host's marker.
2. Tags do not hold that marker, so what stands in an output without it stands
   in the text as well (`Echoes.exists_front`).  Markup that starts with a
   copied character would have been markup before (`Echoes.matches`), close
   tag included (`Echoes.isInfix_of_closes`).
3. Hence the output of a text is settled (`Echoes.settled`), and rendering it
   once more changes nothing (`transform_transform`).
-/

namespace ColorMarkup.Config

/-- An output is a text with some pieces replaced.  What is copied starts no
markup that is on, and what is written starts with the host's marker and is
sealed. -/
inductive Echoes (config : Config) : List Char → List Char → Prop
  | nil : Echoes config [] []
  | copy {c : Char} {text output : List Char}
      (hplain : ∀ kind, config.tags.has kind = true → ¬ config.Matches kind (c :: text))
      (hrest : Echoes config text output) : Echoes config (c :: text) (c :: output)
  | write {piece written text output : List Char} (hwrites : config.Writes written)
      (hrest : Echoes config text output) : Echoes config (piece ++ text) (written ++ output)

variable {config : Config}

/-! ## From the output back to the text -/

/-- A front of the output without the host's marker was copied. -/
theorem Echoes.exists_front {text word output : List Char}
    (h : config.Echoes text (word ++ output)) (hword : config.marker.char ∉ word) :
    ∃ rest, text = word ++ rest ∧ config.Echoes rest output := by
  induction word generalizing text with
  | nil => exact ⟨text, rfl, h⟩
  | cons c word ih =>
      rw [List.mem_cons, not_or] at hword
      generalize hall : c :: word ++ output = all at h
      cases h with
      | nil => cases hall
      | copy hplain hrest =>
          cases hall
          obtain ⟨rest, rfl, hecho⟩ := ih hrest hword.2
          exact ⟨rest, rfl, hecho⟩
      | write hwrites hrest =>
          -- What is written starts with the marker, which the word does not have.
          obtain ⟨others, rfl, -⟩ := hwrites
          exact absurd (List.cons.inj hall).1.symm hword.1

/-- A close tag in the output stands in the text. -/
theorem Echoes.isInfix_of_closes {text output tag : List Char} {kind : EffectKind}
    (h : config.Echoes text output) (htag : tag ∈ kind.closeTags)
    (hfree : config.marker.char ∉ tag) (hin : tag <:+: output) : tag <:+: text := by
  induction h with
  | nil => exact hin
  | @copy c text output hplain hrest ih =>
      rcases List.infix_cons_iff.1 hin with ⟨rest, hfront⟩ | hin
      · have hecho : config.Echoes (c :: text) (tag ++ rest) := by
          rw [hfront]
          exact .copy hplain hrest
        obtain ⟨behind, htext, -⟩ := hecho.exists_front hfree
        rw [htext]
        exact (List.prefix_append tag behind).isInfix
      · exact (ih hin).trans (List.suffix_cons c text).isInfix
  | @write piece written text output hwrites hrest ih =>
      obtain ⟨-, -, hsealed⟩ := hwrites
      exact (ih (hsealed.isInfix_of_closes htag hin)).trans (List.suffix_append piece text).isInfix

/-! ## Markup at a copied character -/

/-- What matches at a copied character of the output matches in the text, but
for codes with the host's own marker. -/
theorem Echoes.matches (hvalid : config.Valid) (hpoint : config.marker.char ≠ '.')
    {text output : List Char} {c : Char} {kind : TagKind}
    (h : config.Echoes (c :: text) (c :: output)) (hmatches : config.Matches kind (c :: output))
    (hother : ¬ (kind = .standard ∧ c = config.marker.char)) :
    config.Matches kind (c :: text) := by
  obtain ⟨token, piece, rest, hspells, houtput⟩ := hmatches
  rw [houtput] at h
  cases hspells with
  | @standard marker code hmarker hcode =>
      obtain ⟨rfl, -⟩ := List.cons.inj houtput
      have hfree : config.marker.char ∉ [c, code] := by
        rw [List.mem_pair, not_or]
        refine ⟨fun heq => hother ⟨rfl, heq.symm⟩, fun heq => ?_⟩
        have halphanum := isAlphanum_of_isStandardCode hcode
        exact hvalid.ne_marker (isReserved_of_isAlphanum halphanum) heq.symm
      obtain ⟨left, htext, -⟩ := h.exists_front hfree
      exact ⟨_, _, left, .standard hmarker hcode, htext⟩
  | shorthand hword =>
      have hfree := hvalid.notMem_of_isReservedText (isReservedText_wordTag hword.2)
      obtain ⟨left, htext, -⟩ := h.exists_front hfree
      exact ⟨_, _, left, .shorthand hword, htext⟩
  | hex hlength hdigits hcolor =>
      have hfree := hvalid.notMem_of_isReservedText (isReservedText_hexTag hdigits)
      obtain ⟨left, htext, -⟩ := h.exists_front hfree
      exact ⟨_, _, left, .hex hlength hdigits hcolor, htext⟩
  | @span kind effect opening body closing hkind hopening hclosing =>
      rw [List.append_assoc, List.append_assoc] at h
      obtain ⟨left, htext, hleft⟩ := h.exists_front (hvalid.notMem_opening hpoint hopening)
      -- The body may have changed, but the close tag stands behind the open tag as before.
      have hfree := hvalid.notMem_of_isReservedText
        (EffectKind.isReservedText_of_mem_closeTags hclosing)
      have hin : closing <:+: body ++ (closing ++ rest) := ⟨body, rest, List.append_assoc _ _ _⟩
      obtain ⟨body', rest', hbehind⟩ := hleft.isInfix_of_closes hclosing hfree hin
      have hspells : config.Spells kind (.span effect body') (opening ++ body' ++ closing) :=
        .span hkind hopening hclosing
      refine ⟨_, _, rest', hspells, ?_⟩
      rw [htext, ← hbehind]
      simp

/-! ## The output of a text -/

/-- What echoes a text is settled. -/
theorem Echoes.settled (hvalid : config.Valid) (hpoint : config.marker.char ≠ '.')
    {text output : List Char} (h : config.Echoes text output) : config.Settled output := by
  induction h with
  | nil => trivial
  | copy hplain hrest ih =>
      refine ⟨fun kind hon hmatches => ?_, ih⟩
      by_contra hother
      have hecho := Echoes.copy hplain hrest
      exact hplain kind hon (hecho.matches hvalid hpoint hmatches hother)
  | write hwrites hrest ih =>
      obtain ⟨-, -, hsealed⟩ := hwrites
      exact hsealed.settled_append ih

/-- Plain text is copied. -/
theorem Echoes.append_left {shown text output : List Char} (h : config.Echoes text output)
    (hplain : ∀ before within, shown = before ++ within → within ≠ [] →
      ∀ kind, config.tags.has kind = true → ¬ config.Matches kind (within ++ text)) :
    config.Echoes (shown ++ text) (shown ++ output) := by
  induction shown with
  | nil => exact h
  | cons c shown ih =>
      refine .copy (hplain [] (c :: shown) rfl (List.cons_ne_nil _ _)) (ih ?_)
      intro before within hshown
      exact hplain (c :: before) within (by rw [hshown, List.cons_append])

/-- The body has glyphs, and the last one has neither `<` nor a marker. -/
def EndsPlain (config : Config) (body : List Char) : Prop :=
  ∃ last, (config.bodyGlyphs body).getLast? = some last ∧
    ∀ c ∈ last.text, c ≠ '<' ∧ config.isMarker c = false

/-- Markup is replaced by something sealed if the bodies of spans end plain. -/
theorem Valid.writes_renderToken (hvalid : config.Valid) {kind : TagKind} {token : Token}
    {piece : List Char} (h : config.Spells kind token piece)
    (hspan : ∀ effect body, token = .span effect body → config.EndsPlain body) :
    config.Writes (config.renderToken token) := by
  cases h with
  | standard hmarker hcode => exact hvalid.writes_code (isAlphanum_of_isStandardCode hcode)
  | @shorthand first others hword =>
      refine hvalid.writes_code ?_
      rw [isAlphanum_toLower]
      exact hword.2 first List.mem_cons_self
  | hex => exact hvalid.writes_escape _
  | span hkind hopening hclosing =>
      obtain ⟨last, hlast, hplain⟩ := hspan _ _ rfl
      have hcolors := Effect.length_colors_of_readTag hopening
      exact hvalid.writes_paint (hcolors _) (fun _ hglyph => hvalid.loose_of_mem_bodyGlyphs hglyph)
        hlast hplain

/-- The output echoes the text. -/
theorem Lexes.echoes (hvalid : config.Valid) {text : List Char} {tokens : List Token}
    (h : config.Lexes text tokens)
    (hspans : ∀ effect body, .span effect body ∈ tokens → config.EndsPlain body) :
    config.Echoes text (tokens.flatMap config.renderToken) := by
  induction h with
  | nil => exact .nil
  | text hne hplain hrest ih =>
      have hothers := ih fun effect body hmem => hspans effect body (List.mem_cons_of_mem _ hmem)
      rw [List.flatMap_cons]
      exact hothers.append_left hplain
  | markup hon hspells hfirst hleast hrest ih =>
      have hothers := ih fun effect body hmem => hspans effect body (List.mem_cons_of_mem _ hmem)
      rw [List.flatMap_cons]
      refine .write (hvalid.writes_renderToken hspells ?_) hothers
      rintro effect body rfl
      exact hspans effect body List.mem_cons_self

/-- Rendering an output once more changes nothing, if the host's marker is not
the point and the bodies of all spans end plain. -/
theorem transform_transform (hvalid : config.Valid) (hpoint : config.marker.char ≠ '.')
    {text : List Char}
    (hspans : ∀ effect body, .span effect body ∈ config.tokens text → config.EndsPlain body) :
    config.transform (config.transform text) = config.transform text := by
  have hecho : config.Echoes text (config.transform text) :=
    (lexes_tokens hvalid text).echoes hvalid hspans
  exact (hecho.settled hvalid hpoint).transform_eq

/-- Neither the sign of the body nor the tag that is never closed is read in
the output. -/
theorem transform_transform_unclosed :
    ({} : Config).transform (({} : Config).transform "&la<g:#f00:#00f>b<c</g><r:.5>d".toList) =
      ({} : Config).transform "&la<g:#f00:#00f>b<c</g><r:.5>d".toList := by
  have htokens : ({} : Config).tokens "&la<g:#f00:#00f>b<c</g><r:.5>d".toList =
      [.code 'l', .text ['a'],
        .span (.gradient ⟨[⟨255, 0, 0⟩, ⟨0, 0, 255⟩], 0, false⟩) "b<c".toList,
        .text "<r:.5>d".toList] := by decide +kernel
  refine transform_transform valid_default (by decide) fun effect body hmem => ?_
  rw [htokens] at hmem
  obtain ⟨-, rfl⟩ : effect = _ ∧ body = "b<c".toList := by simpa using hmem
  exact ⟨⟨.empty, ['c']⟩, by decide +kernel, List.forall_mem_singleton.2 (by decide)⟩

end ColorMarkup.Config
