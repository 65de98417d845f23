import ColorMarkup.Proofs.Tag.Alphabet
import ColorMarkup.Proofs.Token.Scanner

/-!
# ColorMarkup.Proofs.Token.Precedence

Scanning overlooks nothing, and where markup could be read in several ways
the kind that is tried first is taken.

1. `Config.Lexes` says so without a scanner: no kind that is on matches
   anywhere in plain text, and none of a lower rank matches where a token of
   markup starts.
2. Markup starts with `<` or with a marker (`Spells.exists_head`).  Under a
   valid configuration the two are different, so at every place all kinds
   that could match are tried (`mem_kindsAt`), by rising rank, and the
   characters that are skipped start none (`isSpecial_of_matches`).
3. Hence every scan is as `Config.Lexes` says (`lexes`).
-/

namespace ColorMarkup

/-- The place of a kind in the order in which kinds take precedence. -/
def TagKind.rank : TagKind → Nat
  | gradient => 0
  | rainbow => 1
  | hex => 2
  | shorthand => 3
  | standard => 4

namespace Config

/-- A text is cut into tokens such that plain text hides no markup and markup
of the lowest rank is taken. -/
inductive Lexes (config : Config) : List Char → List Token → Prop
  | nil : Lexes config [] []
  /-- No kind that is on matches at any place in a plain text. -/
  | text {shown rest : List Char} {tokens : List Token} (hne : shown ≠ [])
      (hplain : ∀ before within, shown = before ++ within → within ≠ [] →
        ∀ kind, config.tags.has kind = true → ¬ config.Matches kind (within ++ rest))
      (hrest : Lexes config rest tokens) : Lexes config (shown ++ rest) (.text shown :: tokens)
  /-- Of the kinds that are on and match, the one of the lowest rank is taken,
  and a span ends at its first close tag. -/
  | markup {kind : TagKind} {token : Token} {piece rest : List Char} {tokens : List Token}
      (hon : config.tags.has kind = true) (hspells : config.Spells kind token piece)
      (hfirst : token.ClosesFirst)
      (hleast : ∀ other, config.tags.has other = true → config.Matches other (piece ++ rest) →
        kind.rank ≤ other.rank)
      (hrest : Lexes config rest tokens) : Lexes config (piece ++ rest) (token :: tokens)

/-! ## How markup starts -/

/-- A standard code starts with a marker, and other markup with `<`. -/
theorem Spells.exists_head {config : Config} {kind : TagKind} {token : Token} {piece : List Char}
    (h : config.Spells kind token piece) :
    ∃ first others, piece = first :: others ∧
      if kind = .standard then config.isMarker first = true else first = '<' := by
  cases h with
  | standard hmarker hcode => exact ⟨_, _, rfl, hmarker⟩
  | shorthand hword => exact ⟨_, _, rfl, rfl⟩
  | hex => exact ⟨_, _, rfl, rfl⟩
  | @span _ effect opening body closing hkind hopening hclosing =>
      have hother : kind ≠ .standard := by
        rw [hkind]
        cases effect.kind <;> decide
      have hstart : ∃ others, opening = '<' :: others := by
        have hahead := Effect.ofText?_of_readTag hopening
        unfold EffectKind.ofText? at hahead
        split at hahead
        · exact ⟨_, rfl⟩
        · exact ⟨_, rfl⟩
        · cases hahead
      obtain ⟨others, rfl⟩ := hstart
      exact ⟨'<', others ++ body ++ closing, rfl, by rw [if_neg hother]⟩

/-- What matches at the front of a text tells the first character. -/
theorem Matches.head {config : Config} {kind : TagKind} {first : Char} {after : List Char}
    (h : config.Matches kind (first :: after)) :
    if kind = .standard then config.isMarker first = true else first = '<' := by
  obtain ⟨token, piece, rest, hspells, htext⟩ := h
  obtain ⟨head, others, rfl, hhead⟩ := hspells.exists_head
  rw [List.cons_append, List.cons.injEq] at htext
  rw [htext.1]
  exact hhead

/-- Tags are read if some kind of them is on. -/
theorem readsTags_of_has {config : Config} {kind : TagKind} (hon : config.tags.has kind = true)
    (hkind : kind ≠ .standard) : config.readsTags = true := by
  rw [readsTags, TagKinds.intersects_iff]
  refine ⟨kind, hon, ?_⟩
  cases kind with
  | standard => exact absurd rfl hkind
  | shorthand | hex | gradient | rainbow => rfl

/-- Only a special character starts markup that is on. -/
theorem isSpecial_of_matches {config : Config} {kind : TagKind} {first : Char} {after : List Char}
    (hon : config.tags.has kind = true) (h : config.Matches kind (first :: after)) :
    config.isSpecial first = true := by
  have hhead := h.head
  unfold isSpecial
  by_cases hkind : kind = .standard
  · rw [if_pos hkind] at hhead
    rw [hkind] at hon
    have hstandard : config.tags.standard = true := hon
    simp [hstandard, hhead]
  · rw [if_neg hkind] at hhead
    simp [hhead, readsTags_of_has hon hkind]

/-! ## All kinds that could match are tried -/

/-- Tags do not start with a marker. -/
theorem Valid.isMarker_lt {config : Config} (h : config.Valid) : config.isMarker '<' = false :=
  h.isMarker_eq_false (by decide)

theorem Valid.inline {config : Config} (h : config.Valid) : config.inline.Valid :=
  valid_iff.2 (valid_iff.1 h)

/-- A kind is tried wherever it matches. -/
theorem mem_kindsAt {config : Config} (hvalid : config.Valid) {kind : TagKind} {first : Char}
    {after : List Char} (h : config.Matches kind (first :: after)) : kind ∈ kindsAt first := by
  have hhead := h.head
  unfold kindsAt
  by_cases hkind : kind = .standard
  · rw [if_pos hkind] at hhead
    have hfirst : first ≠ '<' := by
      rintro rfl
      rw [hvalid.isMarker_lt] at hhead
      cases hhead
    rw [if_neg hfirst, hkind]
    exact List.mem_singleton_self _
  · rw [if_neg hkind] at hhead
    rw [if_pos hhead]
    cases kind with
    | standard => exact absurd rfl hkind
    | shorthand | hex | gradient | rainbow => decide

/-- Kinds are tried by rising rank. -/
theorem pairwise_kindsAt (first : Char) :
    (kindsAt first).Pairwise fun earlier later => earlier.rank ≤ later.rank := by
  unfold kindsAt
  split <;> decide

/-- The kind that is read has the lowest rank of those that are on and match. -/
theorem exists_of_readMarkup?_eq_some {config : Config} (hvalid : config.Valid) {first : Char}
    {after : List Char} {reading : Reading Token}
    (h : config.readMarkup? first after = some reading) :
    ∃ kind, config.tags.has kind = true ∧ config.read? kind (first :: after) = some reading ∧
      ∀ other, config.tags.has other = true → config.Matches other (first :: after) →
        kind.rank ≤ other.rank := by
  obtain ⟨earlier, kind, later, hkinds, hread, hnone⟩ := List.findSome?_eq_some_iff.1 h
  obtain ⟨hon, hread⟩ := readIfOn?_eq_some_iff.1 hread
  refine ⟨kind, hon, hread, ?_⟩
  intro other hother hmatches
  have hmem := mem_kindsAt hvalid hmatches
  have hsorted := pairwise_kindsAt first
  rw [hkinds] at hmem hsorted
  rcases List.mem_append.1 hmem with hearlier | hlater
  · exact absurd hmatches (readIfOn?_eq_none_iff.1 (hnone other hearlier) hother)
  · rcases List.mem_cons.1 hlater with rfl | hlater
    · exact Nat.le_refl _
    · exact (List.pairwise_cons.1 (List.pairwise_append.1 hsorted).2.1).1 other hlater

/-- Where no markup is read, none that is on matches. -/
theorem not_matches_of_readMarkup?_eq_none {config : Config} (hvalid : config.Valid) {first : Char}
    {after : List Char} (h : config.readMarkup? first after = none) {kind : TagKind}
    (hon : config.tags.has kind = true) : ¬ config.Matches kind (first :: after) := by
  intro hmatches
  have hnone := List.findSome?_eq_none_iff.1 h kind (mem_kindsAt hvalid hmatches)
  exact readIfOn?_eq_none_iff.1 hnone hon hmatches

/-- Behind its first character a plain text has no special ones. -/
theorem isSpecial_of_mem_readPlain {config : Config} {first c : Char}
    {after before within : List Char}
    (h : (config.readPlain first after).text = before ++ c :: within)
    (hbefore : before ≠ []) : config.isSpecial c = false := by
  obtain ⟨head, before, rfl⟩ := List.exists_cons_of_ne_nil hbefore
  have hplain : after.takeWhile (fun c => !config.isSpecial c) = before ++ c :: within :=
    (List.cons.inj h).2
  have hmem : c ∈ after.takeWhile fun c => !config.isSpecial c := by
    rw [hplain]
    exact List.mem_append_right _ List.mem_cons_self
  have hnot := List.all_eq_true.1 List.all_takeWhile c hmem
  rwa [Bool.not_eq_true'] at hnot

/-- Where no markup is read, none that is on matches at any place in the plain
text that is read instead. -/
theorem not_matches_of_readPlain {config : Config} (hvalid : config.Valid) {first : Char}
    {after before within : List Char} (hnone : config.readMarkup? first after = none)
    (hshown : (config.readPlain first after).text = before ++ within) (hne : within ≠ [])
    {kind : TagKind} (hon : config.tags.has kind = true) :
    ¬ config.Matches kind (within ++ (config.readPlain first after).rest) := by
  intro hmatches
  obtain ⟨c, others, rfl⟩ := List.exists_cons_of_ne_nil hne
  by_cases hbefore : before = []
  · -- The plain text starts here, where all kinds were tried.
    rw [hbefore, List.nil_append] at hshown
    rw [← hshown, ← config.parts_readPlain first after] at hmatches
    exact not_matches_of_readMarkup?_eq_none hvalid hnone hon hmatches
  · have hspecial := isSpecial_of_matches hon hmatches
    rw [isSpecial_of_mem_readPlain hshown hbefore] at hspecial
    cases hspecial

/-! ## Scans -/

/-- Under a valid configuration the tokens of a text are as `Lexes` says. -/
theorem lexes_tokens {config : Config} (hvalid : config.Valid) (text : List Char) :
    config.Lexes text (config.tokens text) := by
  induction text using config.token_induction with
  | nil =>
      rw [tokens_nil]
      exact .nil
  | cons first after ih =>
      rw [tokens_cons]
      have hparts := config.parts_readNext first after
      rw [hparts]
      cases hread : config.readMarkup? first after with
      | none =>
          have hnext : config.readNext first after = config.readPlain first after := by
            rw [readNext, hread, Option.getD_none]
          rw [hnext] at ih ⊢
          refine .text (List.cons_ne_nil _ _) ?_ ih
          intro before within hshown hne kind hon
          exact not_matches_of_readPlain hvalid hread hshown hne hon
      | some reading =>
          have hnext : config.readNext first after = reading := by
            rw [readNext, hread, Option.getD_some]
          rw [hnext] at ih hparts ⊢
          obtain ⟨kind, hon, hkind, hleast⟩ := exists_of_readMarkup?_eq_some hvalid hread
          obtain ⟨hspells, hfirst, -⟩ := read?_eq_some_iff.1 hkind
          rw [hparts] at hleast
          exact .markup hon hspells hfirst hleast ih

/-- Scanning is complete and follows the order of precedence under every valid
configuration, for a text and for the body of a span, where effects are off. -/
theorem lexes {config : Config} (hvalid : config.Valid) (text : List Char) :
    config.Lexes text (config.tokens text) ∧
      config.inline.Lexes text (config.bodyTokens text) :=
  ⟨lexes_tokens hvalid text, lexes_tokens hvalid.inline text⟩

/-- A close tag is missing, so the open tag falls back to a shorthand. -/
theorem lexes_unclosed : ({} : Config).Lexes "a<rainbow>b".toList
    [.text ['a'], .code 'r', .text ['b']] := by
  have hlexes := (lexes valid_default "a<rainbow>b".toList).1
  have htokens : ({} : Config).tokens "a<rainbow>b".toList =
      [.text ['a'], .code 'r', .text ['b']] := by decide +kernel
  rwa [htokens] at hlexes

end Config

end ColorMarkup
