import ColorMarkup.Proofs.Token.Scanner

/-!
# ColorMarkup.Proofs.Token.Agreement

Configurations that cut a text into the same tokens.

A scan asks a configuration two things only: which kinds of markup are on, and
which characters of the text are markers.  Configurations that agree in both
(`Config.AgreeOn`) read the same next token at every place of the text
(`AgreeOn.readNext_eq`) and so the same tokens (`AgreeOn.tokens_eq`), also in
the body of a span (`AgreeOn.bodyTokens_eq`).
-/

namespace ColorMarkup

/-- Characters of one class are split off alike by tests that agree. -/
theorem takeWhile_dropWhile_congr {p q : Char → Bool} {text : List Char}
    (h : ∀ c ∈ text, p c = q c) :
    text.takeWhile p = text.takeWhile q ∧ text.dropWhile p = text.dropWhile q := by
  induction text with
  | nil => exact ⟨rfl, rfl⟩
  | cons c text ih =>
      have hc : p c = q c := h c List.mem_cons_self
      obtain ⟨htake, hdrop⟩ := ih fun d hd => h d (List.mem_cons_of_mem c hd)
      by_cases hq : q c = true
      · simp [hc, hq, htake, hdrop]
      · simp [hc, hq]

namespace Config

/-- The same kinds are on, and the same characters of a text are markers. -/
structure AgreeOn (a b : Config) (text : List Char) : Prop where
  tags : a.tags = b.tags
  isMarker : ∀ c ∈ text, a.isMarker c = b.isMarker c

namespace AgreeOn

variable {a b : Config} {text : List Char}

/-- What agrees on a text agrees on every part of it. -/
theorem mono (h : a.AgreeOn b text) {part : List Char} (hpart : part ⊆ text) :
    a.AgreeOn b part where
  tags := h.tags
  isMarker c hc := h.isMarker c (hpart hc)

/-- Inside a span the effects are off for both. -/
theorem inline (h : a.AgreeOn b text) : a.inline.AgreeOn b.inline text where
  tags := by simp only [Config.inline, h.tags]
  isMarker c hc := h.isMarker c hc

/-! ## The next token -/

theorem isSpecial_eq (h : a.AgreeOn b text) {c : Char} (hc : c ∈ text) :
    a.isSpecial c = b.isSpecial c := by
  simp only [isSpecial, readsTags, h.tags, h.isMarker c hc]

/-- Of all kinds of markup only the standard codes depend on the markers. -/
theorem read?_eq (h : a.AgreeOn b text) (kind : TagKind) :
    a.read? kind text = b.read? kind text := by
  cases kind with
  | standard =>
      match text with
      | [] | [_] => rfl
      | first :: code :: rest =>
          have hfirst := h.isMarker first List.mem_cons_self
          simp only [read?, readStandard?, hfirst]
  | shorthand | hex | gradient | rainbow => rfl

theorem readPlain_eq {first : Char} {after : List Char} (h : a.AgreeOn b (first :: after)) :
    a.readPlain first after = b.readPlain first after := by
  have hplain : ∀ c ∈ after, (!a.isSpecial c) = !b.isSpecial c := by
    intro c hc
    rw [h.isSpecial_eq (List.mem_cons_of_mem first hc)]
  obtain ⟨htake, hdrop⟩ := takeWhile_dropWhile_congr hplain
  simp only [readPlain, htake, hdrop]

theorem readNext_eq {first : Char} {after : List Char} (h : a.AgreeOn b (first :: after)) :
    a.readNext first after = b.readNext first after := by
  have hmarkup : a.readMarkup? first after = b.readMarkup? first after := by
    have hkind (kind : TagKind) :
        a.readIfOn? (first :: after) kind = b.readIfOn? (first :: after) kind := by
      simp only [readIfOn?, h.tags, h.read?_eq kind]
    simp only [readMarkup?, funext hkind]
  rw [readNext, readNext, hmarkup, h.readPlain_eq]

/-! ## All tokens -/

/-- Configurations that agree on a text cut it into the same tokens. -/
theorem tokens_eq (h : a.AgreeOn b text) : a.tokens text = b.tokens text := by
  induction text using a.token_induction with
  | nil => rw [tokens_nil, tokens_nil]
  | cons first after ih =>
      have hparts := a.parts_readNext first after
      have hrest : (a.readNext first after).rest ⊆ first :: after := by
        intro c hc
        rw [hparts]
        exact List.mem_append_right _ hc
      rw [tokens_cons, tokens_cons, ih (h.mono hrest), h.readNext_eq]

theorem bodyTokens_eq (h : a.AgreeOn b text) : a.bodyTokens text = b.bodyTokens text :=
  h.inline.tokens_eq

end AgreeOn

end Config

end ColorMarkup
