import ColorMarkup.Proofs.Tag.Bracket
import ColorMarkup.Proofs.Token.Scanner
import Mathlib.Data.List.Basic

/-!
# ColorMarkup.Proofs.Token.TagOrder

Which tags a text can start with, and in which order the kinds may be tried.

1. `TagKind.readTag?` reads a tag of one kind, for an effect the open tag alone.
   It takes a text in brackets and does not look at what follows
   (`TagKind.spec_of_readTag?`).
2. Two kinds are read from one text only if this starts with a rainbow tag that
   is nothing but its name, for that is a word as well
   (`TagKind.eq_or_startsBare`).
3. Hence the order of the kinds only matters between a rainbow and a word
   (`findSome?_readIfOn?_eq_of_perm`).
-/

namespace ColorMarkup

/-! ## Tags of one kind -/

/-- What a tag stands for by itself. -/
inductive TagMeaning where
  | gradient (gradient : Gradient)
  | rainbow (rainbow : Rainbow)
  | color (color : Color)
  | code (code : Char)
deriving DecidableEq, Repr

theorem toOption_eq_some_iff {ε α : Type} {result : Except ε α} {a : α} :
    result.toOption = some a ↔ result = .ok a := by
  cases result <;> simp [Except.toOption]

namespace TagKind

/-- Reads a tag of one kind.  A standard code is no tag. -/
def readTag? (kind : TagKind) (text : List Char) : Option (Reading TagMeaning) :=
  match kind with
  | standard => none
  | shorthand => (readShorthand text).map (Reading.map .code)
  | hex => (Color.readTag text).map (Reading.map .color)
  | gradient => (Gradient.readTag text).toOption.map (Reading.map .gradient)
  | rainbow => (Rainbow.readTag text).toOption.map (Reading.map .rainbow)

variable {kind : TagKind} {text : List Char} {reading : Reading TagMeaning}

theorem readTag?_gradient_eq_some_iff :
    readTag? gradient text = some reading ↔
      ∃ r, Gradient.readTag text = .ok r ∧ r.map .gradient = reading := by
  simp only [readTag?, Option.map_eq_some_iff, toOption_eq_some_iff]

theorem readTag?_rainbow_eq_some_iff :
    readTag? rainbow text = some reading ↔
      ∃ r, Rainbow.readTag text = .ok r ∧ r.map .rainbow = reading := by
  simp only [readTag?, Option.map_eq_some_iff, toOption_eq_some_iff]

/-- The shape of the tags of one kind. -/
def Writes (kind : TagKind) (piece : List Char) : Prop :=
  match kind with
  | standard => False
  | shorthand => IsWord piece
  | hex => ∃ digits, (∀ c ∈ digits, c.isHexDigit = true) ∧ piece = '<' :: '#' :: digits ++ ['>']
  | gradient => ∃ tag : GradientTag, tag.WellFormed ∧ piece = tag.toText
  | rainbow => ∃ tag : RainbowTag, tag.WellFormed ∧ piece = tag.toText

theorem Writes.isBracketed {piece : List Char} (h : kind.Writes piece) : IsBracketed piece := by
  cases kind with
  | standard => cases h
  | shorthand => exact h.isBracketed
  | hex =>
      obtain ⟨digits, hdigits, rfl⟩ := h
      have hmade : IsMadeOf fractionSigns digits := isMadeOf_of_forall hdigits isAlphanum_of_isHexDigit
      exact ⟨'#' :: digits, isMadeOf_cons.2 ⟨by decide, hmade⟩, rfl⟩
  | gradient =>
      obtain ⟨tag, hwell, rfl⟩ := h
      exact GradientTag.isBracketed_toText hwell
  | rainbow =>
      obtain ⟨tag, hwell, rfl⟩ := h
      exact RainbowTag.isBracketed_toText hwell

/-- What is read has the shape of its kind, and reads the same before any text. -/
theorem spec_of_readTag? (h : kind.readTag? text = some reading) :
    kind.Writes reading.text ∧ reading.Parts text ∧
      ∀ rest, kind.readTag? (reading.text ++ rest) = some { reading with rest := rest } := by
  cases kind with
  | standard => cases h
  | shorthand =>
      obtain ⟨r, hread, rfl⟩ := Option.map_eq_some_iff.1 h
      obtain ⟨first, others, hword, hvalue, htext, hparts⟩ := readShorthand_eq_some_iff.1 hread
      refine ⟨⟨first :: others, hword.2, htext⟩, hparts, fun rest => ?_⟩
      exact Option.map_eq_some_iff.2 ⟨{ r with rest := rest },
        readShorthand_eq_some_iff.2 ⟨first, others, hword, hvalue, htext, rfl⟩, rfl⟩
  | hex =>
      obtain ⟨r, hread, rfl⟩ := Option.map_eq_some_iff.1 h
      obtain ⟨digits, hlength, hdigits, hcolor, htext, hparts⟩ := Color.readTag_eq_some_iff.1 hread
      refine ⟨⟨digits, hdigits, htext⟩, hparts, fun rest => ?_⟩
      exact Option.map_eq_some_iff.2 ⟨{ r with rest := rest },
        Color.readTag_eq_some_iff.2 ⟨digits, hlength, hdigits, hcolor, htext, rfl⟩, rfl⟩
  | gradient =>
      obtain ⟨r, hread, rfl⟩ := readTag?_gradient_eq_some_iff.1 h
      obtain ⟨tag, hwell, -, htext, hparts⟩ := Gradient.readTag_eq_ok_iff.1 hread
      refine ⟨⟨tag, hwell, htext⟩, hparts, fun rest => ?_⟩
      exact readTag?_gradient_eq_some_iff.2 ⟨_, Gradient.readTag_append hread rest, rfl⟩
  | rainbow =>
      obtain ⟨r, hread, rfl⟩ := readTag?_rainbow_eq_some_iff.1 h
      obtain ⟨tag, hwell, -, htext, hparts⟩ := Rainbow.readTag_eq_ok_iff.1 hread
      refine ⟨⟨tag, hwell, htext⟩, hparts, fun rest => ?_⟩
      exact readTag?_rainbow_eq_some_iff.2 ⟨_, Rainbow.readTag_append hread rest, rfl⟩

/-- What is read ends at the first closing bracket of the text. -/
theorem text_of_readTag? (h : kind.readTag? text = some reading) :
    reading.text = text.takeWhile (· ≠ '>') ++ ['>'] := by
  obtain ⟨hwrites, hparts, -⟩ := spec_of_readTag? h
  rw [hparts]
  exact hwrites.isBracketed.eq_takeWhile_append reading.rest

/-! ## Tags of two kinds -/

/-- The text starts with a rainbow tag that is nothing but its name. -/
def StartsBare (text : List Char) : Prop :=
  "<r>".toList <+: text ∨ "<rainbow>".toList <+: text

instance (text : List Char) : Decidable (StartsBare text) :=
  inferInstanceAs (Decidable (_ ∨ _))

/-- The effect whose open tags a kind are. -/
def effect? : TagKind → Option EffectKind
  | gradient => some .gradient
  | rainbow => some .rainbow
  | _ => none

/-- The character after the bracket tells the kind of a tag that is no word. -/
theorem Writes.ofText?_append {piece : List Char} (h : kind.Writes piece) (hne : kind ≠ shorthand)
    (rest : List Char) : EffectKind.ofText? (piece ++ rest) = kind.effect? := by
  cases kind with
  | standard => cases h
  | shorthand => contradiction
  | hex =>
      obtain ⟨digits, -, rfl⟩ := h
      rfl
  | gradient =>
      obtain ⟨⟨isLong, speed, stops, loop⟩, -, rfl⟩ := h
      cases isLong <;> rfl
  | rainbow =>
      obtain ⟨⟨isLong, speed, saturation, brightness, loop⟩, -, rfl⟩ := h
      cases isLong <;> rfl

/-- A tag of another kind that is a word is a rainbow with nothing but its name. -/
theorem Writes.eq_rainbow_of_isWord {piece : List Char} (h : kind.Writes piece)
    (hword : IsWord piece) (hne : kind ≠ shorthand) :
    kind = rainbow ∧ RainbowTag.IsBare piece := by
  cases kind with
  | standard => cases h
  | shorthand => contradiction
  | hex =>
      obtain ⟨digits, -, rfl⟩ := h
      have halpha : ∀ c ∈ '#' :: digits, c.isAlphanum = true := hword.isAlphanum
      exact absurd (halpha '#' List.mem_cons_self) (by decide)
  | gradient =>
      obtain ⟨tag, hwell, rfl⟩ := h
      exact absurd hword (GradientTag.not_isWord_toText hwell)
  | rainbow =>
      obtain ⟨tag, -, rfl⟩ := h
      exact ⟨rfl, RainbowTag.isBare_of_isWord hword⟩

/-- If a word is read, no other kind is, unless the text starts with a bare
rainbow tag. -/
theorem eq_rainbow_of_readTag? {word : Reading TagMeaning}
    (hword : readTag? shorthand text = some word) (h : kind.readTag? text = some reading)
    (hne : kind ≠ shorthand) : kind = rainbow ∧ StartsBare text := by
  obtain ⟨hwrites, hparts, -⟩ := spec_of_readTag? h
  obtain ⟨hwordWrites, -, -⟩ := spec_of_readTag? hword
  have htext : word.text = reading.text := by
    rw [text_of_readTag? hword, text_of_readTag? h]
  rw [htext] at hwordWrites
  obtain ⟨hkind, hbare⟩ := hwrites.eq_rainbow_of_isWord hwordWrites hne
  rw [hparts]
  refine ⟨hkind, ?_⟩
  obtain heq | heq := hbare
  · exact .inl ⟨reading.rest, by rw [heq]⟩
  · exact .inr ⟨reading.rest, by rw [heq]⟩

/-- Two kinds that are no words are not read from one text. -/
theorem eq_of_readTag?_of_ne {a b : TagKind} {ra rb : Reading TagMeaning}
    (ha : a.readTag? text = some ra) (hb : b.readTag? text = some rb) (hna : a ≠ shorthand)
    (hnb : b ≠ shorthand) : a = b := by
  obtain ⟨hwritesA, hpartsA, -⟩ := spec_of_readTag? ha
  obtain ⟨hwritesB, hpartsB, -⟩ := spec_of_readTag? hb
  have hlead : a.effect? = b.effect? := by
    rw [← hwritesA.ofText?_append hna ra.rest, ← hwritesB.ofText?_append hnb rb.rest, ← hpartsA,
      ← hpartsB]
  cases a <;> cases b <;> first | rfl | contradiction

/-- The two kinds that may both be read from one text. -/
def IsClash (a b : TagKind) : Prop :=
  (a = rainbow ∧ b = shorthand) ∨ (a = shorthand ∧ b = rainbow)

/-- Two different kinds are read from one text only if they are a rainbow and a
word. -/
theorem eq_or_startsBare {a b : TagKind} {ra rb : Reading TagMeaning}
    (ha : a.readTag? text = some ra) (hb : b.readTag? text = some rb) :
    a = b ∨ (IsClash a b ∧ StartsBare text) := by
  by_cases hna : a = shorthand
  · subst hna
    by_cases hnb : b = shorthand
    · exact .inl hnb.symm
    · obtain ⟨rfl, hbare⟩ := eq_rainbow_of_readTag? ha hb hnb
      exact .inr ⟨.inr ⟨rfl, rfl⟩, hbare⟩
  · by_cases hnb : b = shorthand
    · subst hnb
      obtain ⟨rfl, hbare⟩ := eq_rainbow_of_readTag? hb ha hna
      exact .inr ⟨.inl ⟨rfl, rfl⟩, hbare⟩
    · exact .inl (eq_of_readTag?_of_ne ha hb hna hnb)

/-- A bare rainbow tag is read as a rainbow and as a word. -/
theorem isSome_readTag?_of_startsBare (h : StartsBare text) :
    (readTag? rainbow text).isSome = true ∧ (readTag? shorthand text).isSome = true := by
  obtain ⟨rest, rfl⟩ | ⟨rest, rfl⟩ := h
  · exact ⟨rfl, rfl⟩
  · exact ⟨rfl, rfl⟩

end TagKind

/-! ## Orders -/

section Orders

variable {α β : Type} [DecidableEq α] {f : α → Option β} {x y : α}

/-- Of two members, the one that is found first comes first. -/
theorem idxOf_lt_idxOf_of_found {before : List α} (hbefore : ∀ k ∈ before, f k = none)
    (hne : x ≠ y) (hx : (f x).isSome = true) (hy : (f y).isSome = true) (after : List α) :
    (before ++ x :: after).idxOf x < (before ++ x :: after).idxOf y := by
  have hnot {k : α} (hk : (f k).isSome = true) : k ∉ before := by
    intro hmem
    simp [hbefore k hmem] at hk
  rw [List.idxOf_append_of_notMem (hnot hx), List.idxOf_append_of_notMem (hnot hy),
    List.idxOf_cons_self, List.idxOf_cons_ne _ hne]
  omega

/-- If no two members give a result but two certain ones, what is found depends on
the order of these two alone. -/
theorem findSome?_eq_some_of_perm {as bs : List α} {result : β} (hperm : as.Perm bs)
    (hclash : ∀ a ∈ as, ∀ b ∈ as, (f a).isSome = true → (f b).isSome = true →
      a = b ∨ (a = x ∧ b = y) ∨ (a = y ∧ b = x))
    (horder : as.idxOf x < as.idxOf y ↔ bs.idxOf x < bs.idxOf y)
    (h : as.findSome? f = some result) : bs.findSome? f = some result := by
  obtain ⟨before, a, after, rfl, ha, hbefore⟩ := List.findSome?_eq_some_iff.1 h
  have hmem : a ∈ before ++ a :: after := by simp
  have hsome : (f a).isSome = true := by simp [ha]
  have hfound : (bs.findSome? f).isSome = true :=
    List.findSome?_isSome_iff.2 ⟨a, hperm.mem_iff.1 hmem, hsome⟩
  obtain ⟨other, hother⟩ := Option.isSome_iff_exists.1 hfound
  obtain ⟨before', b, after', rfl, hb, hbefore'⟩ := List.findSome?_eq_some_iff.1 hother
  have hmem' : b ∈ before' ++ b :: after' := by simp
  have hsome' : (f b).isSome = true := by simp [hb]
  by_cases hab : a = b
  · subst hab
    rw [hother, ← hb, ha]
  · have hfirst := idxOf_lt_idxOf_of_found hbefore hab hsome hsome' after
    have hfirst' := idxOf_lt_idxOf_of_found hbefore' (Ne.symm hab) hsome' hsome after'
    have htwo := hclash a hmem b (hperm.mem_iff.2 hmem') hsome hsome'
    obtain ⟨rfl, rfl⟩ | ⟨rfl, rfl⟩ := htwo.resolve_left hab
    · exact absurd (horder.1 hfirst) (by omega)
    · exact absurd (horder.2 hfirst') (by omega)

/-- The same is found in both orders, or nothing in either. -/
theorem findSome?_eq_of_perm {as bs : List α} (hperm : as.Perm bs)
    (hclash : ∀ a ∈ as, ∀ b ∈ as, (f a).isSome = true → (f b).isSome = true →
      a = b ∨ (a = x ∧ b = y) ∨ (a = y ∧ b = x))
    (horder : as.idxOf x < as.idxOf y ↔ bs.idxOf x < bs.idxOf y) :
    as.findSome? f = bs.findSome? f := by
  cases hfound : as.findSome? f with
  | some result => exact (findSome?_eq_some_of_perm hperm hclash horder hfound).symm
  | none =>
      rw [List.findSome?_eq_none_iff] at hfound
      symm
      rw [List.findSome?_eq_none_iff]
      exact fun k hk => hfound k (hperm.mem_iff.2 hk)

end Orders

/-- A span starts with an open tag. -/
theorem EffectKind.exists_readTag_of_readSpan? {kind : EffectKind} {text : List Char}
    {token : Reading Token} (h : kind.readSpan? text = some token) :
    ∃ opening, Effect.readTag kind text = .ok opening := by
  unfold EffectKind.readSpan? at h
  split at h
  · cases h
  · rename_i opening hopening
    exact ⟨opening, hopening⟩

namespace TagKind

/-- Markup that is no standard code starts with a tag of its kind. -/
theorem exists_readTag?_of_read? {config : Config} {kind : TagKind} {text : List Char}
    {token : Reading Token} (hne : kind ≠ standard) (h : config.read? kind text = some token) :
    ∃ reading, kind.readTag? text = some reading := by
  cases kind with
  | standard => contradiction
  | shorthand =>
      obtain ⟨r, hread, -⟩ := Option.map_eq_some_iff.1 h
      exact ⟨_, Option.map_eq_some_iff.2 ⟨r, hread, rfl⟩⟩
  | hex =>
      obtain ⟨r, hread, -⟩ := Option.map_eq_some_iff.1 h
      exact ⟨_, Option.map_eq_some_iff.2 ⟨r, hread, rfl⟩⟩
  | gradient =>
      have hspan : EffectKind.gradient.readSpan? text = some token := h
      obtain ⟨opening, hopening⟩ := EffectKind.exists_readTag_of_readSpan? hspan
      obtain ⟨r, hread, -⟩ := exists_of_map_eq_ok hopening
      exact ⟨_, readTag?_gradient_eq_some_iff.2 ⟨r, hread, rfl⟩⟩
  | rainbow =>
      have hspan : EffectKind.rainbow.readSpan? text = some token := h
      obtain ⟨opening, hopening⟩ := EffectKind.exists_readTag_of_readSpan? hspan
      obtain ⟨r, hread, -⟩ := exists_of_map_eq_ok hopening
      exact ⟨_, readTag?_rainbow_eq_some_iff.2 ⟨r, hread, rfl⟩⟩

end TagKind

namespace Config

/-- The kinds whose tags may stand at a `<` are those that have tags. -/
theorem ne_standard_of_mem_kindsAt {kind : TagKind} (h : kind ∈ kindsAt '<') :
    kind ≠ .standard := by
  rintro rfl
  revert h
  decide

/-- Among the kinds whose tags start with `<`, two that are on and can be read
are a rainbow and a word. -/
theorem eq_or_isClash_of_readIfOn? {config : Config} {text : List Char} {a b : TagKind}
    (ha : a ∈ kindsAt '<') (hb : b ∈ kindsAt '<')
    (hreadA : (config.readIfOn? text a).isSome = true)
    (hreadB : (config.readIfOn? text b).isSome = true) : a = b ∨ TagKind.IsClash a b := by
  have hread {kind : TagKind} (hmem : kind ∈ kindsAt '<')
      (h : (config.readIfOn? text kind).isSome = true) :
      ∃ reading, kind.readTag? text = some reading := by
    obtain ⟨token, htoken⟩ := Option.isSome_iff_exists.1 h
    exact TagKind.exists_readTag?_of_read? (ne_standard_of_mem_kindsAt hmem)
      (readIfOn?_eq_some_iff.1 htoken).2
  obtain ⟨ra, hra⟩ := hread ha hreadA
  obtain ⟨rb, hrb⟩ := hread hb hreadB
  obtain heq | ⟨hclash, -⟩ := TagKind.eq_or_startsBare hra hrb
  · exact .inl heq
  · exact .inr hclash

/-- Two orders of the kinds at a `<` find the same if they agree on which of
rainbows and words comes first. -/
theorem findSome?_readIfOn?_eq_of_perm (config : Config) (text : List Char)
    {order other : List TagKind} (horder : order.Perm (kindsAt '<'))
    (hother : other.Perm (kindsAt '<'))
    (h : order.idxOf .rainbow < order.idxOf .shorthand ↔
      other.idxOf .rainbow < other.idxOf .shorthand) :
    order.findSome? (config.readIfOn? text) = other.findSome? (config.readIfOn? text) :=
  findSome?_eq_of_perm (horder.trans hother.symm)
    (fun _ ha _ hb => eq_or_isClash_of_readIfOn? (horder.mem_iff.1 ha) (horder.mem_iff.1 hb)) h

end Config

/-- A tag of any kind takes what stands before the first closing bracket of the
text, and that bracket, in ASCII, and it is read the same before any other text.
Only one kind is read from a text, but if this starts with a bare rainbow tag, a
rainbow and a word are.  So for every configuration, orders of the kinds find the
same if they agree on these two. -/
theorem TagKind.readTag?_unambiguous (text : List Char) :
    (∀ (kind : TagKind) (reading : Reading TagMeaning), kind.readTag? text = some reading →
      reading.text = text.takeWhile (· ≠ '>') ++ ['>'] ∧ reading.Parts text ∧
        (∀ c ∈ reading.text, c.toNat < 128) ∧
        ∀ rest, kind.readTag? (reading.text ++ rest) = some { reading with rest := rest }) ∧
    (¬ StartsBare text → ∀ a b : TagKind, (a.readTag? text).isSome = true →
      (b.readTag? text).isSome = true → a = b) ∧
    (StartsBare text → ∀ kind : TagKind, (kind.readTag? text).isSome = true ↔
      kind = .rainbow ∨ kind = .shorthand) ∧
    (∀ (config : Config) (order other : List TagKind), order.Perm (Config.kindsAt '<') →
      other.Perm (Config.kindsAt '<') →
      (order.idxOf .rainbow < order.idxOf .shorthand ↔
        other.idxOf .rainbow < other.idxOf .shorthand) →
      order.findSome? (config.readIfOn? text) = other.findSome? (config.readIfOn? text)) := by
  refine ⟨?_, ?_, ?_, ?_⟩
  · intro kind reading h
    obtain ⟨hwrites, hparts, happend⟩ := spec_of_readTag? h
    exact ⟨text_of_readTag? h, hparts, hwrites.isBracketed.toNat_lt, happend⟩
  · intro hbare a b ha hb
    obtain ⟨ra, hra⟩ := Option.isSome_iff_exists.1 ha
    obtain ⟨rb, hrb⟩ := Option.isSome_iff_exists.1 hb
    exact (eq_or_startsBare hra hrb).resolve_right fun h => hbare h.2
  · intro hbare kind
    obtain ⟨hrainbow, hshorthand⟩ := isSome_readTag?_of_startsBare hbare
    constructor
    · intro h
      obtain ⟨word, hword⟩ := Option.isSome_iff_exists.1 hshorthand
      obtain ⟨reading, hreading⟩ := Option.isSome_iff_exists.1 h
      by_cases hkind : kind = .shorthand
      · exact .inr hkind
      · exact .inl (eq_rainbow_of_readTag? hword hreading hkind).1
    · rintro (rfl | rfl)
      · exact hrainbow
      · exact hshorthand
  · exact fun config _ _ => config.findSome?_readIfOn?_eq_of_perm text

/-- A bare rainbow tag is a rainbow in two orders of the kinds, and a color tag is
a tag of no other kind. -/
theorem TagKind.readTag?_unambiguous_rainbow :
    (∀ kind : TagKind, (kind.readTag? "<rainbow>x</rainbow>".toList).isSome = true ↔
      kind = .rainbow ∨ kind = .shorthand) ∧
    [hex, rainbow, shorthand, gradient].findSome?
        (({} : Config).readIfOn? "<rainbow>x</rainbow>".toList) =
      (Config.kindsAt '<').findSome? (({} : Config).readIfOn? "<rainbow>x</rainbow>".toList) ∧
    (∀ kind : TagKind, (kind.readTag? "<#00FF00>x".toList).isSome = true → hex = kind) ∧
    readTag? hex "<#00FF00>".toList = some ⟨.color ⟨0, 255, 0⟩, "<#00FF00>".toList, []⟩ := by
  obtain ⟨-, -, hrainbow, horder⟩ := readTag?_unambiguous "<rainbow>x</rainbow>".toList
  obtain ⟨hlocal, hone, -, -⟩ := readTag?_unambiguous "<#00FF00>x".toList
  have hread : readTag? hex "<#00FF00>x".toList =
      some ⟨.color ⟨0, 255, 0⟩, "<#00FF00>".toList, ['x']⟩ := by decide
  obtain ⟨-, -, -, happend⟩ := hlocal _ _ hread
  refine ⟨hrainbow (by decide), ?_, ?_, happend []⟩
  · exact horder {} _ _ (by decide) (by decide) (by decide)
  · exact fun kind => hone (by decide) hex kind (by decide)

end ColorMarkup
