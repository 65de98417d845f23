import ColorMarkup.Tag.Effect
import ColorMarkup.Token.CloseTag

/-!
# ColorMarkup.Proofs.Token.CloseTag

What the search for a close tag finds, and why its memo may answer for it.

1. `EffectKind.findClose_eq_some_iff`: the search finds the first place where
   a close tag stands; no close tag starts before it (`StaysOpen`).
2. `CloseMemo.find_of_sound`: a memo whose last search was a search of the
   same text (`CloseMemo.Sound`) answers like a new search, and is still such
   a memo afterwards.
-/

namespace ColorMarkup

/-! ## The tag that a text starts with -/

theorem closeTagAhead?_eq_none_iff {tags : List (List Char)} {text : List Char} :
    closeTagAhead? tags text = none ↔ ∀ tag ∈ tags, ¬ tag <+: text := by
  simp [closeTagAhead?, List.find?_eq_none]

theorem mem_of_closeTagAhead? {tags : List (List Char)} {text tag : List Char}
    (h : closeTagAhead? tags text = some tag) : tag ∈ tags ∧ tag <+: text :=
  ⟨List.mem_of_find?_eq_some h, List.isPrefixOf_iff_prefix.1 (List.find?_some (a := tag) h)⟩

namespace EffectKind

/-- A close tag has one `<`, in front. -/
theorem exists_of_mem_closeTags {kind : EffectKind} {tag : List Char} (h : tag ∈ kind.closeTags) :
    ∃ name, tag = '<' :: name ∧ '<' ∉ name := by
  cases kind <;> simp only [closeTags, List.mem_cons, List.not_mem_nil, or_false] at h <;>
    rcases h with rfl | rfl <;> exact ⟨_, rfl, by decide⟩

/-- No text starts with two close tags of an effect. -/
theorem eq_of_isPrefix_closeTag {kind : EffectKind} {a b text : List Char}
    (ha : a ∈ kind.closeTags) (hb : b ∈ kind.closeTags) (hat : a <+: text) (hbt : b <+: text) :
    a = b := by
  have hab : a <+: b ∨ b <+: a := List.prefix_or_prefix_of_prefix hat hbt
  cases kind <;> simp only [closeTags, List.mem_cons, List.not_mem_nil, or_false] at ha hb <;>
    rcases ha with rfl | rfl <;> rcases hb with rfl | rfl <;> revert hab <;> decide

theorem closeTagAhead?_append {kind : EffectKind} {tag : List Char} (h : tag ∈ kind.closeTags)
    (rest : List Char) : closeTagAhead? kind.closeTags (tag ++ rest) = some tag := by
  cases hahead : closeTagAhead? kind.closeTags (tag ++ rest) with
  | none => exact absurd (List.prefix_append tag rest) (closeTagAhead?_eq_none_iff.1 hahead tag h)
  | some other =>
      obtain ⟨hmem, hother⟩ := mem_of_closeTagAhead? hahead
      rw [eq_of_isPrefix_closeTag hmem h hother (List.prefix_append tag rest)]

/-! ## Where no tag starts -/

/-- No close tag of the kind starts within `body` when `rest` follows it. -/
def StaysOpen (kind : EffectKind) (body rest : List Char) : Prop :=
  ∀ before within, body = before ++ within → within ≠ [] →
    ∀ tag ∈ kind.closeTags, ¬ tag <+: within ++ rest

theorem staysOpen_nil (kind : EffectKind) (rest : List Char) : kind.StaysOpen [] rest := by
  intro before within hbody hne
  exact absurd (List.append_eq_nil_iff.1 hbody.symm).2 hne

theorem staysOpen_cons_iff {kind : EffectKind} {c : Char} {body rest : List Char} :
    kind.StaysOpen (c :: body) rest ↔
      closeTagAhead? kind.closeTags (c :: (body ++ rest)) = none ∧ kind.StaysOpen body rest := by
  rw [closeTagAhead?_eq_none_iff]
  constructor
  · intro h
    refine ⟨h [] (c :: body) rfl (by simp), ?_⟩
    intro before within hbody
    exact h (c :: before) within (by rw [hbody, List.cons_append])
  · rintro ⟨hhere, hbody⟩ before within hsplit hne
    cases before with
    | nil =>
        rw [List.nil_append] at hsplit
        rw [← hsplit]
        exact hhere
    | cons d before =>
        rw [List.cons_append, List.cons.injEq] at hsplit
        exact hbody before within hsplit.2 hne

/-- A word is found before the first character that it does not have. -/
theorem prefix_of_prefix_append_cons {c : Char} {word text rest : List Char} (hc : c ∉ word)
    (h : word <+: text ++ c :: rest) : word <+: text := by
  induction word generalizing text with
  | nil => exact List.nil_prefix
  | cons d word ih =>
      rw [List.mem_cons, not_or] at hc
      cases text with
      | nil => exact absurd (List.cons_prefix_cons.1 h).1.symm hc.1
      | cons e text =>
          rw [List.cons_append, List.cons_prefix_cons] at h
          exact List.cons_prefix_cons.2 ⟨h.1, ih hc.2 h.2⟩

/-- A body that stays open does so before every `<`: the tag after it cannot
complete one that starts within it. -/
theorem StaysOpen.before_sign {kind : EffectKind} {body rest : List Char}
    (h : kind.StaysOpen body rest) (after : List Char) : kind.StaysOpen body ('<' :: after) := by
  intro before within hbody hne tag hmem hfront
  obtain ⟨name, rfl, hname⟩ := exists_of_mem_closeTags hmem
  cases within with
  | nil => contradiction
  | cons c within =>
      rw [List.cons_append, List.cons_prefix_cons] at hfront
      refine h before (c :: within) hbody hne _ hmem ?_
      exact (List.cons_prefix_cons.2
        ⟨hfront.1, prefix_of_prefix_append_cons hname hfront.2⟩).trans (List.prefix_append _ _)

/-! ## The search -/

/-- The search finds the first place where a close tag stands. -/
theorem findClose_eq_some_iff {kind : EffectKind} {origin : Nat} {text : List Char}
    {hit : CloseHit} :
    findClose kind.closeTags origin text = some hit ↔
      ∃ body tag rest, text = body ++ (tag ++ rest) ∧ tag ∈ kind.closeTags ∧
        kind.StaysOpen body (tag ++ rest) ∧ hit = ⟨origin + body.length, tag.length⟩ := by
  constructor
  · intro h
    induction text generalizing origin with
    | nil => cases h
    | cons c text ih =>
        rw [findClose] at h
        split at h
        · rename_i tag hahead
          cases h
          obtain ⟨hmem, rest, hrest⟩ := mem_of_closeTagAhead? hahead
          exact ⟨[], tag, rest, hrest.symm, hmem, staysOpen_nil kind _, rfl⟩
        · rename_i hahead
          obtain ⟨body, tag, rest, rfl, hmem, hopen, rfl⟩ := ih h
          refine ⟨c :: body, tag, rest, rfl, hmem, staysOpen_cons_iff.2 ⟨hahead, hopen⟩, ?_⟩
          simp only [List.length_cons, CloseHit.mk.injEq, and_true]
          omega
  · rintro ⟨body, tag, rest, rfl, hmem, hopen, rfl⟩
    induction body generalizing origin with
    | nil =>
        have hahead := closeTagAhead?_append hmem rest
        obtain ⟨name, rfl, -⟩ := exists_of_mem_closeTags hmem
        rw [List.nil_append, List.cons_append, findClose, ← List.cons_append, hahead]
        rfl
    | cons c body ih =>
        obtain ⟨hahead, hbody⟩ := staysOpen_cons_iff.1 hopen
        rw [List.cons_append, findClose, hahead]
        dsimp only
        rw [ih hbody]
        simp only [List.length_cons, Option.some.injEq, CloseHit.mk.injEq, and_true]
        omega

/-- Where a close tag stands somewhere, the search finds one. -/
theorem exists_findClose {kind : EffectKind} {tag : List Char} (h : tag ∈ kind.closeTags)
    (origin : Nat) (body rest : List Char) :
    ∃ hit, findClose kind.closeTags origin (body ++ (tag ++ rest)) = some hit := by
  induction body generalizing origin with
  | nil =>
      exact ⟨_, findClose_eq_some_iff.2 ⟨[], tag, rest, rfl, h, staysOpen_nil kind _, rfl⟩⟩
  | cons c body ih =>
      rw [List.cons_append, findClose]
      split
      · exact ⟨_, rfl⟩
      · exact ih (origin + 1)

end EffectKind

/-! ## Searches of one text -/

/-- Places count from where the search starts. -/
theorem findClose_add (tags : List (List Char)) (origin shift : Nat) (text : List Char) :
    findClose tags (shift + origin) text =
      (findClose tags origin text).map fun hit => ⟨shift + hit.start, hit.length⟩ := by
  induction text generalizing origin with
  | nil => rfl
  | cons c text ih =>
      rw [findClose, findClose]
      split
      · rfl
      · rw [Nat.add_assoc, ih]

/-- What is not found from a place on is not found from a later one. -/
theorem findClose_drop_of_eq_none {tags : List (List Char)} {origin : Nat} {text : List Char}
    (h : findClose tags origin text = none) (count : Nat) :
    findClose tags (origin + count) (text.drop count) = none := by
  induction count generalizing origin text with
  | zero => exact h
  | succ count ih =>
      cases text with
      | nil => rfl
      | cons c text =>
          rw [findClose] at h
          split at h
          · cases h
          · have hdrop := ih h
            rwa [Nat.add_right_comm] at hdrop

/-- What lies ahead of a later place is also the first from there on. -/
theorem findClose_drop_of_le {tags : List (List Char)} {origin : Nat} {text : List Char}
    {hit : CloseHit} (h : findClose tags origin text = some hit) {count : Nat}
    (hle : origin + count ≤ hit.start) :
    findClose tags (origin + count) (text.drop count) = some hit := by
  induction count generalizing origin text with
  | zero => exact h
  | succ count ih =>
      cases text with
      | nil => cases h
      | cons c text =>
          rw [findClose] at h
          split at h
          · cases h
            simp only at hle
            omega
          · have hdrop := ih h (by omega)
            rwa [Nat.add_right_comm] at hdrop

namespace CloseMemo

/-- The last search was a search of the text. -/
def Sound (memo : CloseMemo) (tags : List (List Char)) (text : List Char) : Prop :=
  ∀ search ∈ memo.last, search.found = findClose tags search.origin (text.drop search.origin)

theorem sound_empty (tags : List (List Char)) (text : List Char) : Sound {} tags text := by
  rintro search ⟨⟩

/-- What the memo knows is what a search would find. -/
theorem known?_of_sound {memo : CloseMemo} {tags : List (List Char)} {text : List Char}
    (h : memo.Sound tags text) {origin : Nat} {found : Option CloseHit}
    (hknown : memo.known? origin = some found) :
    found = findClose tags origin (text.drop origin) := by
  unfold known? at hknown
  split at hknown
  · cases hknown
  · rename_i search hlast
    split at hknown
    · rename_i hle
      have hfound := h search hlast
      have horigin : search.origin + (origin - search.origin) = origin := by omega
      have hdrop : (text.drop search.origin).drop (origin - search.origin) = text.drop origin := by
        rw [List.drop_drop, horigin]
      split at hknown
      · rename_i hnone
        cases hknown
        have hlater := findClose_drop_of_eq_none (hfound.symm.trans hnone) (origin - search.origin)
        rw [horigin, hdrop] at hlater
        exact hlater.symm
      · rename_i hit hsome
        split at hknown
        · rename_i hahead
          cases hknown
          have hreach : search.origin + (origin - search.origin) ≤ hit.start := by omega
          have hlater := findClose_drop_of_le (hfound.symm.trans hsome) hreach
          rw [horigin, hdrop] at hlater
          exact hlater.symm
        · cases hknown
    · cases hknown

/-- A sound memo answers like a search, and stays sound. -/
theorem find_of_sound {memo : CloseMemo} {tags : List (List Char)} {text : List Char}
    (h : memo.Sound tags text) (origin : Nat) :
    (memo.find tags origin (text.drop origin)).1 = findClose tags origin (text.drop origin) ∧
      (memo.find tags origin (text.drop origin)).2.Sound tags text := by
  unfold find
  split
  · rename_i found hknown
    exact ⟨known?_of_sound h hknown, h⟩
  · refine ⟨rfl, ?_⟩
    rintro search ⟨⟩
    rfl

end CloseMemo

end ColorMarkup
