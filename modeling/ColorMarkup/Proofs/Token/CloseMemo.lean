import ColorMarkup.Proofs.Token.CloseTag

/-!
# ColorMarkup.Proofs.Token.CloseMemo

Searches one after the other, from any places of a text and in any order.

1. `EffectKind.findClose_eq_iff`: a search on its own finds the first place
   from its origin on where a close tag stands, with the length of the one tag
   that stands there, or nothing if there is no such place
   (`EffectKind.IsFirstClose`).
2. `CloseMemo.answers_of_sound`: the answers to a list of searches that share a
   memo are those of the searches on their own.  Every answer leaves a sound
   memo to the next one, so it does not matter where that starts.
-/

namespace ColorMarkup

namespace EffectKind

/-! ## The first close tag from a place on -/

/-- A close tag of a length stands at a place of a text. -/
def ClosesAt (kind : EffectKind) (text : List Char) (place length : Nat) : Prop :=
  ∃ tag ∈ kind.closeTags, tag <+: text.drop place ∧ tag.length = length

/-- What a search from a place on is to find: the first close tag from there
on, or nothing if none stands there. -/
def IsFirstClose (kind : EffectKind) (text : List Char) (origin : Nat) : Option CloseHit → Prop
  | some hit =>
    origin ≤ hit.start ∧ kind.ClosesAt text hit.start hit.length ∧
      ∀ place length, origin ≤ place → place < hit.start → ¬ kind.ClosesAt text place length
  | none => ∀ place length, origin ≤ place → ¬ kind.ClosesAt text place length

variable {kind : EffectKind} {text : List Char} {place origin : Nat}

/-- Only one close tag stands at a place. -/
theorem ClosesAt.length_eq {a b : Nat} (ha : kind.ClosesAt text place a)
    (hb : kind.ClosesAt text place b) : a = b := by
  obtain ⟨tag, hmem, hfront, rfl⟩ := ha
  obtain ⟨other, hother, hotherFront, rfl⟩ := hb
  rw [eq_of_isPrefix_closeTag hmem hother hfront hotherFront]

/-- Behind the end of the text no close tag stands. -/
theorem not_closesAt_of_drop_eq_nil (h : text.drop place = []) (length : Nat) :
    ¬ kind.ClosesAt text place length := by
  rintro ⟨tag, hmem, hfront, -⟩
  obtain ⟨name, rfl, -⟩ := exists_of_mem_closeTags hmem
  rw [h, List.prefix_nil] at hfront
  contradiction

theorem not_closesAt_of_ahead_eq_none (h : closeTagAhead? kind.closeTags (text.drop place) = none)
    (length : Nat) : ¬ kind.ClosesAt text place length := by
  rintro ⟨tag, hmem, hfront, -⟩
  exact closeTagAhead?_eq_none_iff.1 h tag hmem hfront

/-- A search from behind the end of the text finds nothing. -/
theorem isFirstClose_of_drop_eq_nil (h : text.drop origin = []) {found : Option CloseHit} :
    kind.IsFirstClose text origin found ↔ found = none := by
  have hnone (place length : Nat) (hle : origin ≤ place) : ¬ kind.ClosesAt text place length := by
    refine not_closesAt_of_drop_eq_nil ?_ length
    rw [List.drop_eq_nil_iff] at h ⊢
    omega
  cases found with
  | none => simpa [IsFirstClose] using fun place length hle => hnone place length hle
  | some hit => simpa [IsFirstClose] using fun hle hat => absurd hat (hnone _ _ hle)

/-- A search from a place where a close tag stands finds that tag. -/
theorem isFirstClose_of_closesAt {length : Nat} (h : kind.ClosesAt text origin length)
    {found : Option CloseHit} :
    kind.IsFirstClose text origin found ↔ found = some ⟨origin, length⟩ := by
  constructor
  · intro hfirst
    cases found with
    | none => exact absurd h (hfirst origin length (Nat.le_refl _))
    | some hit =>
        obtain ⟨hle, hat, hbefore⟩ := hfirst
        obtain rfl | hlt := Nat.eq_or_lt_of_le hle
        · rw [h.length_eq hat]
        · exact absurd h (hbefore origin length (Nat.le_refl _) hlt)
  · rintro rfl
    refine ⟨Nat.le_refl _, h, ?_⟩
    intro place _ hle hlt
    dsimp only at hlt
    omega

/-- Where no close tag stands a search may as well start one place later. -/
theorem isFirstClose_succ_iff (h : ∀ length, ¬ kind.ClosesAt text origin length)
    {found : Option CloseHit} :
    kind.IsFirstClose text origin found ↔ kind.IsFirstClose text (origin + 1) found := by
  cases found with
  | none =>
      constructor
      · intro hnone place length hle
        exact hnone place length (by omega)
      · intro hnone place length hle
        obtain rfl | hlt := Nat.eq_or_lt_of_le hle
        · exact h length
        · exact hnone place length hlt
  | some hit =>
      constructor
      · rintro ⟨hle, hat, hbefore⟩
        have hne : origin ≠ hit.start := by
          rintro rfl
          exact h _ hat
        exact ⟨by omega, hat, fun place length hplace => hbefore place length (by omega)⟩
      · rintro ⟨hle, hat, hbefore⟩
        refine ⟨by omega, hat, fun place length hplace hlt => ?_⟩
        obtain rfl | hlater := Nat.eq_or_lt_of_le hplace
        · exact h length
        · exact hbefore place length hlater hlt

/-- A search finds the first close tag from its origin on. -/
theorem findClose_eq_iff {found : Option CloseHit} :
    findClose kind.closeTags origin (text.drop origin) = found ↔
      kind.IsFirstClose text origin found := by
  -- Along the unread text, as the search goes: each character moves the origin on by one.
  generalize hunread : text.drop origin = unread
  induction unread generalizing origin with
  | nil => rw [isFirstClose_of_drop_eq_nil hunread, findClose, eq_comm]
  | cons c rest ih =>
      have hrest : text.drop (origin + 1) = rest := by
        rw [← List.drop_drop, hunread, List.drop_one, List.tail_cons]
      rw [findClose]
      split
      · rename_i tag hahead
        obtain ⟨hmem, hfront⟩ := mem_of_closeTagAhead? hahead
        rw [isFirstClose_of_closesAt ⟨tag, hmem, hunread ▸ hfront, rfl⟩, eq_comm]
      · rename_i hahead
        rw [← hunread] at hahead
        rw [ih hrest, isFirstClose_succ_iff (not_closesAt_of_ahead_eq_none hahead)]

end EffectKind

/-! ## Searches that share a memo -/

namespace CloseMemo

/-- The answers to searches of a text from one place after the other, each of
which leaves its memo to the next one. -/
def answers (memo : CloseMemo) (tags : List (List Char)) (text : List Char) :
    List Nat → List (Option CloseHit)
  | [] => []
  | origin :: origins =>
    let result := memo.find tags origin (text.drop origin)
    result.1 :: result.2.answers tags text origins

/-- Searches that share a sound memo answer like searches on their own. -/
theorem answers_of_sound {memo : CloseMemo} {tags : List (List Char)} {text : List Char}
    (h : memo.Sound tags text) (origins : List Nat) :
    memo.answers tags text origins =
      origins.map fun origin => findClose tags origin (text.drop origin) := by
  induction origins generalizing memo with
  | nil => rfl
  | cons origin origins ih =>
      obtain ⟨hanswer, hsound⟩ := find_of_sound h origin
      rw [answers, hanswer, ih hsound, List.map_cons]

/-- The memo never shows.  Searches from any places in any order that start
with an empty memo answer like searches on their own, and each of these finds
the first close tag from its origin on.  Only one close tag stands at a place. -/
theorem answers_unaided (kind : EffectKind) (text : List Char) :
    (∀ origins, ({} : CloseMemo).answers kind.closeTags text origins =
        origins.map fun origin => findClose kind.closeTags origin (text.drop origin)) ∧
      (∀ origin found, findClose kind.closeTags origin (text.drop origin) = found ↔
        kind.IsFirstClose text origin found) ∧
      ∀ place, ∀ a ∈ kind.closeTags, ∀ b ∈ kind.closeTags,
        a <+: text.drop place → b <+: text.drop place → a = b := by
  refine ⟨answers_of_sound (sound_empty _ text), fun _ _ => EffectKind.findClose_eq_iff, ?_⟩
  intro place a ha b hb hat hbt
  exact EffectKind.eq_of_isPrefix_closeTag ha hb hat hbt

/-- A search beyond what was found, back before it, and behind all close tags. -/
example : ({} : CloseMemo).answers EffectKind.gradient.closeTags "ab</g>cd</g>".toList
    [1, 3, 0, 9] = [some ⟨2, 4⟩, some ⟨8, 4⟩, some ⟨2, 4⟩, none] := by
  decide

end CloseMemo

end ColorMarkup
