import ColorMarkup.Proofs.Token.Spelling
import ColorMarkup.Token.Scanner

/-!
# ColorMarkup.Proofs.Token.Scanner

The scanner without its state.

1. `Config.readNext` reads the token at the front of a text from that text
   alone: the first kind of markup that is on and can be read there, or else
   plain text.
2. `Scanner.Sound` says what every reachable state keeps: the place is a
   place in the text, and both memos hold searches of it.  In a sound state a
   step takes just what `readNext` reads (`Takes.spec`), so the memos never
   show.
3. Hence `Config.tokens` obeys a recursion on the text (`tokens_cons`), and
   the tokens from a reachable state on are those of the unread text
   (`map_token_scan`).
-/

namespace ColorMarkup

namespace Config

/-! ## The next token, from the text alone -/

/-- Reads markup of a kind that is on. -/
def readIfOn? (config : Config) (text : List Char) (kind : TagKind) : Option (Reading Token) :=
  if config.tags.has kind then config.read? kind text else none

/-- The kinds that are tried where a character stands, in order. -/
def kindsAt (first : Char) : List TagKind :=
  if first = '<' then [.gradient, .rainbow, .hex, .shorthand] else [.standard]

/-- Reads markup of the first kind that is on and can be read. -/
def readMarkup? (config : Config) (first : Char) (after : List Char) : Option (Reading Token) :=
  (kindsAt first).findSome? (config.readIfOn? (first :: after))

/-- Reads the token at the front of a text. -/
def readNext (config : Config) (first : Char) (after : List Char) : Reading Token :=
  (config.readMarkup? first after).getD (config.readPlain first after)

theorem readIfOn?_eq_some_iff {config : Config} {text : List Char} {kind : TagKind}
    {reading : Reading Token} :
    config.readIfOn? text kind = some reading ↔
      config.tags.has kind = true ∧ config.read? kind text = some reading := by
  unfold readIfOn?
  split
  · simp [*]
  · simp [*]

theorem readIfOn?_eq_none_iff {config : Config} {text : List Char} {kind : TagKind} :
    config.readIfOn? text kind = none ↔
      (config.tags.has kind = true → ¬ config.Matches kind text) := by
  rw [← read?_eq_none_iff]
  unfold readIfOn?
  split
  · simp [*]
  · simp [*]

/-- A token is read and what follows it is left. -/
theorem parts_readNext (config : Config) (first : Char) (after : List Char) :
    (config.readNext first after).Parts (first :: after) := by
  unfold readNext
  cases hread : config.readMarkup? first after with
  | none => exact config.parts_readPlain first after
  | some reading =>
      obtain ⟨kind, -, hkind⟩ := List.exists_of_findSome?_eq_some hread
      exact (read?_eq_some_iff.1 (readIfOn?_eq_some_iff.1 hkind).2).2.2

/-- The next token takes something. -/
theorem text_readNext_ne_nil (config : Config) (first : Char) (after : List Char) :
    (config.readNext first after).text ≠ [] := by
  unfold readNext
  cases hread : config.readMarkup? first after with
  | none => exact List.cons_ne_nil _ _
  | some reading =>
      obtain ⟨kind, -, hkind⟩ := List.exists_of_findSome?_eq_some hread
      exact (read?_eq_some_iff.1 (readIfOn?_eq_some_iff.1 hkind).2).1.ne_nil

theorem length_rest_readNext_lt (config : Config) (first : Char) (after : List Char) :
    (config.readNext first after).rest.length < (first :: after).length := by
  have hparts := congrArg List.length (config.parts_readNext first after)
  have hpos := List.length_pos_iff.2 (config.text_readNext_ne_nil first after)
  rw [List.length_append] at hparts
  omega

/-- What holds of the empty text, and of a text if it holds of what follows
its first token, holds of every text. -/
theorem token_induction (config : Config) {motive : List Char → Prop} (nil : motive [])
    (cons : ∀ first after, motive (config.readNext first after).rest → motive (first :: after))
    (text : List Char) : motive text := by
  match text with
  | [] => exact nil
  | first :: after =>
      exact cons first after (token_induction config nil cons (config.readNext first after).rest)
termination_by text.length
decreasing_by exact config.length_rest_readNext_lt first after

/-! ## The scanner's own readers -/

/-- A span can only be read where the letter after `<` fits. -/
theorem readSpan?_eq_none {kind : EffectKind} {text : List Char}
    (h : EffectKind.ofText? text ≠ some kind) : kind.readSpan? text = none := by
  unfold EffectKind.readSpan?
  split
  · rfl
  · rename_i hopening
    exact absurd (Effect.ofText?_of_readTag hopening) h

theorem readIfOn?_effect (config : Config) (kind : EffectKind) (text : List Char) :
    config.readIfOn? text kind.tagKind =
      if config.tags.has kind.tagKind then kind.readSpan? text else none := by
  cases kind <;> rfl

theorem effectAhead?_eq (config : Config) (text : List Char) :
    Scanner.effectAhead? config text =
      (EffectKind.ofText? text).filter fun kind => config.tags.has kind.tagKind := by
  unfold Scanner.effectAhead?
  congr
  funext kind
  cases kind <;> rfl

/-- The span at the front of a text, if the effect that may stand there is on. -/
theorem findSome?_effects (config : Config) (text : List Char) :
    [TagKind.gradient, .rainbow].findSome? (config.readIfOn? text) =
      (Scanner.effectAhead? config text).bind fun kind => kind.readSpan? text := by
  have hother (kind : EffectKind) (h : EffectKind.ofText? text ≠ some kind) :
      config.readIfOn? text kind.tagKind = none := by
    rw [readIfOn?_effect, readSpan?_eq_none h, ite_self]
  rw [effectAhead?_eq]
  cases hkind : EffectKind.ofText? text with
  | none =>
      have hgradient : config.readIfOn? text .gradient = none := hother .gradient (by simp [hkind])
      have hrainbow : config.readIfOn? text .rainbow = none := hother .rainbow (by simp [hkind])
      simp [hgradient, hrainbow]
  | some kind =>
      have hthis : config.readIfOn? text kind.tagKind =
          ((some kind).filter fun kind => config.tags.has kind.tagKind).bind
            fun kind => kind.readSpan? text := by
        rw [readIfOn?_effect, Option.filter_some]
        split <;> rfl
      rw [← hthis]
      cases kind with
      | gradient =>
          have hrainbow : config.readIfOn? text .rainbow = none := hother .rainbow (by simp [hkind])
          rw [List.findSome?_cons, List.findSome?_cons, hrainbow, List.findSome?_nil]
          change _ = config.readIfOn? text .gradient
          split <;> simp [*]
      | rainbow =>
          have hgradient : config.readIfOn? text .gradient = none :=
            hother .gradient (by simp [hkind])
          rw [List.findSome?_cons, hgradient, List.findSome?_singleton]
          rfl

theorem findSome?_inline (config : Config) (text : List Char) :
    [TagKind.hex, .shorthand].findSome? (config.readIfOn? text) = config.readInlineTag? text := by
  simp only [List.findSome?_cons, List.findSome?_nil, readIfOn?, TagKinds.has, read?,
    readInlineTag?]
  by_cases hhex : config.tags.hex = true <;> by_cases hshorthand : config.tags.shorthand = true <;>
    cases htag : Color.readTag text <;> cases hword : readShorthand text <;>
    simp [hhex, hshorthand, Reading.map]

theorem readIfOn?_standard (config : Config) (text : List Char) :
    config.readIfOn? text .standard = config.readCode? text := by
  match text with
  | [] | [_] => simp [readIfOn?, read?, readStandard?, readCode?]
  | marker :: code :: rest =>
      simp only [readIfOn?, TagKinds.has, read?, readStandard?, readCode?]
      by_cases hon : config.tags.standard = true <;> simp [hon]

/-- The next token is a span where one can be read, and else a token that
needs no close tag. -/
theorem readNext_eq (config : Config) (first : Char) (after : List Char) :
    config.readNext first after =
      ((Scanner.effectAhead? config (first :: after)).bind
        fun kind => kind.readSpan? (first :: after)).getD (config.readToken first after) := by
  unfold readNext readMarkup? kindsAt readToken
  dsimp only
  split
  · have hsplit : ([TagKind.gradient, .rainbow] ++ [TagKind.hex, .shorthand]).findSome?
          (config.readIfOn? (first :: after)) =
        ([TagKind.gradient, .rainbow].findSome? (config.readIfOn? (first :: after))).or
          ([TagKind.hex, .shorthand].findSome? (config.readIfOn? (first :: after))) :=
      List.findSome?_append
    rw [findSome?_effects, findSome?_inline] at hsplit
    rw [← Option.getD_or, ← hsplit]
    rfl
  · rename_i hfirst
    have hahead : Scanner.effectAhead? config (first :: after) = none := by
      unfold Scanner.effectAhead? EffectKind.ofText?
      split <;> simp_all
    rw [hahead, List.findSome?_singleton, readIfOn?_standard]
    rfl

end Config

/-! ## Reachable states -/

namespace Scanner

/-- The scanner stands at a place of the text and remembers searches of it. -/
structure Sound (text : List Char) (here : Scanner) : Prop where
  rest : here.rest = text.drop here.offset
  offset_le : here.offset ≤ text.length
  position : here.position = Text.byteSize (text.take here.offset)
  memo : ∀ kind : EffectKind, (here.memo kind).Sound kind.closeTags text

theorem sound_start (text : List Char) : Sound text (.start text) where
  rest := rfl
  offset_le := Nat.zero_le _
  position := rfl
  memo kind := by cases kind <;> exact CloseMemo.sound_empty _ text

theorem memo_withMemo (here : Scanner) (memo : CloseMemo) (kind other : EffectKind) :
    (here.withMemo memo kind).memo other = if other = kind then memo else here.memo other := by
  cases kind <;> cases other <;> rfl

theorem rest_withMemo (here : Scanner) (memo : CloseMemo) (kind : EffectKind) :
    (here.withMemo memo kind).rest = here.rest := by
  cases kind <;> rfl

theorem offset_withMemo (here : Scanner) (memo : CloseMemo) (kind : EffectKind) :
    (here.withMemo memo kind).offset = here.offset := by
  cases kind <;> rfl

theorem position_withMemo (here : Scanner) (memo : CloseMemo) (kind : EffectKind) :
    (here.withMemo memo kind).position = here.position := by
  cases kind <;> rfl

theorem Sound.withMemo {text : List Char} {here : Scanner} (h : here.Sound text)
    {memo : CloseMemo} {kind : EffectKind} (hmemo : memo.Sound kind.closeTags text) :
    (here.withMemo memo kind).Sound text where
  rest := by rw [rest_withMemo, offset_withMemo, h.rest]
  offset_le := by rw [offset_withMemo]; exact h.offset_le
  position := by rw [position_withMemo, offset_withMemo, h.position]
  memo other := by
    rw [memo_withMemo]
    by_cases heq : other = kind
    · rw [if_pos heq, heq]
      exact hmemo
    · rw [if_neg heq]
      exact h.memo other

/-- In a sound state a search behind an open tag finds what a new search would,
and the state that keeps it is sound. -/
theorem Sound.find {text : List Char} {here : Scanner} (h : here.Sound text) (kind : EffectKind)
    {opening after : List Char} (hrest : here.rest = opening ++ after) :
    ((here.memo kind).find kind.closeTags (here.offset + opening.length) after).1 =
        (findClose kind.closeTags 0 after).map (fun hit =>
          ⟨here.offset + opening.length + hit.start, hit.length⟩) ∧
      Sound text (here.withMemo
        ((here.memo kind).find kind.closeTags (here.offset + opening.length) after).2 kind) := by
  have hplace : text.drop (here.offset + opening.length) = after := by
    rw [← List.drop_drop, ← h.rest, hrest, List.drop_left]
  obtain ⟨hfound, hsound⟩ :=
    CloseMemo.find_of_sound (h.memo kind) (here.offset + opening.length)
  rw [hplace] at hfound hsound
  refine ⟨?_, h.withMemo hsound⟩
  rw [hfound, ← findClose_add, Nat.add_zero]

/-- Taking the front of what is left moves the place along the text. -/
theorem Sound.take {text : List Char} {here : Scanner} (h : here.Sound text)
    {taken rest : List Char} (hrest : here.rest = taken ++ rest) :
    (here.take taken rest).Sound text := by
  have hdrop : text.drop here.offset = taken ++ rest := h.rest.symm.trans hrest
  have hlength := congrArg List.length hdrop
  rw [List.length_drop, List.length_append] at hlength
  have htext : text = text.take here.offset ++ (taken ++ rest) := by
    rw [← hdrop, List.take_append_drop]
  have hoffset := h.offset_le
  have hfront : (text.take here.offset).length = here.offset := by
    rw [List.length_take]
    omega
  refine ⟨?_, ?_, ?_, ?_⟩
  · simp only [Scanner.take]
    rw [← List.drop_drop, hdrop, List.drop_left]
  · simp only [Scanner.take]
    omega
  · simp only [Scanner.take]
    rw [h.position, ← Text.byteSize_append]
    congr 1
    rw [List.take_add, hdrop, List.take_left]
  · intro kind
    cases kind
    · exact h.memo .gradient
    · exact h.memo .rainbow

/-- A span ends where the search from the start of its body found a close tag. -/
theorem takeSpan_eq {here : Scanner} {opening : Reading Effect} {hit : CloseHit} :
    here.takeSpan opening ⟨here.offset + opening.text.length + hit.start, hit.length⟩ =
      (⟨.span opening.value (opening.rest.take hit.start), none⟩,
        here.take (opening.text ++ opening.rest.take (hit.start + hit.length))
          (opening.rest.drop (hit.start + hit.length))) := by
  have hlength : here.offset + opening.text.length + hit.start -
      (here.offset + opening.text.length) = hit.start := by omega
  simp only [takeSpan, hlength, List.take_add, List.append_assoc]

/-- In a sound state a step takes what `readNext` reads: the memo answers as
a new search would. -/
theorem step_spec (config : Config) {text : List Char} {here : Scanner} {first : Char}
    {after : List Char} (h : here.Sound text) (hrest : here.rest = first :: after) :
    ∃ note place, Sound text place ∧ place.rest = here.rest ∧ place.offset = here.offset ∧
      step config here first after =
        (⟨(config.readNext first after).value, note⟩,
          place.take (config.readNext first after).text (config.readNext first after).rest) := by
  rw [config.readNext_eq]
  unfold step
  dsimp only
  cases hahead : effectAhead? config (first :: after) with
  | none => exact ⟨none, here, h, rfl, rfl, rfl⟩
  | some kind =>
      rw [Option.bind_some]
      dsimp only
      cases hopening : Effect.readTag kind (first :: after) with
      | error error =>
          have hspan : kind.readSpan? (first :: after) = none := by
            rw [EffectKind.readSpan?, hopening]
          rw [hspan]
          exact ⟨_, here, h, rfl, rfl, rfl⟩
      | ok opening =>
          rw [EffectKind.readSpan?, hopening]
          dsimp only
          have hparts := hrest.trans (Effect.parts_of_readTag hopening)
          obtain ⟨hfound, hnext⟩ := h.find kind hparts
          generalize (here.memo kind).find kind.closeTags (here.offset + opening.text.length)
            opening.rest = searched at hfound hnext ⊢
          have hoffset := here.offset_withMemo searched.2 kind
          have hunread := here.rest_withMemo searched.2 kind
          cases hhit : findClose kind.closeTags 0 opening.rest with
          | none =>
              rw [hhit, Option.map_none] at hfound
              rw [hfound]
              exact ⟨_, here.withMemo searched.2 kind, hnext, hunread, hoffset, rfl⟩
          | some hit =>
              rw [hhit, Option.map_some] at hfound
              rw [hfound]
              refine ⟨none, here.withMemo searched.2 kind, hnext, hunread, hoffset, ?_⟩
              dsimp only
              rw [← hoffset, takeSpan_eq]
              rfl

/-! ## Runs -/

/-- One token is taken from `here`, and the scan goes on from `next`. -/
def Takes (config : Config) (here : Scanner) (item : Scanned) (next : Scanner) : Prop :=
  ∃ first after, here.rest = first :: after ∧ step config here first after = (item, next)

/-- Tokens are taken one after the other, from `here` to `there`. -/
inductive Runs (config : Config) : Scanner → List Scanned → Scanner → Prop
  | refl (here : Scanner) : Runs config here [] here
  | step {here next there : Scanner} {item : Scanned} {items : List Scanned}
      (htake : Takes config here item next) (hrun : Runs config next items there) :
      Runs config here (item :: items) there

/-- A step from a sound state to a sound state, in terms of the text. -/
theorem Takes.spec {config : Config} {text : List Char} {here next : Scanner} {item : Scanned}
    (htake : Takes config here item next) (h : here.Sound text) :
    next.Sound text ∧
      ∃ first after, here.rest = first :: after ∧
        item.token = (config.readNext first after).value ∧
        next.rest = (config.readNext first after).rest ∧
        next.position = here.position + Text.byteSize (config.readNext first after).text := by
  obtain ⟨first, after, hrest, hstep⟩ := htake
  obtain ⟨note, place, hplace, hplaceRest, hoffset, htaken⟩ := step_spec config h hrest
  rw [hstep, Prod.mk.injEq] at htaken
  obtain ⟨rfl, rfl⟩ := htaken
  have hposition : place.position = here.position := by
    rw [hplace.position, hoffset, h.position]
  refine ⟨hplace.take ?_, first, after, hrest, rfl, rfl, by rw [← hposition]; rfl⟩
  rw [hplaceRest, hrest]
  exact config.parts_readNext first after

/-- Every state of a run is sound. -/
theorem Runs.sound {config : Config} {text : List Char} {here there : Scanner}
    {items : List Scanned} (hrun : Runs config here items there) (h : here.Sound text) :
    there.Sound text := by
  induction hrun with
  | refl => exact h
  | step htake _ ih => exact ih (htake.spec h).1

/-- Every token of a run takes at least one character. -/
theorem Runs.length_le {config : Config} {here there : Scanner} {items : List Scanned}
    (hrun : Runs config here items there) :
    items.length + there.rest.length ≤ here.rest.length := by
  induction hrun with
  | refl => simp
  | @step here next there item items htake _ ih =>
      obtain ⟨first, after, hrest, hstep⟩ := htake
      have hlt := rest_step_lt config here first after
      rw [hstep, ← hrest] at hlt
      rw [List.length_cons]
      dsimp only at hlt
      omega

/-- The scan from a state on is a run to the end of the text. -/
theorem exists_runs_scan (config : Config) (here : Scanner) :
    ∃ last, Runs config here (scan config here) last ∧ last.rest = [] := by
  match hrest : here.rest with
  | [] => exact ⟨here, by rw [scan_of_rest_eq_nil hrest]; exact .refl here, hrest⟩
  | first :: after =>
      obtain ⟨last, hrun, hlast⟩ := exists_runs_scan config (step config here first after).2
      rw [scan_of_rest_eq_cons hrest]
      exact ⟨last, .step ⟨first, after, hrest, rfl⟩ hrun, hlast⟩
termination_by here.rest.length
decreasing_by
  rw [hrest]
  exact rest_step_lt config here first after

/-- The scan from a state on starts with the tokens of every run from it. -/
theorem Runs.scan_eq {config : Config} {here there : Scanner} {items : List Scanned}
    (hrun : Runs config here items there) : scan config here = items ++ scan config there := by
  induction hrun with
  | refl => rfl
  | step htake _ ih =>
      obtain ⟨first, after, hrest, hstep⟩ := htake
      rw [scan_of_rest_eq_cons hrest, hstep, ih, List.cons_append]

/-- Two sound states with the same unread text give the same tokens. -/
theorem map_token_scan_congr {config : Config} {text text' : List Char} {here there : Scanner}
    (h : here.Sound text) (h' : there.Sound text') (hrest : here.rest = there.rest) :
    (scan config here).map Scanned.token = (scan config there).map Scanned.token := by
  generalize hunread : here.rest = unread
  induction unread using config.token_induction generalizing here there with
  | nil =>
      rw [scan_of_rest_eq_nil hunread, scan_of_rest_eq_nil (hrest.symm.trans hunread)]
  | cons first after ih =>
      have hunread' := hrest.symm.trans hunread
      obtain ⟨note, place, hplace, hplaceRest, -, hstep⟩ := step_spec config h hunread
      obtain ⟨note', place', hplace', hplaceRest', -, hstep'⟩ :=
        step_spec config h' hunread'
      rw [scan_of_rest_eq_cons hunread, scan_of_rest_eq_cons hunread', hstep, hstep']
      simp only [List.map_cons, List.cons.injEq, true_and]
      have hparts := config.parts_readNext first after
      refine ih (hplace.take ?_) (hplace'.take ?_) rfl rfl
      · rw [hplaceRest, hunread]
        exact hparts
      · rw [hplaceRest', hunread']
        exact hparts

/-- From a sound state on the tokens are those of the unread text. -/
theorem map_token_scan {config : Config} {text : List Char} {here : Scanner}
    (h : here.Sound text) : (scan config here).map Scanned.token = config.tokens here.rest :=
  map_token_scan_congr h (sound_start here.rest) rfl

end Scanner

/-! ## Tokens of a text -/

namespace Config

@[simp] theorem tokens_nil (config : Config) : config.tokens [] = [] := by
  rw [tokens, scan, Scanner.scan_of_rest_eq_nil rfl, List.map_nil]

/-- The first token is the next one, and the others are those of what follows. -/
theorem tokens_cons (config : Config) (first : Char) (after : List Char) :
    config.tokens (first :: after) =
      (config.readNext first after).value :: config.tokens (config.readNext first after).rest := by
  have hstart := Scanner.sound_start (first :: after)
  obtain ⟨note, place, hplace, hplaceRest, -, hstep⟩ :=
    Scanner.step_spec config hstart rfl
  rw [tokens, scan, Scanner.scan_of_rest_eq_cons rfl, hstep, List.map_cons,
    Scanner.map_token_scan (hplace.take ?_)]
  · rfl
  · rw [hplaceRest]
    exact config.parts_readNext first after

end Config

end ColorMarkup
