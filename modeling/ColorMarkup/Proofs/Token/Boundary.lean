import ColorMarkup.Proofs.Token.Scanner
import ColorMarkup.Render

/-!
# ColorMarkup.Proofs.Token.Boundary

A text may be cut where a token ends: both parts, scanned alone, give the
tokens of the whole.

1. The next token stays the same when the text is cut somewhere behind it
   (`readNext_of_rest_eq`).  No kind of markup starts to match when text is
   taken away at the end, and what was read needs nothing that follows it.
2. Hence the tokens that a run took are those of the text it took them from
   (`Runs.exists_front`), and the others are those of the unread text.
3. Rendering and stripping go token by token and may be cut as well.
-/

namespace ColorMarkup

namespace Config

/-! ## Cutting behind the next token -/

/-- A text without its end has no other markup at its front. -/
theorem readMarkup?_eq_none_of_append {config : Config} {first : Char} {kept more : List Char}
    (h : config.readMarkup? first (kept ++ more) = none) :
    config.readMarkup? first kept = none := by
  rw [readMarkup?, List.findSome?_eq_none_iff] at h ⊢
  intro kind hkind
  rw [readIfOn?_eq_none_iff]
  intro hon hmatches
  exact readIfOn?_eq_none_iff.1 (h kind hkind) hon (hmatches.append more)

/-- What was read stays when the text is cut behind it. -/
theorem readMarkup?_of_rest_eq {config : Config} {first : Char} {kept more piece : List Char}
    {reading : Reading Token} (h : config.readMarkup? first (kept ++ more) = some reading)
    (hkept : first :: kept = reading.text ++ piece) :
    config.readMarkup? first kept = some { reading with rest := piece } := by
  rw [readMarkup?, List.findSome?_eq_some_iff] at h ⊢
  obtain ⟨earlier, kind, later, hkinds, hread, hnone⟩ := h
  obtain ⟨hon, hread⟩ := readIfOn?_eq_some_iff.1 hread
  refine ⟨earlier, kind, later, hkinds, ?_, ?_⟩
  · rw [hkept]
    exact readIfOn?_eq_some_iff.2 ⟨hon, read?_append hread piece⟩
  · intro other hother
    rw [readIfOn?_eq_none_iff]
    intro hotherOn hmatches
    exact readIfOn?_eq_none_iff.1 (hnone other hother) hotherOn (hmatches.append more)

/-- Plain text stays when the text is cut behind it. -/
theorem readPlain_of_rest_eq {config : Config} {first : Char} {kept more piece : List Char}
    (hrest : (config.readPlain first (kept ++ more)).rest = piece ++ more)
    (hkept : first :: kept = (config.readPlain first (kept ++ more)).text ++ piece) :
    config.readPlain first kept =
      { config.readPlain first (kept ++ more) with rest := piece } := by
  simp only [readPlain] at hrest hkept ⊢
  generalize hplain : (fun c => !config.isSpecial c) = isPlain at hrest hkept ⊢
  rw [List.cons_append, List.cons.injEq] at hkept
  have hall : ∀ c ∈ (kept ++ more).takeWhile isPlain, isPlain c = true :=
    List.all_eq_true.1 List.all_takeWhile
  have hend : ∀ c ∈ piece.head?, isPlain c = false := by
    intro c hc
    have hhead := List.head?_dropWhile_not isPlain (kept ++ more)
    rw [hrest, List.head?_append, hc] at hhead
    exact hhead
  obtain ⟨htake, hdrop⟩ := takeWhile_dropWhile_append hall hend
  rw [← hkept.2] at htake hdrop
  rw [htake, hdrop]

/-- The next token stays the same when the text is cut somewhere behind it. -/
theorem readNext_of_rest_eq {config : Config} {first : Char} {kept more piece : List Char}
    (hrest : (config.readNext first (kept ++ more)).rest = piece ++ more) :
    config.readNext first kept = { config.readNext first (kept ++ more) with rest := piece } := by
  have hparts := config.parts_readNext first (kept ++ more)
  have hkept : first :: kept = (config.readNext first (kept ++ more)).text ++ piece := by
    rw [Reading.Parts, hrest, ← List.append_assoc, ← List.cons_append] at hparts
    exact List.append_cancel_right hparts
  unfold readNext at hrest hkept ⊢
  cases hread : config.readMarkup? first (kept ++ more) with
  | none =>
      rw [hread, Option.getD_none] at hrest hkept
      rw [readMarkup?_eq_none_of_append hread, Option.getD_none, Option.getD_none]
      exact readPlain_of_rest_eq hrest hkept
  | some reading =>
      rw [hread, Option.getD_some] at hkept
      rw [readMarkup?_of_rest_eq hread hkept, Option.getD_some, Option.getD_some]

end Config

/-! ## Cutting behind a run -/

/-- The tokens that a run took are those of the text that it took. -/
theorem Scanner.Runs.exists_front {config : Config} {text : List Char} {here there : Scanner}
    {items : List Scanned} (hrun : Runs config here items there) (h : here.Sound text) :
    ∃ front, here.rest = front ++ there.rest ∧
      items.map Scanned.token = config.tokens front := by
  induction hrun with
  | refl here => exact ⟨[], rfl, by rw [Config.tokens_nil, List.map_nil]⟩
  | @step here next there item items htake _ ih =>
      obtain ⟨hnext, first, after, hrest, htoken, hnextRest, -⟩ := htake.spec h
      obtain ⟨front, hfront, htokens⟩ := ih hnext
      obtain ⟨head, others, htext⟩ :=
        List.exists_cons_of_ne_nil (config.text_readNext_ne_nil first after)
      have hcut : first :: after = head :: (others ++ front ++ there.rest) := by
        rw [config.parts_readNext first after, htext, ← hnextRest, hfront, List.cons_append,
          List.append_assoc]
      obtain ⟨rfl, rfl⟩ := List.cons.inj hcut
      refine ⟨first :: (others ++ front), hrest, ?_⟩
      have hread := Config.readNext_of_rest_eq (hnextRest.symm.trans hfront)
      rw [Config.tokens_cons, hread, List.map_cons, htoken, htokens]

/-- A run stands behind the front of the text, at its length in bytes. -/
theorem Scanner.Sound.position_eq {text front : List Char} {here : Scanner} (h : here.Sound text)
    (htext : text = front ++ here.rest) : here.position = Text.byteSize front := by
  have hboth : text.take here.offset ++ here.rest = front ++ here.rest := by
    rw [← htext, h.rest, List.take_append_drop]
  rw [h.position, List.append_cancel_right hboth]

/-! ## Both parts -/

/-- The tokens, the output and the bare text of two texts, one after the
other, are those of the two texts. -/
structure Config.Splits (config : Config) (front rest : List Char) : Prop where
  tokens : config.tokens (front ++ rest) = config.tokens front ++ config.tokens rest
  transform : config.transform (front ++ rest) = config.transform front ++ config.transform rest
  strip : config.strip (front ++ rest) = config.strip front ++ config.strip rest

/-- Rendering and stripping go token by token. -/
theorem Config.Splits.of_tokens {config : Config} {front rest : List Char}
    (h : config.tokens (front ++ rest) = config.tokens front ++ config.tokens rest) :
    config.Splits front rest where
  tokens := h
  transform := by
    simp only [Config.transform]
    rw [h, List.flatMap_append]
  strip := by
    simp only [Config.strip]
    rw [h, List.flatMap_append]

/-- A text splits wherever its scanner can stand, and from there on the
scanner gives the tokens of the unread text, whatever it remembers. -/
theorem Scanner.Runs.splits {config : Config} {text : List Char} {here : Scanner}
    {items : List Scanned} (hrun : Runs config (.start text) items here) :
    ∃ front, text = front ++ here.rest ∧ here.position = Text.byteSize front ∧
      items.map Scanned.token = config.tokens front ∧ config.Splits front here.rest ∧
      (scan config here).map Scanned.token = config.tokens here.rest := by
  have hstart := sound_start text
  have hhere := hrun.sound hstart
  obtain ⟨front, htext, htokens⟩ := hrun.exists_front hstart
  change text = front ++ here.rest at htext
  have hrest : (scan config here).map Scanned.token = config.tokens here.rest :=
    map_token_scan hhere
  refine ⟨front, htext, hhere.position_eq htext, htokens, .of_tokens ?_, hrest⟩
  calc
    config.tokens (front ++ here.rest)
      = (scan config (.start text)).map Scanned.token := by rw [← htext]; rfl
    _ = items.map Scanned.token ++ (scan config here).map Scanned.token := by
      rw [hrun.scan_eq, List.map_append]
    _ = config.tokens front ++ config.tokens here.rest := by rw [htokens, hrest]

/-- An open tag that was never closed is a shorthand, also when what follows is
cut off, and the search for its close tag does not show in what follows. -/
theorem Config.splits_behind_unclosed : ({} : Config).Splits "<r>".toList "a</g>b".toList := by
  have hrun : Scanner.Runs {} (.start "<r>a</g>b".toList)
      [(Scanner.step {} (.start "<r>a</g>b".toList) '<' "r>a</g>b".toList).1]
      (Scanner.step {} (.start "<r>a</g>b".toList) '<' "r>a</g>b".toList).2 :=
    .step ⟨'<', "r>a</g>b".toList, rfl, rfl⟩ (.refl _)
  obtain ⟨front, htext, -, -, hsplits, -⟩ := hrun.splits
  have hrest : (Scanner.step {} (.start "<r>a</g>b".toList) '<' "r>a</g>b".toList).2.rest =
      "a</g>b".toList := by decide
  rw [hrest] at htext hsplits
  have hfront : "<r>".toList = front :=
    List.append_cancel_right (show "<r>".toList ++ "a</g>b".toList = front ++ _ from htext)
  rwa [hfront]

end ColorMarkup
