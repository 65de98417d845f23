import ColorMarkup.Proofs.Code
import ColorMarkup.Proofs.Token.Precedence
import ColorMarkup.Render

/-!
# ColorMarkup.Proofs.Render.Standard

Senders that may write standard codes only.

1. A standard code is a marker and the character behind it.  Whether one
   stands at a place shows in these two characters (`Config.codeAt`).  No code
   character is a marker, so codes do not overlap (`Config.Valid.codeAt_succ`).
2. The tokens of a text are its codes and, between them, texts in which none
   stands (`Config.Lexes.only_standard_induction`).  What stands in angle
   brackets is no markup.
3. Hence rendering exchanges single characters, and stripping leaves single
   characters out, each by its place alone (`Config.transform_eq_mapIdx`,
   `Config.strip_eq_outsideCodes`).

`Config.rewrites_of_only_standard` puts these together.
-/

namespace ColorMarkup.Config

variable {config : Config} {text front rest : List Char} {index : Nat}

/-! ## Places of codes -/

/-- Whether a marker and a standard code stand at a place. -/
def codeAt (config : Config) (text : List Char) (index : Nat) : Bool :=
  text[index]?.any config.isMarker && text[index + 1]?.any isStandardCode

/-- Whether the character at a place is a part of such a pair. -/
def inCode (config : Config) (text : List Char) (index : Nat) : Bool :=
  config.codeAt text index || (0 < index && config.codeAt text (index - 1))

theorem codeAt_eq_true_iff :
    config.codeAt text index = true ↔ ∃ marker code, text[index]? = some marker ∧
      text[index + 1]? = some code ∧ config.isMarker marker = true ∧
      isStandardCode code = true := by
  simp only [codeAt, Bool.and_eq_true, Option.any_eq_true]
  grind

/-- What stands at a place does not depend on the text before it. -/
theorem codeAt_append (config : Config) (front rest : List Char) (index : Nat) :
    config.codeAt (front ++ rest) (index + front.length) = config.codeAt rest index := by
  simp only [codeAt, List.getElem?_append_right (Nat.le_add_left _ _),
    Nat.add_right_comm index front.length 1, Nat.add_sub_cancel]

/-- Codes do not overlap. -/
theorem Valid.codeAt_succ (hvalid : config.Valid) (h : config.codeAt text index = true) :
    config.codeAt text (index + 1) = false := by
  obtain ⟨-, code, -, hcode, -, hstandard⟩ := codeAt_eq_true_iff.1 h
  have hmarker : config.isMarker code = false :=
    hvalid.isMarker_eq_false (isReserved_of_isAlphanum (isAlphanum_of_isStandardCode hstandard))
  rw [codeAt, hcode, Option.any_some, hmarker, Bool.false_and]

/-- A standard code matches where a marker and a standard code stand. -/
theorem matches_standard_iff : config.Matches .standard text ↔ config.codeAt text 0 = true := by
  constructor
  · rintro ⟨token, piece, rest, hspells, rfl⟩
    obtain ⟨marker, code, hmarker, hcode, rfl, rfl⟩ := Spells.standard_iff.1 hspells
    simp [codeAt, hmarker, hcode]
  · intro h
    obtain ⟨marker, code, hfirst, hsecond, hmarker, hcode⟩ := codeAt_eq_true_iff.1 h
    match text with
    | [] | [_] => simp at hsecond
    | _ :: _ :: rest =>
        cases hfirst
        cases hsecond
        exact ⟨_, _, rest, .standard hmarker hcode, rfl⟩

/-- In a text in which no standard code matches none stands. -/
theorem codeAt_eq_false_of_not_matches {shown : List Char}
    (h : ∀ before within, shown = before ++ within → within ≠ [] →
      ¬ config.Matches .standard (within ++ rest)) (hindex : index < shown.length) :
    config.codeAt (shown ++ rest) index = false := by
  have hnone := h (shown.take index) (shown.drop index) (List.take_append_drop index shown).symm
    (by simpa using hindex)
  have hlength : (shown.take index).length = index :=
    List.length_take_of_le (Nat.le_of_lt hindex)
  have hplace := config.codeAt_append (shown.take index) (shown.drop index ++ rest) 0
  rw [← List.append_assoc, List.take_append_drop, hlength, Nat.zero_add] at hplace
  rw [hplace]
  rwa [matches_standard_iff, Bool.not_eq_true] at hnone

/-! ## Tokens -/

/-- Where only standard codes are on, what holds of the empty text, and goes
over a code and over a text in which no code stands, holds of every text. -/
theorem Lexes.only_standard_induction (htags : config.tags = .only .standard)
    {motive : List Char → List Token → Prop} (nil : motive [] [])
    (text : ∀ shown rest tokens, shown ≠ [] →
      (∀ index < shown.length, config.codeAt (shown ++ rest) index = false) → motive rest tokens →
      motive (shown ++ rest) (.text shown :: tokens))
    (code : ∀ marker code rest tokens, config.isMarker marker = true →
      isStandardCode code = true → motive rest tokens →
      motive ([marker, code] ++ rest) (.code code :: tokens))
    {markup : List Char} {tokens : List Token} (h : config.Lexes markup tokens) :
    motive markup tokens := by
  have hhas (kind : TagKind) : config.tags.has kind = true ↔ kind = .standard := by
    rw [htags, TagKinds.only, TagKinds.has_ofTest, decide_eq_true_eq]
  induction h with
  | nil => exact nil
  | text hne hplain hrest ih =>
      refine text _ _ _ hne (fun index hindex => ?_) ih
      exact codeAt_eq_false_of_not_matches (fun before within hshown hwithin =>
        hplain before within hshown hwithin .standard ((hhas .standard).2 rfl)) hindex
  | markup hon hspells hfirst hleast hrest ih =>
      rw [(hhas _).1 hon] at hspells
      obtain ⟨marker, sign, hmarker, hsign, rfl, rfl⟩ := Spells.standard_iff.1 hspells
      exact code _ _ _ _ hmarker hsign ih

/-! ## Rendering -/

/-- What becomes of the character at a place: an alternate marker with a
standard code behind it becomes the native one. -/
def nativeAt (config : Config) (text : List Char) (index : Nat) (c : Char) : Char :=
  if c = config.alternate && text[index + 1]?.any isStandardCode then config.marker.char else c

theorem nativeAt_append (config : Config) (front rest : List Char) (index : Nat) :
    config.nativeAt (front ++ rest) (index + front.length) = config.nativeAt rest index := by
  funext c
  simp only [nativeAt, Nat.add_right_comm index front.length 1,
    List.getElem?_append_right (Nat.le_add_left _ _), Nat.add_sub_cancel]

/-- The marker of a code becomes the native one, whichever it is. -/
theorem nativeAt_of_isMarker {marker code : Char} (hmarker : config.isMarker marker = true)
    (hcode : isStandardCode code = true) :
    config.nativeAt ([marker, code] ++ rest) 0 marker = config.marker.char := by
  have hbehind : ([marker, code] ++ rest)[0 + 1]?.any isStandardCode = true := hcode
  rw [nativeAt, hbehind, Bool.and_true]
  split
  · rfl
  · rename_i halternate
    simpa [isMarker, halternate] using hmarker

/-- Where no code stands the character stays. -/
theorem nativeAt_of_codeAt {c : Char} (hc : text[index]? = some c)
    (h : config.codeAt text index = false) : config.nativeAt text index c = c := by
  rw [codeAt, hc, Option.any_some] at h
  unfold nativeAt
  split
  · rename_i hnative
    obtain ⟨halternate, hcode⟩ := Bool.and_eq_true_iff.1 hnative
    have hmarker : config.isMarker c = true := by simp [isMarker, of_decide_eq_true halternate]
    rw [hmarker, hcode] at h
    cases h
  · rfl

theorem mapIdx_nativeAt_append (config : Config) (front rest : List Char) :
    (front ++ rest).mapIdx (config.nativeAt (front ++ rest)) =
      front.mapIdx (config.nativeAt (front ++ rest)) ++ rest.mapIdx (config.nativeAt rest) := by
  rw [List.mapIdx_append]
  simp only [nativeAt_append]

/-- Rendering exchanges characters one by one. -/
theorem transform_eq_mapIdx (hvalid : config.Valid) (htags : config.tags = .only .standard)
    (text : List Char) : config.transform text = text.mapIdx (config.nativeAt text) := by
  refine Lexes.only_standard_induction
    (motive := fun text tokens => tokens.flatMap config.renderToken =
      text.mapIdx (config.nativeAt text)) htags ?nil ?text ?code (lexes_tokens hvalid text)
  case nil => rfl
  case text =>
    intro shown rest tokens _ hnone ih
    have hshown : shown.mapIdx (config.nativeAt (shown ++ rest)) = shown := by
      refine List.mapIdx_eq_iff.2 fun index => ?_
      cases hc : shown[index]? with
      | none => rfl
      | some c =>
          obtain ⟨hindex, -⟩ := List.getElem?_eq_some_iff.1 hc
          have hplace : (shown ++ rest)[index]? = some c :=
            (List.getElem?_append_left hindex).trans hc
          rw [Option.map_some, nativeAt_of_codeAt hplace (hnone index hindex)]
    rw [List.flatMap_cons, ih, mapIdx_nativeAt_append, hshown, renderToken]
  case code =>
    intro marker code rest tokens hmarker hcode ih
    have hstands : config.codeAt ([marker, code] ++ rest) 0 = true := by
      simp [codeAt, hmarker, hcode]
    have hfirst : config.nativeAt ([marker, code] ++ rest) 0 marker = config.marker.char :=
      nativeAt_of_isMarker hmarker hcode
    have hsecond : config.nativeAt ([marker, code] ++ rest) 1 code = code :=
      nativeAt_of_codeAt rfl (hvalid.codeAt_succ hstands)
    rw [List.flatMap_cons, ih, mapIdx_nativeAt_append, renderToken, Marker.code]
    simp only [List.mapIdx_cons, List.mapIdx_nil, Nat.zero_add, hfirst, hsecond]

/-! ## Stripping -/

/-- The characters that are no part of a code. -/
def outsideCodes (config : Config) (text : List Char) : List Char :=
  (text.zipIdx.filter fun item => !config.inCode text item.2).map Prod.fst

/-- Whether a character is a part of a code does not depend on the text before
it, unless that text ends with a marker of the code. -/
theorem inCode_append (h : config.codeAt (front ++ rest) (front.length - 1) = false)
    (index : Nat) :
    config.inCode (front ++ rest) (index + front.length) = config.inCode rest index := by
  rw [inCode, inCode, codeAt_append]
  cases index with
  | zero => rw [Nat.zero_add, h, Bool.and_false, decide_eq_false (Nat.lt_irrefl 0), Bool.false_and]
  | succ index =>
      have hbefore : index + 1 + front.length - 1 = index + front.length := by omega
      have hpos : 0 < index + 1 + front.length := by omega
      rw [hbefore, codeAt_append, decide_eq_true hpos, decide_eq_true (Nat.succ_pos index),
        Nat.add_sub_cancel]

theorem outsideCodes_append (h : config.codeAt (front ++ rest) (front.length - 1) = false) :
    config.outsideCodes (front ++ rest) =
      (front.zipIdx.filter fun item => !config.inCode (front ++ rest) item.2).map Prod.fst ++
        config.outsideCodes rest := by
  have hshift : rest.zipIdx front.length =
      rest.zipIdx.map fun item => (item.1, item.2 + front.length) := by
    rw [List.zipIdx_eq_map_add]
    exact List.map_congr_left fun item _ => by rw [Nat.add_comm]
  rw [outsideCodes, List.zipIdx_append, List.filter_append, List.map_append, Nat.zero_add, hshift,
    List.filter_map, List.map_map, outsideCodes]
  congr 2
  exact List.filter_congr fun item _ => by simp only [Function.comp, inCode_append h]

/-- Stripping leaves the codes out. -/
theorem strip_eq_outsideCodes (hvalid : config.Valid) (htags : config.tags = .only .standard)
    (text : List Char) : config.strip text = config.outsideCodes text := by
  refine Lexes.only_standard_induction
    (motive := fun text tokens => tokens.flatMap config.stripToken = config.outsideCodes text)
    htags ?nil ?text ?code (lexes_tokens hvalid text)
  case nil => rfl
  case text =>
    intro shown rest tokens hne hnone ih
    have hpos : 0 < shown.length := List.length_pos_iff.2 hne
    have hall : ∀ item ∈ shown.zipIdx, (!config.inCode (shown ++ rest) item.2) = true := by
      intro item hitem
      have hindex : item.2 < shown.length :=
        (List.getElem?_eq_some_iff.1 (List.mem_zipIdx_iff_getElem?.1 hitem)).1
      rw [inCode, hnone item.2 hindex, hnone (item.2 - 1) (by omega), Bool.and_false, Bool.or_false,
        Bool.not_false]
    rw [List.flatMap_cons, ih, outsideCodes_append (hnone _ (by omega)),
      List.filter_eq_self.2 hall, List.zipIdx_map_fst, stripToken]
  case code =>
    intro marker code rest tokens hmarker hcode ih
    have hstands : config.codeAt ([marker, code] ++ rest) 0 = true := by
      simp [codeAt, hmarker, hcode]
    have hnext := hvalid.codeAt_succ hstands
    have hfirst : config.inCode ([marker, code] ++ rest) 0 = true := by
      rw [inCode, hstands, Bool.true_or]
    have hsecond : config.inCode ([marker, code] ++ rest) 1 = true := by
      rw [inCode, Nat.sub_self, hstands, decide_eq_true Nat.one_pos, Bool.true_and, Bool.or_true]
    have hall : ∀ item ∈ [marker, code].zipIdx,
        ¬ (!config.inCode ([marker, code] ++ rest) item.2) = true := by
      intro item hitem
      obtain rfl | rfl : item = (marker, 0) ∨ item = (code, 1) := by simpa using hitem
      · simpa using hfirst
      · simpa using hsecond
    rw [List.flatMap_cons, ih, outsideCodes_append hnext, List.filter_eq_nil_iff.2 hall,
      List.map_nil, stripToken]

/-! ## Both renderers -/

/-- Where only standard codes are on, rendering and stripping are rewrites of
single places.  An alternate marker with a standard code behind it becomes the
native one, and bare text is what is left without the markers and their
codes. -/
theorem rewrites_of_only_standard (hvalid : config.Valid) (htags : config.tags = .only .standard)
    (text : List Char) :
    (config.transform text).length = text.length ∧
      (∀ index, (config.transform text)[index]? = text[index]?.map fun c =>
        if c = config.alternate && text[index + 1]?.any isStandardCode then config.marker.char
        else c) ∧
      config.strip text =
        (text.zipIdx.filter fun item => !config.inCode text item.2).map Prod.fst := by
  have htransform := transform_eq_mapIdx hvalid htags text
  refine ⟨?_, fun index => ?_, strip_eq_outsideCodes hvalid htags text⟩
  · rw [htransform, List.length_mapIdx]
  · rw [htransform, List.getElem?_mapIdx]
    rfl

/-- Of two markers before a code the second counts, and tags do not. -/
theorem rewrites_of_only_standard_tag :
    ({ tags := .only .standard } : Config).Valid ∧
      ({ tags := .only .standard } : Config).transform "&&a<b>§c&z".toList =
        "&§a<b>§c&z".toList ∧
      (({ tags := .only .standard } : Config).transform "&&a<b>§c&z".toList)[1]? = some '§' ∧
      ({ tags := .only .standard } : Config).strip "&&a<b>§c&z".toList = "&<b>&z".toList := by
  have hvalid : ({ tags := .only .standard } : Config).Valid := by decide
  obtain ⟨-, hplaces, hstrip⟩ := rewrites_of_only_standard hvalid rfl "&&a<b>§c&z".toList
  refine ⟨hvalid, by decide +kernel, ?_, ?_⟩
  · rw [hplaces]
    decide
  · rw [hstrip]
    decide

end ColorMarkup.Config
