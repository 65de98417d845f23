import ColorMarkup.Proofs.Tag.Part
import ColorMarkup.Tag.Gradient

/-!
# ColorMarkup.Proofs.Tag.Gradient

A gradient tag is read exactly where the spelling of a well-formed tag stands
(`GradientTag.read_eq_ok_iff`).  So what an open tag means depends on the tag
alone and not on the text after it (`Gradient.readTag_append`).
-/

namespace ColorMarkup

namespace GradientTag

/-- A tag as it can be read: with a stop at least, and no empty run. -/
structure WellFormed (tag : GradientTag) : Prop where
  speed : ∀ digits ∈ tag.speed, IsRun Char.isDigit digits
  stops : ∀ digits ∈ tag.stops, IsRun Char.isHexDigit digits
  hasStop : tag.stops ≠ []

theorem wellFormed_of_read {text rest : List Char} {tag : GradientTag}
    (h : read text = .ok (tag, rest)) : tag.WellFormed := by
  unfold read at h
  simp only [bind, Except.bind, pure, Except.pure] at h
  split at h <;> try cases h
  split at h <;> try cases h
  rename_i name hname
  obtain ⟨isLong, text₂⟩ := name
  cases hspeed : readSpeed text₂ with | mk speed text₃ => ?_
  simp only [hspeed] at h
  split at h <;> try cases h
  rename_i stop hstop
  obtain ⟨first, text₄⟩ := stop
  cases hstops : readStops text₄ with | mk others text₅ => ?_
  simp only [hstops] at h
  split at h <;> try cases h
  refine ⟨isRun_of_readSpeed hspeed, ?_, by simp⟩
  intro digits hmem
  rcases List.mem_cons.1 hmem with rfl | hmem
  · exact isRun_of_readStop hstop
  · exact isRun_of_readStops hstops _ hmem

/-- A well-formed tag reads back from its spelling, whatever follows it. -/
theorem read_append {tag : GradientTag} (h : tag.WellFormed) (rest : List Char) :
    read (tag.toText ++ rest) = .ok (tag, rest) := by
  obtain ⟨isLong, speed, stops, loop⟩ := tag
  obtain ⟨hspeed, hstops, hne⟩ := h
  cases stops with
  | nil => contradiction
  | cons first others =>
      have hothers : ∀ digits ∈ others, IsRun Char.isHexDigit digits :=
        fun digits hmem => hstops digits (List.mem_cons_of_mem _ hmem)
      -- the text after each part, from the last one to the first
      let afterStops := loopText loop ++ '>' :: rest
      let afterFirst := stopsText others ++ afterStops
      let afterSpeed := stopText first ++ afterFirst
      have hfirstEnd : AtPartEnd afterFirst := .stopsText_append others (.loopText_append loop rest)
      have hspeedEnd : AtPartEnd afterSpeed := ⟨_, .inl rfl⟩
      have hlong :
          longName.isPrefixOf (shortName ++ (speedText speed ++ afterSpeed)) = false := by
        cases speed <;> rfl
      have htext : toText ⟨isLong, speed, first :: others, loop⟩ ++ rest =
          '<' :: (nameText longName shortName isLong ++ (speedText speed ++ afterSpeed)) := by
        simp [toText, stopsText, afterSpeed, afterFirst, afterStops]
      have hstopsRead : readStops afterFirst = (others, afterStops) :=
        readStops_append hothers loop rest
      have hloopRead : readLoop afterStops = (loop, '>' :: rest) := readLoop_append loop rest
      rw [htext]
      simp only [read, readChar, if_pos, readName_append fun _ => hlong,
        readSpeed_append hspeed hspeedEnd,
        readStop_append (hstops first List.mem_cons_self) hfirstEnd, bind, Except.bind, pure,
        Except.pure, hstopsRead, hloopRead, afterSpeed]

/-- A tag is read exactly where its spelling stands. -/
theorem read_eq_ok_iff {text rest : List Char} {tag : GradientTag} :
    read text = .ok (tag, rest) ↔ tag.WellFormed ∧ text = tag.toText ++ rest := by
  constructor
  · exact fun h => ⟨wellFormed_of_read h, eq_append_of_read h⟩
  · rintro ⟨hwell, rfl⟩
    exact read_append hwell rest

end GradientTag

namespace Gradient

/-- A gradient is read from the spelling of a tag that asks for it. -/
theorem readTag_eq_ok_iff {text : List Char} {reading : Reading Gradient} :
    readTag text = .ok reading ↔
      ∃ tag : GradientTag, tag.WellFormed ∧ tag.gradient = .ok reading.value ∧
        reading.text = tag.toText ∧ reading.Parts text := by
  constructor
  · intro h
    have hparts := parts_of_readTag h
    unfold readTag at h
    split at h
    · cases h
    · rename_i tag rest hread
      obtain ⟨gradient, hgradient, rfl⟩ := exists_of_map_eq_ok h
      exact ⟨tag, GradientTag.wellFormed_of_read hread, hgradient, rfl, hparts⟩
  · rintro ⟨tag, hwell, hgradient, htext, hparts⟩
    obtain ⟨value, taken, rest⟩ := reading
    subst htext
    rw [hparts, readTag, GradientTag.read_append hwell]
    simp [hgradient, Except.map]

/-- An open tag means the same before any text. -/
theorem readTag_append {text : List Char} {reading : Reading Gradient}
    (h : readTag text = .ok reading) (rest : List Char) :
    readTag (reading.text ++ rest) = .ok { reading with rest := rest } := by
  obtain ⟨tag, hwell, hgradient, htext, -⟩ := readTag_eq_ok_iff.1 h
  exact readTag_eq_ok_iff.2 ⟨tag, hwell, hgradient, htext, rfl⟩

end Gradient

end ColorMarkup
