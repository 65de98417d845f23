/-!
# ColorMarkup.Text.Ranges

A class of characters is a list of code point ranges in ascending order.
The search for a code point stops at the first range that does not end
before it, so common characters are found near the front.  For an ascending
list the search finds exactly the members of the ranges (`inRanges_iff`).
-/

namespace ColorMarkup.Text

/-- A run of code points, both ends included. -/
structure CodeRange where
  first : Nat
  last : Nat

/-- Whether one of the ranges holds the code point. -/
def inRanges (code : Nat) : List CodeRange → Bool
  | [] => false
  | range :: rest => if code ≤ range.last then decide (range.first ≤ code) else inRanges code rest

/-- Every range is a run, and ends before the next one starts. -/
def ascending : List CodeRange → Bool
  | [] => true
  | [range] => decide (range.first ≤ range.last)
  | range :: next :: rest =>
    decide (range.first ≤ range.last) && decide (range.last < next.first) &&
      ascending (next :: rest)

private theorem first_le_of_mem {range : CodeRange} {rest : List CodeRange}
    (h : ascending (range :: rest) = true) :
    ∀ r ∈ rest, range.last < r.first := by
  induction rest generalizing range with
  | nil => simp
  | cons next rest ih =>
    simp only [ascending, Bool.and_eq_true, decide_eq_true_eq] at h
    intro r hr
    rcases List.mem_cons.1 hr with rfl | hr
    · exact h.1.2
    · have hlast := ih h.2 r hr
      have hnext : next.first ≤ next.last := by
        cases rest with
        | nil => simpa [ascending] using h.2
        | cons _ _ =>
          have h2 := h.2
          simp only [ascending, Bool.and_eq_true, decide_eq_true_eq] at h2
          exact h2.1.1
      omega

private theorem ascending_tail {range : CodeRange} {rest : List CodeRange}
    (h : ascending (range :: rest) = true) : ascending rest = true := by
  cases rest with
  | nil => rfl
  | cons next rest =>
    simp only [ascending, Bool.and_eq_true] at h
    exact h.2

/-- The search in an ascending list finds exactly the members of its ranges. -/
theorem inRanges_iff {code : Nat} {ranges : List CodeRange} (h : ascending ranges = true) :
    inRanges code ranges = true ↔ ∃ r ∈ ranges, r.first ≤ code ∧ code ≤ r.last := by
  induction ranges with
  | nil => simp [inRanges]
  | cons range rest ih =>
    rw [inRanges]
    split
    · rename_i hle
      constructor
      · intro hfirst
        exact ⟨range, List.mem_cons_self, of_decide_eq_true hfirst, hle⟩
      · rintro ⟨r, hr, hfirst, -⟩
        rcases List.mem_cons.1 hr with rfl | hr
        · exact decide_eq_true hfirst
        · have := first_le_of_mem h r hr
          omega
    · rename_i hlt
      rw [ih (ascending_tail h)]
      constructor
      · rintro ⟨r, hr, hb⟩
        exact ⟨r, List.mem_cons_of_mem _ hr, hb⟩
      · rintro ⟨r, hr, hfirst, hlast⟩
        rcases List.mem_cons.1 hr with rfl | hr
        · omega
        · exact ⟨r, hr, hfirst, hlast⟩

end ColorMarkup.Text
