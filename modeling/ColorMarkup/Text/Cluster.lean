import ColorMarkup.Text.ClusterClass

/-!
# ColorMarkup.Text.Cluster

Extended grapheme clusters: what a reader takes for one character, such as a
letter with its combining marks, a flag or a family of pictographs.

A text is cut before a character unless the character joins what is before
it (`ClusterContext.joins`).  What is before it matters only through a small
`ClusterContext`: the last class, whether an odd number of regional
indicators is pending, how far a pictograph sequence has come, and whether a
consonant waits for a linker.  The clusters of a text concatenate to the text
(`flatten_clusters`) and none is empty (`ne_nil_of_mem_clusters`).
-/

namespace ColorMarkup.Text

/-! ## Context -/

/-- How far the text has come in a pictograph, its extenders and a joiner. -/
inductive PictographStage where
  | none
  | extended
  | joined
deriving DecidableEq, Repr

/-- How far the text has come in a consonant and the signs after it. -/
inductive ConjunctStage where
  | none
  | consonant
  | linked
deriving DecidableEq, Repr

/-- What the text so far says about the next cut. -/
structure ClusterContext where
  last : ClusterClass
  oddIndicators : Bool
  pictograph : PictographStage
  conjunct : ConjunctStage
deriving DecidableEq, Repr

/-- A pictograph opens a sequence, extenders keep it open, a joiner asks for
another pictograph, and anything else ends it. -/
def PictographStage.step (stage : PictographStage) : ClusterClass → PictographStage
  | .pictograph => .extended
  | .extender | .linker | .nonJoiner => if stage = .extended then .extended else .none
  | .joiner => if stage = .extended then .joined else .none
  | _ => .none

/-- A consonant opens a conjunct, a linker links it, extenders and joiners
leave it as it is, and anything else ends it. -/
def ConjunctStage.step (stage : ConjunctStage) : ClusterClass → ConjunctStage
  | .consonant => .consonant
  | .linker => if stage = .none then .none else .linked
  | .extender | .joiner => stage
  | _ => .none

/-- The context before the first character of a text. -/
def ClusterContext.start : ClusterContext :=
  ⟨.control, false, .none, .none⟩

/-- The context after one more character. -/
def ClusterContext.step (context : ClusterContext) (next : ClusterClass) : ClusterContext :=
  { last := next
    oddIndicators := decide (next = .regionalIndicator) && !context.oddIndicators
    pictograph := context.pictograph.step next
    conjunct := context.conjunct.step next }

/-- Whether a character of the class `next` joins the cluster before it. -/
def ClusterContext.joins (context : ClusterContext) (next : ClusterClass) : Bool :=
  match context.last, next with
  | .carriageReturn, .lineFeed => true
  | .carriageReturn, _ | .lineFeed, _ | .control, _ => false
  | _, .carriageReturn | _, .lineFeed | _, .control => false
  | .leadingJamo, .leadingJamo | .leadingJamo, .vowelJamo => true
  | .leadingJamo, .openSyllable | .leadingJamo, .closedSyllable => true
  | .openSyllable, .vowelJamo | .openSyllable, .trailingJamo => true
  | .vowelJamo, .vowelJamo | .vowelJamo, .trailingJamo => true
  | .closedSyllable, .trailingJamo | .trailingJamo, .trailingJamo => true
  | _, .extender | _, .linker | _, .nonJoiner | _, .joiner | _, .spacingMark => true
  | .prepended, _ => true
  | _, .consonant => decide (context.conjunct = .linked)
  | _, .pictograph => decide (context.pictograph = .joined)
  | _, .regionalIndicator => context.oddIndicators
  | _, _ => false

/-! ## Cutting a text -/

/-- A text cut into clusters so far, both levels in reverse. -/
structure ClusterCuts where
  closed : List (List Char)
  current : List Char
  context : ClusterContext

/-- No text yet. -/
def ClusterCuts.start : ClusterCuts :=
  ⟨[], [], .start⟩

/-- Adds a character, which either joins the current cluster or opens the
next one. -/
def ClusterCuts.push (cuts : ClusterCuts) (c : Char) : ClusterCuts :=
  let next := ClusterClass.of c
  if cuts.context.joins next then
    { closed := cuts.closed, current := c :: cuts.current, context := cuts.context.step next }
  else
    { closed := if cuts.current = [] then cuts.closed else cuts.current.reverse :: cuts.closed
      current := [c]
      context := cuts.context.step next }

/-- The clusters in reading order. -/
def ClusterCuts.toList (cuts : ClusterCuts) : List (List Char) :=
  (if cuts.current = [] then cuts.closed else cuts.current.reverse :: cuts.closed).reverse

/-- The extended grapheme clusters of a text. -/
def clusters (text : List Char) : List (List Char) :=
  (text.foldl ClusterCuts.push .start).toList

/-! ## Nothing is lost -/

private theorem flatten_toList (cuts : ClusterCuts) :
    cuts.toList.flatten = cuts.closed.reverse.flatten ++ cuts.current.reverse := by
  unfold ClusterCuts.toList
  split <;> simp_all

private theorem flatten_push (cuts : ClusterCuts) (c : Char) :
    (cuts.push c).toList.flatten = cuts.toList.flatten ++ [c] := by
  rw [flatten_toList, flatten_toList]
  unfold ClusterCuts.push
  dsimp only
  split
  · simp
  · split <;> simp_all

private theorem flatten_foldl_push (text : List Char) (cuts : ClusterCuts) :
    (text.foldl ClusterCuts.push cuts).toList.flatten = cuts.toList.flatten ++ text := by
  induction text generalizing cuts with
  | nil => simp
  | cons c rest ih =>
    rw [List.foldl_cons, ih, flatten_push, List.append_assoc, List.singleton_append]

/-- The clusters of a text concatenate to the text. -/
theorem flatten_clusters (text : List Char) : (clusters text).flatten = text := by
  rw [clusters, flatten_foldl_push]
  rfl

private theorem nil_notMem_toList_push {cuts : ClusterCuts} (h : [] ∉ cuts.closed) (c : Char) :
    [] ∉ (cuts.push c).closed := by
  unfold ClusterCuts.push
  dsimp only
  split
  · exact h
  · split
    · exact h
    · rename_i hne
      intro hmem
      rcases List.mem_cons.1 hmem with heq | hmem
      · exact hne (List.reverse_eq_nil_iff.1 heq.symm)
      · exact h hmem

private theorem nil_notMem_closed_foldl (text : List Char) (cuts : ClusterCuts)
    (h : [] ∉ cuts.closed) : [] ∉ (text.foldl ClusterCuts.push cuts).closed := by
  induction text generalizing cuts with
  | nil => exact h
  | cons c rest ih => exact ih _ (nil_notMem_toList_push h c)

/-- No cluster is empty. -/
theorem ne_nil_of_mem_clusters {text cluster : List Char} (h : cluster ∈ clusters text) :
    cluster ≠ [] := by
  rintro rfl
  have hclosed := nil_notMem_closed_foldl text .start (by simp [ClusterCuts.start])
  rw [clusters, ClusterCuts.toList, List.mem_reverse] at h
  split at h
  · exact hclosed h
  · rename_i hne
    rcases List.mem_cons.1 h with heq | hmem
    · exact hne (List.reverse_eq_nil_iff.1 heq.symm)
    · exact hclosed hmem

end ColorMarkup.Text
