import ColorMarkup.Text.Cluster
import Mathlib.Data.List.Basic
import Mathlib.Data.List.Induction

/-!
# ColorMarkup.Proofs.Text.Cluster

Where a text may be cut without changing its clusters.

1. One more character joins the last cluster or opens a new one, as the
   context of the text before it tells (`clusters_concat_of_joins`,
   `clusters_concat_of_not_joins`).
2. A character that does not join leaves the same context as one that a text
   starts with (`ClusterContext.step_of_not_joins`).  So the clusters of two
   texts, one after the other, are those of both together exactly if no
   cluster reaches from one into the other (`isBoundary_iff`).
3. The same holds of any number of texts (`flatMap_clusters_eq_iff`).
4. Two printable ASCII characters are never neighbours in a cluster
   (`not_ascii_neighbours`).
-/

namespace ColorMarkup.Text

/-! ## Context of a text -/

/-- The context after a text. -/
def contextAfter (text : List Char) : ClusterContext :=
  text.foldl (fun context c => context.step (.of c)) .start

theorem contextAfter_concat (text : List Char) (c : Char) :
    contextAfter (text ++ [c]) = (contextAfter text).step (.of c) := by
  simp [contextAfter]

/-- What holds of every context that a text can leave: an odd indicator is the
last character, and nothing is pending after a line end or a control. -/
structure ClusterContext.Sound (context : ClusterContext) : Prop where
  indicator : context.oddIndicators = true → context.last = .regionalIndicator
  pending : context.last ∈ [.carriageReturn, .lineFeed, .control] →
    context.pictograph = .none ∧ context.conjunct = .none

theorem ClusterContext.sound_start : start.Sound where
  indicator := by decide
  pending := by decide

theorem ClusterContext.sound_step (context : ClusterContext) (next : ClusterClass) :
    (context.step next).Sound where
  indicator h := by
    simp only [step, Bool.and_eq_true, decide_eq_true_eq] at h
    exact h.1
  pending h := by
    simp only [step, List.mem_cons, List.not_mem_nil, or_false] at h
    rcases h with rfl | rfl | rfl <;> exact ⟨rfl, rfl⟩

theorem sound_contextAfter (text : List Char) : (contextAfter text).Sound := by
  induction text using List.reverseRecOn with
  | nil => exact ClusterContext.sound_start
  | append_singleton text c _ =>
      rw [contextAfter_concat]
      exact ClusterContext.sound_step _ _

/-- A character that does not join leaves the context that it would leave at
the start of a text. -/
theorem ClusterContext.step_of_not_joins {context : ClusterContext} (h : context.Sound)
    {next : ClusterClass} (hjoins : context.joins next = false) :
    context.step next = start.step next := by
  obtain ⟨last, odd, pictograph, conjunct⟩ := context
  obtain ⟨hindicator, hpending⟩ := h
  cases next with
  | regionalIndicator =>
    cases odd
    · rfl
    · obtain rfl := hindicator rfl
      cases hjoins
  | extender | linker | nonJoiner | joiner =>
      -- These join everything but a line end or a control.
      have hlast : last ∈ [ClusterClass.carriageReturn, .lineFeed, .control] := by
        cases last <;> first | decide | cases hjoins
      obtain ⟨rfl, rfl⟩ := hpending hlast
      rfl
  | _ => rfl

theorem contextAfter_append {before after : List Char} {c : Char}
    (h : (contextAfter before).joins (.of c) = false) :
    contextAfter (before ++ c :: after) = contextAfter (c :: after) := by
  have hstep := ClusterContext.step_of_not_joins (sound_contextAfter before) h
  simp only [contextAfter, List.foldl_append, List.foldl_cons] at hstep ⊢
  rw [hstep]

/-! ## One more character -/

theorem foldl_push_concat (text : List Char) (c : Char) :
    (text ++ [c]).foldl ClusterCuts.push .start = (text.foldl ClusterCuts.push .start).push c := by
  rw [List.foldl_append, List.foldl_cons, List.foldl_nil]

theorem context_foldl_push (text : List Char) :
    (text.foldl ClusterCuts.push .start).context = contextAfter text := by
  induction text using List.reverseRecOn with
  | nil => rfl
  | append_singleton text c ih =>
      rw [foldl_push_concat, contextAfter_concat, ← ih]
      unfold ClusterCuts.push
      dsimp only
      split <;> rfl

theorem current_foldl_push_ne_nil {text : List Char} (h : text ≠ []) :
    (text.foldl ClusterCuts.push .start).current ≠ [] := by
  induction text using List.reverseRecOn with
  | nil => contradiction
  | append_singleton text c _ =>
      rw [foldl_push_concat]
      unfold ClusterCuts.push
      dsimp only
      split <;> exact List.cons_ne_nil _ _

/-- Nothing joins at the start of a text. -/
theorem ne_nil_of_joins {text : List Char} {next : ClusterClass}
    (h : (contextAfter text).joins next = true) : text ≠ [] := by
  rintro rfl
  cases next <;> cases h

/-- A character that joins is added to the last cluster. -/
theorem clusters_concat_of_joins {text : List Char} {c : Char}
    (h : (contextAfter text).joins (.of c) = true) :
    ∃ parts last, clusters text = parts ++ [last] ∧
      clusters (text ++ [c]) = parts ++ [last ++ [c]] := by
  have hcurrent := current_foldl_push_ne_nil (ne_nil_of_joins h)
  rw [← context_foldl_push] at h
  rw [clusters, clusters, foldl_push_concat]
  generalize text.foldl ClusterCuts.push .start = cuts at h hcurrent ⊢
  refine ⟨cuts.closed.reverse, cuts.current.reverse, ?_, ?_⟩
  · rw [ClusterCuts.toList, if_neg hcurrent, List.reverse_cons]
  · simp [ClusterCuts.push, ClusterCuts.toList, h]

/-- A character that does not join opens a new cluster. -/
theorem clusters_concat_of_not_joins {text : List Char} {c : Char}
    (h : (contextAfter text).joins (.of c) = false) :
    clusters (text ++ [c]) = clusters text ++ [[c]] := by
  rw [← context_foldl_push] at h
  rw [clusters, clusters, foldl_push_concat]
  generalize text.foldl ClusterCuts.push .start = cuts at h ⊢
  simp [ClusterCuts.push, ClusterCuts.toList, h]

/-! ## Boundaries -/

/-- A text may be cut between its two parts: no cluster reaches over the cut. -/
def IsBoundary (before after : List Char) : Prop :=
  ∃ left right, clusters (before ++ after) = left ++ right ∧ left.flatten = before

/-- Where a character does not join, both parts have clusters of their own. -/
theorem clusters_append_of_not_joins {before after : List Char} {c : Char}
    (h : (contextAfter before).joins (.of c) = false) :
    clusters (before ++ c :: after) = clusters before ++ clusters (c :: after) := by
  induction after using List.reverseRecOn with
  | nil => exact clusters_concat_of_not_joins h
  | append_singleton after d ih =>
      have hcontext : contextAfter (before ++ c :: after) = contextAfter (c :: after) :=
        contextAfter_append h
      rw [← List.cons_append, ← List.append_assoc]
      cases hjoins : (contextAfter (c :: after)).joins (.of d) with
      | false =>
          rw [clusters_concat_of_not_joins hjoins,
            clusters_concat_of_not_joins (hcontext ▸ hjoins), ih, List.append_assoc]
      | true =>
          obtain ⟨parts, last, hparts, hmore⟩ := clusters_concat_of_joins hjoins
          rw [← hcontext] at hjoins
          obtain ⟨parts', last', hparts', hmore'⟩ := clusters_concat_of_joins hjoins
          rw [ih, hparts, ← List.append_assoc] at hparts'
          obtain ⟨rfl, hlast⟩ := List.append_inj' hparts' rfl
          cases hlast
          rw [hmore, hmore', List.append_assoc]

/-- The last part is on the right of a cut that has something on its right. -/
theorem exists_init_of_append_eq {α : Type} {parts left right : List α} {last : α}
    (h : parts ++ [last] = left ++ right) (hne : right ≠ []) :
    ∃ init, right = init ++ [last] ∧ parts = left ++ init := by
  obtain ⟨init, last', rfl⟩ := (List.eq_nil_or_concat' right).resolve_left hne
  rw [← List.append_assoc] at h
  obtain ⟨rfl, hlast⟩ := List.append_inj' h rfl
  cases hlast
  exact ⟨init, rfl, rfl⟩

/-- A cut before a character has a cluster on its right. -/
theorem right_ne_nil {before after : List Char} {c : Char} {left right : List (List Char)}
    (hparts : clusters (before ++ c :: after) = left ++ right) (hleft : left.flatten = before) :
    right ≠ [] := by
  rintro rfl
  have hall := flatten_clusters (before ++ c :: after)
  rw [hparts, List.append_nil, hleft] at hall
  simp at hall

/-- Where a character joins, its cluster reaches over the cut. -/
theorem not_isBoundary_of_joins {before after : List Char} {c : Char}
    (h : (contextAfter before).joins (.of c) = true) : ¬ IsBoundary before (c :: after) := by
  rintro ⟨left, right, hcut, hleft⟩
  have hright := right_ne_nil hcut hleft
  -- Taking characters off the end keeps the cut, down to the one that joins.
  induction after using List.reverseRecOn generalizing right with
  | nil =>
      obtain ⟨parts, last, hparts, hmore⟩ := clusters_concat_of_joins h
      obtain ⟨init, rfl, rfl⟩ := exists_init_of_append_eq (hmore.symm.trans hcut) hright
      have hall := flatten_clusters before
      have hmem : last ∈ clusters before := by simp [hparts]
      have hlast := ne_nil_of_mem_clusters hmem
      simp only [hparts, List.flatten_append, hleft, List.append_assoc] at hall
      simp [hlast] at hall
  | append_singleton after d ih =>
      rw [← List.cons_append, ← List.append_assoc] at hcut
      cases hjoins : (contextAfter (before ++ c :: after)).joins (.of d) with
      | false =>
          rw [clusters_concat_of_not_joins hjoins] at hcut
          obtain ⟨init, rfl, hinit⟩ := exists_init_of_append_eq hcut hright
          exact ih init hinit (right_ne_nil hinit hleft)
      | true =>
          obtain ⟨parts, last, hparts, hmore⟩ := clusters_concat_of_joins hjoins
          obtain ⟨init, rfl, rfl⟩ := exists_init_of_append_eq (hmore.symm.trans hcut) hright
          rw [List.append_assoc] at hparts
          exact ih (init ++ [last]) hparts (right_ne_nil hparts hleft)

/-- A text is cut before a character exactly if the character does not join. -/
theorem isBoundary_cons_iff {before after : List Char} {c : Char} :
    IsBoundary before (c :: after) ↔ (contextAfter before).joins (.of c) = false := by
  constructor
  · intro h
    by_contra hjoins
    exact not_isBoundary_of_joins (by simpa using hjoins) h
  · intro h
    exact ⟨_, _, clusters_append_of_not_joins h, flatten_clusters before⟩

/-- A text may be cut exactly where both parts have clusters of their own. -/
theorem isBoundary_iff {before after : List Char} :
    IsBoundary before after ↔ clusters (before ++ after) = clusters before ++ clusters after := by
  constructor
  · intro h
    cases after with
    | nil =>
        rw [List.append_nil]
        exact (List.append_nil _).symm
    | cons c after => exact clusters_append_of_not_joins (isBoundary_cons_iff.1 h)
  · intro h
    exact ⟨_, _, h, flatten_clusters before⟩

theorem isBoundary_nil (before : List Char) : IsBoundary before [] :=
  ⟨clusters before, [], by rw [List.append_nil, List.append_nil], flatten_clusters before⟩

/-- Only the first character behind a cut tells whether it is a boundary. -/
theorem IsBoundary.of_append {before after more : List Char}
    (h : IsBoundary before (after ++ more)) : IsBoundary before after := by
  cases after with
  | nil => exact isBoundary_nil before
  | cons c after => exact isBoundary_cons_iff.2 (isBoundary_cons_iff.1 h)

/-! ## Several texts -/

theorem flatten_flatMap_clusters (texts : List (List Char)) :
    (texts.flatMap clusters).flatten = texts.flatten := by
  induction texts with
  | nil => rfl
  | cons text texts ih =>
      rw [List.flatMap_cons, List.flatten_append, flatten_clusters, ih, List.flatten_cons]

/-- The clusters of several texts, each by itself, are those of all of them
exactly if no cluster reaches from a text into the next ones. -/
theorem flatMap_clusters_eq_iff {texts : List (List Char)} :
    texts.flatMap clusters = clusters texts.flatten ↔
      ∀ front text back, texts = front ++ text :: back →
        IsBoundary front.flatten (text :: back).flatten := by
  constructor
  · rintro h front text back rfl
    refine ⟨front.flatMap clusters, (text :: back).flatMap clusters, ?_, ?_⟩
    · rw [← List.flatten_append, ← h, List.flatMap_append]
    · exact flatten_flatMap_clusters front
  · intro h
    induction texts using List.reverseRecOn with
    | nil => rfl
    | append_singleton texts text ih =>
        have hinit : texts.flatMap clusters = clusters texts.flatten := by
          refine ih fun front other back hsplit => ?_
          have hcut := h front other (back ++ [text]) (by rw [hsplit]; simp)
          rw [← List.cons_append, List.flatten_append] at hcut
          exact hcut.of_append
        have hlast := isBoundary_iff.1 (h texts text [] rfl)
        rw [List.flatten_singleton] at hlast
        rw [List.flatMap_append, hinit, List.flatMap_singleton, List.flatten_append,
          List.flatten_singleton, hlast]

/-- A cluster is a part of the text. -/
theorem isInfix_of_mem_clusters {text cluster : List Char} (h : cluster ∈ clusters text) :
    cluster <:+: text := by
  have hinfix := List.infix_of_mem_flatten h
  rwa [flatten_clusters] at hinfix

/-! ## Neighbours in a cluster -/

/-- A character of a cluster joins the one before it. -/
theorem exists_joins_of_mem_clusters {text cluster before after : List Char} {c d : Char}
    (h : cluster ∈ clusters text) (hcluster : cluster = before ++ c :: d :: after) :
    ∃ context : ClusterContext, context.last = .of c ∧ context.joins (.of d) = true := by
  induction text using List.reverseRecOn generalizing cluster after with
  | nil => cases h
  | append_singleton text e ih =>
      cases hjoins : (contextAfter text).joins (.of e) with
      | false =>
          rw [clusters_concat_of_not_joins hjoins, List.mem_append, List.mem_singleton] at h
          rcases h with h | rfl
          · exact ih h hcluster
          · have hlength := congrArg List.length hcluster
            simp only [List.length_append, List.length_cons, List.length_nil] at hlength
            omega
      | true =>
          obtain ⟨parts, last, hparts, hmore⟩ := clusters_concat_of_joins hjoins
          rw [hmore, List.mem_append, List.mem_singleton] at h
          rcases h with h | rfl
          · exact ih (by rw [hparts]; exact List.mem_append_left _ h) hcluster
          · rcases List.eq_nil_or_concat' after with rfl | ⟨after, e', rfl⟩
            · -- The two characters are the last ones of the text.
              rw [List.append_cons before] at hcluster
              obtain ⟨rfl, hlast⟩ := List.append_inj' hcluster rfl
              cases hlast
              have htext := flatten_clusters text
              rw [hparts, List.flatten_append, List.flatten_singleton, ← List.append_assoc] at htext
              refine ⟨contextAfter text, ?_, hjoins⟩
              rw [← htext, contextAfter_concat]
              rfl
            · rw [← List.cons_append, ← List.cons_append, ← List.append_assoc] at hcluster
              obtain ⟨rfl, -⟩ := List.append_inj' hcluster rfl
              exact ih (by rw [hparts]; exact List.mem_append_right _ List.mem_cons_self) rfl

/-- A character between the space and the tilde. -/
def IsPrintableAscii (c : Char) : Prop :=
  32 ≤ c.toNat ∧ c.toNat < 127

instance (c : Char) : Decidable (IsPrintableAscii c) :=
  inferInstanceAs (Decidable (_ ∧ _))

theorem of_eq_other {c : Char} (h : IsPrintableAscii c) : ClusterClass.of c = .other := by
  have hall : ∀ code < 127, 32 ≤ code → ClusterClass.ofCode code = .other := by decide +kernel
  exact hall c.toNat h.2 h.1

/-- Two printable ASCII characters are never neighbours in a cluster. -/
theorem not_ascii_neighbours {text before after : List Char} {c d : Char}
    (hc : IsPrintableAscii c) (hd : IsPrintableAscii d) :
    before ++ c :: d :: after ∉ clusters text := by
  intro h
  obtain ⟨⟨last, odd, pictograph, conjunct⟩, hlast, hjoins⟩ := exists_joins_of_mem_clusters h rfl
  rw [of_eq_other hc] at hlast
  rw [of_eq_other hd] at hjoins
  subst hlast
  cases hjoins

end ColorMarkup.Text
