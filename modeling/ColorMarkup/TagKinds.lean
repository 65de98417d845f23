/-!
# ColorMarkup.TagKinds

The kinds of markup, and sets of them.  A host that trusts a sender less
switches some kinds off; markup of such a kind is plain text.
-/

namespace ColorMarkup

/-- The kinds of markup. -/
inductive TagKind where
  /-- A marker and a standard code. -/
  | standard
  /-- A word in angle brackets. -/
  | shorthand
  /-- A color in angle brackets. -/
  | hex
  /-- A gradient over a span. -/
  | gradient
  /-- A rainbow over a span. -/
  | rainbow
deriving DecidableEq, Repr

namespace TagKind

/-- All kinds, by rising bit. -/
def all : List TagKind := [standard, shorthand, hex, gradient, rainbow]

/-- The bit that stands for a kind in a number. -/
def bit : TagKind → Nat
  | standard => 1
  | shorthand => 2
  | hex => 4
  | gradient => 8
  | rainbow => 16

theorem mem_all (kind : TagKind) : kind ∈ all := by
  cases kind <;> decide

end TagKind

/-- A set of kinds of markup. -/
structure TagKinds where
  standard : Bool := false
  shorthand : Bool := false
  hex : Bool := false
  gradient : Bool := false
  rainbow : Bool := false
deriving DecidableEq, Repr

namespace TagKinds

/-! ## Membership -/

/-- Whether a kind is in the set. -/
def has (kinds : TagKinds) : TagKind → Bool
  | .standard => kinds.standard
  | .shorthand => kinds.shorthand
  | .hex => kinds.hex
  | .gradient => kinds.gradient
  | .rainbow => kinds.rainbow

/-- The set of the kinds that satisfy a test. -/
def ofTest (test : TagKind → Bool) : TagKinds where
  standard := test .standard
  shorthand := test .shorthand
  hex := test .hex
  gradient := test .gradient
  rainbow := test .rainbow

@[simp] theorem has_ofTest (test : TagKind → Bool) (kind : TagKind) :
    (ofTest test).has kind = test kind := by
  cases kind <;> rfl

/-- Two sets with the same members are equal. -/
theorem ext_has {a b : TagKinds} (h : ∀ kind, a.has kind = b.has kind) : a = b := by
  cases a
  cases b
  simpa [has] using ⟨h .standard, h .shorthand, h .hex, h .gradient, h .rainbow⟩

/-- The members by rising bit. -/
def toList (kinds : TagKinds) : List TagKind :=
  TagKind.all.filter kinds.has

/-- Membership in the list is membership in the set. -/
@[simp] theorem mem_toList (kinds : TagKinds) (kind : TagKind) :
    kind ∈ kinds.toList ↔ kinds.has kind = true := by
  simp [toList, TagKind.mem_all]

/-- The set as a number, one bit for each member. -/
def bits (kinds : TagKinds) : Nat :=
  kinds.toList.foldl (fun total kind => total + kind.bit) 0

/-! ## Named sets -/

/-- No kind. -/
def empty : TagKinds := {}

/-- The set of one kind. -/
def only (kind : TagKind) : TagKinds := ofTest (decide <| · = kind)

/-- Every kind. -/
def all : TagKinds := ⟨true, true, true, true, true⟩

/-- The kinds that may stand inside an effect. -/
def inline : TagKinds := ⟨true, true, true, false, false⟩

/-- The kinds that enclose a span. -/
def effects : TagKinds := ⟨false, false, false, true, true⟩

/-! ## Operations -/

/-- The kinds in either set. -/
def union (a b : TagKinds) : TagKinds := ofTest fun kind => a.has kind || b.has kind

/-- The kinds in both sets. -/
def inter (a b : TagKinds) : TagKinds := ofTest fun kind => a.has kind && b.has kind

/-- The kinds in the first set only. -/
def diff (a b : TagKinds) : TagKinds := ofTest fun kind => a.has kind && !b.has kind

/-- The kinds in one set but not in the other. -/
def toggle (a b : TagKinds) : TagKinds := ofTest fun kind => a.has kind != b.has kind

/-- The kinds that are not in the set. -/
def complement (a : TagKinds) : TagKinds := ofTest fun kind => !a.has kind

/-- Whether the first set has all kinds of the second. -/
def contains (a b : TagKinds) : Bool := TagKind.all.all fun kind => !b.has kind || a.has kind

/-- Whether the sets have a kind in common. -/
def intersects (a b : TagKinds) : Bool := TagKind.all.any fun kind => a.has kind && b.has kind

theorem contains_iff {a b : TagKinds} :
    a.contains b = true ↔ ∀ kind, b.has kind = true → a.has kind = true := by
  simp only [contains, List.all_eq_true, TagKind.mem_all, true_implies, Bool.or_eq_true,
    Bool.not_eq_true']
  exact forall_congr' fun kind => by cases b.has kind <;> simp

theorem intersects_iff {a b : TagKinds} :
    a.intersects b = true ↔ ∃ kind, a.has kind = true ∧ b.has kind = true := by
  simp [intersects, TagKind.mem_all]

end TagKinds

end ColorMarkup
