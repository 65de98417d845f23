/-!
# ColorMarkup.Token.CloseTag

The search for the tag that closes a span: the first place in a text where
one of several close tags stands.

A text with many open tags would be searched once for each of them.  A
`CloseMemo` keeps the last search, which also answers a later one that starts
between its origin and what it found.  Places are counted in characters from
the front of the whole text.
-/

namespace ColorMarkup

/-- A close tag in a text: where it starts and how many characters it has. -/
structure CloseHit where
  start : Nat
  length : Nat
deriving DecidableEq, Repr

/-- The close tag that a text starts with, if any. -/
def closeTagAhead? (tags : List (List Char)) (text : List Char) : Option (List Char) :=
  tags.find? fun tag => tag.isPrefixOf text

/-- The first close tag in a text that starts at a given place. -/
def findClose (tags : List (List Char)) (origin : Nat) : List Char → Option CloseHit
  | [] => none
  | c :: rest =>
    match closeTagAhead? tags (c :: rest) with
    | some tag => some ⟨origin, tag.length⟩
    | none => findClose tags (origin + 1) rest

/-- A search that was made: where it started and what it found. -/
structure CloseSearch where
  origin : Nat
  found : Option CloseHit
deriving DecidableEq, Repr

/-- The last search, if any. -/
structure CloseMemo where
  last : Option CloseSearch := none
deriving DecidableEq, Repr

namespace CloseMemo

/-- The answer to a search if the last one implies it: nothing was found from
an earlier origin on, or what was found still lies ahead. -/
def known? (memo : CloseMemo) (origin : Nat) : Option (Option CloseHit) :=
  match memo.last with
  | none => none
  | some search =>
    if search.origin ≤ origin then
      match search.found with
      | none => some none
      | some hit => if origin ≤ hit.start then some (some hit) else none
    else none

/-- Searches a text that starts at a given place, unless the memo knows the
answer. -/
def find (memo : CloseMemo) (tags : List (List Char)) (origin : Nat) (text : List Char) :
    Option CloseHit × CloseMemo :=
  match memo.known? origin with
  | some found => (found, memo)
  | none =>
    let found := findClose tags origin text
    (found, ⟨some ⟨origin, found⟩⟩)

end CloseMemo

end ColorMarkup
