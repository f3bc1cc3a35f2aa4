import AssetExchange.Plugin.Basic

/-!
# Iterating over pages

`Pages` walks a pager from its current page to the end. The first step fetches the
current page; every later one asks whether a page follows, moves there and fetches
it. The walk ends after the last page, at the first empty page, or after an error,
and then asks nothing more of the pager.
-/

namespace AssetExchange

/-- A walk over the pages of a pager. -/
structure Pages (pi : Type) where
  pager : pi
  started : Bool
  finished : Bool

namespace Pages

variable {sigma pi : Type} (plugin : Plugin sigma pi)

def ofPager (pager : pi) : Pages pi := ⟨pager, false, false⟩

/-- The end of the walk, with nothing or an error. -/
def finish (pager : pi) (started : Bool)
    (last : Option (Outcome (List EntityReference))) :
    Pages pi × Option (Outcome (List EntityReference)) :=
  (⟨pager, started, true⟩, last)

def fetch (pager : pi) :
    Request sigma (Pages pi × Option (Outcome (List EntityReference))) :=
  fun state => (plugin.pagerGet pager state).map fun
    | (next, .error error) => finish next true (some (.error error))
    | (next, .ok []) => finish next true none
    | (next, .ok page) => (⟨next, true, false⟩, some (.ok page))

/-- The next page of the walk, an error that ends it, or nothing once it is over. -/
def next (pages : Pages pi) :
    Request sigma (Pages pi × Option (Outcome (List EntityReference))) :=
  if pages.finished then .answer (pages, none)
  else if pages.started then fun state =>
    (plugin.pagerHasNext pages.pager state).bind fun
      | (asked, .error error) => .answer (finish asked true (some (.error error)))
      | (asked, .ok false) => .answer (finish asked true none)
      | (asked, .ok true) => fun state =>
          (plugin.pagerNext asked state).bind fun
            | (moved, .error error) => .answer (finish moved true (some (.error error)))
            | (moved, .ok ()) => fetch plugin moved
  else fetch plugin pages.pager

/-- At most `limit` steps of the walk, as far as it goes. -/
def take : Nat → Pages pi →
    Request sigma (Pages pi × List (Outcome (List EntityReference)))
  | 0, pages => .answer (pages, [])
  | limit + 1, pages => fun state =>
      (next plugin pages state).bind fun
        | (after, none) => .answer (after, [])
        | (after, some item) => fun state =>
            (take limit after state).map fun (last, items) => (last, item :: items)

/-- The description of a pager, which keeps its parts to itself. -/
def describePager : String := "EntityReferencePager \x7b .. \x7d"

def flagText (flag : Bool) : String := if flag then "true" else "false"

def describe (pages : Pages pi) : String :=
  "Pages \x7b pager: " ++ describePager ++ ", started: " ++ flagText pages.started ++
    ", done: " ++ flagText pages.finished ++ " \x7d"

end Pages
end AssetExchange
