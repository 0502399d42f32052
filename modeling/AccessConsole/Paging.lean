import AccessConsole.Json.Codec

/-!
# Pages of listings

Listings come in numbered pages.

* `Page` — one page of a listing, with the number of all its items.
* `Page.totalPages` — the number of pages at a page size.
* `PageParams` — which page is asked for, and its size.
-/

namespace AccessConsole

/-- One page of a listing (`Page`). -/
structure Page (α : Type) where
  /-- The number of items on all pages. -/
  count : UInt64
  next : Option String
  previous : Option String
  results : List α
  deriving DecidableEq, Repr

namespace Page

variable {α : Type}

/-- The document of a page. -/
def codec (c : Codec α) : Codec (Page α) :=
  .record
    (.cons (.required "count" .uint64) <|
     .cons (.optional "next" .string) <|
     .cons (.optional "previous" .string) <|
     .cons (.required "results" c.list) .nil)
    (fun p => (p.count, p.next, p.previous, p.results, ()))
    (fun (count, next, previous, results, _) => ⟨count, next, previous, results⟩)

/-- A page follows this one (`has_next`). -/
def hasNext (p : Page α) : Bool := p.next.isSome

/-- The number of pages with `size` items each, at least one; a size of zero counts as one
(`total_pages`). -/
def totalPages (p : Page α) (size : UInt32) : UInt64 :=
  let size := (max size 1).toUInt64
  let full := p.count / size
  max (if p.count % size = 0 then full else full + 1) 1

end Page

/-- The page that is asked for (`PageParams`). -/
structure PageParams where
  page : UInt32
  size : UInt32
  deriving DecidableEq, Repr

namespace PageParams

/-- The first page of ten items. -/
def default : PageParams := ⟨1, 10⟩

/-- The page with a number and a size; zero stands for the default of each (`new` of
`PageParams`). -/
def ofNumbers (page size : UInt32) : PageParams where
  page := if page = 0 then default.page else page
  size := if size = 0 then default.size else size

/-- The page after this one (`next` of `PageParams`). There is none after the last number. -/
def next (p : PageParams) : PageParams :=
  { p with page := if p.page.toNat + 1 < UInt32.size then p.page + 1 else p.page }

/-- The query that asks for the page (`apply`). -/
def query (p : PageParams) : List (String × String) :=
  [("page", Text.Decimal.text p.page.toNat), ("page_size", Text.Decimal.text p.size.toNat)]

end PageParams

end AccessConsole
