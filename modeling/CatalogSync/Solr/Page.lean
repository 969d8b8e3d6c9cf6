/-
**Pages of search results.**

* `Solr.Page` — some documents, and the number of all that match.
* `Solr.Page.ofValue?` — the page that a reply carries. It is read strictly: a field that is known
  may be there only once and has to be of its kind; other fields are passed over. In place of an
  object a list of its fields in order is accepted.
-/

import CatalogSync.Record
import CatalogSync.Text.Digits

namespace CatalogSync.Solr

/-- A page of search results. -/
structure Page where
  /-- The number of all documents that match. -/
  numFound : Nat
  docs : List Record
  numFound_lt : numFound < Text.wordLimit

namespace Page

/-- The ids of the documents that have one. -/
def ids (page : Page) : List String := page.docs.filterMap Record.id?

/-- The value of a field that is there once, none if it is missing, and nothing if it is repeated.
-/
def single? (fields : List (String × Value)) (name : String) : Option (Option Value) :=
  match fields.filter fun field => field.1 == name with
  | [] => some none
  | [(_, value)] => some (some value)
  | _ => none

/-- The page of a number and documents. -/
def ofParts? (numFound docs : Value) : Option Page :=
  match numFound, docs with
  | .number number, .list items =>
    if bounded : 0 ≤ number ∧ number.toNat < Text.wordLimit then
      (items.mapM fun item => Record.ofValue? item.canonical).map fun docs =>
        ⟨number.toNat, docs, bounded.2⟩
    else
      none
  | _, _ => none

/-- The page of the inner part of a reply. -/
def ofBody? : Value → Option Page
  | .object fields => do
    let numFound ← (← single? fields "numFound")
    let docs ← single? fields "docs"
    ofParts? numFound (docs.getD (.list []))
  | .list [numFound] => ofParts? numFound (.list [])
  | .list [numFound, docs] => ofParts? numFound docs
  | _ => none

/-- The page that a reply carries. -/
def ofValue? : Value → Option Page
  | .object fields => do
    ofBody? (← (← single? fields "response"))
  | .list [body] => ofBody? body
  | _ => none

end Page

end CatalogSync.Solr
