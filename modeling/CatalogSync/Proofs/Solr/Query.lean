/-
**Queries are read back as they were meant.**

* `readPhrase` — the reader of a phrase. Behind the opening quote a backslash makes the next
  character literal, and the first quote that is not literal ends the phrase.
* **`readPhrase_quote`** — whatever follows a quoted text, the reader finds that text and stops
  right behind it. `quoted_eq_escaped` says that quoting puts a backslash before every backslash
  and, after that, before every quote.
* `Spelling` — a way of writing values that is read back whatever follows. `Spelling.separated`
  writes one or more values with a separator between them.
* `Term`, `Clause`, `Query` — a field and the phrase it has to be equal to; terms of which one has
  to hold; clauses all of which have to hold. `Query.admits` tests a document by its fields.
* **`Query.read?_text`** — every query is read back from its text with nothing left over, so two
  queries with one text are the same.
-/

import CatalogSync.Record
import CatalogSync.Solr.Filter
import Mathlib.Data.List.Infix

namespace CatalogSync.Solr

/-! ### Phrases -/

/-- What a phrase says and what follows it, from behind its opening quote on. -/
def readQuoted : List Char → Option (List Char × List Char)
  | [] => none
  | '"' :: rest => some ([], rest)
  | ['\\'] => none
  | '\\' :: literal :: rest => (readQuoted rest).map fun (text, after) => (literal :: text, after)
  | character :: rest => (readQuoted rest).map fun (text, after) => (character :: text, after)

/-- What a phrase says and what follows it. -/
def readPhrase : List Char → Option (String × List Char)
  | '"' :: rest => (readQuoted rest).map fun (text, after) => (String.ofList text, after)
  | _ => none

/-- The text with a backslash before each occurrence of a mark. -/
def escaped (mark : Char) (text : List Char) : List Char :=
  text.flatMap fun character => if character = mark then ['\\', character] else [character]

/-- Quoting puts a backslash before every backslash and then before every quote. -/
theorem quoted_eq_escaped (text : List Char) :
    text.flatMap quoteCharacter = escaped '"' (escaped '\\' text) := by
  unfold escaped
  rw [List.flatMap_assoc]
  refine congrArg text.flatMap (funext fun character => ?_)
  unfold quoteCharacter
  by_cases backslash : character = '\\'
  · subst backslash
    decide
  · by_cases quote : character = '"'
    · subst quote
      decide
    · simp [backslash, quote]

/-- A quoted text is read up to the quote that ends it. -/
theorem readQuoted_quoted (text rest : List Char) :
    readQuoted (text.flatMap quoteCharacter ++ '"' :: rest) = some (text, rest) := by
  induction text with
  | nil => rfl
  | cons character text ih =>
    rw [List.flatMap_cons, List.append_assoc, quoteCharacter]
    by_cases literal : character = '\\' ∨ character = '"'
    · -- the character stands behind a backslash, so the reader takes it as it is
      rw [if_pos literal, List.cons_append, List.singleton_append, readQuoted, ih]
      rfl
    · obtain ⟨backslash, quote⟩ := not_or.mp literal
      rw [if_neg literal, List.singleton_append, readQuoted, ih]
      · rfl
      · exact quote
      · exact fun same => absurd same backslash
      · exact fun _ _ same => absurd same backslash

/-- **Whatever follows a quoted text, the reader finds that text and stops right behind it.** -/
theorem readPhrase_quote (text : String) (rest : List Char) :
    readPhrase ((quote text).toList ++ rest) = some (text, rest) := by
  have written : (quote text).toList ++ rest =
      '"' :: (text.toList.flatMap quoteCharacter ++ '"' :: rest) := by
    unfold quote
    rw [String.toList_ofList]
    simp
  rw [written, readPhrase, readQuoted_quoted]
  exact congrArg (fun read => some (read, rest)) String.ofList_toList

theorem length_readQuoted {characters text rest : List Char}
    (read : readQuoted characters = some (text, rest)) : rest.length < characters.length := by
  fun_induction readQuoted characters generalizing text with
  | case1 => cases read
  | case2 rest =>
    cases read
    exact Nat.lt_succ_self _
  | case3 => cases read
  | case4 literal rest ih =>
    obtain ⟨⟨text, after⟩, found, same⟩ := Option.map_eq_some_iff.mp read
    cases same
    exact Nat.lt_succ_of_lt (Nat.lt_succ_of_lt (ih found))
  | case5 character rest _ _ _ ih =>
    obtain ⟨⟨text, after⟩, found, same⟩ := Option.map_eq_some_iff.mp read
    cases same
    exact Nat.lt_succ_of_lt (ih found)

theorem length_readPhrase {characters rest : List Char} {text : String}
    (read : readPhrase characters = some (text, rest)) : rest.length < characters.length := by
  unfold readPhrase at read
  split at read
  · obtain ⟨⟨text, after⟩, found, same⟩ := Option.map_eq_some_iff.mp read
    cases same
    exact Nat.lt_succ_of_lt (length_readQuoted found)
  · cases read

/-! ### Spellings -/

/-- A way of writing values that is read back whatever follows. -/
structure Spelling (α : Type) where
  write : α → List Char
  read : List Char → Option (α × List Char)
  read_write : ∀ value rest, read (write value ++ rest) = some (value, rest)
  /-- What is read is there. -/
  advances : ∀ {characters value rest}, read characters = some (value, rest) →
    rest.length < characters.length

/-- One or more values. -/
structure Series (α : Type) where
  first : α
  others : List α
  deriving DecidableEq

namespace Series

variable {α : Type}

/-- One value. -/
def only (value : α) : Series α := ⟨value, []⟩

/-- The values in their order. -/
def members (series : Series α) : List α := series.first :: series.others

end Series

namespace Spelling

variable {α : Type} (spelling : Spelling α) (separator : List Char)

/-- One or more values with a separator between them. -/
def separated (series : Series α) : List Char :=
  spelling.write series.first ++
    series.others.flatMap fun value => separator ++ spelling.write value

/-- The values that a text begins with, as long as a separator follows them. -/
def readSeparated (characters : List Char) : Option (Series α × List Char) :=
  match _ : spelling.read characters with
  | none => none
  | some (value, rest) =>
    match _ : separator.isPrefixOf? rest with
    | none => some (.only value, rest)
    | some next =>
      (readSeparated next).map fun (series, after) => (⟨value, series.members⟩, after)
  termination_by characters.length
  decreasing_by
    have consumed := spelling.advances ‹spelling.read characters = some (value, rest)›
    have split := List.isPrefixOf?_eq_some_iff_append_eq.mp ‹separator.isPrefixOf? rest = some next›
    rw [← split, List.length_append] at consumed
    omega

section Steps

variable {spelling separator} {characters rest next : List Char} {value : α}
  (found : spelling.read characters = some (value, rest))
include found

theorem readSeparated_of_end (ends : separator.isPrefixOf? rest = none) :
    spelling.readSeparated separator characters = some (.only value, rest) := by
  rw [readSeparated, found]
  simp only
  split
  · rfl
  · next further =>
    rw [ends] at further
    cases further

theorem readSeparated_of_further (further : separator.isPrefixOf? rest = some next) :
    spelling.readSeparated separator characters =
      (spelling.readSeparated separator next).map fun (series, after) =>
        (⟨value, series.members⟩, after) := by
  rw [readSeparated, found]
  simp only
  split
  · next ends =>
    rw [ends] at further
    cases further
  · next same =>
    rw [further] at same
    cases same
    rfl

end Steps

/-- **Values with separators between them are read back, if no separator follows the last.** -/
theorem readSeparated_separated (series : Series α) {rest : List Char}
    (ends : separator.isPrefixOf? rest = none) :
    spelling.readSeparated separator (spelling.separated separator series ++ rest) =
      some (series, rest) := by
  obtain ⟨first, others⟩ := series
  induction others generalizing first with
  | nil =>
    unfold separated
    rw [List.flatMap_nil, List.append_nil]
    exact readSeparated_of_end (spelling.read_write first rest) ends
  | cons next others ih =>
    have further : separator.isPrefixOf?
        (separator ++ (spelling.separated separator ⟨next, others⟩ ++ rest)) =
          some (spelling.separated separator ⟨next, others⟩ ++ rest) :=
      List.isPrefixOf?_eq_some_iff_append_eq.mpr rfl
    have split : spelling.separated separator ⟨first, next :: others⟩ ++ rest =
        spelling.write first ++
          (separator ++ (spelling.separated separator ⟨next, others⟩ ++ rest)) := by
      unfold separated
      simp only [List.flatMap_cons, List.append_assoc]
    rw [split, readSeparated_of_further (spelling.read_write first _) further, ih]
    rfl

theorem length_readSeparated {characters rest : List Char} {series : Series α}
    (read : spelling.readSeparated separator characters = some (series, rest)) :
    rest.length < characters.length := by
  fun_induction readSeparated spelling separator characters generalizing series with
  | case1 => cases read
  | case2 characters value rest found further =>
    cases read
    exact spelling.advances found
  | case3 characters value rest found next further ih =>
    obtain ⟨⟨others, after⟩, continued, same⟩ := Option.map_eq_some_iff.mp read
    cases same
    have consumed := spelling.advances found
    have shorter := ih continued
    rw [← List.isPrefixOf?_eq_some_iff_append_eq.mp further, List.length_append] at consumed
    omega

end Spelling

/-- Phrases. -/
def phrases : Spelling String where
  write text := (quote text).toList
  read := readPhrase
  read_write := readPhrase_quote
  advances := length_readPhrase

/-! ### Terms -/

/-- Whether a character may stand in the name of a field. -/
def isFieldCharacter (character : Char) : Bool :=
  character.isAlphanum || character == '_'

/-- A field and the phrase it has to be equal to. -/
structure Term where
  field : String
  phrase : String
  isName : field.toList.all isFieldCharacter = true
  deriving DecidableEq

namespace Term

/-- The term as it is written. -/
def write (term : Term) : List Char := term.field.toList ++ ':' :: phrases.write term.phrase

/-- The term that a text begins with. -/
def read (characters : List Char) : Option (Term × List Char) :=
  match characters.dropWhile isFieldCharacter with
  | ':' :: rest =>
    (phrases.read rest).map fun (phrase, after) =>
      (⟨String.ofList (characters.takeWhile isFieldCharacter), phrase,
        by rw [String.toList_ofList]; exact List.all_takeWhile⟩, after)
  | _ => none

theorem read_write (term : Term) (rest : List Char) :
    read (term.write ++ rest) = some (term, rest) := by
  obtain ⟨field, phrase, isName⟩ := term
  have named : ∀ character ∈ field.toList, isFieldCharacter character = true :=
    List.all_eq_true.mp isName
  have split : write ⟨field, phrase, isName⟩ ++ rest =
      field.toList ++ ':' :: (phrases.write phrase ++ rest) := by
    unfold write
    rw [List.append_assoc, List.cons_append]
  have front : (field.toList ++ ':' :: (phrases.write phrase ++ rest)).takeWhile isFieldCharacter =
      field.toList := by
    rw [List.takeWhile_append_of_pos named, List.takeWhile_cons_of_neg (by decide),
      List.append_nil]
  have back : (field.toList ++ ':' :: (phrases.write phrase ++ rest)).dropWhile isFieldCharacter =
      ':' :: (phrases.write phrase ++ rest) := by
    rw [List.dropWhile_append_of_pos named, List.dropWhile_cons_of_neg (by decide)]
  rw [split]
  unfold read
  simp only [back, phrases.read_write, front, String.ofList_toList, Option.map_some]

theorem length_read {characters rest : List Char} {term : Term}
    (read : read characters = some (term, rest)) : rest.length < characters.length := by
  unfold Term.read at read
  split at read
  · next colon =>
    obtain ⟨⟨phrase, after⟩, found, same⟩ := Option.map_eq_some_iff.mp read
    cases same
    have consumed := phrases.advances found
    have dropped := (List.dropWhile_suffix isFieldCharacter (l := characters)).length_le
    rw [colon, List.length_cons] at dropped
    omega
  · cases read

/-- A term does not begin with a bracket. -/
theorem head?_write (term : Term) (rest : List Char) : (term.write ++ rest).head? ≠ some '(' := by
  unfold write
  cases named : term.field.toList with
  | nil => simp
  | cons head tail =>
    have isName := term.isName
    rw [named, List.all_cons, Bool.and_eq_true] at isName
    simp only [List.cons_append, List.head?_cons, ne_eq, Option.some.injEq]
    rintro rfl
    exact absurd isName.1 (by decide)

end Term

/-- Terms. -/
def terms : Spelling Term where
  write := Term.write
  read := Term.read
  read_write := Term.read_write
  advances := Term.length_read

/-! ### Clauses -/

/-- Terms of which one has to hold. -/
abbrev Clause : Type := Series Term

namespace Clause

/-- What stands between two terms of a clause. -/
def or : List Char := [' ', 'O', 'R', ' ']

/-- The clause as it is written, with brackets around more than one term. -/
def write (clause : Clause) : List Char :=
  if clause.others.isEmpty then '+' :: terms.write clause.first
  else '+' :: '(' :: (terms.separated or clause ++ [')'])

/-- The clause that a text begins with. -/
def read : List Char → Option (Clause × List Char)
  | '+' :: '(' :: rest =>
    match terms.readSeparated or rest with
    | some (clause, ')' :: after) => some (clause, after)
    | _ => none
  | '+' :: rest => (terms.read rest).map fun (term, after) => (.only term, after)
  | _ => none

theorem read_write (clause : Clause) (rest : List Char) :
    read (clause.write ++ rest) = some (clause, rest) := by
  obtain ⟨first, others⟩ := clause
  cases others with
  | nil =>
    have plain : ∀ tail, terms.write first ++ rest ≠ '(' :: tail := fun tail same =>
      first.head?_write rest (congrArg List.head? same)
    show read ('+' :: (terms.write first ++ rest)) = _
    rw [read, terms.read_write]
    · rfl
    · exact plain
  | cons second others =>
    have brackets : write ⟨first, second :: others⟩ ++ rest =
        '+' :: '(' :: (terms.separated or ⟨first, second :: others⟩ ++ ')' :: rest) := by
      unfold write
      simp
    rw [brackets, read, terms.readSeparated_separated or _ rfl]
    rfl

theorem length_read {characters rest : List Char} {clause : Clause}
    (read : read characters = some (clause, rest)) : rest.length < characters.length := by
  unfold Clause.read at read
  split at read
  · split at read
    · next found =>
      cases read
      have consumed := terms.length_readSeparated or found
      simp only [List.length_cons] at consumed ⊢
      omega
    · cases read
  · obtain ⟨⟨term, after⟩, found, same⟩ := Option.map_eq_some_iff.mp read
    cases same
    exact Nat.lt_succ_of_lt (terms.advances found)
  · cases read

end Clause

/-- Clauses. -/
def clauses : Spelling Clause where
  write := Clause.write
  read := Clause.read
  read_write := Clause.read_write
  advances := Clause.length_read

/-! ### Queries -/

/-- Clauses all of which have to hold. -/
abbrev Query : Type := Series Clause

namespace Query

/-- The text of a query. -/
def text (query : Query) : String := String.ofList (clauses.separated [' '] query)

/-- The query that a text is. -/
def read? (text : String) : Option Query :=
  match clauses.readSeparated [' '] text.toList with
  | some (query, []) => some query
  | _ => none

/-- **A query is read back from its text with nothing left over.** -/
theorem read?_text (query : Query) : read? query.text = some query := by
  have whole : clauses.readSeparated [' '] (clauses.separated [' '] query ++ []) =
      some (query, []) :=
    clauses.readSeparated_separated [' '] query rfl
  rw [List.append_nil] at whole
  unfold read? text
  rw [String.toList_ofList, whole]

/-- Two queries with the same text are the same. -/
theorem text_injective : Function.Injective text := by
  intro first second same
  have read := read?_text first
  rw [same, read?_text] at read
  exact (Option.some.inj read).symm

/-- Whether a document passes: of each clause, a term has a field of the document that is a text and
equal to the phrase. -/
def admits (query : Query) (document : Record) : Bool :=
  query.members.all fun clause => clause.members.any fun term =>
    (document.get? term.field).bind Value.text? == some term.phrase

end Query

end CatalogSync.Solr
