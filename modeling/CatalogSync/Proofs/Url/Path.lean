/-
**Where the handlers of a core are found.**

* `Leads` — what stands behind the address of a core leads to some segments: letters after slashes,
  and then a query or nothing.
* `exists_margin` — the characters of such a text count behind an address, whatever the address is.
* `scheme_append` — what stands behind an address leaves its scheme as it is.
* `afterAuthority_append`, `tail_append`, `pathOf_append` — nor does it change what comes before it
  in the path, in any of the parts that an address is taken into.
* **`path_append`** — so the paths of all handlers start alike, if the address of the core is a web
  address without query and fragment: none of them leads to another one.
-/

import CatalogSync.Proofs.Text.Trim
import CatalogSync.Url.Address
import Mathlib.Data.List.TakeDrop
import Mathlib.Data.List.TakeWhile

namespace CatalogSync.Url

/-! ### Lists taken apart -/

section List

variable {α : Type} {test : α → Bool} {list before after : List α} {stop : α}

/-- A list that is cut at some element is cut there too if more follows. -/
theorem span_append (cut : list.span test = (before, stop :: after)) (more : List α) :
    (list ++ more).span test = (before, stop :: after ++ more) := by
  rw [List.span_eq_takeWhile_dropWhile] at cut ⊢
  obtain ⟨front, rest⟩ := Prod.mk.inj cut
  have shorter : (list.takeWhile test).length ≠ list.length := by
    intro same
    have whole := congrArg List.length (List.takeWhile_append_dropWhile (p := test) (l := list))
    rw [List.length_append, rest, List.length_cons] at whole
    omega
  rw [List.takeWhile_append, if_neg shorter, List.dropWhile_append, rest, front]
  rfl

/-- A list in which nothing stops is cut where the first element stops that follows. -/
theorem span_append_of_all (all : ∀ element ∈ list, test element = true)
    (stops : ∀ element ∈ after.head?, test element = false) :
    (list ++ after).span test = (list, after) := by
  rw [List.span_eq_takeWhile_dropWhile, List.takeWhile_append_of_pos all,
    List.dropWhile_append_of_pos all]
  cases after with
  | nil => rw [List.takeWhile_nil, List.dropWhile_nil, List.append_nil]
  | cons first rest =>
    have stopped : ¬ test first = true := by simp [stops first rfl]
    rw [List.takeWhile_cons_of_neg stopped, List.dropWhile_cons_of_neg stopped, List.append_nil]

end List

namespace Address

/-! ### What stands behind an address -/

/-- The characters of some segments, each after a slash. -/
def written (segments : List String) : List Char :=
  segments.flatMap fun segment => '/' :: segment.toList

/-- Whether a character is a small letter of ASCII. -/
def isSmallLetter (character : Char) : Bool := 0x61 ≤ character.toNat && character.toNat ≤ 0x7A

/-- A segment that is left as it is. -/
def IsPlain (segment : String) : Prop :=
  ∀ character ∈ segment.toList, isSmallLetter character = true

/-- What stands behind an address leads to some segments. -/
structure Leads (offset : String) (segments : List String) : Prop where
  filled : segments ≠ []
  plain : ∀ segment ∈ segments, IsPlain segment
  visible : ∀ character ∈ offset.toList, isMargin character = false
  path : written segments <+: offset.toList
  query : ∀ character ∈ (offset.toList.drop (written segments).length).head?, character = '?'

instance (offset : String) (segments : List String) : Decidable (Leads offset segments) :=
  decidable_of_iff (segments ≠ [] ∧
      segments.all (fun segment => segment.toList.all isSmallLetter) = true ∧
      offset.toList.all (fun character => !isMargin character) = true ∧
      written segments <+: offset.toList ∧
      (offset.toList.drop (written segments).length).head?.all (· == '?') = true) <| by
    simp only [List.all_eq_true, Option.all_eq_true, Bool.not_eq_true', beq_iff_eq]
    exact ⟨fun ⟨filled, plain, visible, path, query⟩ => ⟨filled, plain, visible, path, query⟩,
      fun ⟨filled, plain, visible, path, query⟩ => ⟨filled, plain, visible, path, query⟩⟩

/-- Letters separate nothing, are never written by their bytes, and no dots are made of them. -/
theorem letter_stays {letter : Char} (small : isSmallLetter letter = true) :
    isSlash true letter = false ∧ Percent.inPath letter = false ∧
      letter.toLower ∉ ['.', '%'] := by
  have each : ∀ code ≤ 0x7A, 0x61 ≤ code → isSlash true (Char.ofNat code) = false ∧
      Percent.inPath (Char.ofNat code) = false ∧
      (Char.ofNat code).toLower ∉ ['.', '%'] := by decide
  unfold isSmallLetter at small
  simp only [Bool.and_eq_true, decide_eq_true_eq] at small
  exact Char.ofNat_toNat letter ▸ each letter.toNat small.2 small.1

section Leads

variable {offset : String} {segments : List String} (leads : Leads offset segments)
include leads

theorem first_offset : ∃ rest, offset.toList = '/' :: rest := by
  obtain ⟨query, text⟩ := leads.path
  cases segments with
  | nil => exact absurd rfl leads.filled
  | cons segment others => exact ⟨_, text.symm⟩

theorem offset_ne_nil : offset.toList ≠ [] := by
  obtain ⟨rest, text⟩ := first_offset leads
  rw [text]
  exact List.cons_ne_nil _ _

theorem first_visible (character : Char) (first : offset.toList.head? = some character) :
    isMargin character = false :=
  leads.visible character (List.mem_of_head? first)

theorem last_visible (character : Char) (last : offset.toList.reverse.head? = some character) :
    isMargin character = false :=
  leads.visible character (List.mem_reverse.mp (List.mem_of_head? last))

/-- Nothing is trimmed from the text, and nothing before it. -/
theorem trimWhile_append_offset (characters : List Char) :
    Text.trimWhile isMargin (characters ++ offset.toList) =
      characters.dropWhile isMargin ++ offset.toList := by
  have front : (characters ++ offset.toList).dropWhile isMargin =
      characters.dropWhile isMargin ++ offset.toList := by
    rw [List.dropWhile_append]
    split
    · next nothing =>
      rw [List.isEmpty_iff.mp nothing, Text.dropWhile_of_first (first_visible leads),
        List.nil_append]
    · rfl
  have back : ((characters.dropWhile isMargin ++ offset.toList).reverse).head? =
      offset.toList.reverse.head? := by
    rw [List.reverse_append,
      List.head?_append_of_ne_nil _ (mt List.reverse_eq_nil_iff.mp (offset_ne_nil leads))]
  have visible := fun character last => last_visible leads character (back ▸ last)
  unfold Text.trimWhile
  rw [front, Text.dropWhile_of_first visible, List.reverse_reverse]

end Leads

/-- **The characters of such a text count behind an address**, and between them count those that
were trimmed from the address. -/
theorem exists_margin (base : String) :
    ∃ margin, (∀ character ∈ margin, isMargin character = true) ∧
      ∀ offset segments, Leads offset segments →
        significant (base ++ offset) = significant base ++ margin ++ offset.toList := by
  let kept : Char → Bool := fun character => character ∉ ['\t', '\n', '\r']
  let front := base.toList.dropWhile isMargin
  refine ⟨(front.rtakeWhile isMargin).filter kept, fun character member => ?_,
    fun offset segments leads => ?_⟩
  · exact List.mem_rtakeWhile_imp (List.mem_of_mem_filter member)
  · have whole : front = Text.trimWhile isMargin base.toList ++ front.rtakeWhile isMargin :=
      List.rdropWhile_append_rtakeWhile.symm
    have stays : offset.toList.filter kept = offset.toList := by
      refine List.filter_eq_self.mpr fun character member => ?_
      have visible := leads.visible character member
      refine decide_eq_true fun gap => ?_
      have each : ['\t', '\n', '\r'].all isMargin = true := by decide
      rw [List.all_eq_true.mp each character gap] at visible
      cases visible
    show (Text.trimWhile isMargin (base ++ offset).toList).filter kept = _
    rw [String.toList_append, trimWhile_append_offset leads, List.filter_append, stays]
    show front.filter kept ++ _ = _
    conv_lhs => rw [whole]
    rw [List.filter_append]
    rfl

/-! ### The scheme -/

/-- The scheme is read as it is, whatever follows. -/
theorem scheme?_append {characters rest : List Char} {scheme : String}
    (read : scheme? characters = some (scheme, rest)) (more : List Char) :
    scheme? (characters ++ more) = some (scheme, rest ++ more) := by
  unfold scheme? at read ⊢
  simp only at read ⊢
  generalize cut : characters.span _ = parts at read
  obtain ⟨front, after⟩ := parts
  split at read
  · next first letters behind isFront isAfter =>
    obtain rfl : front = first :: letters := isFront
    obtain rfl : after = ':' :: behind := isAfter
    rw [span_append cut]
    split at read
    · next letter =>
      cases read
      exact if_pos letter
    · cases read
  · cases read

/-- The address of a text that names a host has the scheme that was read before. -/
theorem scheme_of_withAuthority {scheme : String} {characters : List Char} {address : Address}
    (made : withAuthority scheme characters = .ok address) : address.scheme = scheme := by
  unfold withAuthority at made
  cases known : authority scheme characters with
  | error problem =>
    rw [known] at made
    cases made
  | ok place =>
    rw [known] at made
    cases made
    rfl

/-- So has every address. -/
theorem scheme_of_parse {text : String} {address : Address} (parsed : parse text = .ok address) :
    ∃ rest, scheme? (significant text) = some (address.scheme, rest) := by
  unfold parse at parsed
  split at parsed
  · cases parsed
  next scheme rest read =>
  refine ⟨rest, read.trans ?_⟩
  suffices same : address.scheme = scheme by rw [same]
  split at parsed
  · next isFile =>
    rw [isFile]
    unfold ofLocalFile at parsed
    simp only at parsed
    generalize localPlace _ = place at parsed
    rcases place with problem | ⟨host, segments⟩
    · cases parsed
    · cases parsed
      rfl
  split at parsed
  · exact scheme_of_withAuthority parsed
  split at parsed
  · exact scheme_of_withAuthority parsed
  · cases parsed
    rfl

/-- **What stands behind an address leaves its scheme as it is.** -/
theorem scheme_append {base offset : String} {segments : List String} {core handler : Address}
    (parsed : parse base = .ok core) (leads : Leads offset segments)
    (located : parse (base ++ offset) = .ok handler) : handler.scheme = core.scheme := by
  obtain ⟨rest, read⟩ := scheme_of_parse parsed
  obtain ⟨rest', read'⟩ := scheme_of_parse located
  obtain ⟨margin, -, counts⟩ := exists_margin base
  rw [counts offset segments leads, List.append_assoc, scheme?_append read] at read'
  exact (Prod.mk.inj (Option.some.inj read')).1.symm

theorem web_of_isHttp {address : Address} (isHttp : address.isHttp = true) :
    isWebScheme address.scheme = true ∧ address.scheme ≠ "file" := by
  unfold Address.isHttp at isHttp
  rcases (Bool.or_eq_true _ _).mp isHttp with http | https
  · rw [eq_of_beq http]
    decide
  · rw [eq_of_beq https]
    decide

/-- A web address names a host behind its slashes. -/
theorem parse_of_web {text scheme : String} {rest : List Char}
    (read : scheme? (significant text) = some (scheme, rest))
    (web : isWebScheme scheme = true) (noFile : scheme ≠ "file") :
    parse text = withAuthority scheme (rest.dropWhile (isSlash true)) := by
  unfold parse
  rw [read]
  simp only
  rw [if_neg noFile, if_pos web]

/-! ### The host -/

section Authority

variable {scheme : String} (web : isWebScheme scheme = true) {characters : List Char}
  {address : Address} (made : withAuthority scheme characters = .ok address)
include web made

/-- What follows the host of a web address is its path, with the query and the fragment. -/
theorem tail_of_withAuthority :
    address.path = pathOf true (tail (afterAuthority true characters)).1 ∧
      (address.query = none → (tail (afterAuthority true characters)).2.1 = none) ∧
      (address.fragment = none → (tail (afterAuthority true characters)).2.2 = none) := by
  unfold withAuthority at made
  rw [web] at made
  cases known : authority scheme characters with
  | error problem =>
    rw [known] at made
    cases made
  | ok place =>
    rw [known] at made
    cases made
    exact ⟨rfl, Option.map_eq_none_iff.mp, Option.map_eq_none_iff.mp⟩

/-- A web address has a host. -/
theorem ne_nil_of_withAuthority : characters ≠ [] := by
  rintro rfl
  unfold withAuthority authority at made
  rw [web] at made
  cases made

end Authority

/-- What follows the host stays as it is and goes on with what follows behind a slash. -/
theorem afterAuthority_append (characters rest : List Char) :
    afterAuthority true (characters ++ '/' :: rest) =
      afterAuthority true characters ++ '/' :: rest := by
  unfold afterAuthority
  generalize cut : characters.span _ = parts
  obtain ⟨front, after⟩ := parts
  cases after with
  | cons stop after =>
    rw [span_append cut]
    simp only [List.append_assoc]
  | nil =>
    obtain ⟨all, rfl⟩ : (∀ character ∈ characters, (!endsAuthority true character) = true) ∧
        characters = front := by
      rw [List.span_eq_takeWhile_dropWhile] at cut
      have nothing := (Prod.mk.inj cut).2
      refine ⟨List.dropWhile_eq_nil_iff.mp nothing, (Prod.mk.inj cut).1 ▸ ?_⟩
      exact (List.takeWhile_eq_self_iff.mpr (List.dropWhile_eq_nil_iff.mp nothing)).symm
    have stops : ∀ character ∈ ('/' :: rest).head?, (!endsAuthority true character) = false := by
      rintro character first
      cases first
      rfl
    rw [span_append_of_all all stops]
    simp only [List.append_nil]

/-- What follows the host starts with a part of what names the host, and then there is all that
comes after that. -/
theorem exists_port (characters : List Char) :
    ∃ authority port rest, characters = authority ++ rest ∧
      (∀ character ∈ authority, endsAuthority true character = false) ∧ port.Sublist authority ∧
      afterAuthority true characters = port ++ rest := by
  have place (authority : List Char) : (account? authority).2.Sublist authority := by
    unfold account?
    split
    · refine List.Sublist.trans (List.takeWhile_sublist _).reverse ?_
      rw [List.reverse_reverse]
    · exact List.Sublist.refl authority
  have colon (place : List Char) : ((hostAndPort place).2.getD []).Sublist place := by
    unfold hostAndPort
    simp only [List.span_eq_takeWhile_dropWhile]
    generalize parted : ite (place.head? = some '[') _ _ = parts
    have part : parts.2.Sublist place := by
      rw [← parted]
      split
      · exact (List.dropWhile_sublist _).trans (List.drop_sublist _ _)
      · exact List.dropWhile_sublist _
    obtain ⟨host, rest⟩ := parts
    cases rest with
    | nil => exact List.nil_sublist _
    | cons mark port => exact (List.sublist_cons_self mark port).trans part
  unfold afterAuthority splitPort
  simp only [List.span_eq_takeWhile_dropWhile]
  refine ⟨_, _, _, List.takeWhile_append_dropWhile.symm, fun character member => ?_, ?_, rfl⟩
  · have passed := List.mem_takeWhile_imp member
    exact (Bool.not_eq_true' _).mp passed
  · exact (List.dropWhile_sublist _).trans ((colon _).trans (place _))

/-- What follows the host is part of the whole. -/
theorem afterAuthority_sublist (characters : List Char) :
    (afterAuthority true characters).Sublist characters := by
  obtain ⟨authority, port, rest, whole, -, part, after⟩ := exists_port characters
  rw [after]
  conv_rhs => rw [whole]
  exact part.append (List.Sublist.refl rest)

/-- Neither a query nor a fragment starts among some characters. -/
structure Unmarked (characters : List Char) : Prop where
  query : '?' ∉ characters
  fragment : '#' ∉ characters

/-- Marks that do not follow the host are nowhere. -/
theorem unmarked_of_afterAuthority {characters : List Char}
    (unmarked : Unmarked (afterAuthority true characters)) : Unmarked characters := by
  obtain ⟨authority, port, rest, rfl, named, -, after⟩ := exists_port characters
  rw [after] at unmarked
  have each {mark : Char} (ends : endsAuthority true mark = true) (absent : mark ∉ port ++ rest) :
      mark ∉ authority ++ rest := by
    intro member
    rcases List.mem_append.mp member with before | behind
    · rw [named mark before] at ends
      cases ends
    · exact absent (List.mem_append_right port behind)
  exact ⟨each (by decide) unmarked.query, each (by decide) unmarked.fragment⟩

/-! ### The path -/

/-- A text without marks is a path as a whole. -/
theorem unmarked_of_tail {characters : List Char} (query : (tail characters).2.1 = none)
    (fragment : (tail characters).2.2 = none) : Unmarked characters := by
  unfold tail at query fragment
  simp only [List.span_eq_takeWhile_dropWhile] at query fragment
  have nothing {part : List Char}
      (absent : (if part.isEmpty = true then none else some part.tail) = none) : part = [] := by
    split at absent
    · next empty => exact List.isEmpty_iff.mp empty
    · cases absent
  have noHash := List.dropWhile_eq_nil_iff.mp (nothing fragment)
  have noMark := List.dropWhile_eq_nil_iff.mp (nothing query)
  rw [List.takeWhile_eq_self_iff.mpr noHash] at noMark
  exact ⟨fun mark => absurd (noMark _ mark) (by decide),
    fun hash => absurd (noHash _ hash) (by decide)⟩

/-- The path ends where the query starts. -/
theorem tail_append {front query : List Char} (unmarked : Unmarked front)
    (starts : ∀ character ∈ query.head?, character = '?') : (tail (front ++ query)).1 = front := by
  have kept (mark : Char) (apart : mark ∉ front) :
      ∀ character ∈ front, (character != mark) = true := by
    intro character member
    refine bne_iff_ne.mpr ?_
    rintro rfl
    exact apart member
  unfold tail
  simp only [List.span_eq_takeWhile_dropWhile]
  rw [List.takeWhile_append_of_pos (kept '#' unmarked.fragment),
    List.takeWhile_append_of_pos (kept '?' unmarked.query)]
  cases query with
  | nil => rw [List.takeWhile_nil, List.takeWhile_nil, List.append_nil]
  | cons character rest =>
    obtain rfl := starts character rfl
    rw [List.takeWhile_cons_of_pos (by decide), List.takeWhile_cons_of_neg (by decide),
      List.append_nil]

/-- Plain segments are written by slashes and letters. -/
theorem mem_written {segments : List String} (plain : ∀ segment ∈ segments, IsPlain segment) :
    ∀ character ∈ written segments, character = '/' ∨ isSmallLetter character = true := by
  intro character member
  obtain ⟨segment, among, inside⟩ := List.mem_flatMap.mp member
  rcases List.mem_cons.mp inside with slash | inside
  · exact .inl slash
  · exact .inr (plain segment among character inside)

/-- The segments are divided from each other and from what stands before them. -/
theorem splitAt_written {segments : List String} (plain : ∀ segment ∈ segments, IsPlain segment)
    (before : List Char) :
    splitAt '/' (before ++ written segments) =
      splitAt '/' before ++ segments.map String.toList := by
  unfold splitAt
  induction segments generalizing before with
  | nil => rw [written, List.flatMap_nil, List.append_nil, List.map_nil, List.append_nil]
  | cons segment rest ih =>
    have whole : '/' ∉ segment.toList := fun slash =>
      absurd (plain segment List.mem_cons_self '/' slash) (by decide)
    have others := ih (fun other member => plain other (List.mem_cons_of_mem _ member))
      segment.toList
    show (before ++ '/' :: (segment.toList ++ written rest)).splitOn '/' = _
    rw [List.splitOn_append_cons_self, others, List.splitOn_eq_singleton whole, List.map_cons,
      List.singleton_append]

theorem encode_of_plain {segment : String} (plain : IsPlain segment) :
    Percent.encode Percent.inPath segment.toList = segment.toList := by
  have each : ∀ character ∈ segment.toList,
      (if Percent.inPath character then Percent.characterText character else [character]) =
        [character] := by
    intro character member
    rw [if_neg (by simp [(letter_stays (plain character member)).2.1])]
  unfold Percent.encode
  rw [List.flatMap_congr each, List.flatMap_singleton']

/-- They mean no other level. -/
theorem isDot_of_plain {segment : String} (plain : IsPlain segment) :
    isSingleDot segment.toList = false ∧ isDoubleDot segment.toList = false := by
  have apart {form : List Char} (dotted : '.' ∈ form ∨ '%' ∈ form) :
      segment.toList.map Char.toLower ≠ form := by
    have marks : ∀ character ∈ segment.toList.map Char.toLower, character ∉ ['.', '%'] := by
      intro character member
      obtain ⟨letter, among, rfl⟩ := List.mem_map.mp member
      exact (letter_stays (plain letter among)).2.2
    rintro rfl
    rcases dotted with dot | percent
    · exact marks _ dot (by decide)
    · exact marks _ percent (by decide)
  constructor
  · unfold isSingleDot
    simp only [Bool.or_eq_false_iff, beq_eq_false_iff_ne]
    exact ⟨apart (by decide), apart (by decide)⟩
  · unfold isDoubleDot
    simp only [decide_eq_false_iff_not]
    have each : ∀ form ∈ [['.'] ++ ['.'], ['.'] ++ ['%', '2', 'e'], ['%', '2', 'e'] ++ ['.'],
        ['%', '2', 'e'] ++ ['%', '2', 'e']], '.' ∈ form ∨ '%' ∈ form := by decide
    exact fun member => apart (each _ member) rfl

/-- Plain segments are left as they are. -/
theorem resolve_plain {segments : List String} (plain : ∀ segment ∈ segments, IsPlain segment)
    (before : List String) :
    resolve before (segments.map String.toList) = before.reverse ++ segments := by
  induction segments generalizing before with
  | nil => rw [List.map_nil, resolve, List.append_nil]
  | cons segment rest ih =>
    have letters := plain segment List.mem_cons_self
    have encoded : String.ofList (Percent.encode Percent.inPath segment.toList) = segment := by
      rw [encode_of_plain letters, String.ofList_toList]
    obtain ⟨single, double⟩ := isDot_of_plain letters
    rw [List.map_cons, resolve]
    simp only [encoded, single, double]
    rw [if_neg nofun, if_neg nofun,
      ih (fun other member => plain other (List.mem_cons_of_mem _ member)), List.reverse_cons,
      List.append_assoc, List.singleton_append]

/-- Segments that follow leave those before them as they are. -/
theorem resolve_append (before : List String) (front : List (List Char)) :
    ∃ root, ∀ segments : List String, segments ≠ [] →
      (∀ segment ∈ segments, IsPlain segment) →
        resolve before (front ++ segments.map String.toList) = root ++ segments := by
  induction front generalizing before with
  | nil => exact ⟨before.reverse, fun segments _ plain => resolve_plain plain before⟩
  | cons segment rest ih =>
    have further {segments : List String} (filled : segments ≠ []) :
        (rest ++ segments.map String.toList).isEmpty = false := by
      simp [filled]
    let encoded := String.ofList (Percent.encode Percent.inPath segment)
    by_cases above : isDoubleDot encoded.toList = true
    · obtain ⟨root, resolved⟩ := ih (levelAbove before)
      refine ⟨root, fun segments filled plain => ?_⟩
      rw [List.cons_append, resolve, if_pos above, further filled]
      exact resolved segments filled plain
    by_cases here : isSingleDot encoded.toList = true
    · obtain ⟨root, resolved⟩ := ih before
      refine ⟨root, fun segments filled plain => ?_⟩
      rw [List.cons_append, resolve, if_neg above, if_pos here, further filled]
      exact resolved segments filled plain
    · obtain ⟨root, resolved⟩ := ih (encoded :: before)
      refine ⟨root, fun segments filled plain => ?_⟩
      rw [List.cons_append, resolve, if_neg above, if_neg here]
      exact resolved segments filled plain

/-- The slash that a character is taken for in the path of a web address, if it is. -/
def slashed (character : Char) : Char := if isSlash true character then '/' else character

/-- The first slash of a path divides nothing. -/
theorem pathOf_of_slash {characters rest : List Char}
    (starts : characters.map slashed = '/' :: rest) :
    pathOf true characters = .segments (resolve [] (splitAt '/' rest)) := by
  unfold slashed at starts
  unfold pathOf
  simp only [starts]

theorem pathOf_of_other {characters rest : List Char} {first : Char}
    (starts : characters.map slashed = first :: rest) (other : first ≠ '/') :
    pathOf true characters = .segments (resolve [] (splitAt '/' (first :: rest))) := by
  unfold slashed at starts
  unfold pathOf
  simp only [starts]
  split
  · next none => cases none
  · next same => exact absurd (List.cons.inj same).1 other
  · rfl

/-- Slashes and letters are taken for what they are. -/
theorem map_slashed_append {segments : List String}
    (plain : ∀ segment ∈ segments, IsPlain segment) (front : List Char) :
    (front ++ written segments).map slashed = front.map slashed ++ written segments := by
  have each : ∀ character ∈ written segments, slashed character = id character := by
    intro character member
    rcases mem_written plain character member with rfl | letter
    · rfl
    · exact if_neg (by simp [(letter_stays letter).1])
  rw [List.map_append, List.map_congr_left each, List.map_id]

/-- The segments come last when a path is divided. -/
theorem exists_divided (front : List Char) :
    ∃ before : List (List Char), ∀ segments : List String, segments ≠ [] →
      (∀ segment ∈ segments, IsPlain segment) →
        pathOf true (front ++ written segments) =
          .segments (resolve [] (before ++ segments.map String.toList)) := by
  cases begun : front.map slashed with
  | nil =>
    refine ⟨[], fun segments filled plain => ?_⟩
    cases segments with
    | nil => exact absurd rfl filled
    | cons segment rest =>
      have starts : (front ++ written (segment :: rest)).map slashed =
          '/' :: (segment.toList ++ written rest) := by
        rw [map_slashed_append plain, begun]
        rfl
      have both : splitAt '/' [] ++ splitAt '/' (segment.toList ++ written rest) =
          splitAt '/' [] ++ (segment :: rest).map String.toList :=
        (List.splitOn_append_cons_self [] _).symm.trans (splitAt_written plain [])
      rw [pathOf_of_slash starts, List.append_cancel_left both, List.nil_append]
  | cons first others =>
    have starts {segments : List String} (plain : ∀ segment ∈ segments, IsPlain segment) :
        (front ++ written segments).map slashed = first :: (others ++ written segments) := by
      rw [map_slashed_append plain, begun, List.cons_append]
    by_cases slash : first = '/'
    · refine ⟨splitAt '/' others, fun segments _ plain => ?_⟩
      rw [pathOf_of_slash (slash ▸ starts plain), splitAt_written plain]
    · refine ⟨splitAt '/' (first :: others), fun segments _ plain => ?_⟩
      rw [pathOf_of_other (starts plain) slash, ← List.cons_append, splitAt_written plain]

/-- The segments are the last ones of the path. -/
theorem pathOf_append (front : List Char) :
    ∃ root, ∀ segments : List String, segments ≠ [] →
      (∀ segment ∈ segments, IsPlain segment) →
        pathOf true (front ++ written segments) = .segments (root ++ segments) := by
  obtain ⟨before, path⟩ := exists_divided front
  obtain ⟨root, resolved⟩ := resolve_append [] before
  exact ⟨root, fun segments filled plain =>
    (path segments filled plain).trans (congrArg Path.segments (resolved segments filled plain))⟩

/-- What stands behind a web address stands behind its host, and behind what was trimmed. -/
theorem exists_place {base : String} {core : Address} (parsed : parse base = .ok core)
    (web : isWebScheme core.scheme = true) (noFile : core.scheme ≠ "file") :
    ∃ place margin, withAuthority core.scheme place = .ok core ∧
      (∀ character ∈ margin, isMargin character = true) ∧
      ∀ offset segments, Leads offset segments → parse (base ++ offset) =
        withAuthority core.scheme (place ++ margin ++ offset.toList) := by
  obtain ⟨rest, read⟩ := scheme_of_parse parsed
  obtain ⟨margin, blank, counts⟩ := exists_margin base
  rw [parse_of_web read web noFile] at parsed
  refine ⟨rest.dropWhile (isSlash true), margin, parsed, blank, fun offset segments leads => ?_⟩
  have further : scheme? (significant (base ++ offset)) =
      some (core.scheme, rest ++ (margin ++ offset.toList)) := by
    rw [counts offset segments leads, List.append_assoc, scheme?_append read]
  rw [parse_of_web further web noFile, List.append_assoc, List.dropWhile_append, if_neg]
  exact fun empty => ne_nil_of_withAuthority web parsed (List.isEmpty_iff.mp empty)

/-- Nothing behind the host of an address without query and fragment is a mark. -/
theorem unmarked_afterAuthority {scheme : String} (web : isWebScheme scheme = true)
    {place margin : List Char} {core : Address} (made : withAuthority scheme place = .ok core)
    (noQuery : core.query = none) (noFragment : core.fragment = none)
    (blank : ∀ character ∈ margin, isMargin character = true) :
    Unmarked (afterAuthority true (place ++ margin)) := by
  obtain ⟨-, query, fragment⟩ := tail_of_withAuthority web made
  have unmarked := unmarked_of_afterAuthority
    (unmarked_of_tail (query noQuery) (fragment noFragment))
  have apart {mark : Char} (visible : isMargin mark = false) (absent : mark ∉ place) :
      mark ∉ afterAuthority true (place ++ margin) := by
    intro member
    rcases List.mem_append.mp ((afterAuthority_sublist _).mem member) with inside | inside
    · exact absent inside
    · rw [blank mark inside] at visible
      cases visible
  exact ⟨apart (by decide) unmarked.query, apart (by decide) unmarked.fragment⟩

/-- **The paths of all handlers start alike**, if the address of the core is a web address without
query and fragment. -/
theorem path_append {base : String} {core : Address} (parsed : parse base = .ok core)
    (isHttp : core.isHttp = true) (noQuery : core.query = none)
    (noFragment : core.fragment = none) :
    ∃ root, ∀ offset segments handler, Leads offset segments →
      parse (base ++ offset) = .ok handler → handler.path = .segments (root ++ segments) := by
  obtain ⟨web, noFile⟩ := web_of_isHttp isHttp
  obtain ⟨place, margin, made, blank, located⟩ := exists_place parsed web noFile
  have unmarked := unmarked_afterAuthority web made noQuery noFragment blank
  obtain ⟨root, path⟩ := pathOf_append (afterAuthority true (place ++ margin))
  refine ⟨root, fun offset segments handler leads found => ?_⟩
  rw [located offset segments leads] at found
  obtain ⟨behind, slash⟩ := first_offset leads
  have after : afterAuthority true (place ++ margin ++ offset.toList) =
      afterAuthority true (place ++ margin) ++ offset.toList := by
    rw [slash]
    exact afterAuthority_append _ _
  have apart {mark : Char} (divides : mark ≠ '/') (symbol : isSmallLetter mark = false)
      (absent : mark ∉ afterAuthority true (place ++ margin)) :
      mark ∉ afterAuthority true (place ++ margin) ++ written segments := by
    intro member
    rcases List.mem_append.mp member with before | inside
    · exact absent before
    rcases mem_written leads.plain mark inside with slash | letter
    · exact divides slash
    · rw [letter] at symbol
      cases symbol
  have ends : Unmarked (afterAuthority true (place ++ margin) ++ written segments) :=
    ⟨apart (by decide) (by decide) unmarked.query, apart (by decide) (by decide) unmarked.fragment⟩
  have whole := List.prefix_iff_eq_append.mp leads.path
  rw [(tail_of_withAuthority web found).1, after, ← whole, ← List.append_assoc,
    tail_append ends leads.query]
  exact path segments leads.filled leads.plain

end Address

end CatalogSync.Url
