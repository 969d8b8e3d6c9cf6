/-
**What the variables give.**

* `Given`, `Absent` — a variable has a value that is not blank; it is unset, or blank.
* `WritesWord`, `Means` — a value writes a number that fits into 64 bits, or it is one of some
  words, between blanks.
* `NumberOf`, `TextOf` — what a variable gives: its number or its text, or else a default.
* `Warned` — the warnings about a variable: one if it has a value that is not understood, and none
  otherwise. By `NumberOf.unique` and `Warned.unique` its value leaves no choice.
* `Loaded` — what the settings are that variables give, and what is warned of.
* **`load_loaded`** — these are the settings that are loaded, and whether a variable is unset or
  blank makes no difference.
-/

import CatalogSync.Proofs.Text.Digits
import CatalogSync.Proofs.Text.Trim
import CatalogSync.Settings

namespace CatalogSync.Settings

/-! ### Values of variables -/

/-- A variable is set to a text that is not blank. -/
structure Given (value : Option String) (text : String) : Prop where
  set : value = some text
  visible : Text.isAllBlank text = false

/-- A variable is unset, or blank. -/
def Absent (value : Option String) : Prop := ∀ text, value = some text → Text.isAllBlank text = true

theorem Absent.not_given {value : Option String} {text : String} (absent : Absent value) :
    ¬ Given value text := fun shown =>
  absurd (absent text shown.set) (Bool.eq_false_iff.mp shown.visible)

variable {lookup other : String → Option String} {name : String}

theorem given_eq_some_iff {text : String} :
    given lookup name = some text ↔ Given (lookup name) text := by
  unfold given
  rw [Option.filter_eq_some_iff, Bool.not_eq_true']
  exact ⟨fun found => ⟨found.1, found.2⟩, fun shown => ⟨shown.set, shown.visible⟩⟩

theorem given_eq_none_iff : given lookup name = none ↔ Absent (lookup name) := by
  rw [Option.eq_none_iff_forall_ne_some]
  constructor
  · intro nothing text set
    by_contra visible
    exact nothing text (given_eq_some_iff.mpr ⟨set, Bool.eq_false_iff.mpr visible⟩)
  · intro absent text found
    exact absent.not_given (given_eq_some_iff.mp found)

/-- What is loaded depends on the values that are not blank alone. -/
theorem load_congr (same : ∀ name, given other name = given lookup name) :
    load other = load lookup := by
  have known : given other = given lookup := funext same
  unfold load
  rw [known]

/-! ### Numbers -/

/-- A text writes a number that fits into 64 bits, between blanks. -/
structure WritesWord (text : String) (number : Nat) : Prop where
  written : Text.Writes (Text.trim text).toList number
  fits : number < Text.wordLimit

theorem word?_trim_eq_some_iff {text : String} {number : Nat} :
    Text.word? (Text.trim text) = some number ↔ WritesWord text number :=
  Text.word?_eq_some_iff.trans
    ⟨fun ⟨written, fits⟩ => ⟨written, fits⟩, fun ⟨written, fits⟩ => ⟨written, fits⟩⟩

/-- A blank text writes no number. -/
theorem not_writesWord_of_blank {text : String} (blank : Text.isAllBlank text = true)
    (number : Nat) : ¬ WritesWord text number := by
  rintro ⟨written, -⟩
  rw [Text.trim_of_isAllBlank blank] at written
  cases written with
  | plain digits => exact digits.some rfl

/-- The number that a variable gives: the one that its value writes, or else a default. -/
inductive NumberOf (value : Option String) (default : Nat) : Nat → Prop
  | written {text : String} {number : Nat} (set : value = some text)
    (writes : WritesWord text number) : NumberOf value default number
  | unwritten (nothing : ∀ text number, value = some text → ¬ WritesWord text number) :
    NumberOf value default default

/-- A text writes one number at most, so a variable gives one number. -/
theorem NumberOf.unique {value : Option String} {default first second : Nat}
    (one : NumberOf value default first) (two : NumberOf value default second) :
    first = second := by
  cases one with
  | written set writes =>
    cases two with
    | written otherSet otherWrites =>
      obtain rfl := Option.some.inj (set.symm.trans otherSet)
      exact Option.some.inj ((word?_trim_eq_some_iff.mpr writes).symm.trans
        (word?_trim_eq_some_iff.mpr otherWrites))
    | unwritten nothing => exact absurd writes (nothing _ _ set)
  | unwritten nothing =>
    cases two with
    | written set writes => exact absurd writes (nothing _ _ set)
    | unwritten _ => rfl

theorem numberOf_numberOr (lookup : String → Option String) (name : String) (default : Nat) :
    NumberOf (lookup name) default (numberOr name (given lookup name) default).1 := by
  cases found : given lookup name with
  | none =>
    have absent := given_eq_none_iff.mp found
    exact .unwritten fun text number set => not_writesWord_of_blank (absent text set) number
  | some text =>
    have shown := given_eq_some_iff.mp found
    unfold numberOr
    cases read : Text.word? (Text.trim text) with
    | some number =>
      simp only [read]
      exact .written shown.set (word?_trim_eq_some_iff.mp read)
    | none =>
      simp only [read]
      refine .unwritten fun other number set writes => ?_
      obtain rfl := Option.some.inj (shown.set.symm.trans set)
      rw [word?_trim_eq_some_iff.mpr writes] at read
      cases read

/-! ### Truth values -/

/-- A text is one of some words between blanks, in letters of any size. -/
def Means (words : List String) (text : String) : Prop := Text.lowercase (Text.trim text) ∈ words

instance (words : List String) (text : String) : Decidable (Means words text) :=
  inferInstanceAs (Decidable (_ ∈ words))

/-- The words that mean yes. -/
def yes : List String := ["true", "1", "yes", "on"]

/-- The words that mean no. -/
def no : List String := ["false", "0", "no", "off"]

theorem truth?_eq (text : String) : truth? text =
    if Means yes text then some true else if Means no text then some false else none := rfl

theorem truth?_eq_some_false_iff {text : String} : truth? text = some false ↔ Means no text := by
  have apart : ∀ word ∈ yes, word ∉ no := by decide
  rw [truth?_eq]
  by_cases affirms : Means yes text
  · rw [if_pos affirms]
    exact ⟨nofun, fun denies => absurd denies (apart _ affirms)⟩
  · rw [if_neg affirms]
    by_cases denies : Means no text
    · rw [if_pos denies]
      exact ⟨fun _ => denies, fun _ => rfl⟩
    · rw [if_neg denies]
      exact ⟨nofun, fun meant => absurd meant denies⟩

theorem truth?_eq_none_iff {text : String} : truth? text = none ↔ ¬ Means (yes ++ no) text := by
  have either : Means (yes ++ no) text ↔ Means yes text ∨ Means no text := List.mem_append
  rw [truth?_eq, either]
  by_cases affirms : Means yes text
  · rw [if_pos affirms]
    exact ⟨nofun, fun neither => absurd (.inl affirms) neither⟩
  · rw [if_neg affirms]
    by_cases denies : Means no text
    · rw [if_pos denies]
      exact ⟨nofun, fun neither => absurd (.inr denies) neither⟩
    · rw [if_neg denies]
      exact ⟨fun _ => not_or.mpr ⟨affirms, denies⟩, fun _ => rfl⟩

/-- A blank text does not mean no. -/
theorem not_means_of_blank {text : String} (blank : Text.isAllBlank text = true) :
    ¬ Means no text := by
  unfold Means
  rw [Text.trim_of_isAllBlank blank]
  decide

theorem automaticOr_eq_false_iff : (automaticOr (given lookup name)).1 = false ↔
    ∃ text, lookup name = some text ∧ Means no text := by
  cases found : given lookup name with
  | none =>
    have absent := given_eq_none_iff.mp found
    refine ⟨nofun, fun ⟨text, set, denies⟩ => ?_⟩
    exact absurd denies (not_means_of_blank (absent text set))
  | some text =>
    have shown := given_eq_some_iff.mp found
    have only : (∃ other, lookup name = some other ∧ Means no other) ↔ Means no text := by
      rw [shown.set]
      refine ⟨fun ⟨other, same, denies⟩ => ?_, fun denies => ⟨text, rfl, denies⟩⟩
      exact Option.some.inj same ▸ denies
    rw [only, ← truth?_eq_some_false_iff]
    cases read : truth? text with
    | none => simp [automaticOr, read]
    | some automatic => simp [automaticOr, read]

/-! ### Warnings -/

/-- The warning about a value that writes no number. -/
def invalidNumber (name : String) (default : Nat) (text : String) : Event :=
  ⟨.warn, "Invalid number, using default",
    [("key", .text name), ("value", .text text), ("default", .text (toString default))]⟩

/-- The warning about a value that says neither yes nor no. -/
def invalidTruth (text : String) : Event :=
  ⟨.warn, "Invalid SEARCH_AUTOMATIC_INDEXING, defaulting to true", [("value", .text text)]⟩

/-- The warnings about a variable: one if it has a value that is not understood. -/
inductive Warned (value : Option String) (understood : String → Prop)
    (complaint : String → Event) : List Event → Prop
  | silent (fine : ∀ text, Given value text → understood text) :
    Warned value understood complaint []
  | once {text : String} (shown : Given value text) (misread : ¬ understood text) :
    Warned value understood complaint [complaint text]

/-- A variable has one value at most, so what is warned of is determined by it. -/
theorem Warned.unique {value : Option String} {understood : String → Prop}
    {complaint : String → Event} {first second : List Event}
    (one : Warned value understood complaint first)
    (two : Warned value understood complaint second) : first = second := by
  cases one with
  | silent fine =>
    cases two with
    | silent _ => rfl
    | once shown misread => exact absurd (fine _ shown) misread
  | once shown misread =>
    cases two with
    | silent fine => exact absurd (fine _ shown) misread
    | once otherShown _ => rw [Option.some.inj (shown.set.symm.trans otherShown.set)]

theorem warned_numberOr (lookup : String → Option String) (name : String) (default : Nat) :
    Warned (lookup name) (fun text => ∃ number, WritesWord text number)
      (invalidNumber name default) (numberOr name (given lookup name) default).2 := by
  cases found : given lookup name with
  | none => exact .silent fun text shown => absurd shown (given_eq_none_iff.mp found).not_given
  | some text =>
    have shown := given_eq_some_iff.mp found
    unfold numberOr
    cases read : Text.word? (Text.trim text) with
    | some number =>
      simp only [read]
      refine .silent fun other otherShown => ?_
      obtain rfl := Option.some.inj (shown.set.symm.trans otherShown.set)
      exact ⟨number, word?_trim_eq_some_iff.mp read⟩
    | none =>
      simp only [read]
      refine .once shown fun ⟨number, writes⟩ => ?_
      rw [word?_trim_eq_some_iff.mpr writes] at read
      cases read

theorem warned_automaticOr (lookup : String → Option String) (name : String) :
    Warned (lookup name) (Means (yes ++ no)) invalidTruth
      (automaticOr (given lookup name)).2 := by
  cases found : given lookup name with
  | none => exact .silent fun text shown => absurd shown (given_eq_none_iff.mp found).not_given
  | some text =>
    have shown := given_eq_some_iff.mp found
    unfold automaticOr
    cases read : truth? text with
    | some automatic =>
      simp only [read]
      refine .silent fun other otherShown => ?_
      obtain rfl := Option.some.inj (shown.set.symm.trans otherShown.set)
      by_contra misread
      rw [truth?_eq_none_iff.mpr misread] at read
      cases read
    | none =>
      simp only [read]
      exact .once shown (truth?_eq_none_iff.mp read)

/-! ### Texts and accounts -/

/-- The text that a variable gives: its value as it is, or else a default. -/
inductive TextOf (value : Option String) (default : String) : String → Prop
  | shown {text : String} (shown : Given value text) : TextOf value default text
  | absent (absent : Absent value) : TextOf value default default

theorem textOf_given (lookup : String → Option String) (name default : String) :
    TextOf (lookup name) default ((given lookup name).getD default) := by
  cases found : given lookup name with
  | none => exact .absent (given_eq_none_iff.mp found)
  | some text => exact .shown (given_eq_some_iff.mp found)

section Authorized

variable (settings : Solr.Settings) (user password : Option String)

/-- An account changes nothing else. -/
theorem authorized_rest : (authorized settings user password).url = settings.url ∧
    (authorized settings user password).siteId = settings.siteId ∧
    (authorized settings user password).rowsMax = settings.rowsMax ∧
    (authorized settings user password).timeoutSeconds = settings.timeoutSeconds := by
  unfold authorized
  split
  · exact ⟨rfl, rfl, rfl, rfl⟩
  · exact ⟨rfl, rfl, rfl, rfl⟩

variable {settings} (nobody : settings.user = none ∧ settings.password = none)
include nobody

/-- Settings without an account get one if both of its parts are there. -/
theorem credentials?_authorized {name secret : String} :
    (authorized settings user password).credentials? = some (name, secret) ↔
      user = some name ∧ password = some secret := by
  have without : settings.credentials? = none := by
    unfold Solr.Settings.credentials?
    rw [nobody.1]
  cases user with
  | none =>
    show settings.credentials? = _ ↔ _
    rw [without]
    exact ⟨nofun, nofun⟩
  | some user =>
    cases password with
    | none =>
      show settings.credentials? = _ ↔ _
      rw [without]
      exact ⟨nofun, nofun⟩
    | some password =>
      show some (user, password) = _ ↔ _
      simp

/-- Or else they stay without any part of one. -/
theorem nobody_authorized (missing : (authorized settings user password).credentials? = none) :
    (authorized settings user password).user = none ∧
      (authorized settings user password).password = none := by
  cases user with
  | none => exact nobody
  | some user =>
    cases password with
    | none => exact nobody
    | some password => cases missing

end Authorized

/-! ### Settings -/

/-- The settings that variables give, and what is warned of. -/
structure Loaded (lookup : String → Option String) (settings : Settings) (warnings : List Event) :
    Prop where
  url : TextOf (lookup "SOLR_URL") defaultSolrUrl settings.solr.url
  siteId : TextOf (lookup "CATALOG_SITE_ID") Solr.Settings.defaultSiteId settings.solr.siteId
  databaseUrl : ∀ url, settings.databaseUrl = some url ↔ Given (lookup "DATABASE_URL") url
  timeout : NumberOf (lookup "SOLR_TIMEOUT_SECS") Solr.Settings.defaultTimeoutSeconds
    settings.solr.timeoutSeconds
  /-- At least one row is asked for, whatever is written. -/
  rowsMax : ∃ number, NumberOf (lookup "SEARCH_ROWS_MAX") Solr.Settings.defaultRowsMax number ∧
    settings.solr.rowsMax = max number 1
  /-- The account is there if both of its parts are given, as they are given. -/
  account : ∀ user password, settings.solr.credentials? = some (user, password) ↔
    Given (lookup "SOLR_USER") user ∧ Given (lookup "SOLR_PASSWORD") password
  /-- Otherwise no part of it is there. -/
  anonymous : settings.solr.credentials? = none →
    settings.solr.user = none ∧ settings.solr.password = none
  automatic : settings.automatic = false ↔
    ∃ text, lookup "SEARCH_AUTOMATIC_INDEXING" = some text ∧ Means no text
  warnings : ∃ timeout rowsMax automatic, warnings = timeout ++ rowsMax ++ automatic ∧
    Warned (lookup "SOLR_TIMEOUT_SECS") (fun text => ∃ number, WritesWord text number)
      (invalidNumber "SOLR_TIMEOUT_SECS" Solr.Settings.defaultTimeoutSeconds) timeout ∧
    Warned (lookup "SEARCH_ROWS_MAX") (fun text => ∃ number, WritesWord text number)
      (invalidNumber "SEARCH_ROWS_MAX" Solr.Settings.defaultRowsMax) rowsMax ∧
    Warned (lookup "SEARCH_AUTOMATIC_INDEXING") (Means (yes ++ no)) invalidTruth automatic

/-- The settings of the core before it is known whether there is an account. -/
def unauthorized (lookup : String → Option String) : Solr.Settings :=
  (((Solr.Settings.ofUrl ((given lookup "SOLR_URL").getD defaultSolrUrl)).withSiteId
    ((given lookup "CATALOG_SITE_ID").getD Solr.Settings.defaultSiteId)).withRowsMax
    (numberOr "SEARCH_ROWS_MAX" (given lookup "SEARCH_ROWS_MAX")
      Solr.Settings.defaultRowsMax).1).withTimeout
    (numberOr "SOLR_TIMEOUT_SECS" (given lookup "SOLR_TIMEOUT_SECS")
      Solr.Settings.defaultTimeoutSeconds).1

theorem nobody_unauthorized (lookup : String → Option String) :
    (unauthorized lookup).user = none ∧ (unauthorized lookup).password = none := ⟨rfl, rfl⟩

theorem solr_load (lookup : String → Option String) : (load lookup).1.solr =
    authorized (unauthorized lookup) (given lookup "SOLR_USER") (given lookup "SOLR_PASSWORD") :=
  rfl

/-- The settings that are loaded are those that the variables give. -/
theorem loaded_load (lookup : String → Option String) :
    Loaded lookup (load lookup).1 (load lookup).2 := by
  obtain ⟨url, siteId, rowsMax, timeout⟩ := authorized_rest (unauthorized lookup)
    (given lookup "SOLR_USER") (given lookup "SOLR_PASSWORD")
  have nobody := nobody_unauthorized lookup
  rw [← solr_load] at url siteId rowsMax timeout
  constructor
  case url => exact url ▸ textOf_given _ _ _
  case siteId => exact siteId ▸ textOf_given _ _ _
  case databaseUrl => exact fun address => given_eq_some_iff
  case timeout => exact timeout ▸ numberOf_numberOr _ _ _
  case rowsMax => exact ⟨_, numberOf_numberOr _ _ _, rowsMax⟩
  case account =>
    intro user password
    rw [solr_load, credentials?_authorized _ _ nobody, given_eq_some_iff, given_eq_some_iff]
  case anonymous =>
    intro missing
    rw [solr_load] at missing ⊢
    exact nobody_authorized _ _ nobody missing
  case automatic => exact automaticOr_eq_false_iff
  case warnings =>
    exact ⟨_, _, _, rfl, warned_numberOr _ _ _, warned_numberOr _ _ _, warned_automaticOr _ _⟩

/-- **What is loaded is what the variables give.** And whether a variable is unset or blank makes no
difference. -/
theorem load_loaded (lookup : String → Option String) :
    Loaded lookup (load lookup).1 (load lookup).2 ∧
    ∀ other : String → Option String,
      (∀ name, other name = lookup name ∨ Absent (other name) ∧ Absent (lookup name)) →
        load other = load lookup := by
  refine ⟨loaded_load lookup, fun other alike => load_congr fun name => ?_⟩
  rcases alike name with same | ⟨absent, absent'⟩
  · unfold given
    rw [same]
  · rw [given_eq_none_iff.mpr absent, given_eq_none_iff.mpr absent']

/-! ### Unusual values -/

/-- A number behind zeros and between blanks, one that does not fit, half an account and a word in
letters of both sizes. -/
def unusual (name : String) : Option String :=
  [("SOLR_TIMEOUT_SECS", "\u2003+000000000000000000000000000005\n"),
    ("SEARCH_ROWS_MAX", "18446744073709551616"), ("SOLR_USER", " admin "),
    ("SEARCH_AUTOMATIC_INDEXING", " Off ")].lookup name

/-- The same with blanks in place of the other half of the account. -/
def padded (name : String) : Option String :=
  if name = "SOLR_PASSWORD" then some "\u3000\t" else unusual name

/-- The first number is read, and the second one is warned of. Half an account counts for nothing,
and blanks in place of the other half change nothing. -/
theorem load_loaded_of_unusual :
    (load unusual).1.solr.timeoutSeconds = 5 ∧ (load unusual).1.solr.rowsMax = 1000 ∧
      (load unusual).1.solr.user = none ∧ (load unusual).1.automatic = false ∧
      (load unusual).2 = [invalidNumber "SEARCH_ROWS_MAX" 1000 "18446744073709551616"] ∧
      padded ≠ unusual ∧ load padded = load unusual := by
  obtain ⟨loaded, alike⟩ := load_loaded unusual
  have five : WritesWord "\u2003+000000000000000000000000000005\n" 5 :=
    word?_trim_eq_some_iff.mp (by decide +kernel)
  have tooLarge (number : Nat) : ¬ WritesWord "18446744073709551616" number := fun writes => by
    have nothing : Text.word? (Text.trim "18446744073709551616") = none := by decide +kernel
    rw [word?_trim_eq_some_iff.mpr writes] at nothing
    cases nothing
  have timeout : unusual "SOLR_TIMEOUT_SECS" = some "\u2003+000000000000000000000000000005\n" := by
    decide +kernel
  have rowsMax : unusual "SEARCH_ROWS_MAX" = some "18446744073709551616" := by decide +kernel
  have password : unusual "SOLR_PASSWORD" = none := by decide +kernel
  have blank : padded "SOLR_PASSWORD" = some "\u3000\t" := if_pos rfl
  have automatic : unusual "SEARCH_AUTOMATIC_INDEXING" = some " Off " := by decide +kernel
  have off : Means no " Off " := by decide +kernel
  refine ⟨loaded.timeout.unique (.written timeout five), ?rows, ?nobody,
    loaded.automatic.mpr ⟨_, automatic, off⟩, ?warned, ?differ, alike padded fun name => ?alike⟩
  case rows =>
    obtain ⟨number, gives, same⟩ := loaded.rowsMax
    obtain rfl := gives.unique (.unwritten fun text number set writes => by
      obtain rfl := Option.some.inj (rowsMax.symm.trans set)
      exact tooLarge number writes)
    exact same
  case nobody =>
    refine (loaded.anonymous (Option.eq_none_iff_forall_ne_some.mpr ?_)).1
    rintro ⟨user, secret⟩ found
    have set := ((loaded.account user secret).mp found).2.set
    rw [password] at set
    cases set
  case warned =>
    obtain ⟨first, second, third, whole, one, two, three⟩ := loaded.warnings
    have fine : first = [] := one.unique (.silent fun text shown => by
      obtain rfl := Option.some.inj (timeout.symm.trans shown.set)
      exact ⟨5, five⟩)
    have warned : second = [_] := two.unique (.once ⟨rowsMax, by decide +kernel⟩
      fun ⟨number, writes⟩ => tooLarge number writes)
    have understood : third = [] := three.unique (.silent fun text shown => by
      obtain rfl := Option.some.inj (automatic.symm.trans shown.set)
      exact List.mem_append_right yes off)
    rw [whole, fine, warned, understood]
    rfl
  case differ =>
    intro same
    rw [same, password] at blank
    cases blank
  case alike =>
    by_cases half : name = "SOLR_PASSWORD"
    · rw [half, blank, password]
      refine .inr ⟨fun text set => ?_, nofun⟩
      obtain rfl := Option.some.inj set
      decide +kernel
    · exact .inl (if_neg half)

end CatalogSync.Settings
