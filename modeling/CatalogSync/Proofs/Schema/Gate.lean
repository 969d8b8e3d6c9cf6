/-
**What the schema gate asks for, and what it decides.**

* `SchemaSource.noted` — a source in front of which every call is noted, with its answer.
* `SchemaGate.Asked` — the rows of calls that the gate may make: none for a local file; otherwise
  whether the engine is there, then for the managed schema, and for the classic one just if the
  engine answered that it has no managed one.
* `SchemaGate.verdict` — what the gate decides, from the file or from the last answer.
* `SchemaGate.judge` — what it decides of a schema document. The four outcomes exclude each other
  and leave nothing out (`judge_eq_ok_iff`, `judge_eq_parse_iff`, `judge_eq_missing_iff`,
  `judge_eq_unsupported_iff`).
* **`checkWith_noted`** — so the gate asks and decides, whatever the source is, and
  **`verdict_eq_notApplicable_iff`** — it does not apply just if there is no engine.
* **`gate_decides`** — all of this, and that a core is a source as it has to be.

Nothing is assumed about the reader of documents, so all of this holds of the reader for markup.
-/

import CatalogSync.Proofs.Solr.Schema

namespace CatalogSync

/-- A call of a source of schemas, with its answer. -/
inductive SchemaCall where
  | ping (answer : Except SearchError Bool)
  | fetch (location : SchemaLocation) (answer : Except SearchError String)

/-- The source in front of which every call is noted, the latest last. -/
def SchemaSource.noted {σ : Type} (source : SchemaSource σ) :
    SchemaSource (σ × List SchemaCall) where
  isAvailable := fun state =>
    let outcome := source.isAvailable state.1
    ⟨outcome.result, (outcome.state, state.2 ++ [.ping outcome.result]), outcome.events⟩
  fetchSchema location := fun state =>
    let outcome := source.fetchSchema location state.1
    ⟨outcome.result, (outcome.state, state.2 ++ [.fetch location outcome.result]), outcome.events⟩

theorem SchemaVersion.isSupported_iff {version : SchemaVersion} :
    version.isSupported = true ↔ version.text ∈ supported :=
  List.contains_iff_mem

namespace SchemaGate

variable {σ : Type}

section Reading

variable {read : String → Option Markup.Element}

/-! ### Schema documents -/

section Judge

variable {content : String} {path : Option String}

/-- What is decided of a schema document. -/
def judge (read : String → Option Markup.Element) (content : String) (path : Option String) :
    Except SearchError Compatibility :=
  (versionOf read content path).map .compatible

theorem judge_of_malformed (malformed : read content = none) :
    judge read content path = .error unreadable := by
  unfold judge versionOf
  rw [malformed]
  rfl

section Root

variable {root : Markup.Element} (parsed : read content = some root)
include parsed

theorem judge_of_blank
    (blank : root.attribute? "version" = none ∨ root.attribute? "version" = some "") :
    judge read content path = .error (missingVersion path) := by
  unfold judge versionOf
  rw [parsed]
  rcases blank with absent | empty
  · simp only [absent]
    rfl
  · simp only [empty]
    rfl

theorem judge_of_version {version : String} (claimed : root.attribute? "version" = some version)
    (nonempty : version ≠ "") :
    judge read content path =
      if (SchemaVersion.mk version).isSupported then .ok (.compatible ⟨version⟩)
      else .error (unsupportedVersion ⟨version⟩) := by
  have kept : (some version).filter (fun version => !version.isEmpty) = some version :=
    Option.filter_some_pos (by simp [nonempty])
  unfold judge versionOf
  rw [parsed]
  simp only [claimed, kept]
  split
  · rfl
  · rfl

end Root

/-- A document does not parse, or has no version, or a supported one, or one that is not. -/
theorem judge_cases (read : String → Option Markup.Element) (content : String)
    (path : Option String) :
    (read content = none ∧ judge read content path = .error unreadable) ∨
    ∃ root, read content = some root ∧
      ((root.attribute? "version" = none ∨ root.attribute? "version" = some "") ∧
          judge read content path = .error (missingVersion path) ∨
        ∃ version, root.attribute? "version" = some version ∧ version ≠ "" ∧
          (version ∈ SchemaVersion.supported ∧
              judge read content path = .ok (.compatible ⟨version⟩) ∨
            version ∉ SchemaVersion.supported ∧
              judge read content path = .error (unsupportedVersion ⟨version⟩))) := by
  cases parsed : read content with
  | none => exact .inl ⟨rfl, judge_of_malformed parsed⟩
  | some root =>
    refine .inr ⟨root, rfl, ?_⟩
    cases claimed : root.attribute? "version" with
    | none => exact .inl ⟨.inl rfl, judge_of_blank parsed (.inl claimed)⟩
    | some version =>
      by_cases empty : version = ""
      · exact .inl ⟨.inr (congrArg some empty),
          judge_of_blank parsed (.inr (claimed.trans (congrArg some empty)))⟩
      · refine .inr ⟨version, rfl, empty, ?_⟩
        have judged : judge read content path = _ := judge_of_version parsed claimed empty
        by_cases supported : version ∈ SchemaVersion.supported
        · rw [if_pos (SchemaVersion.isSupported_iff.mpr supported)] at judged
          exact .inl ⟨supported, judged⟩
        · rw [if_neg fun known => supported (SchemaVersion.isSupported_iff.mp known)] at judged
          exact .inr ⟨supported, judged⟩

/-! The reports tell the outcomes apart. -/

theorem unsupportedVersion_inj {first second : SchemaVersion} :
    unsupportedVersion first = unsupportedVersion second ↔ first = second := by
  refine ⟨fun same => ?_, congrArg unsupportedVersion⟩
  have details := congrArg String.toList (SearchError.schema.inj same)
  simp only [String.toList_append, List.append_assoc] at details
  have texts := List.append_cancel_right (List.append_cancel_left details)
  exact congrArg SchemaVersion.mk (String.toList_inj.mp texts)

theorem missingVersion_ne_unsupportedVersion (path : Option String) (version : SchemaVersion) :
    missingVersion path ≠ unsupportedVersion version := by
  intro same
  have details := congrArg String.toList (SearchError.schema.inj same)
  simp only [String.toList_append, List.append_assoc] at details
  -- the reports begin with different letters
  have here : "Could not extract version info from the Solr schema".toList =
      'C' :: "ould not extract version info from the Solr schema".toList := rfl
  have there : "Solr schema version not supported: ".toList =
      'S' :: "olr schema version not supported: ".toList := rfl
  rw [here, there, List.cons_append, List.cons_append] at details
  exact absurd (List.cons.inj details).1 (by decide)

/-- **A schema document is accepted just if it claims a supported version on its root element.** -/
theorem judge_eq_ok_iff {version : SchemaVersion} :
    judge read content path = .ok (.compatible version) ↔
      ∃ root, read content = some root ∧
        root.attribute? "version" = some version.text ∧
          version.text ∈ SchemaVersion.supported := by
  constructor
  · intro accepted
    rcases judge_cases read content path with ⟨-, judged⟩ | ⟨root, parsed, ⟨-, judged⟩ |
      ⟨claim, claimed, -, ⟨supported, judged⟩ | ⟨-, judged⟩⟩⟩
    · cases judged.symm.trans accepted
    · cases judged.symm.trans accepted
    · cases judged.symm.trans accepted
      exact ⟨root, parsed, claimed, supported⟩
    · cases judged.symm.trans accepted
  · rintro ⟨root, parsed, claimed, supported⟩
    have nonempty : version.text ≠ "" := fun empty => absurd (empty ▸ supported) (by decide)
    rw [judge_of_version parsed claimed nonempty]
    exact if_pos (SchemaVersion.isSupported_iff.mpr supported)

/-- It is unreadable just if it does not parse. -/
theorem judge_eq_parse_iff :
    (∃ detail, judge read content path = .error (.parse detail)) ↔ read content = none := by
  refine ⟨fun ⟨detail, refused⟩ => ?_, fun malformed => ⟨_, judge_of_malformed malformed⟩⟩
  rcases judge_cases read content path with ⟨malformed, -⟩ | ⟨root, parsed, ⟨-, judged⟩ |
    ⟨claim, claimed, -, ⟨-, judged⟩ | ⟨-, judged⟩⟩⟩
  · exact malformed
  · cases judged.symm.trans refused
  · cases judged.symm.trans refused
  · cases judged.symm.trans refused

/-- It lacks a version just if the attribute is absent or empty. -/
theorem judge_eq_missing_iff :
    judge read content path = .error (missingVersion path) ↔
      ∃ root, read content = some root ∧
        (root.attribute? "version" = none ∨ root.attribute? "version" = some "") := by
  refine ⟨fun refused => ?_, fun ⟨root, parsed, blank⟩ => judge_of_blank parsed blank⟩
  rcases judge_cases read content path with ⟨-, judged⟩ | ⟨root, parsed, ⟨blank, -⟩ |
    ⟨claim, claimed, -, ⟨-, judged⟩ | ⟨-, judged⟩⟩⟩
  · cases judged.symm.trans refused
  · exact ⟨root, parsed, blank⟩
  · cases judged.symm.trans refused
  · exact absurd (Except.error.inj (refused.symm.trans judged))
      (missingVersion_ne_unsupportedVersion path _)

/-- Its version is not supported just if it claims one that is not in the list. -/
theorem judge_eq_unsupported_iff {version : SchemaVersion} :
    judge read content path = .error (unsupportedVersion version) ↔
      ∃ root, read content = some root ∧
        root.attribute? "version" = some version.text ∧ version.text ≠ "" ∧
          version.text ∉ SchemaVersion.supported := by
  constructor
  · intro refused
    rcases judge_cases read content path with ⟨-, judged⟩ | ⟨root, parsed, ⟨-, judged⟩ |
      ⟨claim, claimed, nonempty, ⟨-, judged⟩ | ⟨unsupported, judged⟩⟩⟩
    · cases judged.symm.trans refused
    · exact absurd (Except.error.inj (judged.symm.trans refused))
        (missingVersion_ne_unsupportedVersion path _)
    · cases judged.symm.trans refused
    · obtain rfl := unsupportedVersion_inj.mp (Except.error.inj (judged.symm.trans refused))
      exact ⟨root, parsed, claimed, nonempty, unsupported⟩
  · rintro ⟨root, parsed, claimed, nonempty, unsupported⟩
    rw [judge_of_version parsed claimed nonempty]
    exact if_neg fun supported => unsupported (SchemaVersion.isSupported_iff.mp supported)

/-- No document makes the gate inapplicable. -/
theorem judge_ne_notApplicable : judge read content path ≠ .ok .notApplicable := by
  unfold judge
  cases versionOf read content path with
  | error failure => exact nofun
  | ok version => exact nofun

end Judge

/-! ### What is asked -/

/-- The calls that the gate makes, with their answers. -/
inductive Asked : Option LocalFile → List SchemaCall → Prop
  /-- A local file is checked without any. -/
  | nothing (file : LocalFile) : Asked (some file) []
  /-- Nothing is fetched from an engine that is not there. -/
  | ping (answer : Except SearchError Bool) (absent : answer ≠ .ok true) :
    Asked none [.ping answer]
  /-- The managed schema is there, or cannot be had for a reason of its own. -/
  | managed (answer : Except SearchError String)
      (final : ∀ failure, answer = .error failure → failure.isHttp = false) :
    Asked none [.ping (.ok true), .fetch .managed answer]
  /-- The engine answered that it has no managed schema. -/
  | classic (failure : SearchError) (answered : failure.isHttp = true)
      (answer : Except SearchError String) :
    Asked none [.ping (.ok true), .fetch .managed (.error failure), .fetch .classic answer]

/-- What a call leaves to decide on: a schema document, or nothing if it is only known whether there
is an engine. -/
def finding : SchemaCall → Except SearchError (Option String)
  | .ping answer => answer.map fun _ => none
  | .fetch _ answer => answer.map some

/-- What is decided on: the text of the file, or what the last call found. -/
def decisive (file : Option LocalFile) (calls : List SchemaCall) :
    Except SearchError (Option String) :=
  match file with
  | some file =>
    match file.text with
    | .ok content => .ok (some content)
    | .error reason => .error (.io ("Failed to read " ++ file.path ++ ": " ++ reason))
  | none => (calls.getLast?.map finding).getD (.ok none)

/-- What is decided. -/
def verdict (read : String → Option Markup.Element) (file : Option LocalFile)
    (calls : List SchemaCall) : Except SearchError Compatibility :=
  match decisive file calls with
  | .error failure => .error failure
  | .ok none => .ok .notApplicable
  | .ok (some content) => judge read content (file.map LocalFile.path)

/-! ### The gate -/

/-- Telling of a version after it was accepted makes no difference. -/
theorem effect_accept (content : String) (path : Option String) (state : σ) :
    (Action.ofExcept (versionOf read content path) >>= accept).effect state =
      (judge read content path, state) := by
  unfold judge
  cases versionOf read content path with
  | error failure => rfl
  | ok version => rfl

theorem effect_checkWith_file (source : SchemaSource σ) (file : LocalFile) (state : σ) :
    (checkWith read source (some file)).effect state = (verdict read (some file) [], state) := by
  unfold checkWith verdict decisive
  simp only
  cases file.text with
  | error reason => rfl
  | ok content => exact effect_accept content (some file.path) state

theorem effect_fetchRemote (source : SchemaSource σ) (state : σ) :
    (fetchRemote source).effect state =
      match (source.fetchSchema .managed).effect state with
      | (.ok content, reached) => (.ok content, reached)
      | (.error failure, reached) =>
        if failure.isHttp then (source.fetchSchema .classic).effect reached
        else (.error failure, reached) := by
  unfold fetchRemote
  rw [Action.effect_bind, Action.effect_attempt]
  rcases (source.fetchSchema .managed).effect state with ⟨failure | content, reached⟩
  · simp only
    split
    · exact Action.effect_bind_of_ok (Action.effect_tell _ _ _ reached) _
    · rfl
  · rfl

/-- The gate's way through the answers of an engine. -/
theorem effect_checkWith_remote (source : SchemaSource σ) (state : σ) :
    (checkWith read source none).effect state =
      match source.isAvailable.effect state with
      | (.error failure, reached) => (.error failure, reached)
      | (.ok false, reached) => (.ok .notApplicable, reached)
      | (.ok true, reached) =>
        match (fetchRemote source).effect reached with
        | (.ok content, reached) => (judge read content none, reached)
        | (.error failure, reached) => (.error failure, reached) := by
  unfold checkWith
  rw [Action.effect_bind]
  rcases source.isAvailable.effect state with ⟨failure | available, reached⟩
  · rfl
  cases available with
  | false => rfl
  | true =>
    simp only [if_true]
    rw [Action.effect_bind]
    rcases (fetchRemote source).effect reached with ⟨failure | content, last⟩
    · rfl
    · exact effect_accept content none last

/-- **The gate asks what it may ask and decides by what it was answered**, and whether its calls are
noted makes no difference. -/
theorem checkWith_noted (source : SchemaSource σ) (file : Option LocalFile) (start : σ) :
    ∃ calls reached, Asked file calls ∧
      (checkWith read source file).effect start = (verdict read file calls, reached) ∧
      (checkWith read source.noted file).effect (start, []) =
        (verdict read file calls, reached, calls) := by
  cases file with
  | some file =>
    exact ⟨[], start, .nothing file, effect_checkWith_file source file start,
      effect_checkWith_file source.noted file (start, [])⟩
  | none =>
  have pinged : source.noted.isAvailable.effect (start, []) =
      ((source.isAvailable.effect start).1, (source.isAvailable.effect start).2,
        [.ping (source.isAvailable.effect start).1]) := rfl
  have fetched (location : SchemaLocation) (state : σ) (calls : List SchemaCall) :
      (source.noted.fetchSchema location).effect (state, calls) =
        (((source.fetchSchema location).effect state).1,
          ((source.fetchSchema location).effect state).2,
          calls ++ [.fetch location ((source.fetchSchema location).effect state).1]) := rfl
  rw [effect_checkWith_remote, effect_checkWith_remote, pinged]
  rcases source.isAvailable.effect start with ⟨failure | available, reached⟩
  · exact ⟨_, reached, .ping (.error failure) nofun, rfl, rfl⟩
  cases available with
  | false => exact ⟨_, reached, .ping (.ok false) nofun, rfl, rfl⟩
  | true =>
  simp only
  rw [effect_fetchRemote, effect_fetchRemote, fetched]
  rcases (source.fetchSchema .managed).effect reached with ⟨failure | content, reached⟩
  case ok => exact ⟨_, reached, .managed (.ok content) nofun, rfl, rfl⟩
  simp only
  by_cases answered : failure.isHttp = true
  · rw [if_pos answered, if_pos answered, fetched]
    rcases (source.fetchSchema .classic).effect reached with ⟨further | content, last⟩
    · exact ⟨_, last, .classic failure answered (.error further), rfl, rfl⟩
    · exact ⟨_, last, .classic failure answered (.ok content), rfl, rfl⟩
  · rw [if_neg answered, if_neg answered]
    refine ⟨_, reached, .managed (.error failure) fun other same => ?_, rfl, rfl⟩
    cases same
    exact Bool.not_eq_true _ |>.mp answered

/-- **An engine that is not there is never taken for an incompatible one**, nor the other way
round. -/
theorem verdict_eq_notApplicable_iff {file : Option LocalFile} {calls : List SchemaCall}
    (asked : Asked file calls) :
    verdict read file calls = .ok .notApplicable ↔ calls = [.ping (.ok false)] := by
  cases asked with
  | nothing file =>
    unfold verdict decisive
    simp only
    cases file.text with
    | error reason => simp
    | ok content => simp [judge_ne_notApplicable]
  | ping answer absent =>
    rcases answer with failure | available
    · simp [verdict, decisive, finding, Except.map]
    · cases available with
      | false => simp [verdict, decisive, finding, Except.map]
      | true => exact absurd rfl absent
  | managed answer final =>
    cases answer with
    | error failure => simp [verdict, decisive, finding, Except.map]
    | ok content => simp [verdict, decisive, finding, Except.map, judge_ne_notApplicable]
  | classic failure answered answer =>
    cases answer with
    | error failure => simp [verdict, decisive, finding, Except.map]
    | ok content => simp [verdict, decisive, finding, Except.map, judge_ne_notApplicable]

end Reading

/-! ### The main statement -/

/-- **The gate accepts only what it fetched from the right place, and never confuses an engine that
is not there with one that is incompatible.** Whatever reads the documents and whatever a source
answers, the source is asked in the right order and the file or the last answer decides. Of a schema
document exactly one thing is decided. And a core answers as a source has to: it is there or not, it
refuses a schema just if it answers without success, and what it yields is the body of its answer to
a request that goes to the right place. -/
theorem gate_decides (read : String → Option Markup.Element) :
    (∀ (σ : Type) (source : SchemaSource σ) (file : Option LocalFile) (start : σ),
      ∃ calls reached, Asked file calls ∧
        (checkWith read source file).effect start = (verdict read file calls, reached) ∧
        (checkWith read source.noted file).effect (start, []) =
          (verdict read file calls, reached, calls)) ∧
    (∀ file calls, Asked file calls →
      (verdict read file calls = .ok .notApplicable ↔ calls = [.ping (.ok false)])) ∧
    (∀ (content : String) (path : Option String),
      (∀ version, judge read content path = .ok (.compatible version) ↔
        ∃ root, read content = some root ∧ root.attribute? "version" = some version.text ∧
          version.text ∈ SchemaVersion.supported) ∧
      ((∃ detail, judge read content path = .error (.parse detail)) ↔ read content = none) ∧
      (judge read content path = .error (missingVersion path) ↔
        ∃ root, read content = some root ∧
          (root.attribute? "version" = none ∨ root.attribute? "version" = some "")) ∧
      ∀ version, judge read content path = .error (unsupportedVersion version) ↔
        ∃ root, read content = some root ∧ root.attribute? "version" = some version.text ∧
          version.text ≠ "" ∧ version.text ∉ SchemaVersion.supported) ∧
    ∀ (σ : Type) (client : Solr.Client σ) (state : σ),
      (∃ available, (client.schema.isAvailable.effect state).1 = .ok available) ∧
      ((client.schema.isAvailable.effect state).1 = .ok true ↔
        ∃ request reply, client.looking "/admin/ping" [("wt", "json")] = .ok request ∧
          (client.transport.exchange request state).1 = some reply ∧
            Http.isSuccess reply.status = true) ∧
      ∀ location,
        ((∃ failure, ((client.schema.fetchSchema location).effect state).1 = .error failure ∧
            failure.isHttp = true) ↔
          ∃ request reply, client.looking location.offset [] = .ok request ∧
            (client.transport.exchange request state).1 = some reply ∧
              Http.isSuccess reply.status = false) ∧
        ∀ content, ((client.schema.fetchSchema location).effect state).1 = .ok content →
          ∃ request reply,
            Solr.Meant .get (client.settings.baseUrl ++ location.offset) [] none request ∧
            (client.transport.exchange request state).1 = some reply ∧
              Http.isSuccess reply.status = true ∧ reply.isComplete = true ∧
                reply.body.content = content := by
  refine ⟨fun _ => checkWith_noted, fun _ _ => verdict_eq_notApplicable_iff, fun content path =>
    ⟨fun _ => judge_eq_ok_iff, judge_eq_parse_iff, judge_eq_missing_iff,
      fun _ => judge_eq_unsupported_iff⟩, fun σ client state => ?core⟩
  simp only [Solr.Client.schema]
  refine ⟨client.isAvailable_ok state, Solr.Client.isAvailable_iff, fun location =>
    ⟨Solr.Client.fetchSchema_http_iff, fun content fetched => ?_⟩⟩
  obtain ⟨request, reply, looked, answered, success, complete, carried⟩ :=
    Solr.Client.fetchSchema_ok_iff.mp fetched
  exact ⟨request, reply, Solr.Client.meant_of_looking looked, answered, success, complete, carried⟩

end SchemaGate

end CatalogSync
