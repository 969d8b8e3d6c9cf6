/-
**Reindexing a list of records.**

* `effect_reindexEach_of_ok`, `effect_reindexEach_of_error` — what one step of the loop does.
* **`effect_reindexEach_of_complete`** — a loop that is forced, or in which no record fails, comes
  to its end. It has counted the records that did not fail and listed, in their order, those that
  did.
* **`effect_reindexEach_of_abort`** — a loop that is not forced ends at the first record that
  fails, with an error that names it; the records after it have no part in what is left behind.
* `settled_reindexedEach` — the records that did not fail join the settled documents in their
  order.
* `visible_reindexedEach`, `pending_reindexedEach_deferred` — if writes are held back, they join the
  pending documents and readers see no change.

What a record comes to is the same at every step (`document_reindexed`), so all of this can be
said of the workbench as it was at the start.
-/

import CatalogSync.Proofs.Bulk.Trial
import CatalogSync.Proofs.Workbench

namespace CatalogSync.Workbench

/-- The workbench after records were reindexed one after the other, whether they failed or not. -/
def reindexedEach (entityType : EntityType) (deferCommit : Bool) (bench : Workbench)
    (ids : List String) : Workbench :=
  ids.foldl (reindexed entityType deferCommit) bench

/-- The documents that reindexing a list of records brings to the index, in their order. -/
def documents (bench : Workbench) (entityType : EntityType) (ids : List String) :
    List (String × Record) :=
  ids.filterMap fun id => (bench.document entityType id).toOption

section Documents

variable {bench : Workbench} {entityType : EntityType} {id : String} (rest : List String)

theorem documents_cons_of_ok {entry : String × Record}
    (brought : bench.document entityType id = .ok entry) :
    bench.documents entityType (id :: rest) = entry :: bench.documents entityType rest := by
  unfold documents
  rw [List.filterMap_cons, brought]
  rfl

theorem documents_cons_of_error {failure : SearchError}
    (failed : bench.document entityType id = .error failure) :
    bench.documents entityType (id :: rest) = bench.documents entityType rest := by
  unfold documents
  rw [List.filterMap_cons, failed]
  rfl

/-- The documents of a list of records depend on what each of them comes to. -/
theorem documents_congr {first second : Workbench} (same : first.document = second.document) :
    first.documents = second.documents := by
  funext wantedType ids
  unfold documents
  rw [same]

end Documents

section Left

variable (entityType : EntityType) (deferCommit : Bool) (bench : Workbench)

theorem reindexedEach_cons (id : String) (rest : List String) :
    bench.reindexedEach entityType deferCommit (id :: rest) =
      (bench.reindexed entityType deferCommit id).reindexedEach entityType deferCommit rest := rfl

theorem reindexedEach_append (front rest : List String) :
    bench.reindexedEach entityType deferCommit (front ++ rest) =
      (bench.reindexedEach entityType deferCommit front).reindexedEach entityType deferCommit
        rest :=
  List.foldl_append

@[simp]
theorem store_reindexedEach (ids : List String) :
    (bench.reindexedEach entityType deferCommit ids).store = bench.store := by
  induction ids generalizing bench with
  | nil => rfl
  | cons id rest ih => rw [reindexedEach_cons, ih, store_reindexed]

@[simp]
theorem fetched_reindexedEach (ids : List String) :
    (bench.reindexedEach entityType deferCommit ids).fetched = bench.fetched ++ ids := by
  induction ids generalizing bench with
  | nil => exact (List.append_nil _).symm
  | cons id rest ih =>
    rw [reindexedEach_cons, ih, fetched_reindexed, List.append_assoc, List.singleton_append]

@[simp]
theorem refused_reindexedEach (ids : List String) :
    (bench.reindexedEach entityType deferCommit ids).index.refused = bench.index.refused := by
  induction ids generalizing bench with
  | nil => rfl
  | cons id rest ih => rw [reindexedEach_cons, ih, refused_reindexed]

@[simp]
theorem document_reindexedEach (ids : List String) :
    (bench.reindexedEach entityType deferCommit ids).document = bench.document :=
  document_congr (store_reindexedEach entityType deferCommit bench ids)
    (refused_reindexedEach entityType deferCommit bench ids)

/-- **The records that do not fail join the settled documents in their order.** -/
theorem settled_reindexedEach (ids : List String) :
    (bench.reindexedEach entityType deferCommit ids).index.settled =
      bench.index.settled.insertAll (bench.documents entityType ids) := by
  induction ids generalizing bench with
  | nil => rfl
  | cons id rest ih =>
    have same := document_reindexed entityType deferCommit bench id
    rw [reindexedEach_cons, ih, documents_congr same]
    cases brought : bench.document entityType id with
    | error failure =>
      obtain ⟨visible, pending⟩ := layers_reindexed_of_error brought deferCommit
      rw [documents_cons_of_error rest brought]
      unfold MemoryIndex.settled
      rw [visible, pending]
    | ok entry =>
      rw [documents_cons_of_ok rest brought, settled_reindexed_of_ok brought]
      rfl

/-- If nothing is pending and every write is committed at once, nothing is pending in the end. -/
theorem pending_reindexedEach (nothing : bench.index.pending = .empty) (ids : List String) :
    (bench.reindexedEach entityType false ids).index.pending = .empty := by
  induction ids generalizing bench with
  | nil => exact nothing
  | cons id rest ih =>
    rw [reindexedEach_cons]
    refine ih _ ?_
    cases found : bench.store.fetch? entityType id with
    | error failure =>
      rw [index_reindexed_of_error found]
      exact nothing
    | ok record =>
      rw [index_reindexed_of_ok found]
      exact MemoryIndex.pending_written (by exact nothing) record

/-- If every write is held back, readers see no change. -/
theorem visible_reindexedEach (ids : List String) :
    (bench.reindexedEach entityType true ids).index.visible = bench.index.visible := by
  induction ids generalizing bench with
  | nil => rfl
  | cons id rest ih =>
    rw [reindexedEach_cons, ih]
    cases found : bench.store.fetch? entityType id with
    | error failure => rw [index_reindexed_of_error found]
    | ok record =>
      rw [index_reindexed_of_ok found]
      exact MemoryIndex.visible_written_deferred _ record

/-- If every write is held back, the records that do not fail come to be pending in their order. -/
theorem pending_reindexedEach_deferred (ids : List String) :
    (bench.reindexedEach entityType true ids).index.pending =
      bench.index.pending.insertAll (bench.documents entityType ids) := by
  induction ids generalizing bench with
  | nil => rfl
  | cons id rest ih =>
    have same := document_reindexed entityType true bench id
    rw [reindexedEach_cons, ih, documents_congr same]
    cases brought : bench.document entityType id with
    | error failure =>
      rw [documents_cons_of_error rest brought, (layers_reindexed_of_error brought true).2]
    | ok entry =>
      obtain ⟨found, kept⟩ := document_eq_ok_iff.mp brought
      have joins : (bench.index.noted (.update (entry.2.id?.getD "") true)).accept entry.2 =
          .ok entry.1 := kept
      rw [documents_cons_of_ok rest brought, index_reindexed_of_ok found,
        MemoryIndex.written_of_ok joins]
      rfl

end Left

/-- Either no record of a list fails, or there is a first one that does. -/
theorem sound_or_stops (bench : Workbench) (entityType : EntityType) (ids : List String) :
    (∀ id ∈ ids, bench.fails entityType id = false) ∨
      ∃ front id rest failure, ids = front ++ id :: rest ∧
        (∀ earlier ∈ front, bench.fails entityType earlier = false) ∧
        bench.document entityType id = .error failure := by
  induction ids with
  | nil => exact .inl fun _ member => by cases member
  | cons head rest ih =>
    cases brought : bench.document entityType head with
    | error failure =>
      exact .inr ⟨[], head, rest, failure, rfl, fun _ member => (by cases member), brought⟩
    | ok entry =>
      have passes : bench.fails entityType head = false := fails_eq_false_iff.mpr ⟨entry, brought⟩
      rcases ih with sound | ⟨front, id, later, failure, split, sound, failed⟩
      · refine .inl fun id member => ?_
        rcases List.mem_cons.mp member with rfl | inside
        · exact passes
        · exact sound id inside
      · refine .inr ⟨head :: front, id, later, failure, by rw [split]; rfl, ?_, failed⟩
        intro earlier member
        rcases List.mem_cons.mp member with rfl | inside
        · exact passes
        · exact sound earlier inside

/-! ### One step of the loop -/

section Step

variable {entityType : EntityType} {deferCommit : Bool} {bench : Workbench}
  (options : RebuildOptions) (total position : Nat) (tally : Tally) {id : String}
  (rest : List String)

/-- A record that does not fail is counted, and the loop goes on. -/
theorem effect_reindexEach_of_ok {entry : String × Record}
    (brought : bench.document entityType id = .ok entry) :
    ((engine entityType).reindexEach options deferCommit total position tally (id :: rest)).effect
        bench =
      ((engine entityType).reindexEach options deferCommit total (position + 1)
        { tally with indexed := tally.indexed + 1 } rest).effect
        (bench.reindexed entityType deferCommit id) := by
  rw [Engine.effect_reindexEach_cons, effect_reindex, brought]
  rfl

/-- A record that fails is noted if the loop is forced and ends it otherwise. -/
theorem effect_reindexEach_of_error {failure : SearchError}
    (failed : bench.document entityType id = .error failure) :
    ((engine entityType).reindexEach options deferCommit total position tally (id :: rest)).effect
        bench =
      if options.force then
        ((engine entityType).reindexEach options deferCommit total (position + 1)
          { tally with failedIds := tally.failedIds ++ [id] } rest).effect
          (bench.reindexed entityType deferCommit id)
      else
        (.error (.rebuild id failure.message), bench.reindexed entityType deferCommit id) := by
  rw [Engine.effect_reindexEach_cons, effect_reindex, failed]
  rfl

end Step

/-! ### The whole loop -/

section Loop

variable {entityType : EntityType} (deferCommit : Bool) (options : RebuildOptions) (total : Nat)

/-- **A loop that is forced, or in which no record fails, comes to its end.** -/
theorem effect_reindexEach_of_complete {ids : List String} {bench : Workbench}
    (complete : options.force = true ∨ ∀ id ∈ ids, bench.fails entityType id = false)
    (position : Nat) (tally : Tally) :
    ((engine entityType).reindexEach options deferCommit total position tally ids).effect bench =
      (.ok ⟨tally.indexed + (ids.filter fun id => !bench.fails entityType id).length,
          tally.failedIds ++ ids.filter (bench.fails entityType)⟩,
        bench.reindexedEach entityType deferCommit ids) := by
  induction ids generalizing bench position tally with
  | nil =>
    simp only [List.filter_nil, List.length_nil, Nat.add_zero, List.append_nil]
    rfl
  | cons id rest ih =>
    have same := fails_reindexed entityType deferCommit bench id
    have goesOn : options.force = true ∨ ∀ other ∈ rest,
        (bench.reindexed entityType deferCommit id).fails entityType other = false := by
      rw [same]
      exact complete.imp_right fun sound other member =>
        sound other (List.mem_cons_of_mem id member)
    cases brought : bench.document entityType id with
    | ok entry =>
      have passes : bench.fails entityType id = false := fails_eq_false_iff.mpr ⟨entry, brought⟩
      rw [effect_reindexEach_of_ok options total position tally rest brought, ih goesOn, same,
        List.filter_cons_of_pos (by rw [passes]; rfl),
        List.filter_cons_of_neg (by rw [passes]; simp), List.length_cons, reindexedEach_cons]
      simp only [Nat.add_assoc, Nat.add_comm 1]
    | error failure =>
      have refuses : bench.fails entityType id = true := fails_eq_true_iff.mpr ⟨failure, brought⟩
      have forced : options.force = true := by
        rcases complete with forced | sound
        · exact forced
        · have passes := sound id List.mem_cons_self
          rw [refuses] at passes
          cases passes
      rw [effect_reindexEach_of_error options total position tally rest brought, if_pos forced,
        ih goesOn, same, List.filter_cons_of_neg (by rw [refuses]; simp),
        List.filter_cons_of_pos refuses, reindexedEach_cons, List.append_assoc,
        List.singleton_append]

/-- **A loop that is not forced ends at the first record that fails.** -/
theorem effect_reindexEach_of_abort (unforced : options.force = false) {front : List String}
    {bench : Workbench} {id : String} {failure : SearchError} (rest : List String)
    (sound : ∀ earlier ∈ front, bench.fails entityType earlier = false)
    (failed : bench.document entityType id = .error failure) (position : Nat) (tally : Tally) :
    ((engine entityType).reindexEach options deferCommit total position tally
        (front ++ id :: rest)).effect bench =
      (.error (.rebuild id failure.message),
        bench.reindexedEach entityType deferCommit (front ++ [id])) := by
  induction front generalizing bench position tally with
  | nil =>
    have notForced : ¬ options.force = true := by
      rw [unforced]
      exact Bool.false_ne_true
    rw [List.nil_append, effect_reindexEach_of_error options total position tally rest failed,
      if_neg notForced]
    rfl
  | cons head front ih =>
    obtain ⟨entry, brought⟩ := fails_eq_false_iff.mp (sound head List.mem_cons_self)
    rw [List.cons_append, effect_reindexEach_of_ok options total position tally _ brought,
      List.cons_append, reindexedEach_cons]
    refine ih (fun earlier member => ?_) ?_ _ _
    · rw [fails_reindexed]
      exact sound earlier (List.mem_cons_of_mem head member)
    · rw [document_reindexed]
      exact failed

end Loop

end CatalogSync.Workbench
