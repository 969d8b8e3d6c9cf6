/-
**Merging what is said about entities.**

An entry says of an entity that it was created, changed or deleted.

* `firsts` — the first entry about each identity, in their order.
* `merge` — what a row of entries comes to: an identity that is ever deleted counts as deleted, with
  its first deletion, and any other by the first entry about it.
* `verdict` — the same for a single identity. **`filter_merge`** — about every identity the merged
  entries say its verdict, once. So there is one of them for each identity (`length_merge`).
* `surviving_append_fresh`, `surviving_append_deletion` and their like — what one more entry does to
  the groups that are merged. It counts only if it is the first one about its identity, or the
  first deletion.
-/

import CatalogSync.Change
import Mathlib.Data.Finset.Card

namespace CatalogSync.ChangeSet

variable {ε : Type} [Entity ε]

/-! ### Entries by identity -/

/-- The identity that an entry is about. -/
def subject (entry : ε × ChangeOperation) : Identity := Entity.identity entry.1

/-- Whether an entry is about an identity. -/
def isAbout (identity : Identity) (entry : ε × ChangeOperation) : Bool := subject entry == identity

theorem find?_isAbout_eq_none {entries : List (ε × ChangeOperation)} {identity : Identity} :
    entries.find? (isAbout identity) = none ↔ identity ∉ entries.map subject := by
  rw [List.find?_eq_none, List.mem_map]
  unfold isAbout
  simp only [beq_iff_eq, not_exists, not_and]

/-! ### The first entry about each identity -/

/-- The first entry about each identity, in their order. -/
def firsts : List (ε × ChangeOperation) → List (ε × ChangeOperation)
  | [] => []
  | entry :: rest => entry :: (firsts rest).filter fun later => !isAbout (subject entry) later

theorem filter_firsts (entries : List (ε × ChangeOperation)) (identity : Identity) :
    (firsts entries).filter (isAbout identity) = (entries.find? (isAbout identity)).toList := by
  induction entries with
  | nil => rfl
  | cons entry rest ih =>
    unfold firsts
    by_cases here : isAbout identity entry = true
    · have same : subject entry = identity := eq_of_beq here
      have none : (firsts rest).filter
          (fun later => isAbout identity later && !isAbout identity later) = [] := by
        simp only [Bool.and_not_self, List.filter_false]
      rw [List.filter_cons_of_pos here, List.find?_cons_of_pos here, same, List.filter_filter, none]
      rfl
    · have apart : subject entry ≠ identity := fun same => here (beq_iff_eq.mpr same)
      rw [List.filter_cons_of_neg here, List.find?_cons_of_neg here, List.filter_filter, ← ih]
      refine List.filter_congr fun later _ => ?_
      -- an entry about this identity is not about the one at the head
      by_cases about : isAbout identity later = true
      · have other : isAbout (subject entry) later = false :=
          beq_eq_false_iff_ne.mpr fun same => apart (same.symm.trans (eq_of_beq about))
        rw [about, other]
        rfl
      · rw [Bool.eq_false_of_not_eq_true about, Bool.false_and]

theorem mem_subjects_firsts (entries : List (ε × ChangeOperation)) (identity : Identity) :
    identity ∈ (firsts entries).map subject ↔ identity ∈ entries.map subject := by
  rw [← not_iff_not, ← find?_isAbout_eq_none, ← find?_isAbout_eq_none, ← List.head?_filter,
    filter_firsts, Option.head?_toList]

/-- One more entry is a first one unless there is an entry about its identity already. -/
theorem firsts_append_singleton (entries : List (ε × ChangeOperation))
    (entry : ε × ChangeOperation) :
    firsts (entries ++ [entry]) =
      firsts entries ++ if subject entry ∈ entries.map subject then [] else [entry] := by
  induction entries with
  | nil => rfl
  | cons head rest ih =>
    rw [List.cons_append, firsts, firsts, ih, List.filter_append, List.cons_append, List.map_cons]
    refine congrArg (head :: ·) (congrArg (List.filter _ (firsts rest) ++ ·) ?_)
    by_cases same : subject entry = subject head
    · have about : isAbout (subject head) entry = true := beq_iff_eq.mpr same
      have known : subject entry ∈ subject head :: rest.map subject := same ▸ List.mem_cons_self
      rw [if_pos known]
      split
      · rfl
      · rw [List.filter_cons_of_neg (by rw [about]; exact Bool.false_ne_true), List.filter_nil]
    · have other : isAbout (subject head) entry = false := beq_eq_false_iff_ne.mpr same
      simp only [List.mem_cons, same, false_or]
      split
      · rfl
      · rw [List.filter_cons_of_pos (by rw [other]; rfl), List.filter_nil]

/-! ### The merged entries -/

/-- The entries that are deletions. -/
def deletions (said : List (ε × ChangeOperation)) : List (ε × ChangeOperation) :=
  said.filter fun entry => entry.2 == .deleted

/-- The first entry about each identity that is never deleted. -/
def surviving (said : List (ε × ChangeOperation)) : List (ε × ChangeOperation) :=
  (firsts said).filter fun entry => !((deletions said).map subject).contains (subject entry)

/-- What all entries come to: first the identities that were created first, then those that were
changed first, then those that were deleted, each group in the order of these entries. -/
def merge (said : List (ε × ChangeOperation)) : List (ε × ChangeOperation) :=
  (surviving said).filter (fun entry => entry.2 == .created) ++
    (surviving said).filter (fun entry => entry.2 == .changed) ++ firsts (deletions said)

/-- What all entries come to about one identity: its first deletion, or else the first entry about
it. -/
def verdict (said : List (ε × ChangeOperation)) (identity : Identity) :
    Option (ε × ChangeOperation) :=
  ((deletions said).find? (isAbout identity)).or (said.find? (isAbout identity))

section Merge

variable {said : List (ε × ChangeOperation)}

/-- Only what was spoken of is deleted. -/
theorem mem_said_of_deleted {identity : Identity}
    (deleted : identity ∈ (deletions said).map subject) : identity ∈ said.map subject :=
  List.map_subset subject (List.filter_subset_self _ ) deleted

theorem filter_surviving_of_deleted {identity : Identity}
    (deleted : identity ∈ (deletions said).map subject) :
    (surviving said).filter (isAbout identity) = [] := by
  rw [List.filter_eq_nil_iff]
  intro entry member about
  have apart := (List.mem_filter.mp member).2
  rw [eq_of_beq about, List.contains_iff_mem.mpr deleted] at apart
  cases apart

/-- What is deleted does not survive. -/
theorem filter_surviving_not_of_deleted {identity : Identity}
    (deleted : identity ∈ (deletions said).map subject) :
    (surviving said).filter (fun entry => !isAbout identity entry) = surviving said := by
  refine List.filter_eq_self.mpr fun entry member => ?_
  have none := List.filter_eq_nil_iff.mp (filter_surviving_of_deleted deleted) entry member
  rw [Bool.eq_false_of_not_eq_true none]
  rfl

theorem filter_surviving_of_kept {identity : Identity}
    (kept : identity ∉ (deletions said).map subject) :
    (surviving said).filter (isAbout identity) = (said.find? (isAbout identity)).toList := by
  rw [← filter_firsts, surviving, List.filter_filter]
  refine List.filter_congr fun entry _ => ?_
  by_cases about : isAbout identity entry = true
  · have survives : ((deletions said).map subject).contains identity = false :=
      Bool.eq_false_of_not_eq_true (mt List.contains_iff_mem.mp kept)
    rw [about, eq_of_beq about, survives]
    rfl
  · rw [Bool.eq_false_of_not_eq_true about, Bool.false_and]

/-- **About every identity the merged entries say its verdict, once.** -/
theorem filter_merge (said : List (ε × ChangeOperation)) (identity : Identity) :
    (merge said).filter (isAbout identity) = (verdict said identity).toList := by
  have group (operation : ChangeOperation) :
      ((surviving said).filter fun entry => entry.2 == operation).filter (isAbout identity) =
        ((surviving said).filter (isAbout identity)).filter fun entry => entry.2 == operation :=
    List.filter_comm _ _ _
  rw [merge, List.filter_append, List.filter_append, group, group, filter_firsts]
  unfold verdict
  cases deletion : (deletions said).find? (isAbout identity) with
  | some entry =>
    have deleted : identity ∈ (deletions said).map subject := by
      by_contra kept
      rw [find?_isAbout_eq_none.mpr kept] at deletion
      cases deletion
    rw [filter_surviving_of_deleted deleted]
    rfl
  | none =>
    have kept := find?_isAbout_eq_none.mp deletion
    rw [filter_surviving_of_kept kept, Option.none_or]
    cases found : said.find? (isAbout identity) with
    | none => rfl
    | some entry =>
      obtain ⟨entity, operation⟩ := entry
      have hit : isAbout identity (entity, operation) = true := List.find?_some found
      have about : subject (entity, operation) = identity := eq_of_beq hit
      cases operation with
      | created => rfl
      | changed => rfl
      | deleted =>
        refine absurd ?_ kept
        rw [← about]
        exact List.mem_map_of_mem (List.mem_filter.mpr ⟨List.mem_of_find?_eq_some found, rfl⟩)

/-- There is a verdict on what was spoken of. -/
theorem verdict_eq_none_iff {identity : Identity} :
    verdict said identity = none ↔ identity ∉ said.map subject := by
  unfold verdict
  rw [Option.or_eq_none_iff, find?_isAbout_eq_none, find?_isAbout_eq_none]
  exact ⟨And.right, fun silent => ⟨mt mem_said_of_deleted silent, silent⟩⟩

/-- No identity is spoken of twice. -/
theorem nodup_subjects_merge (said : List (ε × ChangeOperation)) :
    ((merge said).map subject).Nodup := by
  rw [List.nodup_iff_count_le_one]
  intro identity
  have counted : ((merge said).map subject).count identity =
      ((merge said).filter (isAbout identity)).length := by
    rw [List.count, List.countP_map, List.countP_eq_length_filter]
    rfl
  rw [counted, filter_merge]
  cases verdict said identity with
  | none => exact Nat.zero_le 1
  | some entry => exact Nat.le_refl 1

/-- The merged entries are about what was spoken of. -/
theorem mem_subjects_merge (identity : Identity) :
    identity ∈ (merge said).map subject ↔ identity ∈ said.map subject := by
  rw [← not_iff_not, ← find?_isAbout_eq_none, ← List.head?_filter, filter_merge,
    Option.head?_toList, verdict_eq_none_iff]

/-- So there is one of them for each identity. -/
theorem length_merge (said : List (ε × ChangeOperation)) :
    (merge said).length = (said.map subject).toFinset.card := by
  have same : ((merge said).map subject).toFinset = (said.map subject).toFinset := by
    ext identity
    rw [List.mem_toFinset, List.mem_toFinset, mem_subjects_merge]
  rw [← same, List.toFinset_card_of_nodup (nodup_subjects_merge said), List.length_map]

end Merge

/-! ### The merged entries after one more -/

section Append

variable {said : List (ε × ChangeOperation)} {entity : ε}

omit [Entity ε] in
theorem deletions_append_deletion :
    deletions (said ++ [(entity, .deleted)]) = deletions said ++ [(entity, .deleted)] :=
  List.filter_append _ _

/-- One more deletion takes its identity out of those that survive. -/
theorem surviving_append_deletion :
    surviving (said ++ [(entity, .deleted)]) =
      (surviving said).filter fun entry => !isAbout (Entity.identity entity) entry := by
  have subjects : (deletions (said ++ [(entity, .deleted)])).map subject =
      (deletions said).map subject ++ [Entity.identity entity] := by
    rw [deletions_append_deletion, List.map_append]
    rfl
  have gone : ((deletions said).map subject ++ [Entity.identity entity]).contains
      (subject (entity, .deleted)) = true :=
    List.contains_iff_mem.mpr (List.mem_append_right _ List.mem_cons_self)
  have last : (if subject (entity, .deleted) ∈ said.map subject then []
      else [(entity, ChangeOperation.deleted)]).filter (fun entry =>
        !((deletions said).map subject ++ [Entity.identity entity]).contains (subject entry)) =
      [] := by
    split
    · rfl
    · rw [List.filter_cons_of_neg (by rw [gone]; exact Bool.false_ne_true), List.filter_nil]
  rw [surviving, firsts_append_singleton, subjects, List.filter_append, last, List.append_nil,
    surviving, List.filter_filter]
  refine List.filter_congr fun entry _ => ?_
  rw [List.contains_append, Bool.not_or, Bool.and_comm, List.contains_cons, List.contains_nil,
    Bool.or_false]
  rfl

variable {operation : ChangeOperation} (alive : operation ≠ .deleted)
include alive

omit [Entity ε] in
theorem deletions_append_upsert : deletions (said ++ [(entity, operation)]) = deletions said := by
  unfold deletions
  rw [List.filter_append, List.filter_cons_of_neg (by simpa using alive), List.filter_nil,
    List.append_nil]

theorem surviving_append_known (known : Entity.identity entity ∈ said.map subject) :
    surviving (said ++ [(entity, operation)]) = surviving said := by
  have spoken : subject (entity, operation) ∈ said.map subject := known
  unfold surviving
  rw [deletions_append_upsert alive, firsts_append_singleton, if_pos spoken, List.append_nil]

theorem surviving_append_fresh (fresh : Entity.identity entity ∉ said.map subject) :
    surviving (said ++ [(entity, operation)]) = surviving said ++ [(entity, operation)] := by
  have unspoken : subject (entity, operation) ∉ said.map subject := fresh
  have survives : ((deletions said).map subject).contains (subject (entity, operation)) = false :=
    Bool.eq_false_of_not_eq_true (mt List.contains_iff_mem.mp (mt mem_said_of_deleted unspoken))
  unfold surviving
  rw [deletions_append_upsert alive, firsts_append_singleton, if_neg unspoken, List.filter_append,
    List.filter_cons_of_pos (by rw [survives]; rfl), List.filter_nil]

end Append

end CatalogSync.ChangeSet
