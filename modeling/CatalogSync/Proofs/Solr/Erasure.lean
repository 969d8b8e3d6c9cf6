/-
**A core does not see that its exchanges are noted.**

* `Client.engine` — the engine for bulk operations on a core and a store of record, without notes.
* `erases_write`, `erases_ids` — single writes and the enumeration come to the same without notes.
* **`erases_recording`** — so do all calls of the engine with notes, and with them its rebuilds.
* **`erases_dispatch`** — so does the dispatch of a change.
-/

import CatalogSync.Proofs.Bulk.Erasure
import CatalogSync.Proofs.Feed.Order
import CatalogSync.Proofs.Solr.Ledger

namespace CatalogSync

/-- A core and a store of record, without the notes on them. -/
def Ledger.erase {σ τ : Type} (ledger : Ledger σ τ) : σ × τ := (ledger.core.1, ledger.records.1)

namespace Solr.Client

variable {σ τ : Type} (client : Client σ)

/-! ### Calls -/

theorem erases_exchange (method : Http.Method) (url : String) (pairs : List (String × String))
    (body : Option Value) :
    Action.Erases Prod.fst (client.noted.exchange method url pairs body)
      (client.exchange method url pairs body) := by
  intro state
  rw [effect_exchange_eq, effect_exchange_eq, request_noted]
  cases client.request method url pairs body with
  | error complaint => rfl
  | ok request => rfl

theorem erases_select (filter fields : String) (rows start : Nat) :
    Action.Erases Prod.fst (client.noted.select filter fields rows start)
      (client.select filter fields rows start) := by
  unfold select
  rw [endpoint_noted]
  refine (Action.Erases.ofExcept _).bind fun url =>
    (erases_exchange client _ _ _ _).bind fun reply => ?_
  split
  · split
    · exact .pure _
    · exact .fail _
  · exact (Action.Erases.tell _ _ _).bind fun _ => .fail _

theorem erases_collect (limit start : Nat) (found : List String) :
    Action.Erases Prod.fst (client.noted.collect limit start found)
      (client.collect limit start found) := by
  induction left : Text.wordLimit - start using Nat.strongRecOn generalizing start found with
  | _ left ih =>
  rw [collect, collect]
  split
  · refine (erases_select client _ _ _ _).bind fun page => ?_
    split
    · exact .pure _
    · split
      · next some further =>
        have bounded := page.numFound_lt
        exact ih _ (by omega) _ _ rfl
      · exact .pure _
  · exact .pure _

/-- The enumeration comes to the same without notes. -/
theorem erases_ids (limit : Option Nat) :
    Action.Erases Prod.fst (client.noted.reader.ids limit) (client.reader.ids limit) :=
  (erases_collect client _ _ _).bind fun _ => (Action.Erases.tell _ _ _).bind fun _ => .pure _

/-- A write comes to the same without notes. -/
theorem erases_write (write : IndexWrite) :
    Action.Erases Prod.fst (write.perform client.noted.writer) (write.perform client.writer) := by
  intro state
  obtain ⟨sent, accounts⟩ := client.accounts write state
  exact accounts.plain.symm

/-! ### Engines -/

variable (entityType : EntityType) (store : RecordStore τ)

/-- The engine for bulk operations on a core and a store of record. -/
def engine : Engine (σ × τ) :=
  ⟨entityType, client.writer.on .first, client.reader.on .first, store.on .second⟩

/-- A call on the core of a ledger comes to the same without notes if the call on the core does. -/
theorem erases_core {α : Type} {action : Action (σ × List Http.Exchange) α} {plain : Action σ α}
    (erases : Action.Erases Prod.fst action plain) :
    Action.Erases (Ledger.erase : Ledger σ τ → σ × τ) (action.on Ledger.corePart)
      (plain.on .first) := by
  intro ledger
  rw [Action.effect_on, Action.effect_on]
  show ((plain.effect ledger.core.1).1, (plain.effect ledger.core.1).2, ledger.records.1) = _
  rw [erases ledger.core]
  rfl

/-- **All that the engine with notes calls comes to the same without them.** -/
theorem erases_recording :
    (client.recording entityType store).Erases Ledger.erase (client.engine entityType store) where
  entityType := rfl
  write write := by
    unfold recording engine
    simp only [IndexWrite.perform_on]
    exact erases_core (erases_write client write)
  ids limit := erases_core (erases_ids client limit)
  fetch _ _ := fun _ => rfl
  enumerate _ _ := fun _ => rfl
  commit := fun _ => rfl

/-- **A change is dispatched alike without notes.** -/
theorem erases_dispatch {noted : Registry (IndexWriter (σ × List Http.Exchange))}
    {plain : Registry (IndexWriter σ)} {entityType : EntityType}
    (registered : noted.get? entityType = some client.noted.writer)
    (registered' : plain.get? entityType = some client.writer) (record : Record)
    (operation : ChangeOperation) :
    Action.Erases Prod.fst (noted.dispatch entityType record operation)
      (plain.dispatch entityType record operation) := by
  intro state
  rw [Registry.effect_dispatch registered, Registry.effect_dispatch registered',
    IndexWrite.applyChange_eq_perform, IndexWrite.applyChange_eq_perform]
  exact erases_write client _ state

end Solr.Client

end CatalogSync
