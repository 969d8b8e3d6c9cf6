/-
**What an action sends.**

* `Http.Exchange` — a request and the reply to it, if there is one. It is acknowledged if the reply
  is a success.
* `Http.Transport.noted` — a transport in front of which every exchange is noted.
* `Http.Transport.Adds` — whatever the state is in which a request is carried, only entries that
  pass a test are added to a log.
* `Action.Adds` — the same for an action, whatever state it starts from. It is shown for the parts
  of an action and carried to the whole of it by `Adds.bind`.
* `Action.Sends` — the same for the requests in the log of a noted transport.
-/

import CatalogSync.Http.Transport

namespace CatalogSync

namespace Http

/-- A request and the reply to it. -/
structure Exchange where
  request : Request
  reply : Option Reply

/-- Whether a request was answered with success. -/
def Exchange.isAcknowledged (exchange : Exchange) : Bool :=
  exchange.reply.any fun reply => isSuccess reply.status

/-- The transport in front of which every exchange is noted, the latest last. -/
def Transport.noted {σ : Type} (transport : Transport σ) : Transport (σ × List Exchange) where
  exchange request state :=
    let (reply, reached) := transport.exchange request state.1
    (reply, reached, state.2 ++ [⟨request, reply⟩])

/-- Carrying a request adds to a log only entries that pass a test. -/
def Transport.Adds {σ ε : Type} (transport : Transport σ) (request : Request) (log : σ → List ε)
    (test : ε → Prop) : Prop :=
  ∀ state, ∃ made, log (transport.exchange request state).2 = log state ++ made ∧
    ∀ entry ∈ made, test entry

/-- A noted transport adds the request that it carries. -/
theorem Transport.adds_noted {σ : Type} (transport : Transport σ) {request : Request}
    {test : Request → Prop} (passes : test request) :
    transport.noted.Adds request Prod.snd fun exchange => test exchange.request :=
  fun _ => ⟨[_], rfl, fun _ member => List.mem_singleton.mp member ▸ passes⟩

end Http

namespace Action

variable {σ τ α β ε : Type}

/-- The action adds to a log only entries that pass a test. -/
def Adds (action : Action σ α) (log : σ → List ε) (test : ε → Prop) : Prop :=
  ∀ state, ∃ made, log (action.effect state).2 = log state ++ made ∧ ∀ entry ∈ made, test entry

namespace Adds

variable {log : σ → List ε} {test weaker : ε → Prop} {action : Action σ α}

/-- An action that leaves the log as it is adds nothing to it. -/
theorem of_unchanged (unchanged : ∀ state, log (action.effect state).2 = log state) :
    action.Adds log test :=
  fun state => ⟨[], by rw [unchanged, List.append_nil], fun _ member => by cases member⟩

theorem congr {other : Action σ α} (same : ∀ state, action.effect state = other.effect state)
    (adds : other.Adds log test) : action.Adds log test :=
  fun state => by
    rw [same]
    exact adds state

theorem pure (value : α) : (Pure.pure value : Action σ α).Adds log test := of_unchanged fun _ => rfl

theorem fail (failure : SearchError) : (Action.fail failure : Action σ α).Adds log test :=
  of_unchanged fun _ => rfl

theorem tell (level : Level) (message : String) (fields : List (String × Detail)) :
    (Action.tell level message fields : Action σ Unit).Adds log test :=
  of_unchanged fun _ => rfl

theorem ofExcept (given : Except SearchError α) :
    (Action.ofExcept given : Action σ α).Adds log test :=
  of_unchanged fun state => by rw [effect_ofExcept]

/-- Only what was given is handed on. -/
theorem ofExcept_bind {given : Except SearchError α} {next : α → Action σ β}
    (rest : ∀ value, given = .ok value → (next value).Adds log test) :
    (Action.ofExcept given >>= next).Adds log test := by
  cases given with
  | error failure => exact fail failure
  | ok value => exact rest value rfl

/-- What two actions in a row add is what each of them adds. -/
theorem bind {next : α → Action σ β} (first : action.Adds log test)
    (rest : ∀ value, (next value).Adds log test) : (action >>= next).Adds log test := by
  intro state
  obtain ⟨made, noted, each⟩ := first state
  rcases ran : action.effect state with ⟨failure | value, reached⟩
  · rw [effect_bind_of_error ran]
    rw [ran] at noted
    exact ⟨made, noted, each⟩
  · rw [effect_bind_of_ok ran]
    rw [ran] at noted
    obtain ⟨more, further, others⟩ := rest value reached
    refine ⟨made ++ more, by rw [further, noted, List.append_assoc], fun entry member => ?_⟩
    rcases List.mem_append.mp member with here | there
    · exact each entry here
    · exact others entry there

theorem attempt (adds : action.Adds log test) : action.attempt.Adds log test := adds

/-- Where nothing can be added, nothing changes. -/
theorem eq_of_singleton {part : σ → τ}
    (adds : action.Adds (fun state => [part state]) fun _ => False) (state : σ) :
    part (action.effect state).2 = part state := by
  obtain ⟨made, noted, none⟩ := adds state
  obtain rfl : made = [] := List.eq_nil_iff_forall_not_mem.mpr none
  exact List.singleton_inj.mp noted

theorem mono (adds : action.Adds log test) (weakens : ∀ entry, test entry → weaker entry) :
    action.Adds log weaker := by
  intro state
  obtain ⟨made, noted, each⟩ := adds state
  exact ⟨made, noted, fun entry member => weakens entry (each entry member)⟩

/-- An action on a part of a state adds to the log in that part what it adds by itself. -/
theorem on {whole : τ → List ε} (lens : Lens τ σ)
    (reads : ∀ state, whole state = log (lens.get state))
    (adds : action.Adds log test) : (action.on lens).Adds whole test := by
  intro state
  obtain ⟨made, noted, each⟩ := adds (lens.get state)
  refine ⟨made, ?_, each⟩
  rw [effect_on, reads, reads, lens.get_set, noted]

end Adds

/-- The action sends only requests that pass a test. -/
def Sends (action : Action (σ × List Http.Exchange) α) (test : Http.Request → Prop) : Prop :=
  action.Adds Prod.snd fun exchange => test exchange.request

end Action

end CatalogSync
