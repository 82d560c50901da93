import NoteVault.Registry.Basic

namespace NoteVault

-- What a program may ask of its surroundings, each with the type of the answer.
inductive Event : Type → Type 1 where
  | call {α : Type} (call : Call α) : Event (Except StorageFault α)
  | now : Event Time.Instant
  | depth : Event Nat

-- What a program is let ask, and what it may count on in the answers.
structure Contract where
  asks : {α : Type} → Event α → Prop
  hears : {α : Type} → Event α → α → Prop

namespace Registry

variable {m : Type → Type} {α β : Type}

def respond (registry : Registry m) : {α : Type} → Event α → m α
  | _, .call call => registry.storage.perform call
  | _, .now => registry.now
  | _, .depth => registry.storage.depth

-- A program that asks no more than a contract lets it. Its results are as
-- described when the answers are as the contract says.
inductive Follows [Monad m] (registry : Registry m) (contract : Contract) :
    {α : Type} → m α → (α → Prop) → Prop
  | pure {α : Type} {value : α} {post : α → Prop} (h : post value) :
      Follows registry contract (pure value) post
  | bind {α β : Type} {program : m α} {next : α → m β} {middle : α → Prop} {post : β → Prop}
      (first : Follows registry contract program middle)
      (rest : ∀ value, middle value → Follows registry contract (next value) post) :
      Follows registry contract (program >>= next) post
  | event {α : Type} (event : Event α) {post : α → Prop} (hasks : contract.asks event)
      (hpost : ∀ answer, contract.hears event answer → post answer) :
      Follows registry contract (registry.respond event) post

-- The same of work, where nothing is said of failures.
def Works [Monad m] (registry : Registry m) (contract : Contract) (work : Work m α)
    (post : α → Prop) : Prop :=
  registry.Follows contract work.run fun result => ∀ value, result = .ok value → post value

variable [Monad m] {registry : Registry m} {contract : Contract}

theorem Follows.mono {program : m α} {post other : α → Prop}
    (h : registry.Follows contract program post) (himp : ∀ value, post value → other value) :
    registry.Follows contract program other := by
  induction h with
  | pure h => exact .pure (himp _ h)
  | bind first rest _ ih => exact .bind first fun value hm => ih value hm himp
  | event event hasks hpost => exact .event event hasks fun answer hh => himp answer (hpost answer hh)

theorem Follows.call {call : Call α} {post : Except StorageFault α → Prop}
    (hasks : contract.asks (.call call))
    (hpost : ∀ answer, contract.hears (.call call) answer → post answer) :
    registry.Follows contract (registry.storage.perform call) post :=
  .event (.call call) hasks hpost

theorem Follows.now {post : Time.Instant → Prop} (hasks : contract.asks .now)
    (hpost : ∀ instant, contract.hears .now instant → post instant) :
    registry.Follows contract registry.now post :=
  .event .now hasks hpost

theorem Follows.depth {post : Nat → Prop} (hasks : contract.asks .depth)
    (hpost : ∀ count, contract.hears .depth count → post count) :
    registry.Follows contract registry.storage.depth post :=
  .event .depth hasks hpost

namespace Works

variable {post other : α → Prop}

theorem mono {work : Work m α} (h : registry.Works contract work post)
    (himp : ∀ value, post value → other value) : registry.Works contract work other :=
  Follows.mono h fun _ hpost value hv => himp value (hpost value hv)

theorem pure {value : α} (h : post value) : registry.Works contract (pure value) post := by
  refine Follows.pure fun other ho => ?_
  obtain rfl := Except.ok.inj ho
  exact h

theorem throw (failure : Failure) : registry.Works contract (throw failure : Work m α) post :=
  Follows.pure fun _ h => nomatch h

theorem bind {work : Work m α} {next : α → Work m β} {last : β → Prop}
    (first : registry.Works contract work post)
    (rest : ∀ value, post value → registry.Works contract (next value) last) :
    registry.Works contract (work >>= next) last := by
  refine Follows.bind first fun result hresult => ?_
  cases result with
  | ok value => exact rest value (hresult value rfl)
  | error failure => exact throw failure

theorem throw_bind (failure : Failure) (next : β → Work m α) :
    registry.Works contract (MonadExcept.throw failure >>= next) post :=
  Follows.bind (Follows.pure rfl) fun _ hr => hr ▸ throw failure

theorem orFail {ε : Type} {failure : ε → Failure} {result : Except ε α}
    (h : ∀ value, result = .ok value → post value) :
    registry.Works contract (orFail failure result) post := by
  cases result with
  | ok value => exact pure (h value rfl)
  | error fault => exact throw (failure fault)

section

variable [LawfulMonad m]

theorem lift {program : m α} (h : registry.Follows contract program post) :
    registry.Works contract (liftM program : Work m α) post := by
  have hrun : (liftM program : Work m α).run = program >>= fun value => Pure.pure (.ok value) :=
    map_eq_pure_bind _ _
  rw [Works, hrun]
  refine Follows.bind h fun value hv => Follows.pure fun other ho => ?_
  obtain rfl := Except.ok.inj ho
  exact hv

theorem ask {call : Call α} (hasks : contract.asks (.call call))
    (hpost : ∀ answer, contract.hears (.call call) (.ok answer) → post answer) :
    registry.Works contract (registry.storage.ask call) post := by
  refine bind (lift (Follows.call hasks fun _ h => h)) fun answer hh => ?_
  cases answer with
  | ok answer => exact pure (hpost answer hh)
  | error fault => exact throw _

theorem mapM {items : List α} {step : α → Work m β} {last : α → β → Prop}
    (h : ∀ item ∈ items, registry.Works contract (step item) (last item)) :
    registry.Works contract (items.mapM step) fun values =>
      ∀ value ∈ values, ∃ item ∈ items, last item value := by
  induction items with
  | nil => exact pure fun _ hv => nomatch hv
  | cons item items ih =>
      rw [List.mapM_cons]
      refine bind (h item List.mem_cons_self) fun value hv => ?_
      refine bind (ih fun other ho => h other (List.mem_cons_of_mem item ho)) fun values hvs => ?_
      refine pure fun other ho => ?_
      rcases List.mem_cons.mp ho with rfl | ho
      · exact ⟨item, List.mem_cons_self, hv⟩
      · obtain ⟨source, hs, hlast⟩ := hvs other ho
        exact ⟨source, List.mem_cons_of_mem item hs, hlast⟩

end

end Works

end Registry

end NoteVault
