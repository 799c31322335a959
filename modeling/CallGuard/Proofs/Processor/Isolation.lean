/-
What one item's work does to its scope is of no consequence to the items after it. Work has
the scope it was given and can cancel that and all that it derives from it (`Confined`), but
it has no hold on the scope above, from which the next item's scope is derived. So every item
begins with a scope that has not ended, unless the processor was aborted. Panics are of no
consequence either: see `Processor.Panics`.
-/
import CallGuard.Proofs.Processor.Halting
import CallGuard.Proofs.Processor.Panics
import CallGuard.Proofs.Scope.Alone
import CallGuard.Proofs.Scope.Inheritance

namespace CallGuard

variable {S ι σ α β : Type}

/-! ## Tokens that are left alone -/

namespace Signals

variable {s s' s'' : Signals} {kept : List Nat}

/-- Only tokens that were made were cancelled. -/
def Proper (s : Signals) : Prop := ∀ a ∈ s.raised, a < s.issued

/-- The token of a scope was made, and after those that it comes from. -/
structure Has (s : Signals) (scope : Scope) : Prop where
  made : scope.token.id < s.issued
  later : ∀ a ∈ scope.token.ancestors, a < scope.token.id

/-- Tokens may be made, and any cancelled but those that are kept. -/
structure Sparing (kept : List Nat) (s s' : Signals) : Prop where
  issued : s.issued ≤ s'.issued
  proper : s.Proper → s'.Proper
  spared : ∀ a ∈ kept, a ∈ s'.raised → a ∈ s.raised

theorem Sparing.refl (kept : List Nat) (s : Signals) : Sparing kept s s :=
  ⟨Nat.le_refl _, id, fun _ _ h => h⟩

theorem Sparing.trans (h : Sparing kept s s') (h' : Sparing kept s' s'') : Sparing kept s s'' :=
  ⟨Nat.le_trans h.issued h'.issued, fun proper => h'.proper (h.proper proper),
    fun a ha raised => h.spared a ha (h'.spared a ha raised)⟩

theorem Sparing.raise {t : Token} (made : t.id < s.issued) (other : t.id ∉ kept) :
    Sparing kept s (s.raise t) where
  issued := Nat.le_of_eq (issued_raise s t).symm
  proper proper a ha := by
    rw [issued_raise]
    rcases mem_raised_raise.1 ha with old | rfl
    · exact proper a old
    · exact made
  spared a ha raised := by
    rcases mem_raised_raise.1 raised with old | rfl
    · exact old
    · exact absurd ha other

theorem Has.mono {scope : Scope} (h : s.Has scope) (le : s.issued ≤ s'.issued) : s'.Has scope :=
  ⟨Nat.lt_of_lt_of_le h.made le, h.later⟩

theorem Has.sparing_raise {scope : Scope} (h : s.Has scope) :
    Sparing scope.token.ancestors s (s.raise scope.token) :=
  .raise h.made fun above => Nat.lt_irrefl _ (h.later _ above)

end Signals

open Signals (Sparing)

namespace Operation

/-- An operation that has no hold on the tokens above the scope that it is given. -/
structure Confined (op : Operation S ι σ α) : Prop where
  start : ∀ request n scope now w, w.signals.Has scope →
    Sparing scope.token.ancestors w.signals (op.start request n scope now w).1.signals
  resume : ∀ scope now s w w' p, op.Reaches scope s → w.signals.Has scope →
    op.resume now s w = some (w', p) → Sparing scope.token.ancestors w.signals w'.signals
  drop : ∀ scope s w, op.Reaches scope s → w.signals.Has scope →
    Sparing scope.token.ancestors w.signals (op.drop s w).signals

end Operation

theorem Behaviour.run_sparing (now : Nat) {scope : Scope} (b : Behaviour α) {s : Signals} (has : s.Has scope) :
    Sparing scope.token.ancestors s (b.run now scope s).1 := by
  induction b generalizing s with
  | finish outcome => exact .refl _ s
  | cancelScope rest ih =>
    have raised := has.sparing_raise
    exact raised.trans (ih (has.mono raised.issued))
  | sleep d rest ih =>
    simp only [run]
    split
    · exact ih has
    · exact .refl _ s
  | sleepInScope d rest ih =>
    simp only [run]
    split
    · exact .refl _ s
    · split
      · exact ih has
      · exact .refl _ s
  | awaitScopeEnd =>
    simp only [run]
    split <;> exact .refl _ s
  | hang => exact .refl _ s

theorem Activity.resume_sparing {now : Nat} {scope : Scope} {a : Activity α} {s s' : Signals} {p}
    (has : s.Has scope) (h : a.resume now scope s = some (s', p)) :
    Sparing scope.token.ancestors s s' := by
  have run {rest : Behaviour α} (hr : rest.run now scope s = (s', p)) :
      Sparing scope.token.ancestors s s' := by
    have sparing := rest.run_sparing now has
    rw [hr] at sparing
    exact sparing
  cases a with
  | asleep due rest =>
    simp only [resume] at h
    split at h
    · exact run (Option.some.inj h)
    · cases h
  | asleepInScope due rest =>
    simp only [resume] at h
    split at h
    · cases h
      exact .refl _ s
    · split at h
      · exact run (Option.some.inj h)
      · cases h
  | awaitingScopeEnd =>
    obtain ⟨reason, -, h⟩ := Option.map_eq_some_iff.1 h
    cases h
    exact .refl _ s
  | hanging => cases h

/-- Scripts cancel nothing but the scope they are given. -/
theorem Operation.scripted_confined (behaviour : ι → Nat → Behaviour α) (noteStart : ι → Nat → S → S)
    (noteEnd : Outcome α → S → S) : (scripted behaviour noteStart noteEnd).Confined := by
  have own {scope : Scope} {s : Scope × Activity α}
      (h : (scripted behaviour noteStart noteEnd).Reaches scope s) : s.1 = scope := by
    have close {scope' : Scope} {w w' : Setting S} {p : Progress (Activity α) (Outcome α)}
        {s : Scope × Activity α} (h : scripted.close noteEnd scope' w p = (w', .waiting s)) :
        s.1 = scope' := by
      cases p <;> cases h
      rfl
    induction h with
    | start hs => exact close hs
    | resume _ hr ih =>
      obtain ⟨r, -, hr⟩ := Option.map_eq_some_iff.1 hr
      exact (close hr).trans ih
  refine ⟨fun request n scope now w has => ?_, fun scope now s w w' p reached has hr => ?_,
    fun scope s w _ _ => .refl _ _⟩
  · simp only [scripted, scripted.signals_close]
    exact (behaviour request n).run_sparing now has
  · obtain rfl := own reached
    obtain ⟨⟨signals, q⟩, hq, hr⟩ := Option.map_eq_some_iff.1 hr
    have same := scripted.signals_close noteEnd s.1 { w with signals := signals } q
    simp only at hr
    rw [hr] at same
    rw [same]
    exact Activity.resume_sparing has hq

/-! ## The work on an item -/

section Confined

variable {op : Operation S ι σ α} {scope : Scope} {now : Nat} {w w' : Setting S}

/-- What a call within a scope comes to: the tokens above were left alone, and it can be gone
on with. -/
structure Stays (op : Operation S ι σ α) (scope : Scope) (w : Setting S) (r : Setting S × Progress σ β) :
    Prop where
  sparing : Sparing scope.token.ancestors w.signals r.1.signals
  reached : ∀ s, r.2 = .waiting s → op.Reaches scope s

theorem Stays.caught {r : Setting S × Progress σ (Outcome α)} (h : Stays op scope w r) :
    Stays op scope w (Operation.catching.caught r) := by
  obtain ⟨w', p⟩ := r
  cases p with
  | waiting s => exact h
  | finished outcome =>
    cases outcome with
    | value a | failure f => exact h
    | panic message => exact ⟨h.sparing, nofun⟩

theorem Stays.completed {r : Setting S × Progress σ (Outcome α)} (h : Stays op scope w r) :
    Stays op scope w (r.1, r.2.map id Verdict.completed) := by
  refine ⟨h.sparing, fun s hs => h.reached s ?_⟩
  cases hp : r.2 with
  | waiting s' =>
    rw [hp] at hs
    cases hs
    rfl
  | finished outcome =>
    rw [hp] at hs
    cases hs

theorem Race.start_stays (confined : op.Confined) (has : w.signals.Has scope) (request : ι) (n now : Nat) :
    Stays op scope w (Race.start op.catching request n scope now w) := by
  unfold Race.start
  cases scope.ended? w.signals now with
  | some reason => exact ⟨.refl _ _, nofun⟩
  | none =>
    have start : Stays op scope w (op.start request n scope now w) :=
      ⟨confined.start request n scope now w has, fun s hs => .start (Prod.ext rfl hs)⟩
    exact start.caught.completed

theorem Race.resume_stays (confined : op.Confined) (has : w.signals.Has scope) {s : σ}
    (reached : op.Reaches scope s) {r : Setting S × Progress σ (Verdict α)}
    (h : Race.resume op.catching scope now s w = some r) : Stays op scope w r := by
  unfold Race.resume at h
  cases ended : scope.ended? w.signals now with
  | some reason =>
    rw [ended] at h
    cases h
    exact ⟨confined.drop scope s w reached has, nofun⟩
  | none =>
    rw [ended] at h
    obtain ⟨r', hr', rfl⟩ := Option.map_eq_some_iff.1 h
    obtain ⟨⟨v, p⟩, hr, rfl⟩ := Option.map_eq_some_iff.1 hr'
    have resume : Stays op scope w (v, p) := by
      refine ⟨confined.resume scope now s w v p reached has hr, fun s' hs => ?_⟩
      obtain rfl : p = .waiting s' := hs
      exact .resume reached hr
    exact resume.caught.completed

namespace Retry.Run

/-- The state of the call that a run is at. -/
def call? (run : Run σ α) : Option σ :=
  match run.phase with
  | .trying s => some s
  | _ => none

theorem call?_settle (job : Job ι) (now : Nat) (run : Run σ α) (w : Setting S) (verdict : Verdict α) :
    (run.settle job now w verdict).1.call? = none := by
  rcases settle_cases job now run w verdict with ⟨f, -, -, settled⟩ | ⟨outcome, settled⟩ <;>
    rw [settled] <;> rfl

theorem signals_settle (job : Job ι) (now : Nat) (run : Run σ α) (w : Setting S) (verdict : Verdict α) :
    (run.settle job now w verdict).2.signals = w.signals := by
  cases verdict with
  | scopeEnded reason => rfl
  | completed outcome =>
    cases outcome with
    | value a | panic message => rfl
    | failure f =>
      simp only [settle]
      split <;> rfl

/-- What work within a scope comes to: the tokens above were left alone, and the call that it
is at, if there is one, can be gone on with. -/
theorem proceed_stays (job : Job ι) (run : Run σ α) {r : Setting S × Progress σ (Verdict α)}
    (h : Stays op scope w r) : Sparing scope.token.ancestors w.signals (run.proceed job now r).2.signals ∧
      ∀ s, (run.proceed job now r).1.call? = some s → op.Reaches scope s := by
  obtain ⟨w', p⟩ := r
  cases p with
  | waiting s =>
    refine ⟨h.sparing, fun s' hs => ?_⟩
    obtain rfl := Option.some.inj hs
    exact h.reached s rfl
  | finished verdict =>
    simp only [proceed]
    rw [signals_settle, call?_settle]
    exact ⟨h.sparing, fun s hs => by cases hs⟩

theorem step_stays (confined : op.Confined) (job : Job ι) (has : w.signals.Has job.scope)
    {run run' : Run σ α} (reached : ∀ s, run.call? = some s → op.Reaches job.scope s)
    (h : run.step op.catching job now w = some (run', w')) :
    Sparing job.scope.token.ancestors w.signals w'.signals ∧
      ∀ s, run'.call? = some s → op.Reaches job.scope s := by
  cases Stepped.of_step h with
  | began hp hr =>
    have stays := Race.start_stays confined has job.request (run.attempt + 1) now
    rw [hr] at stays
    exact proceed_stays job _ stays
  | @resumed s w'' p hp hr =>
    have here : run.call? = some s := by rw [call?, hp]
    exact proceed_stays job _ (Race.resume_stays confined has (reached s here) hr)
  | cut _ _ | exhausted _ _ _ _ | renewed _ _ _ _ => exact ⟨.refl _ _, nofun⟩

end Retry.Run

end Confined

namespace Processor

section

variable {op : Operation S (Item ι) σ α} {now : Nat} {w w' : Setting S}

/-- The state of the call that work on an item is at. -/
def Effort.call? : Effort σ α → Option σ
  | .trying s => some s
  | .retrying _ run => run.call?
  | .ready | .tried _ => none

theorem Effort.proceed_stays {scope : Scope} {r : Setting S × Progress σ (Verdict α)}
    (h : Stays op scope w r) : Sparing scope.token.ancestors w.signals (proceed r).2.signals ∧
      ∀ s, (proceed r).1.call? = some s → op.Reaches scope s := by
  obtain ⟨w', p⟩ := r
  cases p with
  | waiting s =>
    refine ⟨h.sparing, fun s' hs => ?_⟩
    obtain rfl := Option.some.inj hs
    exact h.reached s rfl
  | finished verdict => exact ⟨h.sparing, nofun⟩

/-- **A step of the work on an item** leaves the tokens above its scope alone. -/
theorem Effort.step_stays (confined : op.Confined) {config : Config} {order : Order ι}
    (has : w.signals.Has order.scope) {effort effort' : Effort σ α}
    (reached : ∀ s, effort.call? = some s → op.Reaches order.scope s)
    (h : effort.step op config order now w = some (effort', w')) :
    Sparing order.scope.token.ancestors w.signals w'.signals ∧
      ∀ s, effort'.call? = some s → op.Reaches order.scope s := by
  cases effort with
  | ready =>
    have stays := Race.start_stays confined has order.item 1 now
    obtain ⟨rfl, rfl⟩ := Prod.mk.inj (Option.some.inj h)
    exact proceed_stays stays
  | trying s =>
    obtain ⟨r, hr, h⟩ := Option.map_eq_some_iff.1 h
    obtain ⟨rfl, rfl⟩ := Prod.mk.inj h
    exact proceed_stays (Race.resume_stays confined has (reached s rfl) hr)
  | tried outcome => cases h
  | retrying policy run =>
    obtain ⟨⟨run', v⟩, hr, h⟩ := Option.map_eq_some_iff.1 h
    cases h
    exact Retry.Run.step_stays confined (job config policy order) has reached hr

end

/-! ## The processor -/

/-- What changes around a processor spares a token: it is not cancelled there. -/
def Event.Spares (token : Nat) (s : Signals) : Event S ι → Prop
  | .around setting => Sparing [token] s setting.signals
  | _ => True

/-- How the scopes of a processor stand. Its lifetime was not cancelled, unless it was `aborted`. -/
structure Guarded (op : Operation S (Item ι) σ α) (aborted : Prop) (p : Processor ι σ α) (s : Signals) :
    Prop where
  proper : s.Proper
  made : p.lifetime.token.id < s.issued
  root : p.lifetime.token.ancestors = []
  unlimited : p.lifetime.deadline = none
  reporter : p.reporterScope.token.id < s.issued
  apart : p.reporterScope.token.id ≠ p.lifetime.token.id
  alive : p.lifetime.token.id ∈ s.raised → aborted
  /-- Work is done in a scope right below the lifetime, and the operation knows no other. -/
  working : ∀ order effort, p.task? = some (.working order effort) →
    s.Has order.scope ∧ order.scope.token.ancestors = [p.lifetime.token.id] ∧
      ∀ state, effort.call? = some state → op.Reaches order.scope state

namespace Guarded

variable {op : Operation S (Item ι) σ α} {aborted : Prop} {p p' : Processor ι σ α} {s s' : Signals}

theorem moved {kept : List Nat} {aborted' : Prop} (h : Guarded op aborted p s) (sparing : Sparing kept s s')
    (lifetime : p'.lifetime = p.lifetime) (reporter : p'.reporterScope = p.reporterScope)
    (alive : p.lifetime.token.id ∈ s'.raised → aborted')
    (working : ∀ order effort, p'.task? = some (.working order effort) →
      s'.Has order.scope ∧ order.scope.token.ancestors = [p.lifetime.token.id] ∧
        ∀ state, effort.call? = some state → op.Reaches order.scope state) :
    Guarded op aborted' p' s' where
  proper := sparing.proper h.proper
  made := lifetime ▸ Nat.lt_of_lt_of_le h.made sparing.issued
  root := lifetime ▸ h.root
  unlimited := lifetime ▸ h.unlimited
  reporter := reporter ▸ Nat.lt_of_lt_of_le h.reporter sparing.issued
  apart := by rw [reporter, lifetime]; exact h.apart
  alive := lifetime ▸ alive
  working := lifetime ▸ working

theorem spared (h : Guarded op aborted p s) (sparing : Sparing [p.lifetime.token.id] s s')
    (raised : p.lifetime.token.id ∈ s'.raised) : aborted :=
  h.alive (sparing.spared _ List.mem_cons_self raised)

theorem initial (op : Operation S (Item ι) σ α) (config : Config) {setting : Setting S}
    (proper : setting.signals.Proper) :
    Guarded op False (World.initial (σ := σ) (α := α) (ι := ι) config setting).processor
      (World.initial (σ := σ) (α := α) (ι := ι) config setting).setting.signals where
  proper a ha := Nat.lt_of_lt_of_le (proper a ha) (Nat.le_add_right _ 2)
  made := Nat.lt_succ_of_lt (Nat.lt_succ_self _)
  root := rfl
  unlimited := rfl
  reporter := Nat.lt_succ_self _
  apart := Nat.succ_ne_self _
  alive raised := absurd (proper _ raised) (Nat.lt_irrefl _)
  working := nofun

theorem worked (h : Guarded op aborted p s) (confined : op.Confined) {now : Nat} {w w' : Setting S}
    (hs : w.signals = s) (hw : Worked op now p w p' w') : Guarded op aborted p' w'.signals := by
  subst hs
  cases hw with
  | @took drained item input worker hi _ =>
    have made : Sparing [p.lifetime.token.id] w.signals (p.orderOf item now w).2.signals :=
      ⟨Nat.le_succ _, fun proper a ha => Nat.lt_succ_of_lt (proper a ha), fun _ _ raised => raised⟩
    refine h.moved made rfl rfl (h.spared made) fun order effort ht => ?_
    cases ht
    refine ⟨⟨Nat.lt_succ_self _, fun a ha => ?_⟩, congrArg (_ :: ·) h.root, fun state hc => ?_⟩
    · have above : a ∈ p.lifetime.token.id :: p.lifetime.token.ancestors := ha
      rw [h.root, List.mem_singleton] at above
      exact above ▸ h.made
    · cases hp : p.config.policy <;> rw [hp] at hc <;> cases hc
  | @tried drained order effort effort' w' worker _ stepped =>
    obtain ⟨has, above, reached⟩ := h.working order effort (task?_of_worker worker)
    obtain ⟨sparing, reached⟩ := Effort.step_stays confined has reached stepped
    rw [above] at sparing
    refine h.moved sparing rfl rfl (h.spared sparing) fun order effort ht => ?_
    cases ht
    exact ⟨has.mono sparing.issued, above, reached⟩
  | began _ | turned _ _ | halted _ _ | concluded _ _ | delivered _ _ | discarded _ _ _ =>
    exact h.moved (.refl [] _) rfl rfl h.alive nofun

end Guarded

theorem signals_beginStop (p : Processor ι σ α) (s : Setting S) :
    (p.beginStop s).2.2.signals = s.signals ∨
      (p.beginStop s).2.2.signals = s.signals.raise p.reporterScope.token := by
  cases hs : p.stage with
  | launched => exact .inl (by rw [beginStop_launched hs])
  | released | dropped =>
    simp only [beginStop, hs]
    exact .inr rfl
  | fresh =>
    obtain ⟨output, counters, answered⟩ := foldl_answerUnstarted p.input { p with closing := true }
    simp only [hs] at answered
    simp only [beginStop, hs, answerAllUnstarted, answered]
    refine .inr ?_
    cases p.input <;> rfl

theorem signals_continueStop {p : Processor ι σ α} {s : Setting S} {stopping next}
    (h : p.continueStop s stopping = some next) : next.2.2.signals = s.signals ∨
      next.2.2.signals = s.signals.raise p.reporterScope.token := by
  cases stopping with
  | nothing => cases h
  | worker | reporter =>
    simp only [continueStop] at h
    split at h <;> cases h
    first | exact .inr rfl | exact .inl rfl

namespace World

variable {op : Operation S (Item ι) σ α} {config : Config} {setting : Setting S} {w : World S ι σ α}
  {e : Event S ι} {events : List (Event S ι)}

/-- Nothing but the work, an abort, and what changes around a processor cancels anything but
the scope of the reporter. -/
theorem sparing_apply (op : Operation S (Item ι) σ α) (he : e.isWork = false) (ha : e ≠ .abort) {token : Nat}
    (spares : e.Spares token w.setting.signals)
    (made : w.processor.reporterScope.token.id < w.setting.signals.issued)
    (apart : w.processor.reporterScope.token.id ≠ token) :
    Sparing [token] w.setting.signals (w.apply op e).setting.signals := by
  have released {s : Signals} (h : s = w.setting.signals ∨
      s = w.setting.signals.raise w.processor.reporterScope.token) :
      Sparing [token] w.setting.signals s := by
    rcases h with rfl | rfl
    · exact .refl _ _
    · exact .raise made fun kept => apart (List.mem_singleton.1 kept)
  have m := Happened.of_apply op w e
  generalize w.apply op e = w' at m ⊢
  cases m with
  | worked => cases he
  | aborted => exact absurd rfl ha
  | around setting => exact spares
  | stopped =>
    rw [stop, setting_proceedStop]
    exact released (signals_beginStop _ _)
  | proceeded _ hn =>
    rw [setting_proceedStop]
    exact released (signals_continueStop hn)
  | reported _ stepped =>
    rw [Reporter.signals_step stepped]
    exact .refl _ _
  | ignored _ | admitted _ _ | refused _ | started _ | gaveUp | claimed _ | read _ _ | unread _
  | passed d => exact .refl _ _

theorem guarded_apply {aborted : Prop} (confined : op.Confined)
    (h : Guarded op aborted w.processor w.setting.signals)
    (spares : e.Spares w.processor.lifetime.token.id w.setting.signals) :
    Guarded op (aborted ∨ e = .abort) (w.apply op e).processor (w.apply op e).setting.signals := by
  cases he : e.isWork with
  | true =>
    have weaken {p : Processor ι σ α} {s : Signals} (h : Guarded op aborted p s) :
        Guarded op (aborted ∨ e = .abort) p s := { h with alive := fun raised => .inl (h.alive raised) }
    cases Event.eq_work he
    simp only [apply, work]
    split
    · rename_i hs
      exact weaken (h.worked confined rfl (Worked.of_workerStep hs))
    · exact weaken h
  | false =>
    have reporter := (reporter_apply op w e).1
    obtain ⟨lifetime, worker⟩ := worker_apply op w he
    have working {s : Signals} (issued : w.setting.signals.issued ≤ s.issued) (order : Order ι)
        (effort : Effort σ α) (ht : (w.apply op e).processor.task? = some (.working order effort)) :
        s.Has order.scope ∧ order.scope.token.ancestors = [w.processor.lifetime.token.id] ∧
          ∀ state, effort.call? = some state → op.Reaches order.scope state := by
      rcases worker with same | ⟨-, new⟩
      · have before : w.processor.task? = some (.working order effort) := by rw [← ht, task?, task?, same]
        obtain ⟨has, rest⟩ := h.working order effort before
        exact ⟨has.mono issued, rest⟩
      · rw [task?, new] at ht
        cases ht
    by_cases ha : e = .abort
    · subst ha
      have raised : Sparing [] w.setting.signals (w.apply op .abort).setting.signals := .raise h.made List.not_mem_nil
      exact h.moved raised lifetime reporter (fun _ => .inr rfl) (working raised.issued)
    · have sparing := sparing_apply op he ha spares h.reporter h.apart
      exact h.moved sparing lifetime reporter (fun raised => .inl (h.spared sparing raised))
        (working sparing.issued)

/-- What changes around a processor never cancels the scope above all work. Only an abort
does. -/
def Secluded (op : Operation S (Item ι) σ α) (config : Config) (setting : Setting S)
    (events : List (Event S ι)) : Prop :=
  ∀ before e after, events = before ++ e :: after →
    e.Spares (play op config setting before).processor.lifetime.token.id
      (play op config setting before).setting.signals

theorem Secluded.left {events' : List (Event S ι)} (h : Secluded op config setting (events ++ events')) :
    Secluded op config setting events :=
  fun before e after he => h before e (after ++ events') (by rw [he, List.append_assoc, List.cons_append])

theorem guarded_play (confined : op.Confined) (proper : setting.signals.Proper)
    (secluded : Secluded op config setting events) :
    Guarded op (.abort ∈ events) (play op config setting events).processor
      (play op config setting events).setting.signals := by
  induction events using List.reverseRecOn with
  | nil =>
    have initial := Guarded.initial op config proper
    exact { initial with alive := fun raised => (initial.alive raised).elim }
  | append_singleton events e ih =>
    rw [play_concat]
    have after := guarded_apply confined (ih secluded.left) (secluded events e [] rfl)
    refine { after with alive := fun raised => List.mem_append.2 ((after.alive raised).imp_right ?_) }
    exact fun he => List.mem_singleton.2 he.symm

theorem begun_mem_notes {order : Order ι} {policy : Option Retry.Policy} {drained : Option Nat}
    (hw : w.processor.worker = some ⟨.working order (.initial policy), drained⟩)
    (lasts : order.scope.ended? w.setting.signals w.now = none) :
    .begun order.item ∈ w.notes op .work := by
  have begins (n : Nat) : .begun order.item ∈ Race.startNotes op order.item n order.scope w.now w.setting := by
    simp only [Race.startNotes, lasts, List.mem_cons_self]
  rw [notes_work]
  unfold workerStep workNotes
  rw [hw]
  cases policy with
  | none => exact begins 1
  | some policy => exact begins 1

theorem ended?_orderOf {aborted : Prop} {p : Processor ι σ α} {s : Setting S} (item : Item ι) (now : Nat)
    (guarded : Guarded op aborted p s.signals) (alive : ¬aborted) :
    (p.orderOf item now s).1.scope.ended? (p.orderOf item now s).2.signals now = none := by
  have deadline : (p.orderOf item now s).1.scope.deadline = Instant.after? now p.config.itemTimeout := by
    simp only [orderOf, Scope.withTimeout, guarded.unlimited, earlier]
  have raised (a : Nat) (ha : a ∈ s.signals.issued :: [p.lifetime.token.id]) : a ∉ s.signals.raised := by
    intro cancelled
    rcases List.mem_cons.1 ha with rfl | ha
    · exact Nat.lt_irrefl _ (guarded.proper _ cancelled)
    · exact alive (guarded.alive (List.mem_singleton.1 ha ▸ cancelled))
  cases ended : (p.orderOf item now s).1.scope.ended? (p.orderOf item now s).2.signals now with
  | none => rfl
  | some reason =>
    cases Scope.ended?_eq_some_iff.1 ended with
    | cancelled cancelled =>
      obtain ⟨a, ha, cancelled⟩ := Signals.isRaised_iff.1 cancelled
      refine absurd cancelled (raised a ?_)
      rw [← guarded.root]
      exact ha
    | deadline _ hd reached =>
      obtain ⟨rfl, -⟩ := Instant.after?_eq_some (deadline ▸ hd)
      have := p.config.itemTimeout_pos
      omega

/-- An item that is taken has a scope that has not ended, and is processed, unless the processor
was aborted. -/
theorem fresh_of_taken {aborted : Prop} (guarded : Guarded op aborted w.processor w.setting.signals)
    (idle : w.processor.task? = some .idle) {order : Order ι} {effort : Effort σ α}
    (taken : (w.apply op .work).processor.task? = some (.working order effort)) (alive : ¬aborted) :
    order.scope.ended? (w.apply op .work).setting.signals w.now = none ∧
      .begun order.item ∈ (w.apply op .work).notes op .work := by
  cases hs : w.processor.workerStep op w.now w.setting with
  | none =>
    simp only [apply, work, hs, idle] at taken
    cases taken
  | some r =>
    obtain ⟨p, s⟩ := r
    have after : w.apply op .work =
        { w with processor := p, setting := s, books := w.books.watch w.processor p } := by
      rw [apply, work, hs]
    rw [after] at taken ⊢
    cases Worked.of_workerStep hs with
    | @took drained item input worker hi _ =>
      cases taken
      have lasts := ended?_orderOf item w.now guarded alive
      exact ⟨lasts, begun_mem_notes rfl lasts⟩
    | turned _ _ | halted _ _ => cases taken
    | began worker | tried worker _ _ | concluded worker _ | delivered worker _ | discarded worker _ _ =>
      rw [task?_of_worker worker] at idle
      cases idle

end World

/-! ## Isolation -/

/-- What a run owes to an operation that panics: what it owes to one that fails instead. -/
structure SameTamed (op : Operation S (Item ι) σ α) (config : Config) (setting : Setting S)
    (events : List (Event S ι)) : Prop where
  /-- The worlds are the same, but for the reports of panics in the journal. -/
  world : (World.play op.tamed config setting events).calm = (World.play op config setting events).calm
  /-- The calls are the same, at the same instants, but that one fails where the other panics. -/
  attempts : World.attempts op.tamed config setting events =
    (World.attempts op config setting events).map .tamed
  /-- Time may pass at the same events. -/
  prompt : (World.initial config setting).Prompt op.tamed events ↔
    (World.initial config setting).Prompt op events

/-- Every item that the worker takes, unless after an abort, gets a scope that has not ended, and
the worker's next step begins a call for it. -/
def AllFresh (op : Operation S (Item ι) σ α) (config : Config) (setting : Setting S)
    (events : List (Event S ι)) : Prop :=
  ∀ before after, events = before ++ .work :: after →
    let w := World.play op config setting before
    ∀ order effort, w.processor.task? = some .idle →
      (w.apply op .work).processor.task? = some (.working order effort) → .abort ∉ before →
      order.scope.ended? (w.apply op .work).setting.signals w.now = none ∧
        .begun order.item ∈ (w.apply op .work).notes op .work

/-- **Panics and cancelled scopes stay within the work on their item.** -/
theorem World.play_isolated (op : Operation S (Item ι) σ α) (config : Config) (setting : Setting S)
    (events : List (Event S ι)) :
    (op.Unaware → SameTamed op config setting events) ∧
      (op.Confined → setting.signals.Proper → Secluded op config setting events →
        AllFresh op config setting events) := by
  constructor
  · intro unaware
    exact ⟨calm_play unaware config setting events, attempts_tamed unaware config setting events,
      prompt_tamed unaware rfl⟩
  · intro confined proper secluded before after he w order effort idle taken alive
    subst he
    exact fresh_of_taken (guarded_play confined proper secluded.left) idle taken alive

/-- The first item cancels its own scope and panics, and the second is processed. -/
theorem World.isolated_after_panic :
    let op : Operation Unit (Item Nat) (Scope × Activity Nat) Nat :=
      .scripted
        (fun item _ =>
          if item.payload = 1 then .cancelScope (.finish (.panic (some "boom"))) else .finish (.value 8))
        (fun _ _ s => s) (fun _ s => s)
    let config : Config := ⟨2, 100, none, [], none, by decide, by decide, nofun, nofun⟩
    let events : List (Event Unit Nat) :=
      [.submit "a" 1, .submit "b" 2, .start] ++ List.replicate 9 .work
    let run := play op config ⟨.empty, [], ()⟩ events
    op.Unaware ∧ op.Confined ∧ Secluded op config ⟨.empty, [], ()⟩ events ∧
      SameTamed op config ⟨.empty, [], ()⟩ events ∧ AllFresh op config ⟨.empty, [], ()⟩ events ∧
      run.books.recorded.map (fun r => (r.1.id, r.2.outcome.toOption)) = [("a", none), ("b", some 8)] ∧
      run.processor.counters = ⟨2, 0, 1, 1, 0, 0⟩ ∧
      run.setting.journal.countP (·.isPanic) = 1 := by
  intro op config events run
  have unaware : op.Unaware := Operation.scripted_unaware _ _ _
  have confined : op.Confined := Operation.scripted_confined _ _ _
  have proper : Signals.empty.Proper := nofun
  have secluded : Secluded op config ⟨.empty, [], ()⟩ events := fun before e after he => by
    cases e with
    | around setting =>
      have mem : .around setting ∈ events := he ▸ List.mem_append_right before List.mem_cons_self
      simp only [events, List.mem_append, List.mem_cons, List.mem_replicate, reduceCtorEq, List.not_mem_nil,
        and_false, or_self] at mem
    | _ => trivial
  exact ⟨unaware, confined, secluded, (play_isolated op config _ events).1 unaware,
    (play_isolated op config _ events).2 confined proper secluded, by decide +kernel, by decide +kernel,
    by decide +kernel⟩

end Processor

end CallGuard
