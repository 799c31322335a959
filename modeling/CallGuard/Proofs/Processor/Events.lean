/-
What an event does to a processor and all that belongs to it, case by case (`Happened`). Whoever
reasons about the events of a run goes through these cases instead of the function of events.
-/
import CallGuard.Proofs.Processor.Steps
import CallGuard.Proofs.Processor.World

namespace CallGuard.Processor

variable {S ι σ α : Type}

/-! ## What submits, stops and the reporter do -/

/-- A submit puts the item into the queue if the processor is open and there is
room. Otherwise it is counted, and that is all. -/
theorem submit_cases (p : Processor ι σ α) (id : String) (payload : ι) (now : Nat) (s : Setting S) :
    (p.closing = false ∧ p.input.length < p.config.capacity ∧ p.submit id payload now s =
        (true, { p with input := p.input ++ [Item.mk id payload now] }.count .submitted, s)) ∨
      ((p.closing = true ∨ p.config.capacity ≤ p.input.length) ∧
        ∃ entry, p.submit id payload now s = (false, p.count .rejected, s.log entry)) := by
  unfold submit
  cases hc : p.closing with
  | true => exact .inr ⟨.inl rfl, _, rfl⟩
  | false =>
    simp only [Bool.false_eq_true, if_false]
    split
    · rename_i hl
      exact .inl ⟨trivial, hl, rfl⟩
    · rename_i hl
      exact .inr ⟨.inr (Nat.le_of_not_lt hl), _, rfl⟩

theorem releaseReporter_eq (p : Processor ι σ α) (s : Setting S) :
    ∃ stopping s', p.releaseReporter s = (stopping, { p with reporterAttended := false }, s') ∧
      stopping ≠ .worker := by
  refine ⟨_, _, rfl, ?_⟩
  split <;> exact nofun

theorem continueStop_eq_some {p : Processor ι σ α} {s : Setting S} {stopping next}
    (h : p.continueStop s stopping = some next) :
    (stopping = .worker ∧ p.worker.all (·.isStopped) = true ∧ next.1 ≠ .worker ∧
        next.2.1 = { p with reporterAttended := false }) ∨
      (stopping = .reporter ∧ next.1 = .nothing ∧ next.2.1 = p) := by
  cases stopping with
  | worker =>
    simp only [continueStop] at h
    split at h
    · rename_i hs
      obtain ⟨stopping, s', he, hn⟩ := releaseReporter_eq p s
      rw [he] at h
      cases h
      exact .inl ⟨rfl, hs, hn, rfl⟩
    · cases h
  | reporter =>
    simp only [continueStop] at h
    split at h <;> cases h
    exact .inr ⟨rfl, rfl, rfl⟩
  | nothing => cases h

/-- Once begun, a stop changes nothing of the processor but that it lets go of the reporter. -/
theorem processor_of_continueStop {p : Processor ι σ α} {s : Setting S} {stopping next}
    (h : p.continueStop s stopping = some next) :
    ∃ attended, next.2.1 = { p with reporterAttended := attended } := by
  rcases continueStop_eq_some h with ⟨-, -, -, hp⟩ | ⟨-, -, hp⟩
  · exact ⟨false, hp⟩
  · exact ⟨p.reporterAttended, hp⟩

theorem reporterStep_eq_some {p p' : Processor ι σ α} {now : Nat} {s s' : Setting S}
    (h : p.reporterStep now s = some (p', s')) : ∃ r r', p.reporter = some r ∧
      r.step now p.counters p.depth s = some (r', s') ∧ p' = { p with reporter := some r' } := by
  obtain ⟨r, hr, h⟩ := Option.bind_eq_some_iff.1 h
  obtain ⟨⟨r', s''⟩, hs, h⟩ := Option.map_eq_some_iff.1 h
  cases h
  exact ⟨r, r', hr, hs, rfl⟩

namespace World

section Stops

variable {w : World S ι σ α}

@[simp] theorem processor_proceedStop (next : Stopping × Processor ι σ α × Setting S) :
    (w.proceedStop next).processor = next.2.1 := by
  unfold proceedStop
  dsimp only
  split <;> rfl

@[simp] theorem books_proceedStop (next : Stopping × Processor ι σ α × Setting S) :
    (w.proceedStop next).books = w.books := by
  unfold proceedStop
  dsimp only
  split <;> rfl

@[simp] theorem now_proceedStop (next : Stopping × Processor ι σ α × Setting S) :
    (w.proceedStop next).now = w.now := by
  unfold proceedStop
  dsimp only
  split <;> rfl

@[simp] theorem setting_proceedStop (next : Stopping × Processor ι σ α × Setting S) :
    (w.proceedStop next).setting = next.2.2 := by
  unfold proceedStop
  dsimp only
  split <;> rfl

theorem processor_stop : w.stop.processor = (w.processor.beginStop w.setting).2.1 := by
  simp only [stop, processor_proceedStop]

end Stops

/-! ## Events -/

/-- An event is impossible, or changes nothing. -/
def Ignores (op : Operation S (Item ι) σ α) (w : World S ι σ α) : Event S ι → Prop
  | .start => w.processor.stage ≠ .fresh
  | .awaitStop => w.stopping.bind (w.processor.continueStop w.setting) = none
  | .results => w.processor.reader ≠ .unclaimed
  | .read => w.processor.reader = .claimed → w.processor.output = []
  | .dropReader => w.processor.reader ≠ .claimed
  | .work => w.processor.workerStep op w.now w.setting = none
  | .report => w.processor.reporterStep w.now w.setting = none
  | _ => False

theorem Ignores.closes {op : Operation S (Item ι) σ α} {w : World S ι σ α} {e : Event S ι}
    (h : w.Ignores op e) : e.closes = false := by
  cases e <;> first | rfl | exact h.elim

theorem Ignores.isSubmit {op : Operation S (Item ι) σ α} {w : World S ι σ α} {e : Event S ι}
    (h : w.Ignores op e) : e.isSubmit = false := by
  cases e <;> first | rfl | exact h.elim

/-- From `w`, an event leads to the last argument. -/
inductive Happened (op : Operation S (Item ι) σ α) (w : World S ι σ α) : Event S ι → World S ι σ α → Prop
  | ignored {e} : w.Ignores op e → Happened op w e w
  | admitted {id payload} : w.processor.closing = false →
      w.processor.input.length < w.processor.config.capacity →
      Happened op w (.submit id payload) { w with
        processor := { w.processor with
          input := w.processor.input ++ [Item.mk id payload w.now] }.count .submitted
        books := { w.books with admitted := w.books.admitted ++ [⟨id, payload, w.now⟩] } }
  | refused {id payload entry} :
      w.processor.closing = true ∨ w.processor.config.capacity ≤ w.processor.input.length →
      Happened op w (.submit id payload) { w with
        processor := w.processor.count .rejected
        setting := w.setting.log entry
        books := { w.books with refused := w.books.refused + 1 } }
  | started : w.processor.stage = .fresh →
      Happened op w .start { w with
        processor := { w.processor with
          stage := .launched
          worker := some ⟨.starting, none⟩
          reporter := w.processor.config.metricsInterval.map (.new · w.processor.reporterScope)
          reporterAttended := w.processor.config.metricsInterval.isSome } }
  | stopped : Happened op w .stop w.stop
  /-- A stop under way goes on. -/
  | proceeded {stopping next} : w.stopping = some stopping →
      w.processor.continueStop w.setting stopping = some next → Happened op w .awaitStop (w.proceedStop next)
  | gaveUp : Happened op w .giveUpStop w.giveUpStop
  | aborted : Happened op w .abort { w with
      processor := { w.processor with closing := true }
      setting := (w.processor.abort w.setting).2 }
  | claimed : w.processor.reader = .unclaimed →
      Happened op w .results { w with processor := { w.processor with reader := .claimed } }
  | read {r output} : w.processor.reader = .claimed → w.processor.output = r :: output →
      Happened op w .read { w with
        processor := { w.processor with output := output }
        books := { w.books with received := w.books.received ++ [r] } }
  | unread : w.processor.reader = .claimed →
      Happened op w .dropReader { w with
        processor := { w.processor with reader := .gone, output := [] }
        books := { w.books with destroyed := w.books.destroyed ++ w.processor.output } }
  | worked {p setting} : Worked op w.now w.processor w.setting p setting →
      w.processor.workerStep op w.now w.setting = some (p, setting) →
      Happened op w .work { w with
        processor := p, setting := setting, books := w.books.watch w.processor p }
  | reported {reporter reporter' setting} : w.processor.reporter = some reporter →
      reporter.step w.now w.processor.counters w.processor.depth w.setting = some (reporter', setting) →
      Happened op w .report { w with
        processor := { w.processor with reporter := some reporter' }, setting := setting }
  | passed (d : Nat) : Happened op w (.pass d) { w with now := w.now + d }
  | around (setting : Setting S) : Happened op w (.around setting) { w with setting := setting }

/-- **Every event is one of the cases.** -/
theorem Happened.of_apply (op : Operation S (Item ι) σ α) (w : World S ι σ α) (e : Event S ι) :
    Happened op w e (w.apply op e) := by
  cases e with
  | submit id payload =>
    simp only [apply, submit]
    rcases w.processor.submit_cases id payload w.now w.setting with ⟨opened, room, hs⟩ | ⟨refused, entry, hs⟩
    · rw [hs]
      exact .admitted opened room
    · rw [hs]
      exact .refused refused
  | start =>
    simp only [apply, Processor.start]
    cases hs : w.processor.stage with
    | fresh => exact .started hs
    | launched | released | dropped => exact .ignored (by simp [Ignores, hs])
  | stop => exact .stopped
  | awaitStop =>
    simp only [apply, awaitStop]
    split
    · rename_i next hn
      obtain ⟨stopping, hs, hn⟩ := Option.bind_eq_some_iff.1 hn
      exact .proceeded hs hn
    · rename_i hn
      exact .ignored hn
  | giveUpStop => exact .gaveUp
  | abort => exact .aborted
  | results =>
    simp only [apply, Processor.results]
    cases hr : w.processor.reader with
    | unclaimed => exact .claimed hr
    | claimed | gone => exact .ignored (by simp [Ignores, hr])
  | read =>
    simp only [apply, World.read, Processor.read]
    split
    · rename_i claimed
      cases ho : w.processor.output with
      | nil => exact .ignored fun _ => ho
      | cons r output => exact .read claimed ho
    · rename_i other
      exact .ignored fun claimed => absurd claimed other
  | dropReader =>
    simp only [apply, dropReader]
    split
    · rename_i claimed
      exact .unread claimed
    · rename_i other
      exact .ignored other
  | work =>
    simp only [apply, work]
    split
    · rename_i hs
      exact .worked (.of_workerStep hs) hs
    · rename_i hs
      exact .ignored hs
  | report =>
    simp only [apply]
    split
    · rename_i hs
      obtain ⟨r, r', hr, stepped, rfl⟩ := reporterStep_eq_some hs
      exact .reported hr stepped
    · rename_i hs
      exact .ignored hs
  | pass d => exact .passed d
  | around setting => exact .around setting

end World

end CallGuard.Processor
