/-
What one step of the worker can do, case by case (`Worked`). Whoever reasons
about the worker goes through these cases instead of the step function.
-/
import CallGuard.Processor.Worker

namespace CallGuard.Processor

variable {S ι σ α : Type}

/-- From `p` and `w`, one step of the worker leads to the last two arguments. -/
inductive Worked (op : Operation S (Item ι) σ α) (now : Nat) (p : Processor ι σ α) (w : Setting S) :
    Processor ι σ α → Setting S → Prop
  | began {drained} : p.worker = some ⟨.starting, drained⟩ →
      Worked op now p w (p.assign .idle drained) (w.log (.workerStarted p.config.capacity))
  /-- The worker sees that the processor closes, and only works off the queue
  from now on. -/
  | turned : p.worker = some ⟨.idle, none⟩ → p.closing = true →
      Worked op now p w (p.assign .idle (some 0)) w
  | took {drained item input} : p.worker = some ⟨.idle, drained⟩ → p.input = item :: input →
      (drained = none → p.closing = false) →
      Worked op now p w
        ({ p with input := input }.assign
          (.working (p.orderOf item now w).1 (.initial p.config.policy)) (drained.map (· + 1)))
        (p.orderOf item now w).2
  | halted {n} : p.worker = some ⟨.idle, some n⟩ → p.input = [] →
      Worked op now p w (p.assign .stopped (some n)) (w.log (.workerStopped n))
  | tried {drained order effort effort' w'} : p.worker = some ⟨.working order effort, drained⟩ →
      effort.outcome? = none → effort.step op p.config order now w = some (effort', w') →
      Worked op now p w (p.assign (.working order effort') drained) w'
  | concluded {drained order effort outcome} : p.worker = some ⟨.working order effort, drained⟩ →
      effort.outcome? = some outcome →
      Worked op now p w (p.conclude drained order outcome now w).1
        (p.conclude drained order outcome now w).2
  | delivered {drained result} : p.worker = some ⟨.delivering result, drained⟩ → p.hasRoom = true →
      Worked op now p w ({ p with output := p.output ++ [result] }.assign .idle drained) w
  /-- There is no room, and none is waited for. -/
  | discarded {drained result} : p.worker = some ⟨.delivering result, drained⟩ →
      p.hasRoom = false → p.reader = .gone ∨ p.closing = true →
      Worked op now p w ((p.count .discarded).assign .idle drained) (w.log (.resultDiscarded result.id))

theorem take_eq_some {p p' : Processor ι σ α} {drained now} {w w' : Setting S}
    (h : p.take drained now w = some (p', w')) : ∃ item input, p.input = item :: input ∧
      p' = { p with input := input }.assign
        (.working (p.orderOf item now w).1 (.initial p.config.policy)) drained ∧
      w' = (p.orderOf item now w).2 := by
  unfold take at h
  split at h
  · cases h
  · rename_i item input hi
    simp only [Option.some.injEq, Prod.mk.injEq] at h
    obtain ⟨rfl, rfl⟩ := h
    exact ⟨item, input, hi, rfl, rfl⟩

theorem take_eq_none {p : Processor ι σ α} {drained now} {w : Setting S}
    (h : p.take drained now w = none) : p.input = [] := by
  unfold take at h
  split at h
  · assumption
  · cases h

theorem Worked.of_wake {op : Operation S (Item ι) σ α} {p p' : Processor ι σ α} {drained now}
    {w w' : Setting S} (hw : p.worker = some ⟨.idle, drained⟩)
    (h : p.wake drained now w = some (p', w')) : Worked op now p w p' w' := by
  cases drained with
  | none =>
    simp only [wake] at h
    split at h
    · rename_i hc
      cases h
      exact .turned hw hc
    · rename_i hc
      obtain ⟨item, input, hi, rfl, rfl⟩ := take_eq_some h
      exact .took hw hi fun _ => by simpa using hc
  | some n =>
    simp only [wake] at h
    cases ht : p.take (some (n + 1)) now w with
    | some r =>
      rw [ht] at h
      cases h
      obtain ⟨item, input, hi, rfl, rfl⟩ := take_eq_some ht
      exact .took hw hi nofun
    | none =>
      rw [ht] at h
      cases h
      exact .halted hw (take_eq_none ht)

theorem Worked.of_work {op : Operation S (Item ι) σ α} {p p' : Processor ι σ α} {drained now order effort}
    {w w' : Setting S} (hw : p.worker = some ⟨.working order effort, drained⟩)
    (h : p.work op drained order effort now w = some (p', w')) : Worked op now p w p' w' := by
  unfold work at h
  split at h
  · rename_i outcome ho
    cases h
    exact .concluded hw ho
  · rename_i ho
    obtain ⟨⟨effort', w''⟩, he, h⟩ := Option.map_eq_some_iff.1 h
    cases h
    exact .tried hw ho he

theorem Worked.of_deliver {op : Operation S (Item ι) σ α} {p p' : Processor ι σ α} {drained now result}
    {w w' : Setting S} (hw : p.worker = some ⟨.delivering result, drained⟩)
    (h : p.deliver drained result w = some (p', w')) : Worked op now p w p' w' := by
  unfold deliver at h
  split at h
  · rename_i hr
    cases h
    exact .delivered hw hr
  · rename_i hr
    split at h
    · rename_i hg
      cases h
      exact .discarded hw (by simpa using hr) hg
    · cases h

/-- **A step of the worker is one of the cases.** -/
theorem Worked.of_workerStep {op : Operation S (Item ι) σ α} {p p' : Processor ι σ α} {now}
    {w w' : Setting S} (h : p.workerStep op now w = some (p', w')) : Worked op now p w p' w' := by
  unfold workerStep at h
  obtain ⟨⟨task, drained⟩, hw, h⟩ := Option.bind_eq_some_iff.1 h
  cases task with
  | starting => cases h; exact .began hw
  | idle => exact .of_wake hw h
  | working order effort => exact .of_work hw h
  | delivering result => exact .of_deliver hw h
  | stopped => cases h

end CallGuard.Processor
