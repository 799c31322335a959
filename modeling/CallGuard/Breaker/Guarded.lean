/-
Guarded operations: work behind a breaker. It is started only if the breaker
admits it, and the breaker takes in how it ends; work that is dropped leaves no
trace there.
-/
import CallGuard.Breaker.Circuit
import CallGuard.Operation

namespace CallGuard

/-- A site behind a breaker. -/
structure Guarded (S : Type) where
  breaker : Breaker
  /-- What hooks did so far, the latest first. -/
  events : List HookEvent
  site : S

namespace Guarded

variable {S β : Type}

/-- Uses the breaker as a circuit, at an instant. -/
def use (now : Nat) (f : Circuit → β × Circuit) (w : Setting (Guarded S)) : β × Setting (Guarded S) :=
  let (b, c) := f ⟨w.site.breaker, now, w.journal, w.site.events⟩
  (b, { w with
    journal := c.journal
    site := { w.site with breaker := c.breaker, events := c.events } })

/-- Another site behind the same breaker. -/
def put (site : S) (g : Guarded S) : Guarded S := { g with site := site }

end Guarded

namespace Operation

variable {S ι σ α : Type}

/-- The operation behind a breaker with hooks. A rejection is a failure of its
own kind. -/
def guarded (hooks : Circuit.Hooks) (op : Operation S ι σ α) : Operation (Guarded S) ι σ α :=
  let inner := op.within Guarded.site Guarded.put
  { start := fun request n scope now w =>
      let (admitted, w) := Guarded.use now (·.ask listener) w
      if admitted then finish now (inner.start request n scope now w)
      else (w, .finished (.failure .circuitOpen))
    resume := fun now s w => (inner.resume now s w).map (finish now)
    drop := inner.drop
    dues := inner.dues }
where
  listener : Circuit.Listener := Circuit.runHooks hooks 1
  finish (now : Nat) : Setting (Guarded S) × Progress σ (Outcome α) →
      Setting (Guarded S) × Progress σ (Outcome α)
    | (w, .waiting s) => (w, .waiting s)
    | (w, .finished outcome) =>
      ((Guarded.use now (fun c => ((), c.conclude listener outcome)) w).2, .finished outcome)

end Operation

end CallGuard
