/-!
# Outcomes

The outcome of a computation that may fail and that logs messages on its way. The messages logged
before a failure are kept, and nothing is logged after it.
-/

namespace RecordScript

/-- The result of a computation, with the messages it has logged, in order. -/
structure Outcome (ε α : Type) where
  log : List String
  result : Except ε α

namespace Outcome

variable {ε δ α β : Type}

/-- The outcome that gives a value and logs nothing. -/
def succeed (a : α) : Outcome ε α := ⟨[], .ok a⟩

/-- The outcome that fails and logs nothing. -/
def fail (e : ε) : Outcome ε α := ⟨[], .error e⟩

/-- The outcome that has a result and logs nothing. -/
def ofExcept (r : Except ε α) : Outcome ε α := ⟨[], r⟩

/-- The outcome that logs one message. -/
def message (m : String) : Outcome ε Unit := ⟨[m], .ok ()⟩

/-- The outcome with messages logged before it. -/
def after (log : List String) (x : Outcome ε α) : Outcome ε α := ⟨log ++ x.log, x.result⟩

/-- Goes on with the value of an outcome, if it has one. -/
def andThen (x : Outcome ε α) (next : α → Outcome ε β) : Outcome ε β :=
  match x.result with
  | .ok a => (next a).after x.log
  | .error e => ⟨x.log, .error e⟩

instance : Monad (Outcome ε) where
  pure := succeed
  bind := andThen

/-- The outcome with another form of its error. -/
def mapError (f : ε → δ) (x : Outcome ε α) : Outcome δ α := ⟨x.log, x.result.mapError f⟩

end Outcome

end RecordScript
