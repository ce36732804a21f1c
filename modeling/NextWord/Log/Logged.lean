import NextWord.Log.Entry

/-!
# Logged computations

A computation that writes log entries on its way to a result or a failure. What was written before a
failure stays written. Failures are the faults that nothing recovers from: they come from data of a
shape that an operation cannot work with.
-/

namespace NextWord

/-- Why an operation ends without an answer; types are named as messages name them. -/
inductive Failure
  /-- An integer is too large to become a double. -/
  | integerTooLarge
  /-- A pattern asks for more rounds than can be counted. -/
  | tooManyRounds
  /-- Something that has no elements stands where they are to be visited. -/
  | notIterable (type : String)
  /-- Something other than a table is asked for an entry. -/
  | notATable (type : String)
  /-- A list or an object is to be looked up or compared by content. -/
  | unhashable (type : String)
  /-- Something other than text is treated as text. -/
  | notText (type : String)
  /-- A required entry is missing. -/
  | missingEntry (name : String)
  /-- Headers refer to one another without end. -/
  | endlessHeaders
  deriving DecidableEq, Repr

/-- Log entries, and the result or failure behind them. -/
structure Logged (α : Type) where
  log : List LogEntry
  result : Except Failure α

namespace Logged

variable {α β : Type}

def pure (a : α) : Logged α := ⟨[], .ok a⟩

def fail (failure : Failure) : Logged α := ⟨[], .error failure⟩

/-- One computation after another; a failure ends both. -/
def bind (x : Logged α) (f : α → Logged β) : Logged β :=
  match x.result with
  | .ok a => ⟨x.log ++ (f a).log, (f a).result⟩
  | .error failure => ⟨x.log, .error failure⟩

instance : Monad Logged where
  pure := Logged.pure
  bind := Logged.bind

def write (entries : List LogEntry) : Logged Unit := ⟨entries, .ok ()⟩

def ofExcept : Except Failure α → Logged α
  | .ok a => pure a
  | .error failure => fail failure

/-- Runs a computation on each element, from the first on. -/
def each (f : α → Logged β) : List α → Logged (List β)
  | [] => pure []
  | a :: rest => bind (f a) fun b => bind (each f rest) fun bs => pure (b :: bs)

theorem pure_bind (a : α) (f : α → Logged β) : bind (pure a) f = f a := by
  simp [bind, pure]

theorem bind_log_of_ok {x : Logged α} {f : α → Logged β} {a : α} (h : x.result = .ok a) :
    (bind x f).log = x.log ++ (f a).log := by
  simp [bind, h]

theorem bind_result_of_ok {x : Logged α} {f : α → Logged β} {a : α} (h : x.result = .ok a) :
    (bind x f).result = (f a).result := by
  simp [bind, h]

theorem each_nil (f : α → Logged β) : each f [] = pure [] := rfl

theorem each_cons (f : α → Logged β) (a : α) (rest : List α) :
    each f (a :: rest) = bind (f a) fun b => bind (each f rest) fun bs => pure (b :: bs) := rfl

end Logged
end NextWord
