/-!
# Logged computations

What a run does is told in records.  A logged computation yields its records in order and, in the
end, an outcome: a value, or the error that stopped it.

## Main definitions

* `Level`, `Topic`, `Record`: a record, how much it matters and what it is about.
* `Logged`: a computation with its records and its outcome.
-/

namespace ApiLint

/-- How much a record matters. -/
inductive Level where
  | error
  | warn
  | info
  | debug
  | trace
deriving DecidableEq, Repr, Inhabited

namespace Level

/-- The label of a level. -/
def label : Level → String
  | .error => "ERROR"
  | .warn => "WARN"
  | .info => "INFO"
  | .debug => "DEBUG"
  | .trace => "TRACE"

/-- How much a level lets through, the least being errors alone. -/
def verbosity : Level → Nat
  | .error => 1
  | .warn => 2
  | .info => 3
  | .debug => 4
  | .trace => 5

end Level

/-- What a record is about. -/
inductive Topic where
  | command
  | document
  | sourceMap
  | registry
  | instantiation
  | invocation
  | collection
  | engine
deriving DecidableEq, Repr, Inhabited

/-- The path under which records of a topic are filed. -/
def Topic.path : Topic → String
  | .command => "openapi_lint"
  | .document => "openapi_lint::document"
  | .sourceMap => "openapi_lint::document::location"
  | .registry => "openapi_lint::rule::registry"
  | .instantiation => "openapi_lint::rule::instantiate"
  | .invocation => "openapi_lint::validation::invoker"
  | .collection => "openapi_lint::validation::collector"
  | .engine => "openapi_lint::validation::engine"

/-- One thing told about a run. -/
structure Record where
  level : Level
  topic : Topic
  message : String
deriving DecidableEq, Repr, Inhabited

/-- A computation with what it told and how it ended. -/
structure Logged (ε α : Type) where
  /-- The records, the first one first. -/
  records : List Record
  /-- The value computed, or the error that stopped the computation. -/
  outcome : Except ε α

namespace Logged

variable {ε α β : Type}

/-- One computation after the other; an error stops both, and what was told stays told. -/
def andThen (x : Logged ε α) (f : α → Logged ε β) : Logged ε β :=
  match x.outcome with
  | .error e => ⟨x.records, .error e⟩
  | .ok a => ⟨x.records ++ (f a).records, (f a).outcome⟩

instance : Monad (Logged ε) where
  pure a := ⟨[], .ok a⟩
  bind := andThen

/-- An outcome with nothing to tell. -/
def ofExcept (outcome : Except ε α) : Logged ε α :=
  ⟨[], outcome⟩

/-- The error that stops a computation. -/
def fail (e : ε) : Logged ε α :=
  ⟨[], .error e⟩

/-- Tells one thing. -/
def tell (level : Level) (topic : Topic) (message : String) : Logged ε Unit :=
  ⟨[⟨level, topic, message⟩], .ok ()⟩

/-- Tells what was told elsewhere. -/
def tellAll (records : List Record) : Logged ε Unit :=
  ⟨records, .ok ()⟩

/-- The same computation with its error seen as another one. -/
def mapError {δ : Type} (f : ε → δ) (x : Logged ε α) : Logged δ α :=
  ⟨x.records, match x.outcome with | .error e => .error (f e) | .ok a => .ok a⟩

@[simp] theorem outcome_pure (a : α) : (pure a : Logged ε α).outcome = .ok a := rfl

@[simp] theorem outcome_ofExcept (x : Except ε α) : (ofExcept x).outcome = x := rfl

@[simp] theorem outcome_tell (level : Level) (topic : Topic) (message : String) :
    (tell level topic message : Logged ε Unit).outcome = .ok () := rfl

/-- **The outcome of a sequence** depends on the outcomes alone. -/
@[simp] theorem outcome_bind (x : Logged ε α) (f : α → Logged ε β) :
    (x >>= f).outcome = x.outcome >>= fun a => (f a).outcome := by
  change (andThen x f).outcome = _
  unfold andThen
  cases x.outcome <;> rfl

end Logged

end ApiLint
