/-!
# Journals

A calculation that keeps a journal gives its outcome together with the entries it made on the way.
The entries of a calculation that fails are kept: what was written before the failure stays written.
-/

namespace SqlInsert

/-- How important an entry of a journal is. -/
inductive Severity
  | debug
  | info
  | warning
  | error
  | critical
deriving DecidableEq, Repr

namespace Severity

/-- The rank of a severity among all. -/
def rank : Severity → Nat
  | .debug => 10
  | .info => 20
  | .warning => 30
  | .error => 40
  | .critical => 50

/-- The name of a severity. -/
def name : Severity → String
  | .debug => "DEBUG"
  | .info => "INFO"
  | .warning => "WARNING"
  | .error => "ERROR"
  | .critical => "CRITICAL"

end Severity

/-- An entry of a journal. -/
structure Entry where
  /-- The part of the library that made the entry. -/
  source : String
  severity : Severity
  message : String
  /-- The entry tells where the failure it reports came from. -/
  traced : Bool
deriving DecidableEq, Repr

/-- An outcome and the entries made on the way to it. -/
structure Logged (ε α : Type) where
  entries : List Entry
  outcome : Except ε α

namespace Logged

variable {ε α β : Type}

/-- A success without entries. -/
def ok (value : α) : Logged ε α := ⟨[], .ok value⟩

/-- A failure without entries. -/
def fail (error : ε) : Logged ε α := ⟨[], .error error⟩

/-- An outcome without entries. -/
def ofExcept (outcome : Except ε α) : Logged ε α := ⟨[], outcome⟩

/-- One calculation and a second that uses its value; a failure ends both. -/
def andThen (first : Logged ε α) (next : α → Logged ε β) : Logged ε β :=
  match first.outcome with
  | .ok value => ⟨first.entries ++ (next value).entries, (next value).outcome⟩
  | .error error => ⟨first.entries, .error error⟩

instance : Monad (Logged ε) where
  pure := ok
  bind := andThen

/-- A success with one entry. -/
def note (source : String) (severity : Severity) (message : String) : Logged ε Unit :=
  ⟨[⟨source, severity, message, false⟩], .ok ()⟩

/-- The calculation with a further entry if it fails in a way that calls for one. -/
def reporting (report : ε → Option Entry) (calculation : Logged ε α) : Logged ε α :=
  match calculation.outcome with
  | .ok _ => calculation
  | .error error => ⟨calculation.entries ++ (report error).toList, calculation.outcome⟩

/-- The calculation with its failure in other terms. -/
def mapError {ε' : Type} (change : ε → ε') (calculation : Logged ε α) : Logged ε' α :=
  ⟨calculation.entries, calculation.outcome.mapError change⟩

/-- One calculation and an effect that uses its value and calculates on; a failure ends both. -/
def followedBy {m : Type → Type} [Monad m] (first : Logged ε α) (next : α → m (Logged ε β)) :
    m (Logged ε β) :=
  match first.outcome with
  | .ok value => do
    let second ← next value
    return ⟨first.entries ++ second.entries, second.outcome⟩
  | .error error => pure ⟨first.entries, .error error⟩

end Logged

end SqlInsert
