/-!
Errors. Every failure has a kind, on which callers decide, and a message for people. An error that
arose from another failure keeps that failure's text as its cause; a copy handed on does not.
-/

namespace SessionKeeper

/-- The kinds of failure. -/
inductive ErrorKind where
  /-- An addressed user, session or other row does not exist. -/
  | notFound
  /-- The session has been revoked and can no longer be used. -/
  | sessionRevoked
  /-- The session already holds a current refresh token. -/
  | tokenAlreadyCurrent
  /-- The presented refresh token matches no stored hash. -/
  | invalidToken
  /-- The presented refresh token is past its expiry. -/
  | tokenExpired
  /-- A used or revoked refresh token was presented again. -/
  | replayDetected
  /-- Another key thumbprint is bound to the session. -/
  | alreadyBound
  /-- A constraint of the store refused the write. -/
  | constraintViolation
  /-- The input is not acceptable. -/
  | validation
  /-- Ordinary data would no longer be unique. -/
  | conflict
  /-- The database failed. -/
  | database
  /-- The configuration is not acceptable. -/
  | configuration
  /-- A text is not the expected JSON. -/
  | serialization
  /-- Any other failure. -/
  | internal
deriving DecidableEq, Repr

namespace ErrorKind

/-- Every kind, in the order of declaration. -/
def all : List ErrorKind :=
  [.notFound, .sessionRevoked, .tokenAlreadyCurrent, .invalidToken, .tokenExpired, .replayDetected,
    .alreadyBound, .constraintViolation, .validation, .conflict, .database, .configuration,
    .serialization, .internal]

/-- The name by which data refers to a kind. -/
def name : ErrorKind → String
  | .notFound => "NotFound"
  | .sessionRevoked => "SessionRevoked"
  | .tokenAlreadyCurrent => "TokenAlreadyCurrent"
  | .invalidToken => "InvalidToken"
  | .tokenExpired => "TokenExpired"
  | .replayDetected => "ReplayDetected"
  | .alreadyBound => "AlreadyBound"
  | .constraintViolation => "ConstraintViolation"
  | .validation => "Validation"
  | .conflict => "Conflict"
  | .database => "Database"
  | .configuration => "Configuration"
  | .serialization => "Serialization"
  | .internal => "Internal"

/-- The label that stands before an error's message. -/
def label : ErrorKind → String
  | .notFound => "NOT_FOUND"
  | .sessionRevoked => "SESSION_REVOKED"
  | .tokenAlreadyCurrent => "TOKEN_ALREADY_CURRENT"
  | .invalidToken => "INVALID_TOKEN"
  | .tokenExpired => "TOKEN_EXPIRED"
  | .replayDetected => "REPLAY_DETECTED"
  | .alreadyBound => "ALREADY_BOUND"
  | .constraintViolation => "CONSTRAINT_VIOLATION"
  | .validation => "VALIDATION"
  | .conflict => "CONFLICT"
  | .database => "DATABASE"
  | .configuration => "CONFIGURATION"
  | .serialization => "SERIALIZATION"
  | .internal => "INTERNAL"

/-- The kind with the given name. -/
def ofName? (s : String) : Option ErrorKind := all.find? fun k => k.name == s

end ErrorKind

/-- A failure. -/
structure Error where
  /-- What callers decide on. -/
  kind : ErrorKind
  /-- What people read. -/
  message : String
  /-- The text of the failure from which this one arose. -/
  cause : Option String := none
deriving DecidableEq, Repr

namespace Error

/-- An error that another failure caused: the message says which step failed, then why. -/
def because (kind : ErrorKind) (step reason : String) : Error :=
  ⟨kind, step ++ ": " ++ reason, some reason⟩

/-- An error that is not caused by another. -/
def plain (kind : ErrorKind) (message : String) : Error := ⟨kind, message, none⟩

/-- An input or output operation failed. -/
def ofInputOutput (reason : String) : Error := because .internal "I/O error" reason

/-- A source of configuration could not be read. -/
def ofConfiguration (reason : String) : Error := because .configuration "Configuration error" reason

/-- A text is not the JSON of the expected type. -/
def ofJson (reason : String) : Error := because .serialization "JSON serialization error" reason

/-- Values were refused by the rules of their type. -/
def invalidInput (reason : String) : Error := because .validation "Invalid input" reason

/-- The copy that is handed on: it has no cause. -/
def copy (e : Error) : Error := { e with cause := none }

/-- Label and message. -/
def display (e : Error) : String := e.kind.label ++ ": " ++ e.message

instance : ToString Error := ⟨display⟩

end Error

/-- The kind of the error that something has ended with, if it has ended with one. -/
def refusal? {α : Type} : Except Error α → Option ErrorKind
  | .ok _ => none
  | .error e => some e.kind

/-- A sequence has a result exactly if its parts have one after the other. -/
theorem except_bind_eq_ok {ε α β : Type} {x : Except ε α} {f : α → Except ε β} {b : β} :
    (x >>= f) = .ok b ↔ ∃ a, x = .ok a ∧ f a = .ok b := by
  cases x <;> simp [bind, Except.bind]

end SessionKeeper
