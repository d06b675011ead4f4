import SessionKeeper.Opaque
import SessionKeeper.Service.Effect

/-!
Surroundings that are set by hand: a clock that stands still until it is moved, and a supply of
numbered draws of random bytes, from which identifiers and opaque values are made.
-/

namespace SessionKeeper.Service

/-- A clock and a supply of random bytes. -/
structure Surroundings where
  /-- The present instant. -/
  clock : Instant
  /-- The bytes of each draw. -/
  draw : Nat → List UInt8
  /-- The number of draws made. -/
  drawn : Nat := 0

namespace Surroundings

/-- The identifier made of a draw. -/
def idOf (bytes : List UInt8) : Uuid := Uuid.ofRandom (Uuid.ofBytes (bytes.take 16)).bits

/-- The opaque value made of a draw. -/
def opaqueOf (bytes : List UInt8) : String := Opaque.ofBytes bytes

/-- Answer a request. -/
def answer (s : Surroundings) : (r : Ambient) → r.Answer × Surroundings
  | .now => (s.clock, s)
  | .freshId => (idOf (s.draw s.drawn), { s with drawn := s.drawn + 1 })
  | .freshOpaque => (opaqueOf (s.draw s.drawn), { s with drawn := s.drawn + 1 })

/-- Move the clock, unless the calendar ends before. -/
def advance? (s : Surroundings) (by_ : Span) : Option Surroundings :=
  (s.clock.add? by_).map fun t => { s with clock := t }

end Surroundings

end SessionKeeper.Service
