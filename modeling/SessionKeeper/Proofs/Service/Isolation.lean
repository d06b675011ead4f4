import SessionKeeper.Proofs.Service.Custody
import SessionKeeper.Proofs.Store.Isolation

/-!
# Isolation of sessions in every run

The store of the services is sound after every run, so requests that are addressed to different
sessions are isolated there and commute, whatever they come to.
-/

namespace SessionKeeper

namespace Service.System

open Memory (Operation BringApart)

/-- In every store that a run of the services reaches: a request that is addressed to one session
and enters nothing but a new token changes nothing elsewhere, whether it is granted, refused, or
finds a token reused; and of two requests that are addressed to different sessions and bring
different identifiers and hashes, each is answered as if the other had not been made, and the store
comes to have the same rows in either order. -/
theorem sessions_isolated (settings : Settings) (start : Instant) (es : List Event) :
    let m := (run settings start es).memory
    (∀ s r, m.Addressed s r → Operation.Fresh m (.ask r) → m.Elsewhere (m.answer r).2 s) ∧
    ∀ s₁ s₂ r₁ r₂, m.Addressed s₁ r₁ → m.Addressed s₂ r₂ → s₁ ≠ s₂ →
      Operation.Fresh m (.ask r₁) → Operation.Fresh m (.ask r₂) → BringApart r₁ r₂ →
      ((m.answer r₂).2.answer r₁).1 = (m.answer r₁).1 ∧
      ((m.answer r₁).2.answer r₂).1 = (m.answer r₂).1 ∧
      ((m.answer r₁).2.answer r₂).2.SameRows ((m.answer r₂).2.answer r₁).2 := by
  intro m
  have hm : m.Sound := (kept_run settings start es).sound
  exact ⟨fun s r ha hf => hm.isolated ha hf,
    fun s₁ s₂ r₁ r₂ h₁ h₂ hne hf₁ hf₂ hr => hm.answer_comm h₁ h₂ hne hf₁ hf₂ hr⟩

/-- Two sessions with a token each. The token of the first has been exchanged. -/
def twoSessions : List Event :=
  [.addUser ⟨1⟩, .call (.openSession ⟨1⟩ none), .go 0 ⟨7⟩ "", .go 0 ⟨0⟩ "", .go 0 ⟨0⟩ "",
    .go 0 ⟨0⟩ "a", .go 0 ⟨0⟩ "", .go 0 ⟨11⟩ "", .go 0 ⟨0⟩ "", .call (.openSession ⟨1⟩ none),
    .go 1 ⟨8⟩ "", .go 1 ⟨0⟩ "", .go 1 ⟨0⟩ "", .go 1 ⟨0⟩ "b", .go 1 ⟨0⟩ "", .go 1 ⟨21⟩ "",
    .go 1 ⟨0⟩ "", .call (.rotate "a"), .go 2 ⟨0⟩ "c", .go 2 ⟨0⟩ "", .go 2 ⟨12⟩ "", .go 2 ⟨0⟩ ""]

/-- The used token of one session is presented again while the token of the other is exchanged. In
either order the first is refused as reused and the second is exchanged. -/
theorem sessions_isolated_reuse :
    let m := (run { database := { url := "" } } ⟨0, false⟩ twoSessions).memory
    let r₁ := Store.Request.rotateToken (Opaque.hash "a") ⟨31⟩ [1] ⟨0, false⟩ ⟨100⟩
    let r₂ := Store.Request.rotateToken (Opaque.hash "b") ⟨32⟩ [2] ⟨0, false⟩ ⟨100⟩
    m.Elsewhere (m.answer r₁).2 ⟨7⟩ ∧
      refusal? (α := TokenRotation) ((m.answer r₂).2.answer r₁).1 = some .replayDetected ∧
      refusal? (α := TokenRotation) ((m.answer r₁).2.answer r₂).1 = none ∧
      ((m.answer r₁).2.answer r₂).2.SameRows ((m.answer r₂).2.answer r₁).2 := by
  intro m r₁ r₂
  have haddressed : ∀ {hash session}, (m.tokenByHash? hash).map (·.session) = some session →
      ∃ t, m.tokenByHash? hash = some t ∧ t.session = session :=
    fun h => Option.map_eq_some_iff.mp h
  have h₁ : m.Addressed ⟨7⟩ r₁ := haddressed (by decide +kernel)
  have h₂ : m.Addressed ⟨8⟩ r₂ := haddressed (by decide +kernel)
  have hfresh : ∀ {presented hash id}, (∀ t ∈ m.tokens, t.id ≠ id) →
      Operation.Fresh m (.ask (.rotateToken presented id hash ⟨0, false⟩ ⟨100⟩)) := by
    rintro presented hash id hnew u ⟨session, hu⟩
    obtain ⟨expiresAt, -, rfl⟩ := Token.fresh_eq_ok hu
    exact ⟨hnew, rfl⟩
  have hf₁ : Operation.Fresh m (.ask r₁) := hfresh (by decide +kernel)
  have hf₂ : Operation.Fresh m (.ask r₂) := hfresh (by decide +kernel)
  have hapart : BringApart r₁ r₂ := by
    intro id₁ hash₁ id₂ hash₂ hb₁ hb₂
    cases hb₁
    cases hb₂
    decide
  obtain ⟨hframe, hcomm⟩ := sessions_isolated { database := { url := "" } } ⟨0, false⟩ twoSessions
  obtain ⟨ha₁, ha₂, hrows⟩ := hcomm ⟨7⟩ ⟨8⟩ r₁ r₂ h₁ h₂ (by decide) hf₁ hf₂ hapart
  refine ⟨hframe ⟨7⟩ r₁ h₁ hf₁, ?_, ?_, hrows⟩
  · rw [ha₁]
    decide +kernel
  · rw [ha₂]
    decide +kernel

end Service.System

end SessionKeeper
