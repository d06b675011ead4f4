import SessionKeeper.Proofs.Service.Draws

/-!
# The store of the services keeps its structure

In a run whose draws are all new, everything that has been drawn is in custody, so whatever is
entered is new to the store, its identifier and its hash alike. So the store stays sound in every
run, whatever happens between a draw and the request that enters it.
-/

namespace SessionKeeper.Service.System

variable {settings : Settings} {σ σ' : System} {ev : Event}

/-! ## Custody of all draws -/

/-- Who holds what: the calls are tame, they hold what has been drawn, no two of them the same,
and nothing that the store has. -/
structure Custody (σ : System) : Prop where
  tame : ∀ th ∈ σ.threads, Tame th.held th.rest
  drawn : ∀ th ∈ σ.threads, ∀ x ∈ th.held, x ∈ σ.drawn
  apart : ∀ (i j : Nat) (th uh : Thread), σ.threads[i]? = some th → σ.threads[j]? = some uh →
    ∀ x ∈ th.held, x ∈ uh.held → i = j
  stored : ∀ t ∈ σ.memory.tokens, σ.Settled (.id t.id) ∧ σ.Settled (.hash t.hash)

theorem custodyOf_all : σ.CustodyOf (fun _ => true) ↔ σ.Custody := by
  have hmarks : ∀ t : Token, (∀ x ∈ marksOf t, σ.Settled x) ↔
      σ.Settled (.id t.id) ∧ σ.Settled (.hash t.hash) := by simp [marksOf]
  constructor
  · intro h
    refine ⟨h.tame, fun th hth x hx => h.drawn th hth x hx rfl, ?_, fun t ht => ?_⟩
    · exact fun i j th uh hi hj x hxi hxj => h.apart i j th uh hi hj x hxi hxj rfl
    · exact (hmarks t).mp fun x hx => h.stored t ht x hx rfl
  · intro h
    refine ⟨h.tame, fun th hth x hx _ => h.drawn th hth x hx, ?_, fun t ht x hx _ => ?_⟩
    · exact fun i j th uh hi hj x hxi hxj _ => h.apart i j th uh hi hj x hxi hxj
    · exact (hmarks t).mpr (h.stored t ht) x hx

namespace Custody

/-- Whatever is entered is new to the store. -/
theorem fresh (hc : σ.Custody) {o : Memory.Operation} (hp : σ.Puts ev o) :
    o.Fresh σ.memory := (custodyOf_all.mpr hc).new (fun _ => rfl) hp

/-- The rows that a step leaves are older rows with their marks, or bear marks that were held. -/
theorem row_before (hc : σ.Custody) (ho : σ.memory.Orderly) (h : Step settings σ ev σ') {u : Token}
    (hu : u ∈ σ'.memory.tokens) :
    (∃ t ∈ σ.memory.tokens, t.Ages u) ∨ ¬ σ.Settled (.hash u.hash) := by
  rcases h.memory with hm | ⟨o, hp, hm⟩
  · exact .inl ⟨u, hm ▸ hu, .refl u⟩
  · rcases (ho.apply_effect o).token_before ho (hm ▸ hu) with ht | he
    · exact .inl ht
    · obtain ⟨th, hth, hheld, -⟩ := (custodyOf_all.mpr hc).held_of_enters hp he
      exact .inr fun hs => hs.2 th hth (hheld _ (by simp [marksOf]))

theorem step (hc : σ.Custody) (ho : σ.memory.Orderly) (h : Step settings σ ev σ') :
    σ'.Custody := custodyOf_all.mp ((custodyOf_all.mpr hc).step ho h)

end Custody

/-! ## Every run -/

/-- A sound store and calls that enter only what is new. -/
structure Kept (σ : System) : Prop where
  sound : σ.memory.Sound
  custody : σ.Custody

theorem Kept.step (h : σ.Kept) (hs : Step settings σ ev σ') : σ'.Kept := by
  refine ⟨?_, h.custody.step h.sound.orderly hs⟩
  rcases hs.memory with hm | ⟨o, hp, hm⟩
  · exact hm ▸ h.sound
  · rw [hm]
    exact h.sound.apply (h.custody.fresh hp)

theorem kept_run (settings : Settings) (start : Instant) (es : List Event) :
    (run settings start es).Kept := by
  refine run_invariant ?_ Kept.step es
  exact ⟨Memory.sound_empty, by simp, by simp, by simp, by simp [Memory.empty]⟩

/-- In every state that any run of the services reaches, the tables and the index of the store fit
together, and the links between tokens form chains: no link is shared, leads out of its session or
into nothing, and no chain is a cycle. -/
theorem store_coherent (settings : Settings) (start : Instant) (es : List Event) :
    (run settings start es).memory.Coherent :=
  (kept_run settings start es).sound.coherent

end SessionKeeper.Service.System
