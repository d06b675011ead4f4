import SessionKeeper.Proofs.Service.Draws
import SessionKeeper.Proofs.Store.Sessions

/-!
# The rows as an audit trail

What may become of a row at one event of a run, with any movement of the clock: it only ages, and it
goes only by a purge for which it was due or with the user whose session it belongs to. Rows are
told apart by their identifiers, so identifiers have to be new; opaque values may be drawn again.
-/

namespace SessionKeeper

namespace Memory

variable {m : Memory} {o : Operation}

/-! ## Rows under one operation -/

theorem Orderly.token_ages (h : m.Orderly) (hf : o.Fresh m) {t u : Token} (ht : t ∈ m.tokens)
    (hu : u ∈ (m.apply o).tokens) (hid : u.id = t.id) : t.Ages u := by
  rcases (h.apply_effect o).token_before h hu with ⟨v, hv, ha⟩ | he
  · have hvt : v = t := h.token_eq hv ht (ha.id.symm.trans hid)
    exact hvt ▸ ha
  · exact absurd hid.symm ((hf u he).1 t ht)

theorem Orderly.token_gone (h : m.Orderly) (hf : o.Fresh m) {t : Token} (ht : t ∈ m.tokens)
    (hgone : ∀ u ∈ (m.apply o).tokens, u.id ≠ t.id) : o.Deletes m t := by
  rcases (h.apply_effect o).token_after h ht with ⟨u, hu, ha⟩ | hd | ⟨u, hu, hid⟩
  · exact absurd ha.id (hgone u hu)
  · exact hd
  · exact absurd hid.symm ((hf u hu).1 t ht)

theorem Orderly.session_ages (h : m.Orderly) {s x : Session} (hs : s ∈ m.sessions)
    (hx : x ∈ (m.apply o).sessions) (hid : x.id = s.id) : s.Ages x := by
  rcases (h.apply_effect o).session_before h hx with ⟨y, hy, ha⟩ | ⟨-, hnone⟩
  · have hys : y = s := eq_of_key_eq h.sessionIds hy hs (ha.id.symm.trans hid)
    exact hys ▸ ha
  · exact absurd hid.symm (find?_key_none.mp hnone s hs)

theorem Orderly.session_gone (h : m.Orderly) {s : Session} (hs : s ∈ m.sessions)
    (hgone : ∀ x ∈ (m.apply o).sessions, x.id ≠ s.id) : o = .removeUser s.user := by
  rcases (h.apply_effect o).session_after h hs with ⟨x, hx, ha⟩ | hremoved
  · exact absurd ha.id (hgone x hx)
  · exact hremoved

end Memory

namespace Service

/-- Whether a mark is an identifier. -/
def Mark.isId : Mark → Bool
  | .id _ => true
  | .hash _ => false

namespace System

variable {settings : Settings} {σ σ' : System} {ev : Event}

/-! ## Rows under one event -/

/-- What an event may do to the rows. -/
structure Trail (σ : System) (ev : Event) (σ' : System) : Prop where
  /-- A token that stays keeps what it was issued with, and each mark on it is written once. -/
  token : ∀ t ∈ σ.memory.tokens, ∀ u ∈ σ'.memory.tokens, u.id = t.id → t.Ages u
  /-- A token goes by a purge whose cutoff lies after its expiry, while it is not current and no row
  names it as its replacement, or with the owner of its session. -/
  tokenGone : ∀ t ∈ σ.memory.tokens, (∀ u ∈ σ'.memory.tokens, u.id ≠ t.id) →
    (∃ i id value cutoff limit, ev = .go i id value ∧
      σ.Asks i (.inl (.purgeExpired cutoff limit)) ∧ t.expiresAt < cutoff ∧ t.isCurrent = false ∧
      ∀ u ∈ σ.memory.tokens, u.replacedBy ≠ some t.id) ∨
    ∃ s ∈ σ.memory.sessions, s.id = t.session ∧ ev = .removeUser s.user
  /-- A session that stays keeps what it was opened with, its key and its revocation are written
  once, and its last use is noted only while it is not revoked. -/
  session : ∀ s ∈ σ.memory.sessions, ∀ x ∈ σ'.memory.sessions, x.id = s.id → s.Ages x
  /-- A session goes only with its owner. -/
  sessionGone : ∀ s ∈ σ.memory.sessions, (∀ x ∈ σ'.memory.sessions, x.id ≠ s.id) →
    ev = .removeUser s.user

theorem Trail.unchanged (hm : σ'.memory = σ.memory) (ho : σ.memory.Orderly) : σ.Trail ev σ' where
  token := by
    intro t ht u hu hid
    rw [ho.token_eq (hm ▸ hu) ht hid]
    exact .refl t
  tokenGone := fun t ht hgone => absurd rfl (hgone t (hm ▸ ht))
  session := by
    intro s hs x hx hid
    rw [eq_of_key_eq ho.sessionIds (hm ▸ hx) hs hid]
    exact .refl s
  sessionGone := fun s hs hgone => absurd rfl (hgone s (hm ▸ hs))

theorem Step.trail (h : Step settings σ ev σ') (ho : σ.memory.Orderly)
    (hnew : ∀ o, σ.Puts ev o → o.Fresh σ.memory) : σ.Trail ev σ' := by
  rcases h.memory with hm | ⟨o, hp, hm⟩
  · exact .unchanged hm ho
  · have hf := hnew o hp
    refine ⟨?_, ?_, ?_, ?_⟩ <;> rw [hm]
    · exact fun t ht u hu => ho.token_ages hf ht hu
    · intro t ht hgone
      rcases hp.deletes (ho.token_gone hf ht hgone) with
        ⟨i, id, value, cutoff, limit, hev, hasks, hd⟩ | ⟨user, hev, s, hs, hsu, hid⟩
      · obtain ⟨-, hexpired, hcurrent, hnamed⟩ := Memory.mem_of_doomed hd
        refine .inl ⟨i, id, value, cutoff, limit, hev, hasks, hexpired, hcurrent, fun u hu he => ?_⟩
        rw [Memory.isReferenced, List.any_eq_false] at hnamed
        exact hnamed u hu (by simpa using he)
      · exact .inr ⟨s, hs, hid, hsu ▸ hev⟩
    · exact fun s hs x hx => ho.session_ages hs hx
    · exact fun s hs hgone => Puts.removeUser (ho.session_gone hs hgone ▸ hp)

/-- In every run in which no identifier is drawn twice, each event leaves every row of a token or a
session as it was but for marks that are set once, or deletes it for one of the reasons that there
are for that. -/
theorem rows_are_written_once (settings : Settings) (start : Instant) (es : List Event)
    (ev : Event) :
    (runUnder Mark.isId settings start es).Trail ev
      (runUnder Mark.isId settings start (es ++ [ev])) := by
  obtain ⟨ho, hc⟩ := custody_runUnder Mark.isId settings start es
  have hs := step_step settings ((runUnder Mark.isId settings start es).forget Mark.isId) ev
  rw [runUnder_concat]
  have htrail := hs.trail ho fun o hp => hc.forget.new (fun _ => rfl) hp
  exact ⟨htrail.token, htrail.tokenGone, htrail.session, htrail.sessionGone⟩

end System

end Service

end SessionKeeper
