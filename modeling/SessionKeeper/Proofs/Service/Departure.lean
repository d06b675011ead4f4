import SessionKeeper.Proofs.Service.Inspection
import SessionKeeper.Proofs.Service.Trail
import SessionKeeper.Proofs.Service.Trimming
import SessionKeeper.Proofs.Store.Departure

/-!
# Logging out everywhere, and the removal of a user

What the two writes that touch all rows of a user come to for those who use the services. After a
log-out the user has no session that anything can be done with, whatever is presented and whenever,
and nobody else notices (`ShutOut`). After a removal the tokens of the user are as good as if they
had never been. Draws may be repeated: the hash of a row leads to this row in every run, so the
answers are about the tokens that are meant. Only that nothing is left which points to a deleted row
rests on new identifiers.
-/

namespace SessionKeeper.Service

open Memory

variable {m m' : Memory} {user : Uuid} {now : Instant}

/-- In the second store, as far as can be told by asking the services, the user has no active
session, and tokens of the sessions that others have in the first store are what they are there. -/
structure ShutOut (settings : TokenSettings) (m : Memory) (user : Uuid) (m' : Memory)
    (surroundings : Surroundings) : Prop where
  listed : (Scene.mk m' surroundings).perform (Sessions.list user false) =
    (.ok [], ⟨m', surroundings⟩)
  again : (Scene.mk m' surroundings).perform (Sessions.revokeAll user) =
    (.ok 0, ⟨m', surroundings⟩)
  checked : ∀ t ∈ m.tokensOfUser user, ∀ value, Opaque.hash value = t.hash →
    ((Scene.mk m' surroundings).perform (Tokens.isCurrentAndValid value)).1 = .ok false
  exchanged : ∀ t ∈ m.tokensOfUser user, ∀ value, Opaque.hash value = t.hash →
    Text.allBlank value = false → ∀ lifetime, settings.lifetime = .ok lifetime →
    ∃ later, (Scene.mk m' surroundings).perform (Tokens.rotate settings value) =
      (.error (.sessionRevoked t.session), ⟨m', later⟩)
  elsewhere : ∀ t ∈ m.tokens, t ∉ m.tokensOfUser user → ∀ value, Opaque.hash value = t.hash →
    ((Scene.mk m' surroundings).perform (Tokens.isCurrentAndValid value)).1 =
      ((Scene.mk m surroundings).perform (Tokens.isCurrentAndValid value)).1

namespace Scene

theorem perform_revokeAll (w : Scene) (user : Uuid) :
    w.perform (Sessions.revokeAll user) =
      (.ok ((w.memory.sessionsOf user).filter fun s => !s.isRevoked).length,
        { w with memory := (w.memory.revokeUserSessions user w.clock).2 }) := rfl

theorem perform_list (w : Scene) (user : Uuid) (includeRevoked : Bool) :
    w.perform (Sessions.list user includeRevoked) =
      (.ok (w.memory.listSessions user includeRevoked), w) := rfl

theorem perform_inspect_unknown {w : Scene} {value : String}
    (h : w.memory.tokenByHash? (Opaque.hash value) = none) :
    ∃ e, (w.perform (Tokens.inspect value)).1 = .error e ∧ e.kind = .invalidToken := by
  cases hb : Text.allBlank value with
  | true =>
    rw [Tokens.inspect_of_blank hb]
    exact ⟨_, rfl, rfl⟩
  | false =>
    rw [perform_inspect w hb, h]
    exact ⟨_, rfl, rfl⟩

theorem shutOut (htidy : m.Tidy) (h : m.LoggedOut user now m') (settings : TokenSettings)
    (surroundings : Surroundings) : ShutOut settings m user m' surroundings where
  listed := by
    rw [perform_list, h.listSessions]
  again := by
    have hagain := h.again surroundings.clock
    rw [perform_revokeAll]
    show (Except.ok ((m'.revokeUserSessions user surroundings.clock).1 : Nat),
      Scene.mk (m'.revokeUserSessions user surroundings.clock).2 surroundings) = _
    rw [hagain]
  checked := by
    intro t ht value hvalue
    obtain ⟨ht, hown⟩ := mem_tokensOfUser.mp ht
    have hfound := htidy.findable.tokenByHash?_self htidy.orderly ht
    rw [perform_isCurrentAndValid, hvalue]
    show Except.ok (_ && m'.isCurrentAndValid t.hash surroundings.clock) = _
    rw [h.isCurrentAndValid_own htidy.orderly hfound hown, Bool.and_false]
  exchanged := by
    intro t ht value hvalue hb lifetime hlife
    obtain ⟨ht, hown⟩ := mem_tokensOfUser.mp ht
    have hfound := htidy.findable.tokenByHash?_self htidy.orderly ht
    refine perform_rotate_refused hb hlife ?_ rfl
    intro id hash
    rw [hvalue]
    exact h.rotateToken_own htidy.orderly hfound hown id hash _ lifetime
  elsewhere := by
    intro t ht hnot value hvalue
    have hfound := htidy.findable.tokenByHash?_self htidy.orderly ht
    have hown : ¬ m.Owns user t.session := by
      intro hown
      exact hnot (mem_tokensOfUser.mpr ⟨ht, hown⟩)
    rw [perform_isCurrentAndValid, perform_isCurrentAndValid, hvalue]
    show Except.ok (_ && m'.isCurrentAndValid t.hash surroundings.clock) = _
    rw [h.isCurrentAndValid_other hfound hown]
    rfl

end Scene

namespace System

/-- After any run, whichever draws are repeated. When a user logs out everywhere, the sessions that
were active are counted, all sessions of the user are revoked, those that were revoked before at the
time when they were, and nothing else is written; from then on the user is shut out. When a user is
removed, the user, the sessions of the user, their tokens and the entries of their hashes are
deleted, and nothing else; the values of these tokens are not known any more, and, if identifiers
have to be new, no reference that is left leads to a deleted row. -/
theorem departure_is_complete (fresh : Mark → Bool) (settings : Settings) (start : Instant)
    (es : List Event) (user : Uuid) (surroundings : Surroundings) :
    let m := (runUnder fresh settings start es).memory
    (∃ m', (Scene.mk m surroundings).perform (Sessions.revokeAll user) =
        (.ok ((m.sessionsOf user).filter fun s => !s.isRevoked).length, ⟨m', surroundings⟩) ∧
      m.LoggedOut user surroundings.clock m' ∧
      (∀ x ∈ m'.sessions, x.user = user → x.isRevoked = true) ∧
      ∀ tokens later, ShutOut tokens m user m' later) ∧
    (m.removeUser user).1 = m.users.contains user ∧
    (m.users.contains user = false → (m.removeUser user).2 = m) ∧
    (m.users.contains user = true →
      m.Departed user (m.removeUser user).2 ∧
      ∀ d ∈ m.tokensOfUser user,
        (∀ value, Opaque.hash value = d.hash → ∀ later,
          Scene.Ignores ⟨(m.removeUser user).2, later⟩ value ∧
          ∃ e, ((Scene.mk (m.removeUser user).2 later).perform (Tokens.inspect value)).1 =
            .error e ∧ e.kind = .invalidToken) ∧
        ((∀ id, fresh (.id id) = true) → (m.removeUser user).2.Unreferenced d.id)) := by
  intro m
  have htidy : m.Tidy := tidy_runUnder fresh settings start es
  refine ⟨?_, ?_, ?_, ?_⟩
  · have hout := loggedOut_revokeUserSessions m user surroundings.clock
    refine ⟨_, Scene.perform_revokeAll _ user, hout, fun x hx hxu => hout.isRevoked hx hxu, ?_⟩
    intro tokens later
    exact Scene.shutOut htidy hout tokens later
  · unfold removeUser
    split
    · rename_i hu
      exact hu.symm
    · rename_i hu
      exact (Bool.eq_false_iff.mpr hu).symm
  · intro hu
    simp only [removeUser, hu, Bool.false_eq_true, if_false]
  · intro hu
    have hgone := htidy.findable.departed htidy.orderly hu
    refine ⟨hgone, ?_⟩
    intro d hd
    constructor
    · intro value hvalue later
      have hfound := htidy.findable.tokenByHash?_self htidy.orderly (mem_tokensOfUser.mp hd).1
      have hunknown : (m.removeUser user).2.tokenByHash? (Opaque.hash value) = none := by
        rw [hvalue, hgone.found, hfound, Option.filter_some, if_neg (by simpa using hd)]
      exact ⟨Scene.ignores_of_unknown hunknown, Scene.perform_inspect_unknown hunknown⟩
    · intro hids
      exact (sound_runUnder hids settings start es).unreferenced_of_departed hu hd

/-- The user whose token has been exchanged logs out everywhere, and the new token is refused. If
instead the user is removed, nothing that is left leads to either token. -/
theorem departure_is_complete_exchanged :
    let settings : Settings := { database := { url := "" } }
    let m := (runUnder Mark.isId settings ⟨0, false⟩ exchange).memory
    let surroundings : Surroundings := ⟨⟨5, false⟩, fun _ => [], 0⟩
    (∃ m' later,
      (Scene.mk m surroundings).perform (Sessions.revokeAll ⟨1⟩) =
        (.ok 1, ⟨m', surroundings⟩) ∧
      (Scene.mk m' surroundings).perform (Tokens.rotate settings.tokens "b") =
        (.error (.sessionRevoked ⟨7⟩), ⟨m', later⟩)) ∧
    (m.tokensOfUser ⟨1⟩).length = 2 ∧ m.Departed ⟨1⟩ (m.removeUser ⟨1⟩).2 ∧
    ∀ d ∈ m.tokensOfUser ⟨1⟩, (m.removeUser ⟨1⟩).2.Unreferenced d.id := by
  intro settings m surroundings
  obtain ⟨⟨m', hrevoke, -, -, hout⟩, -, -, hremove⟩ :=
    departure_is_complete Mark.isId settings ⟨0, false⟩ exchange ⟨1⟩ surroundings
  have hcount : ((m.sessionsOf ⟨1⟩).filter fun s => !s.isRevoked).length = 1 := by decide +kernel
  have hregistered : m.users.contains ⟨1⟩ = true := by decide +kernel
  have hissued : ((m.tokensOfUser ⟨1⟩).any fun t =>
      Opaque.hash "b" == t.hash && t.session == ⟨7⟩) = true := by decide +kernel
  obtain ⟨t, ht, hmatch⟩ := List.any_eq_true.mp hissued
  obtain ⟨hhash, hsession⟩ := Bool.and_eq_true_iff.mp hmatch
  obtain ⟨later, hrotate⟩ := (hout settings.tokens surroundings).exchanged t ht "b"
    (by simpa using hhash) (by decide) _ rfl
  rw [show t.session = ⟨7⟩ by simpa using hsession] at hrotate
  obtain ⟨hgone, hunreferenced⟩ := hremove hregistered
  have hcounted : (Scene.mk m surroundings).perform (Sessions.revokeAll ⟨1⟩) =
      (.ok ((m.sessionsOf ⟨1⟩).filter fun s => !s.isRevoked).length, ⟨m', surroundings⟩) := hrevoke
  rw [hcount] at hcounted
  have hlength : (m.tokensOfUser ⟨1⟩).length = 2 := by decide +kernel
  exact ⟨⟨m', later, hcounted, hrotate⟩, hlength, hgone,
    fun d hd => (hunreferenced d hd).2 fun _ => rfl⟩

end System

end SessionKeeper.Service
