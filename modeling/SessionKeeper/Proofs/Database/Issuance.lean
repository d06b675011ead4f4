import SessionKeeper.Proofs.Database.Rotation
import SessionKeeper.Proofs.Store.Outcome

/-!
# A database issues tokens as the store does, unless two things are in the way

The store looks for the hash of a new token before it looks for a current one; a database learns of
the hash only when it enters the row, after the client has made room for it. The order shows where
both are in the way and the policy is to reject (`Contested`): the store then tells about the hash
and the database about the current token, and neither writes anything. In every other state they
give the same answer and come to the same rows. Nothing is assumed about the instants in the store,
because the rows that are read decide by what they have, and not by when they had it.
-/

namespace SessionKeeper

/-- The hash of a token is stored, and the session of the token has a current one, which is not to
be superseded. -/
def Memory.Contested (m : Memory) (t : Token) (policy : IssuePolicy) : Prop :=
  (∃ s, m.Active t.session s) ∧ m.hasHash t.hash = true ∧ (m.currentOf? t.session).isSome = true ∧
    policy = .reject

/-- A store once a token of it is superseded. -/
def Memory.supersede (m : Memory) (c : Token) (now : Instant) : Memory :=
  m.modifyToken c.id fun c => { c with revokedAt := some now }

namespace Memory

variable {m : Memory}

theorem supersede_indexed (h : m.Indexed) (c : Token) (now : Instant) :
    (m.supersede c now).Indexed := h.modifyToken (fun _ => rfl) fun _ => rfl

theorem supersede_hasReplacements (h : m.HasReplacements) (c : Token) (now : Instant) :
    (m.supersede c now).HasReplacements := h.modifyToken (fun _ => rfl) fun _ => rfl

/-- Once its current token is superseded, a session has none. -/
theorem supersede_currentOf? (ho : m.Orderly) {session : Uuid} {c : Token}
    (hc : m.currentOf? session = some c) (now : Instant) :
    (m.supersede c now).currentOf? session = none := by
  obtain ⟨hmem, hsession, hcurrent⟩ := mem_of_currentOf? hc
  have hnone := ho.retired hmem hcurrent (f := fun c => { c with revokedAt := some now })
    (by simp [Token.isCurrent])
  rw [hsession] at hnone
  exact hnone

end Memory

namespace Database

open Memory (mem_of_session? mem_of_currentOf?)

/-! ## What is done with a locked session -/

/-- What is done with a session once it is locked. -/
def grant (t : Token) (policy : IssuePolicy) (now : Instant) (session : Session) :
    Action (Verdict TokenIssue) := do
  if session.isRevoked then throw (.sessionRevoked session.id)
  let superseded ← Tokens.makeRoom session.id policy now (← Tokens.lockCurrent session.id)
  let inserted ← Tokens.insert t
  return .ofResult "Failed to commit token issuance" ⟨inserted, superseded⟩

/-- What is left once there is room for a token. -/
def fill (t : Token) (superseded : Option Uuid) : Action (Verdict TokenIssue) := do
  let inserted ← Tokens.insert t
  return .ofResult "Failed to commit token issuance" ⟨inserted, superseded⟩

theorem issue_eq (t : Token) (policy : IssuePolicy) (now : Instant) :
    Tokens.issue t policy now = transaction (do
      let session ← Sessions.lock t.session
      grant t policy now session) := rfl

section

variable {b m : Memory} {t : Token} {policy : IssuePolicy} {now : Instant} {s : Session}

theorem perform_lockCurrent (ho : m.Orderly) (session : Uuid) :
    (Server.within b m).perform (Tokens.lockCurrent session) =
      (.ok ((m.currentOf? session).map (·.id)), .within b m) := by
  have hread : ∀ c, m.currentOf? session = some c →
      Row.readFirst Value.toUuid? [("id", .uuid c.id)] = .ok c.id := fun _ _ => rfl
  exact Server.perform_fetchOptional (d := .within b m) (run_lockCurrent ho session) hread
    "Failed to look up current token"

theorem perform_supersede (ho : m.Orderly) {c : Token} (hc : c ∈ m.tokens) :
    (Server.within b m).perform (Tokens.supersede c.id now) =
      (.ok (), .within b (m.supersede c now)) := by
  have hrun := Server.perform_execute (d := .within b m) (run_supersede ho hc now)
    "Failed to supersede current token"
  exact Server.perform_bind_ok hrun _

section

variable (t policy now)

/-- The session is active, and what comes next is to look for its current token. -/
theorem grant_active (ho : m.Orderly) (hs : s.isRevoked = false) :
    (Server.within b m).perform (grant t policy now s) =
      (Server.within b m).perform (do
        let superseded ← Tokens.makeRoom s.id policy now ((m.currentOf? s.id).map (·.id))
        fill t superseded) := by
  unfold grant
  refine (Server.perform_unless (by simp [hs]) _ _).trans ?_
  exact Server.perform_bind_ok (perform_lockCurrent ho s.id) _

theorem grant_occupied (ho : m.Orderly) (hs : s.isRevoked = false) {c : Token}
    (hc : m.currentOf? s.id = some c) :
    (Server.within b m).perform (grant t .reject now s) =
      (.error (.holdsToken s.id c.id), .within b m) := by
  rw [grant_active t _ now ho hs, hc]
  rfl

theorem grant_first (ho : m.Orderly) (hs : s.isRevoked = false) (hc : m.currentOf? s.id = none) :
    (Server.within b m).perform (grant t policy now s) =
      (Server.within b m).perform (fill t none) := by
  rw [grant_active t _ now ho hs, hc]
  rfl

theorem grant_superseding (ho : m.Orderly) (hs : s.isRevoked = false) {c : Token}
    (hc : m.currentOf? s.id = some c) :
    (Server.within b m).perform (grant t .supersede now s) =
      (Server.within b (m.supersede c now)).perform (fill t (some c.id)) := by
  rw [grant_active t _ now ho hs, hc]
  have hroom : (Server.within b m).perform (Tokens.makeRoom s.id .supersede now (some c.id)) =
      (.ok (some c.id), .within b (m.supersede c now)) :=
    Server.perform_bind_ok (perform_supersede ho (mem_of_currentOf? hc).1) _
  exact Server.perform_bind_ok hroom _

end

/-! ### Entering -/

theorem perform_fill (h : Admissible m t) (hi : m.Indexed) (hkept : t.kept = t)
    (hnew : m.hasHash t.hash = false) (superseded : Option Uuid) :
    (Server.within b m).perform (fill t superseded) =
      (.ok (.ofResult "Failed to commit token issuance" ⟨t, superseded⟩),
        .within b (m.enter t)) :=
  Server.perform_bind_ok (perform_insert h hi hkept hnew) _

theorem perform_fill_collision (h : Admissible m t) (hi : m.Indexed)
    (hold : m.hasHash t.hash = true) (superseded : Option Uuid) :
    (Server.within b m).perform (fill t superseded) =
      (.error (hashRule.failure.toError "Failed to insert refresh token"), .within b m) :=
  Server.perform_bind_error (perform_insert_collision h hi hold) _

end

/-! ## Tokens that can be issued -/

/-- A token that may be issued: new and current, with a hash and an end as a database wants them,
and with whole instants. -/
structure Issuable (m : Memory) (t : Token) : Prop where
  new : ∀ u ∈ m.tokens, u.id ≠ t.id
  current : t.isCurrent = true
  length : t.hash.length = 32
  lives : t.issuedAt < t.expiresAt
  whole : t.kept = t

namespace Issuable

variable {m : Memory} {t : Token} {s : Session}

theorem unreplaced (h : Issuable m t) : t.replacedBy = none := by
  have hc := h.current
  simp only [Token.isCurrent, Bool.and_eq_true, Option.isNone_iff_eq_none] at hc
  exact hc.2

theorem supersede (h : Issuable m t) (c : Token) (now : Instant) :
    Issuable (m.supersede c now) t :=
  { h with new := Memory.new_modifyToken (fun _ => rfl) h.new }

/-- It can be entered where its session has no current token. -/
theorem admissible (h : Issuable m t) (hs : m.session? t.session = some s)
    (halone : m.currentOf? t.session = none) : Admissible m t where
  new := h.new
  length := h.length
  lives := by
    have hstart : t.issuedAt.toMicros = t.issuedAt := congrArg Token.issuedAt h.whole
    have hend : t.expiresAt.toMicros = t.expiresAt := congrArg Token.expiresAt h.whole
    rw [hstart, hend]
    exact h.lives
  unreplaced := h.unreplaced
  alone := halone
  session := ⟨s, mem_of_session? hs⟩

end Issuable

/-! ## Agreement -/

section

variable {m : Memory} {t : Token} {policy : IssuePolicy} {now : Instant} {s : Session}

theorem issue_abandoned (ho : m.Orderly) (hs : m.session? t.session = some s) {e : Error}
    {m' : Memory}
    (h : (Server.within m m).perform (grant t policy now s.kept) = (.error e, .within m m')) :
    (Server.of m).perform (Tokens.issue t policy now) = (.error e, .of m) := by
  rw [issue_eq]
  have hlock := perform_lockSession_kept (b := m) ho t.session
  rw [hs] at hlock
  exact perform_abandoned ((Server.perform_bind_ok hlock _).trans h)

theorem issue_concluded (ho : m.Orderly) (hs : m.session? t.session = some s)
    {v : Verdict TokenIssue} {m' : Memory}
    (h : (Server.within m m).perform (grant t policy now s.kept) = (.ok v, .within m m'))
    (hm' : m'.HasReplacements) :
    (Server.of m).perform (Tokens.issue t policy now) = (v.result, .of m') := by
  rw [issue_eq]
  have hlock := perform_lockSession_kept (b := m) ho t.session
  rw [hs] at hlock
  exact perform_concluded ((Server.perform_bind_ok hlock _).trans h) hm'

/-- What a database keeps of a session is enough to know which it is and whether it is active. -/
theorem kept_active (ha : m.Active t.session s) :
    s.kept.id = t.session ∧ s.kept.isRevoked = false := by
  rw [Session.isRevoked_kept]
  exact ⟨(mem_of_session? ha.1).2, ha.2⟩

theorem admissible_superseding (ho : m.Orderly) (h : Issuable m t) (ha : m.Active t.session s)
    {c : Token} (hc : m.currentOf? t.session = some c) : Admissible (m.supersede c now) t :=
  (h.supersede c now).admissible (s := s) ha.1 (Memory.supersede_currentOf? ho hc now)

theorem issueToken_agrees (hm : m.Sound) (h : Issuable m t) (hc : ¬ m.Contested t policy) :
    Agrees m (.issueToken t policy now) := by
  have hx := m.issueToken_issued hm.orderly t policy now
  refine agrees_of_perform (r := .issueToken t policy now) ?_
  change ∃ y, (Server.of m).perform (Tokens.issue t policy now) =
    (y, .of (m.issueToken t policy now).2) ∧ SameOutcome y (m.issueToken t policy now).1
  generalize m.issueToken t policy now = out at hx ⊢
  cases hx with
  | orphan hs =>
    have hlock := perform_lockSession_kept (b := m) hm.orderly t.session
    rw [hs] at hlock
    exact ⟨_, perform_abandoned (Server.perform_bind_error hlock _), rfl⟩
  | @inactive _ _ s hs hr =>
    have hrevoked : s.kept.isRevoked = true := by
      rw [Session.isRevoked_kept, hr]
    have hstop : (Server.within m m).perform (grant t policy now s.kept) =
        (.error (.sessionRevoked s.kept.id), .within m m) := by
      unfold grant
      exact Server.perform_stopped hrevoked _ _
    rw [show s.kept.id = t.session from (mem_of_session? hs).2] at hstop
    exact ⟨_, issue_abandoned hm.orderly hs hstop, rfl⟩
  | @collision _ _ s ha hh =>
    -- the database learns of the hash last, so what it did before has to go
    obtain ⟨hid, hr⟩ := kept_active ha
    cases hcur : m.currentOf? t.session with
    | none =>
      have hgrant := grant_first (b := m) t policy now hm.orderly hr
        (hid ▸ hcur)
      rw [perform_fill_collision (h.admissible ha.1 hcur) hm.indexed hh] at hgrant
      exact ⟨_, issue_abandoned hm.orderly ha.1 hgrant, rfl⟩
    | some c =>
      cases policy with
      | reject => exact absurd ⟨⟨s, ha⟩, hh, by rw [hcur]; rfl, rfl⟩ hc
      | supersede =>
        have hgrant := grant_superseding (b := m) t now hm.orderly hr (hid ▸ hcur)
        rw [perform_fill_collision (admissible_superseding hm.orderly h ha hcur)
          (Memory.supersede_indexed hm.indexed c now) hh] at hgrant
        exact ⟨_, issue_abandoned hm.orderly ha.1 hgrant, rfl⟩
  | @occupied _ s c ha hh hcur =>
    obtain ⟨hid, hr⟩ := kept_active ha
    have hgrant := grant_occupied (b := m) t now hm.orderly hr (hid ▸ hcur)
    rw [hid] at hgrant
    exact ⟨_, issue_abandoned hm.orderly ha.1 hgrant, rfl⟩
  | @first _ _ s ha hh hcur =>
    obtain ⟨hid, hr⟩ := kept_active ha
    have hgrant := grant_first (b := m) t policy now hm.orderly hr
      (hid ▸ hcur)
    rw [perform_fill (h.admissible ha.1 hcur) hm.indexed h.whole hh] at hgrant
    exact ⟨_, issue_concluded hm.orderly ha.1 hgrant
      (hm.hasReplacements.enter h.new h.unreplaced), rfl⟩
  | @superseding _ s c ha hh hcur =>
    obtain ⟨hid, hr⟩ := kept_active ha
    have hgrant := grant_superseding (b := m) t now hm.orderly hr (hid ▸ hcur)
    rw [perform_fill (admissible_superseding hm.orderly h ha hcur)
      (Memory.supersede_indexed hm.indexed c now) h.whole hh] at hgrant
    have hlinks := (Memory.supersede_hasReplacements hm.hasReplacements c now).enter
      (h.supersede c now).new h.unreplaced
    exact ⟨_, issue_concluded hm.orderly ha.1 hgrant hlinks, rfl⟩

/-- Where both are in the way, each side tells about the one it looks for first. -/
theorem issueToken_contested (hm : m.Sound) (now : Instant) (hc : m.Contested t policy) :
    ∃ c, m.currentOf? t.session = some c ∧
      m.answer (.issueToken t policy now) = (.error .hashCollision, m) ∧
      (Server.of m).perform (action (.issueToken t policy now)) =
        (.error (.holdsToken t.session c.id), .of m) := by
  obtain ⟨⟨s, ha⟩, hh, hcur, rfl⟩ := hc
  obtain ⟨c, hcur⟩ := Option.isSome_iff_exists.mp hcur
  obtain ⟨hid, hr⟩ := kept_active ha
  have hgrant := grant_occupied (b := m) t now hm.orderly hr (hid ▸ hcur)
  rw [hid] at hgrant
  exact ⟨c, hcur, hm.orderly.issueToken_eq (.collision ha hh),
    issue_abandoned hm.orderly ha.1 hgrant⟩

end

open Service (System)

/-- A database with the rows of any store that a run of the services reaches issues tokens as that
store does, unless both a stored hash and a current token are in the way of a policy that rejects.
Then neither of them writes anything, but they refuse for different reasons. -/
theorem issuance_agrees (settings : Settings) (start : Instant) (es : List Service.Event)
    {t : Token} (h : Issuable (System.run settings start es).memory t) (policy : IssuePolicy)
    (now : Instant) :
    let m := (System.run settings start es).memory
    let r := Store.Request.issueToken t policy now
    (¬ m.Contested t policy → Agrees m r) ∧
      (m.Contested t policy → ∃ c, m.currentOf? t.session = some c ∧
        m.answer r = (.error .hashCollision, m) ∧
        (Server.of m).perform (action r) = (.error (.holdsToken t.session c.id), .of m)) := by
  intro m r
  have hm : m.Sound := (System.kept_run settings start es).sound
  exact ⟨fun hc => issueToken_agrees hm h hc, fun hc => issueToken_contested hm now hc⟩

/-- A new token for the session of `oneToken`. -/
def nextToken (hash : Hash) : Token :=
  ⟨⟨12⟩, ⟨7⟩, hash, ⟨1000, false⟩, ⟨2000, false⟩, none, none, none⟩

/-- The store that `oneToken` leads to. -/
def oneTokenStore : Memory :=
  (System.run { database := { url := "" } } ⟨0, false⟩ oneToken).memory

theorem oneTokenStore_active : ∃ s, oneTokenStore.Active ⟨7⟩ s := by
  have h : (oneTokenStore.session? ⟨7⟩).map (·.isRevoked) = some false := by decide +kernel
  obtain ⟨s, hs, hr⟩ := Option.map_eq_some_iff.mp h
  exact ⟨s, hs, hr⟩

theorem oneTokenStore_current : ∃ c, oneTokenStore.currentOf? ⟨7⟩ = some c ∧ c.id = ⟨11⟩ := by
  have h : (oneTokenStore.currentOf? ⟨7⟩).map (·.id) = some ⟨11⟩ := by decide +kernel
  exact Option.map_eq_some_iff.mp h

theorem issuable_nextToken {hash : Hash} (hlength : hash.length = 32) :
    Issuable oneTokenStore (nextToken hash) :=
  ⟨fun u hu => (by decide +kernel : ∀ u ∈ oneTokenStore.tokens, u.id ≠ ⟨12⟩) u hu, rfl, hlength,
    (by decide : (⟨1000, false⟩ : Instant) < ⟨2000, false⟩), rfl⟩

/-- The first token is superseded, with the same result on both sides. -/
theorem issuance_agrees_superseding :
    let t := nextToken (List.replicate 32 1)
    let r := Store.Request.issueToken t .supersede ⟨1000, false⟩
    (oneTokenStore.answer r).1 = .ok ⟨t, some ⟨11⟩⟩ ∧
      ((Server.of oneTokenStore).perform (action r)).1 = .ok ⟨t, some ⟨11⟩⟩ ∧
      ((Server.of oneTokenStore).perform (action r)).2 = .of (oneTokenStore.answer r).2 := by
  intro t r
  have hnot : ¬ oneTokenStore.Contested t .supersede := fun hc => nomatch hc.2.2.2
  have hagrees : Agrees oneTokenStore r :=
    (issuance_agrees { database := { url := "" } } ⟨0, false⟩ oneToken
      (issuable_nextToken List.length_replicate) .supersede ⟨1000, false⟩).1 hnot
  have ho : oneTokenStore.Orderly :=
    (System.kept_run { database := { url := "" } } ⟨0, false⟩ oneToken).sound.orderly
  obtain ⟨s, ha⟩ := oneTokenStore_active
  obtain ⟨c, hcur, hid⟩ := oneTokenStore_current
  have hnew : oneTokenStore.hasHash (List.replicate 32 1) = false := by decide +kernel
  have hissued : Memory.Issued oneTokenStore t .supersede ⟨1000, false⟩ _ :=
    .superseding ha hnew hcur
  have hx : (oneTokenStore.answer r).1 = .ok ⟨t, some c.id⟩ := by
    rw [show oneTokenStore.answer r = _ from ho.issueToken_eq hissued]
    rfl
  rw [hid] at hx
  exact ⟨hx, hagrees.eq_ok hx, hagrees.rows⟩

/-- The hash of the first token is brought again while that token is current. -/
theorem issuance_disagrees :
    let t := nextToken (Opaque.hash "a")
    let r := Store.Request.issueToken t .reject ⟨1000, false⟩
    Issuable oneTokenStore t ∧ (oneTokenStore.answer r).1 = .error .hashCollision ∧
      ((Server.of oneTokenStore).perform (action r)).1 = .error (.holdsToken ⟨7⟩ ⟨11⟩) ∧
      ¬ SameOutcome ((Server.of oneTokenStore).perform (action r)).1
        (oneTokenStore.answer r).1 := by
  intro t r
  have hm : oneTokenStore.Sound :=
    (System.kept_run { database := { url := "" } } ⟨0, false⟩ oneToken).sound
  obtain ⟨c, hcur, hid⟩ := oneTokenStore_current
  have hold : oneTokenStore.hasHash (Opaque.hash "a") = true := by decide +kernel
  have hc : oneTokenStore.Contested t .reject :=
    ⟨oneTokenStore_active, hold, Option.isSome_iff_exists.mpr ⟨c, hcur⟩, rfl⟩
  obtain ⟨c', hcur', hanswer, hperform⟩ := issueToken_contested hm ⟨1000, false⟩ hc
  obtain rfl : c = c' := Option.some.inj (hcur.symm.trans hcur')
  rw [hid] at hperform
  refine ⟨issuable_nextToken (by decide +kernel), by rw [hanswer], by rw [hperform]; rfl, ?_⟩
  rw [hanswer, hperform]
  exact nofun

end Database

end SessionKeeper
