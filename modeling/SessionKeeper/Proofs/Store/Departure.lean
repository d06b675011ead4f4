import SessionKeeper.Proofs.Store.Ascent

/-!
# Users who log out everywhere, and users who go

Two writes touch all rows of one user. Revoking a user's sessions changes nothing but these
sessions, and every look-up of a session is as before, or finds it revoked (`LoggedOut`). Removing a
user takes out the user, the sessions, the rows of their tokens and the entries of their hashes
(`Departed`). That nothing that is left points to a deleted row is not so in every store: it takes
one whose references fit.
-/

namespace SessionKeeper.Memory

variable {m m' : Memory} {user : Uuid} {now : Instant}

/-- The tokens of the sessions of a user. -/
def tokensOfUser (m : Memory) (user : Uuid) : List Token :=
  m.tokens.filter fun t => ((m.sessionsOf user).map (·.id)).contains t.session

theorem mem_tokensOfUser {t : Token} :
    t ∈ m.tokensOfUser user ↔ t ∈ m.tokens ∧ m.Owns user t.session := by
  rw [tokensOfUser, List.mem_filter, contains_sessionsOf]

/-- The owner of a session is known from its row. -/
theorem Orderly.owns_iff (h : m.Orderly) {s : Session} (hs : s ∈ m.sessions) :
    m.Owns user s.id ↔ s.user = user := by
  constructor
  · rintro ⟨x, hx, hxu, hid⟩
    rw [← eq_of_key_eq h.sessionIds hx hs hid]
    exact hxu
  · intro hsu
    exact ⟨s, hs, hsu, rfl⟩

/-! ## Logging out everywhere -/

/-- A session after those of the user have been revoked. -/
def loggedOut (user : Uuid) (now : Instant) (s : Session) : Session :=
  if s.user == user then s.revoke now else s

@[simp] theorem loggedOut_id (s : Session) : (loggedOut user now s).id = s.id := by
  unfold loggedOut
  split <;> rfl

@[simp] theorem loggedOut_user (s : Session) : (loggedOut user now s).user = s.user := by
  unfold loggedOut
  split <;> rfl

theorem loggedOut_own {s : Session} (h : s.user = user) : loggedOut user now s = s.revoke now :=
  if_pos (by simpa using h)

theorem loggedOut_other {s : Session} (h : s.user ≠ user) : loggedOut user now s = s :=
  if_neg (by simpa using h)

/-- A session that has been revoked is not revoked again. -/
theorem loggedOut_revoked {s : Session} (h : s.user = user → s.isRevoked = true) :
    loggedOut user now s = s := by
  by_cases hs : s.user = user
  · obtain ⟨at_, hat⟩ := Option.isSome_iff_exists.mp (h hs)
    rw [loggedOut_own hs, Session.revoke, hat, Option.getD_some, ← hat]
  · exact loggedOut_other hs

theorem sessionsOf_map_loggedOut (m : Memory) (user other : Uuid) (now : Instant) :
    (m.revokeUserSessions user now).2.sessionsOf other =
      (m.sessionsOf other).map (loggedOut user now) := by
  have hrows : (m.revokeUserSessions user now).2.sessionsOf other =
      (m.sessions.map (loggedOut user now)).filter fun s => s.user == other := rfl
  rw [hrows, List.filter_map]
  simp only [Function.comp_def, loggedOut_user]
  rfl

/-- The second store has what the first has, and the sessions of the user are revoked. -/
structure LoggedOut (m : Memory) (user : Uuid) (now : Instant) (m' : Memory) : Prop where
  users : m'.users = m.users
  tokens : m'.tokens = m.tokens
  index : m'.byHash = m.byHash
  own : m'.sessionsOf user = (m.sessionsOf user).map (·.revoke now)
  others : ∀ other, other ≠ user → m'.sessionsOf other = m.sessionsOf other
  session : ∀ id, m'.session? id = (m.session? id).map (loggedOut user now)

theorem loggedOut_revokeUserSessions (m : Memory) (user : Uuid) (now : Instant) :
    m.LoggedOut user now (m.revokeUserSessions user now).2 where
  users := rfl
  tokens := rfl
  index := rfl
  own := by
    rw [sessionsOf_map_loggedOut]
    refine List.map_congr_left ?_
    intro s hs
    exact loggedOut_own (by simpa using (List.mem_filter.mp hs).2)
  others := by
    intro other hne
    rw [sessionsOf_map_loggedOut]
    refine (List.map_congr_left ?_).trans (List.map_id _)
    intro s hs
    have hsu : s.user = other := by simpa using (List.mem_filter.mp hs).2
    exact loggedOut_other (hsu ▸ hne)
  session := by
    intro id
    have hrows : (m.revokeUserSessions user now).2.session? id =
        (m.sessions.map (loggedOut user now)).find? fun s => s.id == id := rfl
    rw [hrows, List.find?_map]
    simp only [Function.comp_def, loggedOut_id]
    rfl

namespace LoggedOut

theorem tokenByHash? (h : m.LoggedOut user now m') (hash : Hash) :
    m'.tokenByHash? hash = m.tokenByHash? hash := by
  have htoken : m'.token? = m.token? := by
    funext id
    rw [token?, h.tokens, token?]
  rw [Memory.tokenByHash?, idOfHash?, h.index, htoken]
  rfl

/-- Every session of the user is revoked now. -/
theorem isRevoked (h : m.LoggedOut user now m') {x : Session} (hx : x ∈ m'.sessions)
    (hxu : x.user = user) : x.isRevoked = true := by
  have hown : x ∈ m'.sessionsOf user := List.mem_filter.mpr ⟨hx, by simpa using hxu⟩
  rw [h.own] at hown
  obtain ⟨s, -, rfl⟩ := List.mem_map.mp hown
  rfl

theorem session?_own (h : m.LoggedOut user now m') (ho : m.Orderly) {id : Uuid}
    (hown : m.Owns user id) : ∃ s, m'.session? id = some s ∧ s.isRevoked = true := by
  obtain ⟨s, hs, hsu, hid⟩ := hown
  have hfound : m.session? id = some s := ho.session?_eq_some.mpr ⟨hs, hid⟩
  refine ⟨s.revoke now, ?_, rfl⟩
  rw [h.session, hfound, Option.map_some, loggedOut_own hsu]

theorem session?_other (h : m.LoggedOut user now m') {id : Uuid} (hown : ¬ m.Owns user id) :
    m'.session? id = m.session? id := by
  rw [h.session]
  cases hs : m.session? id with
  | none => rfl
  | some s =>
    have hother : s.user ≠ user := by
      intro hsu
      exact hown ⟨s, (mem_of_session? hs).1, hsu, (mem_of_session? hs).2⟩
    rw [Option.map_some, loggedOut_other hother]

theorem unrevoked_eq_nil (h : m.LoggedOut user now m') :
    ((m'.sessionsOf user).filter fun s => !s.isRevoked) = [] := by
  rw [List.filter_eq_nil_iff]
  intro s hs
  obtain ⟨hs, hsu⟩ := List.mem_filter.mp hs
  simp [h.isRevoked hs (by simpa using hsu)]

/-- No session of the user is listed as active. -/
theorem listSessions (h : m.LoggedOut user now m') : m'.listSessions user false = [] := by
  have hnone : ((m'.sessionsOf user).filter fun s => false || !s.isRevoked) = [] :=
    h.unrevoked_eq_nil
  rw [Memory.listSessions, hnone, List.mergeSort_nil]

/-- Doing it again changes nothing. -/
theorem again (h : m.LoggedOut user now m') (later : Instant) :
    m'.revokeUserSessions user later = (0, m') := by
  have hsame : m'.sessions.map (loggedOut user later) = m'.sessions := by
    refine (List.map_congr_left ?_).trans (List.map_id _)
    intro s hs
    exact loggedOut_revoked (h.isRevoked hs)
  have hrevoked : m'.revokeUserSessions user later =
      (((m'.sessionsOf user).filter fun s => !s.isRevoked).length,
        { m' with sessions := m'.sessions.map (loggedOut user later) }) := rfl
  rw [hrevoked, h.unrevoked_eq_nil, hsame]
  rfl

theorem isCurrentAndValid_own (h : m.LoggedOut user now m') (ho : m.Orderly) {hash : Hash}
    {t : Token} (ht : m.tokenByHash? hash = some t) (hown : m.Owns user t.session)
    (later : Instant) : m'.isCurrentAndValid hash later = false := by
  obtain ⟨s, hs, hrevoked⟩ := h.session?_own ho hown
  simp [isCurrentAndValid, h.tokenByHash?, ht, hs, hrevoked]

theorem isCurrentAndValid_other (h : m.LoggedOut user now m') {hash : Hash} {t : Token}
    (ht : m.tokenByHash? hash = some t) (hown : ¬ m.Owns user t.session) (later : Instant) :
    m'.isCurrentAndValid hash later = m.isCurrentAndValid hash later := by
  simp only [isCurrentAndValid, h.tokenByHash?, ht, h.session?_other hown]

theorem rotateToken_own (h : m.LoggedOut user now m') (ho : m.Orderly) {presented : Hash}
    {t : Token} (ht : m.tokenByHash? presented = some t) (hown : m.Owns user t.session)
    (id : Uuid) (hash : Hash) (later : Instant) (lifetime : Span) :
    m'.rotateToken presented id hash later lifetime = (.error (.sessionRevoked t.session), m') := by
  obtain ⟨s, hs, hrevoked⟩ := h.session?_own ho hown
  simp only [rotateToken, h.tokenByHash?, ht]
  exact withActive_of_revoked hs hrevoked _

end LoggedOut

/-! ## Going -/

/-- The second store has what the first has, without the user, the sessions of the user, their
tokens and what led to these. -/
structure Departed (m : Memory) (user : Uuid) (m' : Memory) : Prop where
  users : m'.users = m.users.filter fun u => u != user
  sessions : m'.sessions = m.sessions.filter fun s => s.user != user
  tokens : m'.tokens = m.tokens.filter fun t => decide (t ∉ m.tokensOfUser user)
  index : m'.byHash =
    m.byHash.filter fun entry => decide (∀ d ∈ m.tokensOfUser user, d.hash ≠ entry.1)
  found : ∀ hash, m'.tokenByHash? hash =
    (m.tokenByHash? hash).filter fun t => decide (t ∉ m.tokensOfUser user)

theorem Findable.departed (h : m.Findable) (ho : m.Orderly)
    (hu : m.users.contains user = true) : m.Departed user (m.removeUser user).2 where
  users := by simp only [removeUser, hu, if_true, dropTokens]
  sessions := by
    rw [removeUser_sessions hu]
    refine List.filter_congr ?_
    intro s hs
    rw [Bool.eq_iff_iff, Bool.not_eq_true', ← Bool.not_eq_true, contains_sessionsOf,
      ho.owns_iff hs]
    simp
  tokens := by
    rw [ho.removeUser_tokens_eq hu]
    refine List.filter_congr ?_
    intro t ht
    rw [Bool.eq_iff_iff, Bool.not_eq_true', ← Bool.not_eq_true, contains_sessionsOf,
      decide_eq_true_iff, mem_tokensOfUser]
    simp [ht]
  index := by
    rw [removeUser_byHash hu]
    refine List.filter_congr ?_
    intro entry _
    rw [Bool.eq_iff_iff]
    simp [tokensOfUser]
  found := by
    intro hash
    have hsame : (m.removeUser user).2.tokenByHash? hash =
        (m.dropTokens (m.tokensOfUser user)).tokenByHash? hash := by
      simp only [tokenByHash?, idOfHash?, removeUser_byHash hu]
      congr 1
      funext id
      simp only [token?, removeUser_tokens hu]
      rfl
    rw [hsame]
    exact h.tokenByHash?_dropTokens ho (fun d hd => (mem_tokensOfUser.mp hd).1) hash

/-- Neither a link nor a hash leads to the identifier. -/
def Unreferenced (m : Memory) (id : Uuid) : Prop :=
  (∀ t ∈ m.tokens, t.replacedBy ≠ some id) ∧ ∀ entry ∈ m.byHash, entry.2 ≠ id

/-- Where references fit, none of those that are left leads to a deleted row. -/
theorem Sound.unreferenced_of_departed (h : m.Sound) (hu : m.users.contains user = true)
    {d : Token} (hd : d ∈ m.tokensOfUser user) : (m.removeUser user).2.Unreferenced d.id := by
  obtain ⟨hd, hown⟩ := mem_tokensOfUser.mp hd
  have hsound : (m.apply (.removeUser user)).Sound := h.apply fun u hu => absurd hu id
  have hkept : ∀ t ∈ (m.removeUser user).2.tokens, t.id ≠ d.id := by
    intro t ht hid
    obtain ⟨ht, hnot⟩ := (h.orderly.mem_removeUser_tokens hu).mp ht
    rw [h.orderly.token_eq ht hd hid] at hnot
    exact hnot hown
  constructor
  · intro t ht hlink
    obtain ⟨u, hu, hid, -⟩ := hsound.chained.linked.target ht hlink
    exact hkept u hu hid
  · intro entry he hid
    obtain ⟨t, ht, -, htid⟩ := (hsound.indexed.entry_iff entry.1 entry.2).mp he
    exact hkept t ht (htid.trans hid)

end SessionKeeper.Memory
