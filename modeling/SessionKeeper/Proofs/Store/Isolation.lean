import SessionKeeper.Proofs.Store.Outcome

/-!
# Sessions do not see each other

A request addressed to one session is decided by what the store has of that session, and by whether
the hash that it brings is stored. What it writes is a `Patch` of that session: a change of its row,
a change of its tokens, and the tokens that are entered into it. The answer and the patch are the
same on every store that agrees about the session (`Sound.local_write`).

A patch leaves the other sessions alone, so the store still agrees about them afterwards. Two
requests to different sessions therefore make the same patches in either order, and patches of
different sessions commute.
-/

namespace SessionKeeper

namespace Memory

variable {m m' : Memory} {s s₁ s₂ : Uuid}

/-! ## Patches -/

/-- What a request writes to one session. -/
structure Patch where
  /-- The change of the session's row. -/
  session : Session → Session := id
  /-- The change of the session's tokens. -/
  token : Token → Token := id
  /-- The tokens that are entered. -/
  entered : List Token := []

/-- The store after a patch of a session. -/
def patch (m : Memory) (s : Uuid) (p : Patch) : Memory where
  users := m.users
  sessions := m.sessions.map fun x => if x.id == s then p.session x else x
  tokens := (m.tokens.map fun t => if t.session == s then p.token t else t) ++ p.entered
  byHash := m.byHash ++ p.entered.map fun t => (t.hash, t.id)

/-- A change of the token with the given identifier. -/
def onlyToken (id : Uuid) (f : Token → Token) (t : Token) : Token := if t.id == id then f t else t

theorem onlyToken_id {id : Uuid} {f : Token → Token} (hf : ∀ t, (f t).id = t.id) (t : Token) :
    (onlyToken id f t).id = t.id := by
  unfold onlyToken
  split
  · exact hf t
  · rfl

theorem onlyToken_session {id : Uuid} {f : Token → Token} (hf : ∀ t, (f t).session = t.session)
    (t : Token) : (onlyToken id f t).session = t.session := by
  unfold onlyToken
  split
  · exact hf t
  · rfl

/-- The patch stays within the session: rows keep what they are found by, and what is entered
belongs to the session. -/
structure Patch.Within (p : Patch) (s : Uuid) : Prop where
  sessionId : ∀ x, (p.session x).id = x.id
  tokenId : ∀ t, (p.token t).id = t.id
  tokenSession : ∀ t, (p.token t).session = t.session
  entered : ∀ t ∈ p.entered, t.session = s

/-! ### Writing as patches -/

theorem patch_id : m.patch s {} = m := by
  refine Memory.ext rfl ?_ ?_ ?_ <;> simp [patch]

theorem modifySession_eq_patch (f : Session → Session) :
    m.modifySession s f = m.patch s { session := f } := by
  refine Memory.ext rfl rfl ?_ ?_ <;> simp [patch, modifySession]

/-- Writing a row as it was found, but for a change, is changing it. -/
theorem Orderly.modifySession_const (ho : m.Orderly) {x : Session} (hx : m.session? s = some x)
    (f : Session → Session) : (m.modifySession s fun _ => f x) = m.modifySession s f := by
  obtain ⟨hxm, hid⟩ := mem_of_session? hx
  simp only [Memory.modifySession, Memory.mk.injEq, true_and, and_true]
  refine List.map_congr_left fun y hy => ?_
  by_cases he : y.id = s
  · rw [eq_of_key_eq ho.sessionIds hy hxm (he.trans hid.symm)]
  · simp [he]

theorem Orderly.modifyToken_eq_patch (ho : m.Orderly) {t : Token} (ht : t ∈ m.tokens)
    (f : Token → Token) : m.modifyToken t.id f =
      m.patch t.session { token := onlyToken t.id f } := by
  refine Memory.ext rfl (by simp [patch]) ?_ (by simp [patch, Memory.modifyToken])
  simp only [patch, Memory.modifyToken, List.append_nil]
  refine List.map_congr_left fun u hu => ?_
  by_cases he : u.id = t.id
  · -- the row with this identifier is one of the session
    rw [ho.token_eq hu ht he]
    simp [onlyToken]
  · simp [onlyToken, he]

theorem patch_enter {p : Patch} {t : Token} (hnew : ∀ u ∈ (m.patch s p).tokens, u.id ≠ t.id) :
    (m.patch s p).enter t = m.patch s { p with entered := p.entered ++ [t] } := by
  refine Memory.ext (enter_users t) (enter_sessions t) ?_ ?_
  · rw [enter_tokens_of_new hnew]
    simp [patch]
  · rw [enter_byHash]
    simp [patch]

theorem enter_eq_patch {t : Token} (hnew : ∀ u ∈ m.tokens, u.id ≠ t.id) :
    m.enter t = m.patch s { entered := [t] } := by
  have h := patch_enter (m := m) (s := s) (p := {}) (t := t)
  rw [patch_id] at h
  exact h hnew

theorem revokeFamily_eq_patch (now : Instant) :
    m.revokeFamily s now = m.patch s { session := (·.revoke now), token := (·.revoke now) } := by
  refine Memory.ext rfl rfl ?_ ?_ <;> simp [patch, revokeFamily, modifySession]

theorem Orderly.exchange_eq_patch (ho : m.Orderly) {t next : Token} {x : Session}
    (ht : t ∈ m.tokens) (hx : m.session? t.session = some x)
    (hnew : ∀ u ∈ m.tokens, u.id ≠ next.id) (now : Instant) :
    m.exchange t next x now = m.patch t.session
      { session := fun y => { y with lastUsedAt := some now }
        token := onlyToken t.id (·.consume now next.id)
        entered := [next] } := by
  have hnew' : ∀ u ∈ (m.modifyToken t.id (·.consume now next.id)).tokens, u.id ≠ next.id :=
    new_modifyToken (fun _ => rfl) hnew
  have hused := ho.modifyToken_eq_patch ht (·.consume now next.id)
  have hsessions := ho.modifySession_const hx fun y => { y with lastUsedAt := some now }
  rw [ho.exchange_eq ht]
  rw [hused] at hnew' ⊢
  rw [patch_enter hnew']
  exact Memory.ext rfl (by simpa [patch, Memory.modifySession] using congrArg sessions hsessions)
    rfl rfl

/-! ## What a patch leaves alone -/

/-- Rows that are chosen by a key which the changed rows do not have are as they were. -/
theorem filter_map_of_ne {α : Type} {key : α → Uuid} {f : α → α} {q : Uuid → Bool}
    (hq : q s = false) (hf : ∀ a, key (f a) = key a) (rows : List α) :
    (rows.map fun a => if key a == s then f a else a).filter (fun a => q (key a)) =
      rows.filter fun a => q (key a) := by
  induction rows with
  | nil => rfl
  | cons a rows ih =>
    by_cases he : key a = s
    · have hfa : q (key (f a)) = false := by rw [hf, he, hq]
      have hqa : q (key a) = false := by rw [he, hq]
      rw [List.map_cons, if_pos (by simpa using he), List.filter_cons_of_neg (by simp [hfa]),
        List.filter_cons_of_neg (by simp [hqa]), ih]
    · rw [List.map_cons, if_neg (by simpa using he), List.filter_cons, List.filter_cons, ih]

/-- Nothing but the rows of one session differs: the users, all other sessions, the tokens of other
sessions and what the index has for these tokens are as they were, in the same order. -/
structure Elsewhere (m m' : Memory) (s : Uuid) : Prop where
  users : m'.users = m.users
  sessions : m'.sessions.filter (·.id != s) = m.sessions.filter (·.id != s)
  tokens : m'.tokens.filter (·.session != s) = m.tokens.filter (·.session != s)
  byHash : ∀ t ∈ m.tokens, t.session ≠ s →
    m'.byHash.filter (·.2 == t.id) = m.byHash.filter (·.2 == t.id)

theorem Patch.Within.elsewhere {p : Patch} (h : p.Within s)
    (hnew : ∀ u ∈ p.entered, ∀ t ∈ m.tokens, t.id ≠ u.id) : m.Elsewhere (m.patch s p) s where
  users := rfl
  sessions := filter_map_of_ne (q := fun id => id != s) (by simp) h.sessionId m.sessions
  tokens := by
    have hentered : p.entered.filter (·.session != s) = [] := by
      simpa [List.filter_eq_nil_iff] using h.entered
    simp only [patch, List.filter_append, hentered, List.append_nil]
    exact filter_map_of_ne (q := fun id => id != s) (by simp) h.tokenSession m.tokens
  byHash := by
    intro t ht _
    have hentered : (p.entered.map fun u => (u.hash, u.id)).filter (·.2 == t.id) = [] := by
      simpa [List.filter_eq_nil_iff] using fun u hu he => hnew u hu t ht he.symm
    simp only [patch, List.filter_append, hentered, List.append_nil]

/-- Two stores have the same row and the same tokens of a session. -/
structure Agree (m m' : Memory) (s : Uuid) : Prop where
  session : m'.session? s = m.session? s
  tokens : m'.tokensOf s = m.tokensOf s

theorem Agree.refl (m : Memory) (s : Uuid) : m.Agree m s := ⟨rfl, rfl⟩

theorem Patch.Within.agree {p : Patch} (h : p.Within s₁) (hne : s₁ ≠ s₂) :
    m.Agree (m.patch s₁ p) s₂ where
  session := by
    simp only [session?, patch, ← List.head?_filter]
    exact congrArg List.head?
      (filter_map_of_ne (q := fun id => id == s₂) (by simpa using hne) h.sessionId m.sessions)
  tokens := by
    have hentered : p.entered.filter (·.session == s₂) = [] := by
      simp only [List.filter_eq_nil_iff, beq_iff_eq]
      exact fun t ht he => hne ((h.entered t ht).symm.trans he)
    simp only [patch, tokensOf, List.filter_append, hentered, List.append_nil]
    exact filter_map_of_ne (q := fun id => id == s₂) (by simpa using hne) h.tokenSession m.tokens

/-- The same rows and the same index, in whatever order they are kept. -/
structure SameRows (m m' : Memory) : Prop where
  users : m.users = m'.users
  sessions : m.sessions = m'.sessions
  tokens : m.tokens.Perm m'.tokens
  byHash : m.byHash.Perm m'.byHash

/-- Changes of rows with different keys commute. -/
theorem map_ite_comm {α : Type} {key : α → Uuid} {f g : α → α} (hne : s₁ ≠ s₂)
    (hf : ∀ a, key (f a) = key a) (hg : ∀ a, key (g a) = key a) (rows : List α) :
    (rows.map fun a => if key a == s₁ then f a else a).map
        (fun a => if key a == s₂ then g a else a) =
      (rows.map fun a => if key a == s₂ then g a else a).map
        fun a => if key a == s₁ then f a else a := by
  simp only [List.map_map]
  refine List.map_congr_left fun a _ => ?_
  by_cases h₁ : key a = s₁
  · have h₂ : key a ≠ s₂ := fun h₂ => hne (h₁.symm.trans h₂)
    simp [h₁, hf, hne]
  · by_cases h₂ : key a = s₂ <;> simp [h₁, h₂, hg, hne.symm]

theorem map_ite_of_ne {α : Type} {key : α → Uuid} {f : α → α} (hne : s₁ ≠ s₂) {rows : List α}
    (h : ∀ a ∈ rows, key a = s₁) : (rows.map fun a => if key a == s₂ then f a else a) = rows := by
  have hid : (rows.map fun a => if key a == s₂ then f a else a) = rows.map id :=
    List.map_congr_left fun a ha => by simp [h a ha, hne]
  rw [hid, List.map_id]

/-- Patches of different sessions commute. -/
theorem patch_comm {p q : Patch} (hne : s₁ ≠ s₂) (hp : p.Within s₁) (hq : q.Within s₂) :
    ((m.patch s₁ p).patch s₂ q).SameRows ((m.patch s₂ q).patch s₁ p) where
  users := rfl
  sessions := map_ite_comm hne hp.sessionId hq.sessionId m.sessions
  tokens := by
    simp only [patch, List.map_append, map_ite_of_ne hne hp.entered,
      map_ite_of_ne hne.symm hq.entered, List.append_assoc,
      map_ite_comm hne hp.tokenSession hq.tokenSession]
    exact List.perm_append_comm.append_left _
  byHash := by
    simp only [patch, List.append_assoc]
    exact List.perm_append_comm.append_left _

/-! ## Requests to one session -/

/-- The request is addressed to the session: it names the session, or it presents a token of it. -/
def Addressed (m : Memory) (s : Uuid) : Store.Request → Prop
  | .bindThumbprint id _ | .touchSession id _ | .revokeSession id _ => id = s
  | .issueToken t _ _ => t.session = s
  | .rotateToken hash _ _ _ _ | .revokeToken hash _ =>
    ∃ t, m.tokenByHash? hash = some t ∧ t.session = s
  | _ => False

/-- The second store is like the first to a request that is addressed to the session. -/
structure Alike (m m' : Memory) (s : Uuid) (r : Store.Request) : Prop where
  sound : m'.Sound
  agree : m.Agree m' s
  hash : ∀ id hash, r.brings? = some (id, hash) → m'.hasHash hash = m.hasHash hash
  fresh : Operation.Fresh m' (.ask r)

namespace Alike

variable {r : Store.Request}

theorem active (h : m.Alike m' s r) {x : Session} (ha : m.Active s x) : m'.Active s x :=
  ⟨h.agree.session.trans ha.1, ha.2⟩

theorem mem (h : m.Alike m' s r) {t : Token} (ht : t ∈ m.tokens) (hs : t.session = s) :
    t ∈ m'.tokens := by
  have hmem : t ∈ m.tokensOf s := List.mem_filter.mpr ⟨ht, by simpa using hs⟩
  rw [← h.agree.tokens] at hmem
  exact (List.mem_filter.mp hmem).1

theorem currentOf? (h : m.Alike m' s r) : m'.currentOf? s = m.currentOf? s := by
  have hfind : ∀ m : Memory, m.currentOf? s = (m.tokensOf s).find? Token.isCurrent := by
    intro m
    rw [tokensOf, List.find?_filter]
    exact congrArg (m.tokens.find? ·) (funext fun t => by rw [Bool.eq_iff_iff]; simp)
  rw [hfind, hfind, h.agree.tokens]

theorem tokenByHash? (h : m.Alike m' s r) (hm : m.Sound) {hash : Hash} {t : Token}
    (ht : m.tokenByHash? hash = some t) (hs : t.session = s) : m'.tokenByHash? hash = some t := by
  obtain ⟨htm, hhash⟩ := (hm.indexed.tokenByHash?_eq_some hm.orderly).mp ht
  exact (h.sound.indexed.tokenByHash?_eq_some h.sound.orderly).mpr ⟨h.mem htm hs, hhash⟩

end Alike

/-- On all stores that are alike to it, the request is answered alike, and it makes one patch, which
enters nothing but the token of the request. -/
def Local (m : Memory) (s : Uuid) (r : Store.Request) : Prop :=
  ∃ a p, p.Within s ∧ (∀ u ∈ p.entered, (Operation.ask r).Enters u) ∧
    ∀ m', m.Alike m' s r → m'.answer r = (a, m'.patch s p)

section

variable {r : Store.Request}

/-- A request that comes to nothing makes the patch that changes nothing. -/
theorem local_of_nothing (a : Except Error r.Reply)
    (h : ∀ m', m.Alike m' s r → m'.answer r = (a, m')) : m.Local s r := by
  refine ⟨a, {}, ⟨fun _ => rfl, fun _ => rfl, fun _ => rfl, by simp⟩, by simp, fun m' h' => ?_⟩
  rw [patch_id, h m' h']

theorem local_of_active {f : Memory → Session → Outcome r.Reply}
    (hr : ∀ m' : Memory, m'.answer r = m'.withActive s (f m'))
    (h : ∀ x, m.Active s x → m.Local s r) : m.Local s r := by
  cases hs : m.session? s with
  | none =>
    refine local_of_nothing (.error (.sessionNotFound s)) fun m' h' => ?_
    rw [hr, withActive_of_none (h'.agree.session.trans hs)]
  | some x =>
    cases hx : x.isRevoked with
    | true =>
      refine local_of_nothing (.error (.sessionRevoked s)) fun m' h' => ?_
      rw [hr, withActive_of_revoked (h'.agree.session.trans hs) hx]
    | false => exact h x ⟨hs, hx⟩

theorem local_bindThumbprint (thumbprint : String) : m.Local s (.bindThumbprint s thumbprint) := by
  refine local_of_active (fun m' => rfl) fun x hx => ?_
  cases hb : x.thumbprint with
  | some existing =>
    have hgo : ∀ m', m.Alike m' s (.bindThumbprint s thumbprint) →
        m'.answer (.bindThumbprint s thumbprint) =
          if existing = thumbprint then (.ok x, m') else (.error (.boundElsewhere s), m') := by
      intro m' h
      refine ((h.active hx).withActive _).trans ?_
      simp only [hb]
      rfl
    by_cases he : existing = thumbprint
    · simp only [he, if_true] at hgo
      exact local_of_nothing _ hgo
    · simp only [he, if_false] at hgo
      exact local_of_nothing _ hgo
  | none =>
    refine ⟨.ok { x with thumbprint := some thumbprint },
      { session := fun y => { y with thumbprint := some thumbprint } },
      ⟨fun _ => rfl, fun _ => rfl, fun _ => rfl, by simp⟩, by simp, fun m' h => ?_⟩
    refine ((h.active hx).withActive _).trans ?_
    simp only [hb]
    rw [← modifySession_eq_patch]
    exact congrArg (Prod.mk _) (h.sound.orderly.modifySession_const (h.active hx).1
      fun y => { y with thumbprint := some thumbprint })

theorem local_touchSession (now : Instant) : m.Local s (.touchSession s now) := by
  refine local_of_active (fun m' => rfl) fun x hx => ?_
  refine ⟨.ok (), { session := fun y => { y with lastUsedAt := some now } },
    ⟨fun _ => rfl, fun _ => rfl, fun _ => rfl, by simp⟩, by simp, fun m' h => ?_⟩
  rw [← modifySession_eq_patch]
  exact (h.active hx).withActive _

theorem local_revokeSession (now : Instant) : m.Local s (.revokeSession s now) := by
  cases hs : m.session? s with
  | none =>
    refine local_of_nothing (.error (.sessionNotFound s)) fun m' h => ?_
    simp only [answer, revokeSession, h.agree.session, hs]
    rfl
  | some x =>
    refine ⟨.ok (x.revoke now), { session := (·.revoke now) },
      ⟨fun _ => rfl, fun _ => rfl, fun _ => rfl, by simp⟩, by simp, fun m' h => ?_⟩
    simp only [answer, revokeSession, h.agree.session, hs, modifySession_eq_patch]
    rfl

theorem Sound.local_revokeToken (hm : m.Sound) {hash : Hash} {t : Token}
    (ht : m.tokenByHash? hash = some t) (now : Instant) :
    m.Local t.session (.revokeToken hash now) := by
  refine ⟨.ok (t.revoke now), { token := onlyToken t.id (·.revoke now) },
    ⟨fun _ => rfl, onlyToken_id fun _ => rfl, onlyToken_session fun _ => rfl, by simp⟩, by simp,
    fun m' h => ?_⟩
  have ht' := h.tokenByHash? hm ht rfl
  rw [← h.sound.orderly.modifyToken_eq_patch (mem_of_tokenByHash? ht')]
  simp only [answer, revokeToken, ht']
  rfl

theorem Sound.local_issueToken (hm : m.Sound) (t : Token) (policy : IssuePolicy) (now : Instant) :
    m.Local t.session (.issueToken t policy now) := by
  have hissued : ∀ {m' out}, m.Alike m' t.session (.issueToken t policy now) →
      Issued m' t policy now out → m'.answer (.issueToken t policy now) = out :=
    fun h hi => h.sound.orderly.issueToken_eq hi
  have hi := issueToken_issued hm.orderly t policy now
  generalize m.issueToken t policy now = out at hi
  cases hi with
  | orphan h =>
    exact local_of_nothing _ fun m' h' => hissued h' (.orphan (h'.agree.session.trans h))
  | inactive h hr =>
    exact local_of_nothing _ fun m' h' => hissued h' (.inactive (h'.agree.session.trans h) hr)
  | collision h hh =>
    exact local_of_nothing _ fun m' h' =>
      hissued h' (.collision (h'.active h) ((h'.hash _ _ rfl).trans hh))
  | occupied h hh hc =>
    exact local_of_nothing _ fun m' h' => hissued h'
      (.occupied (h'.active h) ((h'.hash _ _ rfl).trans hh) (h'.currentOf?.trans hc))
  | first h hh hc =>
    refine ⟨.ok ⟨t, none⟩, { entered := [t] }, ⟨fun _ => rfl, fun _ => rfl, fun _ => rfl, by simp⟩,
      by simp [Operation.Enters], fun m' h' => ?_⟩
    rw [hissued h' (.first (h'.active h) ((h'.hash _ _ rfl).trans hh) (h'.currentOf?.trans hc)),
      enter_eq_patch (h'.fresh t rfl).1]
    rfl
  | @superseding now x c h hh hc =>
    obtain ⟨hcm, hcs, -⟩ := mem_of_currentOf? hc
    refine ⟨.ok ⟨t, some c.id⟩,
      { token := onlyToken c.id fun u => { u with revokedAt := some now }, entered := [t] },
      ⟨fun _ => rfl, onlyToken_id fun _ => rfl, onlyToken_session fun _ => rfl, by simp⟩,
      by simp [Operation.Enters], fun m' h' => ?_⟩
    have hretired := h'.sound.orderly.modifyToken_eq_patch (h'.mem hcm hcs)
      fun u => { u with revokedAt := some now }
    have hnew : ∀ u ∈ (m'.modifyToken c.id fun u => { u with revokedAt := some now }).tokens,
        u.id ≠ t.id := new_modifyToken (fun _ => rfl) (h'.fresh t rfl).1
    rw [hcs] at hretired
    rw [hissued h'
      (.superseding (h'.active h) ((h'.hash _ _ rfl).trans hh) (h'.currentOf?.trans hc))]
    rw [hretired] at hnew ⊢
    rw [patch_enter hnew]
    rfl

theorem Sound.local_rotateToken (hm : m.Sound) {presented : Hash} {t : Token}
    (ht : m.tokenByHash? presented = some t) (id : Uuid) (hash : Hash) (now : Instant)
    (lifetime : Span) : m.Local t.session (.rotateToken presented id hash now lifetime) := by
  have hrotated : ∀ {m' out}, m.Alike m' t.session (.rotateToken presented id hash now lifetime) →
      Rotated m' presented id hash now lifetime out →
      m'.answer (.rotateToken presented id hash now lifetime) = out :=
    fun h hx => h.sound.orderly.rotateToken_eq hx
  have hfound : ∀ {m'}, m.Alike m' t.session (.rotateToken presented id hash now lifetime) →
      m'.tokenByHash? presented = some t := fun h => h.tokenByHash? hm ht rfl
  have hx := rotateToken_rotated hm.orderly presented id hash now lifetime
  generalize m.rotateToken presented id hash now lifetime = out at hx
  cases hx with
  | unknown h =>
    rw [ht] at h
    cases h
  | orphan h hs =>
    cases ht.symm.trans h
    exact local_of_nothing _ fun m' h' =>
      hrotated h' (.orphan (hfound h') (h'.agree.session.trans hs))
  | inactive h hs hr =>
    cases ht.symm.trans h
    exact local_of_nothing _ fun m' h' =>
      hrotated h' (.inactive (hfound h') (h'.agree.session.trans hs) hr)
  | expired h hs hu he =>
    cases ht.symm.trans h
    exact local_of_nothing _ fun m' h' =>
      hrotated h' (.expired (hfound h') (h'.active hs) hu he)
  | collision h hs hu he hh =>
    cases ht.symm.trans h
    exact local_of_nothing _ fun m' h' =>
      hrotated h' (.collision (hfound h') (h'.active hs) hu he ((h'.hash _ _ rfl).trans hh))
  | endless h hs hu he hh hf =>
    cases ht.symm.trans h
    exact local_of_nothing _ fun m' h' =>
      hrotated h' (.endless (hfound h') (h'.active hs) hu he ((h'.hash _ _ rfl).trans hh) hf)
  | reused h hs hu =>
    cases ht.symm.trans h
    refine ⟨.error (.tokenReused t.id t.session),
      { session := (·.revoke now), token := (·.revoke now) },
      ⟨fun _ => rfl, fun _ => rfl, fun _ => rfl, by simp⟩, by simp, fun m' h' => ?_⟩
    rw [hrotated h' (.reused (hfound h') (h'.active hs) hu), revokeFamily_eq_patch]
    rfl
  | @exchanged _ x next h hs hu he hh hf =>
    cases ht.symm.trans h
    have hsession := (Token.fresh_session_hash hf).1
    refine ⟨.ok ⟨t.consume now next.id, next, { x with lastUsedAt := some now }⟩,
      { session := fun y => { y with lastUsedAt := some now }
        token := onlyToken t.id (·.consume now next.id)
        entered := [next] },
      ⟨fun _ => rfl, onlyToken_id fun _ => rfl, onlyToken_session fun _ => rfl,
        by simpa using hsession⟩, ?_, fun m' h' => ?_⟩
    · simp only [List.mem_singleton]
      rintro u rfl
      exact ⟨_, hf⟩
    · have hstore := h'.sound.orderly.exchange_eq_patch (mem_of_tokenByHash? (hfound h'))
        (h'.active hs).1 (h'.fresh next ⟨_, hf⟩).1 now
      rw [hrotated h' (.exchanged (hfound h') (h'.active hs) hu he ((h'.hash _ _ rfl).trans hh) hf),
        hstore]
      rfl

end

/-- A request that is addressed to a session is local to it. -/
theorem Sound.local_of_addressed (hm : m.Sound) {r : Store.Request} (ha : m.Addressed s r) :
    m.Local s r := by
  cases r with
  | bindThumbprint id thumbprint => cases ha; exact local_bindThumbprint thumbprint
  | touchSession id now => cases ha; exact local_touchSession now
  | revokeSession id now => cases ha; exact local_revokeSession now
  | issueToken t policy now => cases ha; exact hm.local_issueToken t policy now
  | rotateToken presented id hash now lifetime =>
    obtain ⟨t, ht, rfl⟩ := ha
    exact hm.local_rotateToken ht id hash now lifetime
  | revokeToken hash now =>
    obtain ⟨t, ht, rfl⟩ := ha
    exact hm.local_revokeToken ht now
  | _ => cases ha

/-! ## Two requests -/

/-- The requests bring different identifiers and different hashes, if both bring any. -/
def BringApart (r₁ r₂ : Store.Request) : Prop :=
  ∀ id₁ hash₁ id₂ hash₂, r₁.brings? = some (id₁, hash₁) → r₂.brings? = some (id₂, hash₂) →
    id₁ ≠ id₂ ∧ hash₁ ≠ hash₂

theorem BringApart.symm {r₁ r₂ : Store.Request} (h : BringApart r₁ r₂) : BringApart r₂ r₁ :=
  fun _ _ _ _ h₂ h₁ => ⟨(h _ _ _ _ h₁ h₂).1.symm, (h _ _ _ _ h₁ h₂).2.symm⟩

theorem hasHash_patch {p : Patch} {hash : Hash} (h : ∀ u ∈ p.entered, u.hash ≠ hash) :
    (m.patch s p).hasHash hash = m.hasHash hash := by
  have hnone : (p.entered.map fun u => (u.hash, u.id)).lookup hash = none := by
    simp only [List.lookup_eq_none_iff, List.mem_map, bne_iff_ne]
    rintro entry ⟨u, hu, rfl⟩
    exact (h u hu).symm
  simp only [hasHash, idOfHash?, patch, List.lookup_append, hnone, Option.or_none]

theorem Patch.Within.alike {p : Patch} (hp : p.Within s₁) (hm : (m.patch s₁ p).Sound)
    {r₁ r₂ : Store.Request} (hne : s₁ ≠ s₂)
    (hentered : ∀ u ∈ p.entered, (Operation.ask r₁).Enters u)
    (hf : Operation.Fresh m (.ask r₂)) (hr : BringApart r₁ r₂) :
    m.Alike (m.patch s₁ p) s₂ r₂ where
  sound := hm
  agree := hp.agree hne
  hash := fun id hash hb => hasHash_patch fun u hu => (hr _ _ _ _ (hentered u hu).brings hb).2
  fresh := by
    intro v hv
    refine ⟨fun t ht => ?_, (hf v hv).2⟩
    rcases List.mem_append.mp ht with ht | ht
    · obtain ⟨u, hu, rfl⟩ := List.mem_map.mp ht
      split
      · rw [hp.tokenId]
        exact (hf v hv).1 u hu
      · exact (hf v hv).1 u hu
    · exact (hr _ _ _ _ (hentered t ht).brings hv.brings).1

theorem Sound.isolated (hm : m.Sound) {r : Store.Request} (ha : m.Addressed s r)
    (hf : Operation.Fresh m (.ask r)) : m.Elsewhere (m.answer r).2 s := by
  obtain ⟨a, p, hp, hentered, hgo⟩ := hm.local_of_addressed ha
  rw [hgo m ⟨hm, .refl m s, fun _ _ _ => rfl, hf⟩]
  exact hp.elsewhere fun u hu => (hf u (hentered u hu)).1

/-- Requests to different sessions commute: each is answered as if the other had not been made. -/
theorem Sound.answer_comm (hm : m.Sound) {r₁ r₂ : Store.Request} (h₁ : m.Addressed s₁ r₁)
    (h₂ : m.Addressed s₂ r₂) (hne : s₁ ≠ s₂) (hf₁ : Operation.Fresh m (.ask r₁))
    (hf₂ : Operation.Fresh m (.ask r₂)) (hr : BringApart r₁ r₂) :
    ((m.answer r₂).2.answer r₁).1 = (m.answer r₁).1 ∧
      ((m.answer r₁).2.answer r₂).1 = (m.answer r₂).1 ∧
      ((m.answer r₁).2.answer r₂).2.SameRows ((m.answer r₂).2.answer r₁).2 := by
  obtain ⟨a₁, p₁, hp₁, hentered₁, hgo₁⟩ := hm.local_of_addressed h₁
  obtain ⟨a₂, p₂, hp₂, hentered₂, hgo₂⟩ := hm.local_of_addressed h₂
  have hone : m.answer r₁ = (a₁, m.patch s₁ p₁) := hgo₁ m ⟨hm, .refl m s₁, fun _ _ _ => rfl, hf₁⟩
  have htwo : m.answer r₂ = (a₂, m.patch s₂ p₂) := hgo₂ m ⟨hm, .refl m s₂, fun _ _ _ => rfl, hf₂⟩
  have hsound₁ : (m.patch s₁ p₁).Sound := by
    have h := hm.apply hf₁
    rwa [Memory.apply, hone] at h
  have hsound₂ : (m.patch s₂ p₂).Sound := by
    have h := hm.apply hf₂
    rwa [Memory.apply, htwo] at h
  have hlater₁ := hgo₁ _ (hp₂.alike hsound₂ hne.symm hentered₂ hf₁ hr.symm)
  have hlater₂ := hgo₂ _ (hp₁.alike hsound₁ hne hentered₁ hf₂ hr)
  rw [hone, htwo, hlater₁, hlater₂]
  exact ⟨rfl, rfl, patch_comm hne hp₁ hp₂⟩

end Memory

end SessionKeeper
