import SessionKeeper.Proofs.Store.Chains
import SessionKeeper.Proofs.Store.Orderly

/-!
# The structure of the store

The tables refer to each other: the index to the tokens, tokens to their sessions and to the tokens
that replaced them, sessions to their users. `Sound` says that all these references fit, and every
operation keeps it as long as what it enters is new (`Operation.Fresh`). Its parts are kept one by
one: `Indexed` and `Owned` have one lemma for each kind of write, as the chains have. What a sound
store guarantees to its readers is `Coherent`.
-/

namespace SessionKeeper

namespace Memory

variable {m m' : Memory}

/-! ## The index -/

/-- A look-up in a list whose keys are not repeated finds the entry with the key. -/
theorem lookup_eq_some_iff_mem {entries : List (Hash × Uuid)}
    (h : (entries.map Prod.fst).Nodup) {hash : Hash} {id : Uuid} :
    entries.lookup hash = some id ↔ (hash, id) ∈ entries := by
  constructor
  · intro hl
    obtain ⟨before, after, rfl, -⟩ := List.lookup_eq_some_iff.mp hl
    simp
  · intro hm
    induction entries with
    | nil => cases hm
    | cons entry entries ih =>
      simp only [List.map_cons, List.nodup_cons] at h
      rcases List.mem_cons.mp hm with rfl | hm
      · simp
      · have hne : hash ≠ entry.1 := by
          rintro rfl
          exact h.1 (List.mem_map.mpr ⟨_, hm, rfl⟩)
        have hb : (hash == entry.1) = false := by simpa using hne
        rw [List.lookup_cons, hb]
        exact ih h.2 hm

theorem hasHash_eq_false {hash : Hash} :
    m.hasHash hash = false ↔ ∀ entry ∈ m.byHash, entry.1 ≠ hash := by
  simp only [hasHash, idOfHash?, Option.isSome_eq_false_iff, Option.isNone_iff_eq_none,
    List.lookup_eq_none_iff, bne_iff_ne, ne_eq]
  exact ⟨fun h entry he hk => h entry he hk.symm, fun h entry he hk => h entry he hk.symm⟩

/-- Every stored token is found by its hash, and every entry of the index leads to a stored token
with that hash. -/
structure Indexed (m : Memory) : Prop where
  hashes : (m.byHash.map Prod.fst).Nodup
  entry_iff : ∀ hash id, (hash, id) ∈ m.byHash ↔ ∃ t ∈ m.tokens, t.hash = hash ∧ t.id = id

namespace Indexed

theorem entry (h : m.Indexed) {t : Token} (ht : t ∈ m.tokens) : (t.hash, t.id) ∈ m.byHash :=
  (h.entry_iff _ _).mpr ⟨t, ht, rfl, rfl⟩

theorem id_eq (h : m.Indexed) {t u : Token} (ht : t ∈ m.tokens) (hu : u ∈ m.tokens)
    (he : t.hash = u.hash) : t.id = u.id := by
  have htl := (lookup_eq_some_iff_mem h.hashes).mpr (h.entry ht)
  have hul := (lookup_eq_some_iff_mem h.hashes).mpr (h.entry hu)
  rw [he, hul] at htl
  exact (Option.some.inj htl).symm

theorem idOfHash?_eq_some (h : m.Indexed) {hash : Hash} {id : Uuid} :
    m.idOfHash? hash = some id ↔ ∃ t ∈ m.tokens, t.hash = hash ∧ t.id = id :=
  (lookup_eq_some_iff_mem h.hashes).trans (h.entry_iff hash id)

/-- The token that is found by a hash is the one with that hash. -/
theorem tokenByHash?_eq_some (h : m.Indexed) (ho : m.Orderly) {hash : Hash} {t : Token} :
    m.tokenByHash? hash = some t ↔ t ∈ m.tokens ∧ t.hash = hash := by
  simp only [tokenByHash?, Option.bind_eq_some_iff, h.idOfHash?_eq_some, ho.token?_eq_some]
  constructor
  · rintro ⟨id, ⟨u, hu, rfl, rfl⟩, ht, he⟩
    exact ⟨ht, by rw [ho.token_eq ht hu he]⟩
  · rintro ⟨ht, rfl⟩
    exact ⟨t.id, ⟨t, ht, rfl, rfl⟩, ht, rfl⟩

/-- Changing rows without touching identifiers and hashes leaves the index right. -/
theorem map_tokens (h : m.Indexed) {f : Token → Token} (hid : ∀ t, (f t).id = t.id)
    (hhash : ∀ t, (f t).hash = t.hash) (htokens : m'.tokens = m.tokens.map f)
    (hbyHash : m'.byHash = m.byHash) : m'.Indexed where
  hashes := hbyHash ▸ h.hashes
  entry_iff := by
    intro hash id
    rw [hbyHash, h.entry_iff, htokens]
    simp only [List.mem_map]
    constructor
    · rintro ⟨t, ht, rfl, rfl⟩
      exact ⟨f t, ⟨t, ht, rfl⟩, hhash t, hid t⟩
    · rintro ⟨_, ⟨t, ht, rfl⟩, rfl, rfl⟩
      exact ⟨t, ht, (hhash t).symm, (hid t).symm⟩

theorem modifyToken (h : m.Indexed) {id : Uuid} {f : Token → Token} (hid : ∀ t, (f t).id = t.id)
    (hhash : ∀ t, (f t).hash = t.hash) : (m.modifyToken id f).Indexed := by
  refine h.map_tokens (f := fun t => if t.id == id then f t else t) (fun t => ?_) (fun t => ?_) rfl
    rfl
  · split
    · exact hid t
    · rfl
  · split
    · exact hhash t
    · rfl

theorem enter (h : m.Indexed) {t : Token} (hn : ∀ u ∈ m.tokens, u.id ≠ t.id)
    (hh : m.hasHash t.hash = false) : (m.enter t).Indexed where
  hashes := by
    rw [enter_byHash, List.map_append, List.nodup_append]
    refine ⟨h.hashes, by simp, ?_⟩
    intro hash hm other ho
    obtain ⟨entry, he, rfl⟩ := List.mem_map.mp hm
    simp only [List.map_cons, List.map_nil, List.mem_singleton] at ho
    rw [ho]
    exact hasHash_eq_false.mp hh entry he
  entry_iff := by
    intro hash id
    rw [enter_byHash, enter_tokens_of_new hn, List.mem_append, h.entry_iff]
    simp only [List.mem_append, List.mem_singleton, Prod.mk.injEq]
    constructor
    · rintro (⟨u, hu, he⟩ | ⟨rfl, rfl⟩)
      · exact ⟨u, .inl hu, he⟩
      · exact ⟨t, .inr rfl, rfl, rfl⟩
    · rintro ⟨u, hu | rfl, hhash, hid⟩
      · exact .inl ⟨u, hu, hhash, hid⟩
      · exact .inr ⟨hhash.symm, hid.symm⟩

/-- Rows and the entries of their hashes are deleted together. -/
theorem drop (h : m.Indexed) (ho : m.Orderly) {doomed : List Token}
    (hd : ∀ t ∈ doomed, t ∈ m.tokens) (htokens : m'.tokens = (m.dropTokens doomed).tokens)
    (hbyHash : m'.byHash = (m.dropTokens doomed).byHash) : m'.Indexed where
  hashes := by
    rw [hbyHash]
    exact h.hashes.sublist (List.filter_sublist.map _)
  entry_iff := by
    intro hash id
    have hmem : (hash, id) ∈ (m.dropTokens doomed).byHash ↔
        (hash, id) ∈ m.byHash ∧ ∀ d ∈ doomed, d.hash ≠ hash := by
      simp [dropTokens]
    rw [hbyHash, htokens, hmem, h.entry_iff]
    simp only [mem_dropTokens]
    constructor
    · rintro ⟨⟨t, ht, rfl, rfl⟩, hnone⟩
      refine ⟨t, ⟨ht, fun d hdm he => ?_⟩, rfl, rfl⟩
      exact hnone d hdm (by rw [ho.token_eq (hd d hdm) ht he])
    · rintro ⟨t, ⟨ht, hnone⟩, rfl, rfl⟩
      refine ⟨⟨t, ht, rfl, rfl⟩, fun d hdm he => ?_⟩
      exact hnone d hdm (h.id_eq (hd d hdm) ht he)

end Indexed

/-! ## Owners -/

/-- Every session belongs to a known user and every token to a stored session. -/
structure Owned (m : Memory) : Prop where
  user : ∀ s ∈ m.sessions, s.user ∈ m.users
  session : ∀ t ∈ m.tokens, ∃ s ∈ m.sessions, s.id = t.session

namespace Owned

/-- Rows of tokens may change, be entered or go, as long as each belongs to a stored session. -/
theorem with_tokens (h : m.Owned) (husers : m'.users = m.users)
    (hsessions : m'.sessions = m.sessions)
    (htokens : ∀ t ∈ m'.tokens, ∃ s ∈ m.sessions, s.id = t.session) : m'.Owned where
  user := by rw [hsessions, husers]; exact h.user
  session := by rw [hsessions]; exact htokens

theorem map_tokens (h : m.Owned) {f : Token → Token}
    (hf : ∀ t ∈ m.tokens, (f t).session = t.session) (husers : m'.users = m.users)
    (hsessions : m'.sessions = m.sessions) (htokens : m'.tokens = m.tokens.map f) : m'.Owned := by
  refine h.with_tokens husers hsessions fun u hu => ?_
  rw [htokens] at hu
  obtain ⟨t, ht, rfl⟩ := List.mem_map.mp hu
  rw [hf t ht]
  exact h.session t ht

theorem modifyToken (h : m.Owned) {id : Uuid} {f : Token → Token}
    (hf : ∀ t, (f t).session = t.session) : (m.modifyToken id f).Owned := by
  refine h.map_tokens (f := fun t => if t.id == id then f t else t) (fun t _ => ?_) rfl rfl rfl
  split
  · exact hf t
  · rfl

theorem enter (h : m.Owned) {t : Token} {s : Session} (ha : m.Active t.session s) :
    (m.enter t).Owned := by
  refine h.with_tokens (enter_users t) (enter_sessions t) fun u hu => ?_
  rcases mem_enter.mp hu with rfl | ⟨hu, -⟩
  · exact ⟨s, mem_of_session? ha.1⟩
  · exact h.session u hu

/-- Sessions may change as long as they keep their identifiers and users. -/
theorem map_sessions (h : m.Owned) {f : Session → Session}
    (hf : ∀ s ∈ m.sessions, (f s).id = s.id ∧ (f s).user = s.user) (husers : m'.users = m.users)
    (hsessions : m'.sessions = m.sessions.map f) (htokens : m'.tokens = m.tokens) : m'.Owned where
  user := by
    intro s' hs'
    rw [hsessions] at hs'
    obtain ⟨s, hs, rfl⟩ := List.mem_map.mp hs'
    rw [husers, (hf s hs).2]
    exact h.user s hs
  session := by
    intro t ht
    obtain ⟨s, hs, hid⟩ := h.session t (htokens ▸ ht)
    refine ⟨f s, ?_, (hf s hs).1.trans hid⟩
    rw [hsessions]
    exact List.mem_map_of_mem hs

theorem modifySession (h : m.Owned) {id : Uuid} {f : Session → Session}
    (hf : ∀ s ∈ m.sessions, s.id = id → (f s).id = s.id ∧ (f s).user = s.user) :
    (m.modifySession id f).Owned := by
  refine h.map_sessions (f := fun s => if s.id == id then f s else s) (fun s hs => ?_) rfl rfl rfl
  split
  · rename_i hid
    exact hf s hs (by simpa using hid)
  · exact ⟨rfl, rfl⟩

theorem removeUser (h : m.Owned) (ho : m.Orderly) {user : Uuid}
    (hu : m.users.contains user = true) : (m.removeUser user).2.Owned where
  user := by
    intro s hs
    obtain ⟨hs, hown⟩ := (mem_removeUser_sessions hu).mp hs
    refine (mem_removeUser_users hu).mpr ⟨h.user s hs, fun he => ?_⟩
    exact hown ⟨s, hs, he, rfl⟩
  session := by
    intro t ht
    obtain ⟨ht, hown⟩ := (ho.mem_removeUser_tokens hu).mp ht
    obtain ⟨s, hs, hid⟩ := h.session t ht
    exact ⟨s, (mem_removeUser_sessions hu).mpr ⟨hs, hid ▸ hown⟩, hid⟩

end Owned

/-! ## Preservation -/

/-- All references of the store fit. -/
structure Sound (m : Memory) : Prop where
  orderly : m.Orderly
  indexed : m.Indexed
  owned : m.Owned
  chained : Chained m.tokens

/-- What an operation would enter is new: no row has its identifier, and it has not been used,
revoked or replaced. -/
def Operation.Fresh (m : Memory) (o : Operation) : Prop :=
  ∀ u, o.Enters u → (∀ t ∈ m.tokens, t.id ≠ u.id) ∧ u.isSpent = false

theorem sound_empty : empty.Sound where
  orderly := orderly_empty
  indexed := ⟨.nil, by simp [empty]⟩
  owned := ⟨by simp [empty], by simp [empty]⟩
  chained := ⟨by simp [empty], trivial, by simp [empty]⟩

/-- An identifier that is new stays so when rows change. -/
theorem new_modifyToken {id new : Uuid} {f : Token → Token} (hf : ∀ t, (f t).id = t.id)
    (h : ∀ t ∈ m.tokens, t.id ≠ new) : ∀ t ∈ (m.modifyToken id f).tokens, t.id ≠ new := by
  intro u hu
  obtain ⟨t, ht, rfl⟩ := mem_modifyToken.mp hu
  split
  · rw [hf]
    exact h t ht
  · exact h t ht

/-- An exchange as a change of rows: the used row is changed where it stands. -/
theorem Orderly.exchange_eq (h : m.Orderly) {t : Token} (ht : t ∈ m.tokens) (next : Token)
    (s : Session) (now : Instant) :
    m.exchange t next s now = ((m.modifyToken t.id (·.consume now next.id)).enter
      next).modifySession t.session fun _ => { s with lastUsedAt := some now } := by
  have hrow : (m.modifyToken t.id fun _ => t.consume now next.id) =
      m.modifyToken t.id (·.consume now next.id) := by
    simp only [Memory.modifyToken, Memory.mk.injEq, true_and, and_true]
    refine List.map_congr_left fun u hu => ?_
    by_cases he : u.id = t.id
    · rw [h.token_eq hu ht he]
    · simp [he]
  rw [exchange, hrow]

theorem Indexed.effect {o : Operation} (h : m.Indexed) (ho : m.Orderly) (hf : o.Fresh m)
    (e : Effect m o m') : m'.Indexed := by
  cases e with
  | nothing | userAdded | sessionCreated | sessionBound | sessionTouched | sessionRevoked
  | userRevoked => exact ⟨h.hashes, h.entry_iff⟩
  | userRemoved hu =>
    exact h.drop ho (fun t ht => (List.mem_filter.mp ht).1) (removeUser_tokens hu)
      (removeUser_byHash hu)
  | issued _ hh => exact h.enter (hf _ rfl).1 hh
  | superseded _ hh =>
    refine (h.modifyToken ?_ ?_).enter (new_modifyToken ?_ (hf _ rfl).1) hh
    all_goals exact fun _ => rfl
  | reused =>
    refine h.map_tokens (fun t => ?_) (fun t => ?_) rfl rfl
    · split <;> rfl
    · split <;> rfl
  | @exchanged _ _ _ now _ t s next hx _ _ _ hh hfresh =>
    have hused : (m.modifyToken t.id (·.consume now next.id)).Indexed :=
      h.modifyToken (fun _ => rfl) fun _ => rfl
    have hnew : ∀ u ∈ (m.modifyToken t.id (·.consume now next.id)).tokens, u.id ≠ next.id :=
      new_modifyToken (fun _ => rfl) (hf _ ⟨_, hfresh⟩).1
    have hnext := hused.enter hnew ((Token.fresh_session_hash hfresh).2 ▸ hh)
    rw [ho.exchange_eq (mem_of_tokenByHash? hx)]
    exact ⟨hnext.hashes, hnext.entry_iff⟩
  | tokenRevoked => exact h.modifyToken (fun _ => rfl) fun _ => rfl
  | purged => exact h.drop ho (fun t ht => (mem_of_doomed ht).1) rfl rfl

theorem Owned.effect {o : Operation} (h : m.Owned) (ho : m.Orderly) (e : Effect m o m') :
    m'.Owned := by
  -- the row that is written over is the one that was looked up
  have hactive : ∀ {id : Uuid} {s : Session}, m.Active id s →
      ∀ x ∈ m.sessions, x.id = id → x = s := by
    intro id s ha x hx hid
    obtain ⟨hs, hsid⟩ := mem_of_session? ha.1
    exact eq_of_key_eq ho.sessionIds hx hs (hid.trans hsid.symm)
  cases e with
  | nothing => exact h
  | userAdded => exact ⟨fun s hs => List.mem_append_left _ (h.user s hs), h.session⟩
  | userRemoved hu => exact h.removeUser ho hu
  | sessionCreated hu =>
    refine ⟨fun x hx => ?_, fun t ht => ?_⟩
    · rcases List.mem_append.mp hx with hx | hx
      · exact h.user x hx
      · rw [List.mem_singleton.mp hx]
        simpa using hu
    · obtain ⟨x, hx, hid⟩ := h.session t ht
      exact ⟨x, List.mem_append_left _ hx, hid⟩
  | sessionBound ha =>
    refine h.modifySession fun x hx hid => ?_
    rw [hactive ha x hx hid]
    exact ⟨rfl, rfl⟩
  | sessionTouched | sessionRevoked => exact h.modifySession fun _ _ _ => ⟨rfl, rfl⟩
  | userRevoked =>
    refine h.map_sessions (fun s _ => ?_) rfl rfl rfl
    split <;> exact ⟨rfl, rfl⟩
  | issued ha => exact h.enter ha
  | superseded ha =>
    refine (h.modifyToken ?_).enter ha
    exact fun _ => rfl
  | @reused _ _ _ now _ t =>
    have hrevoked : (m.modifySession t.session (·.revoke now)).Owned :=
      h.modifySession fun _ _ _ => ⟨rfl, rfl⟩
    refine hrevoked.map_tokens (fun u _ => ?_) rfl rfl rfl
    split <;> rfl
  | @exchanged _ _ _ now _ t s next hx ha _ _ _ hfresh =>
    have hused : (m.modifyToken t.id (·.consume now next.id)).Owned := h.modifyToken fun _ => rfl
    have hnext : ((m.modifyToken t.id (·.consume now next.id)).enter next).Owned :=
      hused.enter ((Token.fresh_session_hash hfresh).1.symm ▸ ha)
    rw [ho.exchange_eq (mem_of_tokenByHash? hx)]
    refine hnext.modifySession fun x hx hid => ?_
    rw [enter_sessions] at hx
    rw [hactive ha x hx hid]
    exact ⟨rfl, rfl⟩
  | tokenRevoked => exact h.modifyToken fun _ => rfl
  | purged => exact h.with_tokens rfl rfl fun t ht => h.session t (mem_dropTokens.mp ht).1

/-- In every store that operations reach, sessions have known users and tokens stored sessions, even
where identifiers are reused. -/
theorem Reached.owned (h : m.Reached) : m.Owned := by
  obtain ⟨os, rfl⟩ := h
  suffices hgen : ∀ {m : Memory}, m.Orderly → m.Owned → (m.applyAll os).Owned from
    hgen orderly_empty sound_empty.owned
  induction os with
  | nil => exact fun _ h => h
  | cons o os ih => exact fun ho h => ih (ho.apply o) (h.effect ho (ho.apply_effect o))

/-- Deleting a row with every row that points to it leaves no link without its end. -/
theorem chained_dropTokens (h : Chained m.tokens) (ho : m.Orderly) {doomed : List Token}
    (hd : ∀ t ∈ doomed, t ∈ m.tokens)
    (hlinks : ∀ t ∈ m.tokens, ∀ u ∈ doomed, t.replacedBy = some u.id → t ∈ doomed) :
    Chained (m.dropTokens doomed).tokens := by
  refine h.filter fun t ht hkept u hu hlink => ?_
  simp only [Bool.not_eq_true', List.any_eq_false, beq_iff_eq] at hkept ⊢
  intro d hdm hid
  have hdu := ho.token_eq (hd d hdm) hu hid
  exact hkept t (hlinks t ht d hdm (hdu ▸ hlink)) rfl

theorem Sound.chained_effect {o : Operation} (h : m.Sound) (hf : o.Fresh m)
    (e : Effect m o m') : Chained m'.tokens := by
  cases e with
  | nothing | userAdded | sessionCreated | sessionBound | sessionTouched | sessionRevoked
  | userRevoked => exact h.chained
  | userRemoved hu =>
    rw [removeUser_tokens hu]
    refine chained_dropTokens h.chained h.orderly (fun t ht => (List.mem_filter.mp ht).1) ?_
    intro t ht u hu hlink
    obtain ⟨hum, hgone⟩ := List.mem_filter.mp hu
    obtain ⟨v, hv, hid, hsession⟩ := h.chained.linked.target ht hlink
    rw [h.orderly.token_eq hv hum hid] at hsession
    exact List.mem_filter.mpr ⟨ht, hsession ▸ hgone⟩
  | issued =>
    obtain ⟨hnew, hunspent⟩ := hf _ rfl
    rw [enter_tokens_of_new hnew]
    exact h.chained.append_unspent hunspent
  | superseded =>
    obtain ⟨hnew, hunspent⟩ := hf _ rfl
    rw [enter_tokens_of_new (new_modifyToken (by exact fun _ => rfl) hnew)]
    refine (h.chained.map_revoked ?_ ?_ ?_ ?_).append_unspent hunspent <;>
      exact fun t => by split <;> rfl
  | reused =>
    refine h.chained.map_revoked ?_ ?_ ?_ ?_ <;> exact fun t => by split <;> rfl
  | @exchanged _ _ _ now _ t _ next hx _ _ _ _ hfresh =>
    obtain ⟨hnew, hunspent⟩ := hf _ ⟨_, hfresh⟩
    have hnew' : ∀ u ∈ (m.modifyToken t.id (·.consume now next.id)).tokens, u.id ≠ next.id :=
      new_modifyToken (fun _ => rfl) hnew
    rw [h.orderly.exchange_eq (mem_of_tokenByHash? hx), modifySession_tokens,
      enter_tokens_of_new hnew']
    exact h.chained.consume_append h.orderly.tokenIds (mem_of_tokenByHash? hx) hunspent hnew
      (Token.fresh_session_hash hfresh).1 _
  | tokenRevoked =>
    refine h.chained.map_revoked ?_ ?_ ?_ ?_ <;> exact fun t => by split <;> rfl
  | purged =>
    refine chained_dropTokens h.chained h.orderly (fun t ht => (mem_of_doomed ht).1) ?_
    intro t ht u hu hlink
    -- a row to which another points is not chosen
    have hunreferenced := (mem_of_doomed hu).2.2.2
    rw [isReferenced, List.any_eq_false] at hunreferenced
    exact absurd (by simpa using hlink) (hunreferenced t ht)

/-- A sound store stays so under every operation that enters nothing but new rows. -/
theorem Sound.apply {o : Operation} (h : m.Sound) (hf : o.Fresh m) : (m.apply o).Sound := by
  have e := h.orderly.apply_effect o
  exact ⟨h.orderly.effect e, h.indexed.effect h.orderly hf e, h.owned.effect h.orderly e,
    h.chained_effect hf e⟩

/-! ## Following a chain -/

/-- The token that `n` links lead to from the given one. -/
def follow (m : Memory) : Nat → Token → Option Token
  | 0, t => some t
  | n + 1, t => (t.replacedBy.bind m.token?).bind (m.follow n)

/-- From every token the links lead to one without a link. -/
theorem Orderly.follow_ends (ho : m.Orderly) {later : List Token} (h : Linked later)
    (hsub : ∀ t ∈ later, t ∈ m.tokens) {t : Token} (ht : t ∈ later) :
    ∃ n last, m.follow n t = some last ∧ last.replacedBy = none := by
  induction later generalizing t with
  | nil => cases ht
  | cons u later ih =>
    have ih := fun {t} => ih h.2 (fun v hv => hsub v (List.mem_cons_of_mem _ hv)) (t := t)
    rcases List.mem_cons.mp ht with rfl | ht
    · cases hr : t.replacedBy with
      | none => exact ⟨0, t, rfl, hr⟩
      | some next =>
        obtain ⟨v, hv, hid, -⟩ := h.1 next hr
        obtain ⟨n, last, hn, hlast⟩ := ih hv
        have hfound := ho.token?_eq_some.mpr ⟨hsub v (List.mem_cons_of_mem _ hv), hid⟩
        exact ⟨n + 1, last, by simp [follow, hr, hfound, hn], hlast⟩
    · exact ih ht

/-! ## The references that fit -/

/-- What holds of the tables, the index and the chains of a sound store. -/
structure Coherent (m : Memory) : Prop where
  /-- A hash stands for an identifier exactly when the row with this identifier has this hash. -/
  index : ∀ hash id, m.idOfHash? hash = some id ↔ ∃ t, m.token? id = some t ∧ t.hash = hash
  /-- The user of every session is registered. -/
  user : ∀ s ∈ m.sessions, s.user ∈ m.users
  /-- The session of every token is stored. -/
  session : ∀ t ∈ m.tokens, ∃ s, m.session? t.session = some s
  /-- A token has been used exactly when it has been replaced. -/
  used : ∀ t ∈ m.tokens, t.usedAt.isSome ↔ t.replacedBy.isSome
  /-- The replacement of a token is another stored token of its session. -/
  link : ∀ t ∈ m.tokens, ∀ next, t.replacedBy = some next →
    next ≠ t.id ∧ ∃ u, m.token? next = some u ∧ u.session = t.session
  /-- No two tokens have one replacement. -/
  apart : ∀ t ∈ m.tokens, ∀ u ∈ m.tokens, ∀ next, t.replacedBy = some next →
    u.replacedBy = some next → t = u
  /-- From every token the links lead to one that has not been replaced. -/
  ends : ∀ t ∈ m.tokens, ∃ n last, m.follow n t = some last ∧ last.replacedBy = none

theorem Sound.coherent (h : m.Sound) : m.Coherent where
  index := by
    intro hash id
    rw [h.indexed.idOfHash?_eq_some]
    simp only [h.orderly.token?_eq_some]
    constructor
    · rintro ⟨t, ht, hhash, hid⟩
      exact ⟨t, ⟨ht, hid⟩, hhash⟩
    · rintro ⟨t, ⟨ht, hid⟩, hhash⟩
      exact ⟨t, ht, hhash, hid⟩
  user := h.owned.user
  session := by
    intro t ht
    obtain ⟨s, hs, hid⟩ := h.owned.session t ht
    exact ⟨s, h.orderly.session?_eq_some.mpr ⟨hs, hid⟩⟩
  used := by
    intro t ht
    rw [h.chained.used t ht]
  link := by
    intro t ht next hn
    obtain ⟨u, hu, hid, hsession⟩ := h.chained.linked.target ht hn
    exact ⟨h.chained.linked.ne h.orderly.tokenIds ht hn, u,
      h.orderly.token?_eq_some.mpr ⟨hu, hid⟩, hsession⟩
  apart := by
    intro t ht u hu next htn hun
    exact h.orderly.token_eq ht hu (h.chained.apart t ht u hu next htn hun)
  ends := fun t ht => h.orderly.follow_ends h.chained.linked (fun _ hu => hu) ht

end Memory

end SessionKeeper
