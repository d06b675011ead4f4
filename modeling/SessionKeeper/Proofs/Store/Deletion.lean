import SessionKeeper.Proofs.Store.Outcome

/-!
# A store without some of its tokens

When tokens that are out of use are deleted, a request that does not present one of them is
answered as before, and the store after it is the store that there would have been, without the
deleted tokens (`Sound.answer_dropTokens`). Out of use are tokens that are not current, and every
row with the identifier of one of them bears the hash of one of them (`Disused`). Operations keep
this as long as they do not enter the identifier or the hash of such a token again.
-/

namespace SessionKeeper

/-- Rows that a filter takes away are not missed by a search that would pass over them. -/
theorem find?_filter_of_imp {α : Type} {p q : α → Bool} {rows : List α}
    (h : ∀ a ∈ rows, q a = true → p a = true) : (rows.filter p).find? q = rows.find? q := by
  induction rows with
  | nil => rfl
  | cons a rows ih =>
    have ih := ih fun b hb => h b (List.mem_cons_of_mem _ hb)
    by_cases hq : q a = true
    · have hp := h a (List.mem_cons_self ..) hq
      simp [hp, hq]
    · by_cases hp : p a = true <;> simp [hp, hq, ih]

theorem lookup_filter_of_ne {entries : List (Hash × Uuid)} {p : Hash × Uuid → Bool} {hash : Hash}
    (h : ∀ id, p (hash, id) = true) : (entries.filter p).lookup hash = entries.lookup hash := by
  induction entries with
  | nil => rfl
  | cons entry entries ih =>
    obtain ⟨key, id⟩ := entry
    by_cases he : hash = key
    · subst he
      simp [h id]
    · have hb : (hash == key) = false := by simpa using he
      by_cases hp : p (key, id) = true
      · rw [List.filter_cons_of_pos hp, List.lookup_cons, List.lookup_cons, hb]
        exact ih
      · rw [List.filter_cons_of_neg hp, List.lookup_cons, hb]
        exact ih

namespace Memory

variable {m m' : Memory} {gone : List Token}

/-! ## Taking tokens out -/

theorem dropTokens_nil : m.dropTokens [] = m := by
  refine Memory.ext rfl rfl ?_ ?_ <;> exact List.filter_eq_self.mpr fun _ _ => rfl

theorem dropTokens_congr {gone more : List Token} (h : ∀ t, t ∈ gone ↔ t ∈ more) :
    m.dropTokens gone = m.dropTokens more := by
  have hany : ∀ p : Token → Bool, gone.any p = more.any p := by
    intro p
    rw [Bool.eq_iff_iff, List.any_eq_true, List.any_eq_true]
    simp only [h]
  simp only [dropTokens, hany]

theorem dropTokens_append (gone more : List Token) :
    m.dropTokens (gone ++ more) = (m.dropTokens gone).dropTokens more := by
  simp only [dropTokens, List.filter_filter, List.any_append, Bool.not_or, Memory.mk.injEq,
    true_and]
  exact ⟨List.filter_congr fun _ _ => Bool.and_comm ..,
    List.filter_congr fun _ _ => Bool.and_comm ..⟩

theorem Orderly.drop (h : m.Orderly) (gone : List Token) : (m.dropTokens gone).Orderly :=
  h.sub_tokens List.filter_sublist h.sessionIds

theorem Orderly.mem_dropTokens_iff (ho : m.Orderly) (hgone : ∀ d ∈ gone, d ∈ m.tokens) {t : Token} :
    t ∈ (m.dropTokens gone).tokens ↔ t ∈ m.tokens ∧ t ∉ gone := by
  rw [mem_dropTokens]
  refine and_congr_right ?_
  intro ht
  constructor
  · intro hne hmem
    exact hne t hmem rfl
  · intro hnot d hd hid
    exact hnot (ho.token_eq (hgone d hd) ht hid ▸ hd)

/-! ## Tokens out of use -/

/-- The tokens of a list are out of use: what the store has under their identifiers is what it has
under their hashes, and none of it is current. -/
structure Disused (m : Memory) (gone : List Token) : Prop where
  same : ∀ t ∈ m.tokens, (∃ d ∈ gone, d.id = t.id) ↔ ∃ d ∈ gone, d.hash = t.hash
  idle : ∀ t ∈ m.tokens, (∃ d ∈ gone, d.id = t.id) → t.isCurrent = false

/-- A request that presents none of the tokens and does not ask for all tokens. -/
def Discreet (gone : List Token) : Store.Request → Prop
  | .rotateToken presented _ _ _ _ => ∀ d ∈ gone, d.hash ≠ presented
  | .revokeToken hash _ => ∀ d ∈ gone, d.hash ≠ hash
  | .findToken hash => ∀ d ∈ gone, d.hash ≠ hash
  | .isCurrentAndValid hash _ => ∀ d ∈ gone, d.hash ≠ hash
  | .sessionTokens _ => False
  | .purgeExpired _ _ => False
  | _ => True

/-- What the request brings for a new token is not what one of the tokens had. -/
def Unlike (gone : List Token) (r : Store.Request) : Prop :=
  ∀ id hash, r.brings? = some (id, hash) → ∀ d ∈ gone, d.id ≠ id ∧ d.hash ≠ hash

/-! ### Looking up -/

theorem Disused.token? {id : Uuid} (h : ∀ d ∈ gone, d.id ≠ id) :
    (m.dropTokens gone).token? id = m.token? id := by
  refine find?_filter_of_imp fun t _ ht => ?_
  have hid : t.id = id := by simpa using ht
  simpa [hid] using h

theorem Disused.currentOf? (hd : m.Disused gone) (session : Uuid) :
    (m.dropTokens gone).currentOf? session = m.currentOf? session := by
  refine find?_filter_of_imp fun t ht hq => ?_
  simp only [Bool.and_eq_true] at hq
  -- a current token is not out of use
  simp only [Bool.not_eq_true', List.any_eq_false, beq_iff_eq]
  intro d hdm hid
  rw [hd.idle t ht ⟨d, hdm, hid⟩] at hq
  exact absurd hq.2 (by simp)

theorem idOfHash?_dropTokens {hash : Hash} (h : ∀ d ∈ gone, d.hash ≠ hash) :
    (m.dropTokens gone).idOfHash? hash = m.idOfHash? hash :=
  lookup_filter_of_ne fun _ => by simpa using h

theorem hasHash_dropTokens {hash : Hash} (h : ∀ d ∈ gone, d.hash ≠ hash) :
    (m.dropTokens gone).hasHash hash = m.hasHash hash := by
  rw [hasHash, hasHash, idOfHash?_dropTokens h]

theorem Disused.tokenByHash? (hd : m.Disused gone) (hi : m.Indexed) {hash : Hash}
    (h : ∀ d ∈ gone, d.hash ≠ hash) :
    (m.dropTokens gone).tokenByHash? hash = m.tokenByHash? hash := by
  rw [Memory.tokenByHash?, Memory.tokenByHash?, idOfHash?_dropTokens h]
  cases hf : m.idOfHash? hash with
  | none => rfl
  | some id =>
    obtain ⟨t, ht, hhash, rfl⟩ := hi.idOfHash?_eq_some.mp hf
    -- the row with this hash is not out of use, so its identifier is none of theirs
    refine Disused.token? fun d hdm hid => ?_
    obtain ⟨d', hdm', he⟩ := (hd.same t ht).mp ⟨d, hdm, hid⟩
    exact h d' hdm' (he.trans hhash)

/-- A deleted token is not found by its hash. -/
theorem tokenByHash?_dropTokens_self {d : Token} (h : d ∈ gone) :
    (m.dropTokens gone).tokenByHash? d.hash = none := by
  have hnone : (m.dropTokens gone).idOfHash? d.hash = none := by
    simp only [idOfHash?, dropTokens, List.lookup_eq_none_iff, List.mem_filter, bne_iff_ne]
    rintro ⟨hash, id⟩ ⟨-, hkept⟩ rfl
    simp only [Bool.not_eq_true', List.any_eq_false, beq_iff_eq] at hkept
    exact hkept d h rfl
  rw [tokenByHash?, hnone]
  rfl

@[simp] theorem dropTokens_users : (m.dropTokens gone).users = m.users := rfl

@[simp] theorem dropTokens_session? (id : Uuid) :
    (m.dropTokens gone).session? id = m.session? id := rfl

theorem withActive_dropTokens {α : Type} {id : Uuid} {f g : Session → Outcome α}
    (h : ∀ s, g s = ((f s).1, (f s).2.dropTokens gone)) :
    (m.dropTokens gone).withActive id g =
      ((m.withActive id f).1, (m.withActive id f).2.dropTokens gone) := by
  simp only [withActive, dropTokens_session?]
  cases m.session? id with
  | none => rfl
  | some s =>
    simp only
    split
    · rfl
    · exact h s

/-! ### Writing -/

theorem dropTokens_map {f : Token → Token} (hf : ∀ t, (f t).id = t.id) :
    { m.dropTokens gone with tokens := (m.dropTokens gone).tokens.map f } =
      dropTokens { m with tokens := m.tokens.map f } gone := by
  simp only [dropTokens, Memory.mk.injEq, true_and, and_true, List.filter_map]
  congr 2
  funext t
  simp only [Function.comp_apply, hf]

theorem dropTokens_modifyToken {id : Uuid} {f : Token → Token} (hf : ∀ t, (f t).id = t.id) :
    (m.dropTokens gone).modifyToken id f = (m.modifyToken id f).dropTokens gone := by
  refine dropTokens_map fun t => ?_
  split
  · exact hf t
  · rfl

theorem dropTokens_enter {t : Token} (hnew : ∀ u ∈ m.tokens, u.id ≠ t.id)
    (ht : ∀ d ∈ gone, d.id ≠ t.id ∧ d.hash ≠ t.hash) :
    (m.dropTokens gone).enter t = (m.enter t).dropTokens gone := by
  have hnew' : ∀ u ∈ (m.dropTokens gone).tokens, u.id ≠ t.id :=
    fun u hu => hnew u (mem_dropTokens.mp hu).1
  refine Memory.ext ?_ ?_ ?_ ?_
  · simp [dropTokens]
  · simp [dropTokens]
  · rw [enter_tokens_of_new hnew']
    simp only [dropTokens, enter_tokens_of_new hnew, List.filter_append]
    rw [List.filter_cons_of_pos, List.filter_nil]
    simpa using fun d hd => (ht d hd).1
  · simp only [enter_byHash, dropTokens, List.filter_append]
    rw [List.filter_cons_of_pos, List.filter_nil]
    simpa using fun d hd => (ht d hd).2

/-! ### Keeping tokens out of use -/

/-- Rows may age and be entered, but not under what the tokens had. -/
theorem Disused.of_ages (hd : m.Disused gone) (h : ∀ u ∈ m'.tokens, (∃ t ∈ m.tokens, t.Ages u) ∨
    ∀ d ∈ gone, d.id ≠ u.id ∧ d.hash ≠ u.hash) : m'.Disused gone where
  same := by
    intro u hu
    rcases h u hu with ⟨t, ht, ha⟩ | hn
    · rw [ha.id, ha.hash]
      exact hd.same t ht
    · constructor
      · rintro ⟨d, hdm, hid⟩
        exact absurd hid (hn d hdm).1
      · rintro ⟨d, hdm, hhash⟩
        exact absurd hhash (hn d hdm).2
  idle := by
    intro u hu hgone
    rcases h u hu with ⟨t, ht, ha⟩ | hn
    · rw [ha.id] at hgone
      cases hc : u.isCurrent with
      | false => rfl
      | true =>
        have hidle := hd.idle t ht hgone
        rw [ha.isCurrent hc] at hidle
        cases hidle
    · obtain ⟨d, hdm, hid⟩ := hgone
      exact absurd hid (hn d hdm).1

theorem Disused.apply (hd : m.Disused gone) (ho : m.Orderly) {o : Operation}
    (hn : ∀ r, o = .ask r → Unlike gone r) : (m.apply o).Disused gone := by
  refine hd.of_ages fun u hu => ?_
  rcases (ho.apply_effect o).token_before ho hu with ht | he
  · exact .inl ht
  · cases o with
    | addUser | removeUser => cases he
    | ask r => exact .inr (hn r rfl _ _ he.brings)

/-! ## Requests -/

theorem Orderly.removeUser_tokens_eq (ho : m.Orderly) {user : Uuid}
    (h : m.users.contains user = true) :
    (m.removeUser user).2.tokens =
      m.tokens.filter fun t => !((m.sessionsOf user).map (·.id)).contains t.session := by
  rw [removeUser_tokens h, dropTokens]
  refine List.filter_congr fun t ht => ?_
  rw [Bool.eq_iff_iff]
  simp only [Bool.not_eq_true', List.any_eq_false, beq_iff_eq, List.mem_filter, and_imp]
  constructor
  · intro hall
    rw [← Bool.not_eq_true]
    exact fun hown => hall t ht hown rfl
  · intro hown d hd hdown he
    rw [ho.token_eq hd ht he, hown] at hdown
    cases hdown

theorem addUser_dropTokens (user : Uuid) :
    (m.dropTokens gone).addUser user = (m.addUser user).dropTokens gone := by
  cases hu : m.users.contains user <;> simp only [addUser, dropTokens_users, hu] <;> rfl

/-- The removal of a user takes the same rows away, whether tokens have been deleted or not. -/
theorem Sound.removeUser_dropTokens (hm : m.Sound) (hd : m.Disused gone) (user : Uuid) :
    (m.dropTokens gone).removeUser user =
      ((m.removeUser user).1, (m.removeUser user).2.dropTokens gone) := by
  cases hu : m.users.contains user with
  | false => simp only [removeUser, dropTokens_users, hu]; rfl
  | true =>
    have hu' : (m.dropTokens gone).users.contains user = true := hu
    refine Prod.ext (by simp only [removeUser, hu, hu', if_true]) (Memory.ext ?_ ?_ ?_ ?_)
    · simp only [removeUser, hu, hu', if_true]; rfl
    · rw [removeUser_sessions hu']
      exact (removeUser_sessions hu).symm
    · rw [(hm.orderly.drop gone).removeUser_tokens_eq hu', dropTokens, dropTokens,
        hm.orderly.removeUser_tokens_eq hu, List.filter_filter, List.filter_filter]
      exact List.filter_congr fun t _ => Bool.and_comm ..
    · rw [removeUser_byHash hu', dropTokens, dropTokens, dropTokens, removeUser_byHash hu,
        dropTokens]
      simp only [List.filter_filter]
      refine List.filter_congr fun entry he => ?_
      obtain ⟨hash, id⟩ := entry
      rw [Bool.eq_iff_iff]
      simp only [Bool.and_eq_true, Bool.not_eq_true', List.any_eq_false, beq_iff_eq,
        List.mem_filter, and_imp]
      rw [and_comm]
      refine and_congr_right fun hkept => ?_
      constructor
      · intro hall t ht hown hhash
        -- a row that is missing when the user goes has been deleted, and its entry with it
        refine hall t ht hown (fun d hdm hid => ?_) hhash
        obtain ⟨d', hdm', he⟩ := (hd.same t ht).mp ⟨d, hdm, hid⟩
        exact hkept d' hdm' (he.trans hhash)
      · exact fun hall t ht hown _ => hall t ht hown

theorem Issued.dropTokens {t : Token} {policy : IssuePolicy} {now : Instant}
    {out : Outcome TokenIssue} (h : Issued m t policy now out) (hd : m.Disused gone)
    (hnew : ∀ u ∈ m.tokens, u.id ≠ t.id) (ht : ∀ d ∈ gone, d.id ≠ t.id ∧ d.hash ≠ t.hash) :
    Issued (m.dropTokens gone) t policy now (out.1, out.2.dropTokens gone) := by
  have hhash := hasHash_dropTokens (m := m) fun d hdm => (ht d hdm).2
  have hcurrent := hd.currentOf? t.session
  cases h with
  | orphan h => exact .orphan h
  | inactive h hr => exact .inactive h hr
  | collision h hh => exact .collision h (hhash.trans hh)
  | occupied h hh hc => exact .occupied h (hhash.trans hh) (hcurrent.trans hc)
  | first h hh hc =>
    rw [← dropTokens_enter hnew ht]
    exact .first h (hhash.trans hh) (hcurrent.trans hc)
  | superseding h hh hc =>
    rw [← dropTokens_enter (new_modifyToken ?_ hnew) ht, ← dropTokens_modifyToken]
    · exact .superseding h (hhash.trans hh) (hcurrent.trans hc)
    all_goals exact fun _ => rfl

theorem Rotated.dropTokens {presented hash : Hash} {id : Uuid} {now : Instant} {lifetime : Span}
    {out : Outcome TokenRotation} (h : Rotated m presented id hash now lifetime out)
    (hm : m.Sound) (hd : m.Disused gone) (hp : ∀ d ∈ gone, d.hash ≠ presented)
    (hnew : ∀ next, (Operation.ask (.rotateToken presented id hash now lifetime)).Enters next →
      ∀ u ∈ m.tokens, u.id ≠ next.id) (hn : ∀ d ∈ gone, d.id ≠ id ∧ d.hash ≠ hash) :
    Rotated (m.dropTokens gone) presented id hash now lifetime
      (out.1, out.2.dropTokens gone) := by
  have hfound := hd.tokenByHash? hm.indexed hp
  have hhash := hasHash_dropTokens (m := m) fun d hdm => (hn d hdm).2
  cases h with
  | unknown h => exact .unknown (hfound.trans h)
  | orphan h hs => exact .orphan (hfound.trans h) hs
  | inactive h hs hr => exact .inactive (hfound.trans h) hs hr
  | @reused t s h hs hu =>
    have hfamily : (m.dropTokens gone).revokeFamily t.session now =
        (m.revokeFamily t.session now).dropTokens gone := by
      refine dropTokens_map (m := m.modifySession t.session (·.revoke now)) fun u => ?_
      split <;> rfl
    rw [← hfamily]
    exact .reused (hfound.trans h) hs hu
  | expired h hs hu he => exact .expired (hfound.trans h) hs hu he
  | collision h hs hu he hh => exact .collision (hfound.trans h) hs hu he (hhash.trans hh)
  | endless h hs hu he hh hf => exact .endless (hfound.trans h) hs hu he (hhash.trans hh) hf
  | @exchanged t s next h hs hu he hh hf =>
    have htm := mem_of_tokenByHash? h
    have htm' := mem_of_tokenByHash? (hfound.trans h)
    have hnext : ∀ d ∈ gone, d.id ≠ next.id ∧ d.hash ≠ next.hash := by
      obtain ⟨expiresAt, -, rfl⟩ := Token.fresh_eq_ok hf
      exact hn
    have hstore : (m.dropTokens gone).exchange t next s now =
        (m.exchange t next s now).dropTokens gone := by
      rw [hm.orderly.exchange_eq htm, (hm.orderly.drop gone).exchange_eq htm',
        dropTokens_modifyToken, dropTokens_enter (new_modifyToken ?_ (hnew next ⟨_, hf⟩)) hnext]
      · rfl
      all_goals exact fun _ => rfl
    rw [← hstore]
    exact .exchanged (hfound.trans h) hs hu he (hhash.trans hh) hf

/-- A request that presents no deleted token is answered as if none had been deleted. -/
theorem Sound.answer_dropTokens (hm : m.Sound) (hd : m.Disused gone) {r : Store.Request}
    (hr : Discreet gone r) (hf : Operation.Fresh m (.ask r)) (hn : Unlike gone r) :
    (m.dropTokens gone).answer r = ((m.answer r).1, (m.answer r).2.dropTokens gone) := by
  have ho := hm.orderly.drop gone
  cases r with
  | createSession s =>
    cases hu : m.users.contains s.user <;> cases hs : m.session? s.id <;>
      simp only [answer, createSession, dropTokens_users, dropTokens_session?, hu, hs] <;> rfl
  | findSession | listSessions | revokeUserSessions => rfl
  | bindThumbprint id thumbprint =>
    refine withActive_dropTokens fun s => ?_
    cases s.thumbprint with
    | none => rfl
    | some existing => simp only; split <;> rfl
  | touchSession id now => exact withActive_dropTokens fun s => rfl
  | revokeSession id now =>
    simp only [answer, revokeSession, dropTokens_session?]
    cases m.session? id <;> rfl
  | issueToken t policy now =>
    have hi := (issueToken_issued hm.orderly t policy now).dropTokens hd (hf t rfl).1 (hn _ _ rfl)
    exact ho.issueToken_eq hi
  | rotateToken presented id hash now lifetime =>
    have hx := (rotateToken_rotated hm.orderly presented id hash now lifetime).dropTokens hm hd hr
      (fun next he => (hf next he).1) (hn _ _ rfl)
    exact ho.rotateToken_eq hx
  | revokeToken hash now =>
    simp only [answer, revokeToken, hd.tokenByHash? hm.indexed hr]
    cases m.tokenByHash? hash with
    | none => rfl
    | some t => exact congrArg (Prod.mk _) (dropTokens_modifyToken fun _ => rfl)
  | findToken hash => simp only [answer, hd.tokenByHash? hm.indexed hr]
  | isCurrentAndValid hash now =>
    simp only [answer, isCurrentAndValid, hd.tokenByHash? hm.indexed hr]
    rfl
  | sessionTokens | purgeExpired => cases hr

end Memory

end SessionKeeper
