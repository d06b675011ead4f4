import SessionKeeper.Proofs.Store.Deletion

/-!
# What holds without new identifiers

That no chain of tokens is a cycle does not depend on new identifiers, as the order of entry does.
A row is linked at the moment when its replacement is entered, and a row that is entered has no link
of its own, even where it takes the place of an older row. So the identifiers can be ranked in such
a way that every link leads to a higher rank: the one that has just been entered goes to the top.

Nor does it depend on them that every row is found by its hash (`Findable`). What does is the
converse: where a row has taken the place of another, the hash of the other leads to it as well.
-/

namespace SessionKeeper.Memory

variable {m m' : Memory}

/-- Identifiers can be ranked so that every link leads to a higher rank. -/
def Ascending (m : Memory) : Prop :=
  ∃ rank : Uuid → Nat, ∀ t ∈ m.tokens, ∀ next, t.replacedBy = some next → rank t.id < rank next

theorem ascending_empty : empty.Ascending :=
  ⟨fun _ => 0, by simp [empty]⟩

/-- No rank is lost when every link has been there before. -/
theorem Ascending.of_links (h : m.Ascending)
    (hlinks : ∀ u ∈ m'.tokens, ∀ next, u.replacedBy = some next →
      ∃ t ∈ m.tokens, t.id = u.id ∧ t.replacedBy = some next) : m'.Ascending := by
  obtain ⟨rank, hrank⟩ := h
  refine ⟨rank, ?_⟩
  intro u hu next hn
  obtain ⟨t, ht, hid, htn⟩ := hlinks u hu next hn
  rw [← hid]
  exact hrank t ht next htn

theorem exists_rank_above (rank : Uuid → Nat) (tokens : List Token) :
    ∃ top, ∀ t ∈ tokens, rank t.id < top := by
  induction tokens with
  | nil => exact ⟨0, by simp⟩
  | cons t tokens ih =>
    obtain ⟨top, htop⟩ := ih
    refine ⟨max (rank t.id + 1) top, ?_⟩
    intro u hu
    rcases List.mem_cons.mp hu with rfl | hu
    · omega
    · have := htop u hu
      omega

theorem Ascending.enter (h : m.Ascending) {t : Token} (ht : t.replacedBy = none) :
    (m.enter t).Ascending := by
  refine h.of_links ?_
  intro u hu next hn
  rcases mem_enter.mp hu with rfl | ⟨hu, -⟩
  · rw [ht] at hn
    cases hn
  · exact ⟨u, hu, rfl, hn⟩

theorem Ascending.modifyToken (h : m.Ascending) {id : Uuid} {f : Token → Token}
    (hid : ∀ t, (f t).id = t.id) (hlink : ∀ t, (f t).replacedBy = t.replacedBy) :
    (m.modifyToken id f).Ascending := by
  refine h.of_links ?_
  intro u hu next hn
  obtain ⟨t, ht, rfl⟩ := mem_modifyToken.mp hu
  refine ⟨t, ht, ?_⟩
  split at hn <;> simp_all

/-- The replacement of a token is ranked above all that was there. -/
theorem Ascending.exchange (h : m.Ascending) {t next : Token} (s : Session) (now : Instant)
    (ht : t ∈ m.tokens) (hnext : next.replacedBy = none) : (m.exchange t next s now).Ascending := by
  obtain ⟨rank, hrank⟩ := h
  obtain ⟨top, htop⟩ := exists_rank_above rank m.tokens
  refine ⟨fun id => if id = next.id then top else rank id, ?_⟩
  intro u hu target hlink
  rcases mem_enter.mp hu with rfl | ⟨hu, hne⟩
  · rw [hnext] at hlink
    cases hlink
  · -- the link of an older row leads to the new one, or to where it has led before
    obtain ⟨v, hv, rfl⟩ := mem_modifyToken.mp hu
    simp only [if_neg hne]
    by_cases hvt : v.id = t.id
    · rw [if_pos hvt] at hlink hne ⊢
      have htarget : next.id = target := by simpa [Token.consume] using hlink
      rw [if_pos htarget.symm]
      exact htop t ht
    · rw [if_neg hvt] at hlink hne ⊢
      split
      · exact htop v hv
      · exact hrank v hv target hlink

theorem Ascending.drop (h : m.Ascending) (gone : List Token) : (m.dropTokens gone).Ascending := by
  refine h.of_links ?_
  intro u hu next hn
  exact ⟨u, (mem_dropTokens.mp hu).1, rfl, hn⟩

theorem Ascending.effect {o : Operation} (h : m.Ascending) (ho : m.Orderly)
    (hnew : ∀ u, o.Enters u → u.replacedBy = none) (e : Effect m o m') : m'.Ascending := by
  cases e with
  | nothing | userAdded | sessionCreated | sessionBound | sessionTouched | sessionRevoked
  | userRevoked => exact h
  | userRemoved hu =>
    refine h.of_links ?_
    intro u hmem next hn
    exact ⟨u, ((ho.mem_removeUser_tokens hu).mp hmem).1, rfl, hn⟩
  | issued => exact h.enter (hnew _ rfl)
  | superseded =>
    have hrevoked : ∀ c now,
        (m.modifyToken c fun t => { t with revokedAt := some now }).Ascending :=
      fun c now => h.modifyToken (fun _ => rfl) fun _ => rfl
    exact (hrevoked _ _).enter (hnew _ rfl)
  | reused =>
    refine h.of_links ?_
    intro u hu next hn
    obtain ⟨t, ht, rfl⟩ := List.mem_map.mp hu
    refine ⟨t, ht, ?_⟩
    split at hn <;> simp_all [Token.revoke]
  | exchanged hx _ _ _ _ hf => exact h.exchange _ _ (mem_of_tokenByHash? hx) (hnew _ ⟨_, hf⟩)
  | tokenRevoked => exact h.modifyToken (fun _ => rfl) fun _ => rfl
  | purged => exact h.drop _

/-! ## Rows and their hashes -/

/-- The hash of every row leads to it. -/
def Findable (m : Memory) : Prop := ∀ t ∈ m.tokens, m.idOfHash? t.hash = some t.id

theorem Findable.of_tokens (h : m.Findable) (hbyHash : m'.byHash = m.byHash)
    (htokens : ∀ u ∈ m'.tokens, ∃ t ∈ m.tokens, t.id = u.id ∧ t.hash = u.hash) : m'.Findable := by
  intro u hu
  obtain ⟨t, ht, hid, hhash⟩ := htokens u hu
  rw [idOfHash?, hbyHash, ← hid, ← hhash]
  exact h t ht

theorem Findable.modifyToken (h : m.Findable) {id : Uuid} {f : Token → Token}
    (hf : ∀ t ∈ m.tokens, t.id = id → (f t).id = t.id ∧ (f t).hash = t.hash) :
    (m.modifyToken id f).Findable := by
  refine h.of_tokens rfl ?_
  intro u hu
  obtain ⟨t, ht, rfl⟩ := mem_modifyToken.mp hu
  refine ⟨t, ht, ?_⟩
  split
  · rename_i he
    exact ⟨(hf t ht he).1.symm, (hf t ht he).2.symm⟩
  · exact ⟨rfl, rfl⟩

theorem Findable.enter (h : m.Findable) {t : Token} (hh : m.hasHash t.hash = false) :
    (m.enter t).Findable := by
  have hnone : m.byHash.lookup t.hash = none := by
    simpa [hasHash, idOfHash?] using hh
  intro u hu
  rw [idOfHash?, enter_byHash, List.lookup_append]
  rcases mem_enter.mp hu with rfl | ⟨hu, -⟩
  · simp [hnone]
  · have hlookup : m.byHash.lookup u.hash = some u.id := h u hu
    simp [hlookup]

theorem Findable.drop (h : m.Findable) {gone : List Token}
    (hgone : ∀ d ∈ gone, d ∈ m.tokens) (htokens : m'.tokens = (m.dropTokens gone).tokens)
    (hbyHash : m'.byHash = (m.dropTokens gone).byHash) : m'.Findable := by
  intro t ht
  rw [htokens, mem_dropTokens] at ht
  obtain ⟨ht, hkept⟩ := ht
  have hother : ∀ d ∈ gone, d.hash ≠ t.hash := by
    intro d hd he
    have hid := h d (hgone d hd)
    rw [he, h t ht] at hid
    exact hkept d hd (Option.some.inj hid).symm
  rw [idOfHash?, hbyHash]
  exact (idOfHash?_dropTokens hother).trans (h t ht)

theorem Findable.effect {o : Operation} (h : m.Findable) (ho : m.Orderly) (e : Effect m o m') :
    m'.Findable := by
  cases e with
  | nothing | userAdded | sessionCreated | sessionBound | sessionTouched | sessionRevoked
  | userRevoked => exact h
  | userRemoved hu =>
    refine h.drop ?_ (removeUser_tokens hu) (removeUser_byHash hu)
    exact fun d hd => (List.mem_filter.mp hd).1
  | issued _ hh => exact h.enter hh
  | superseded _ hh =>
    have hrevoked : ∀ c now, (m.modifyToken c fun t => { t with revokedAt := some now }).Findable :=
      fun c now => h.modifyToken fun _ _ _ => ⟨rfl, rfl⟩
    exact (hrevoked _ _).enter hh
  | reused =>
    refine h.of_tokens rfl ?_
    intro u hu
    obtain ⟨t, ht, rfl⟩ := List.mem_map.mp hu
    refine ⟨t, ht, ?_⟩
    split <;> exact ⟨rfl, rfl⟩
  | exchanged hx _ _ _ hh hf =>
    refine Findable.enter (h.modifyToken ?_) ?_
    · intro u hu he
      rw [ho.token_eq hu (mem_of_tokenByHash? hx) he]
      exact ⟨rfl, rfl⟩
    · rw [(Token.fresh_session_hash hf).2]
      exact hh
  | tokenRevoked => exact h.modifyToken fun _ _ _ => ⟨rfl, rfl⟩
  | purged => exact h.drop (fun d hd => (mem_of_doomed hd).1) rfl rfl

/-- In every store that operations reach, rows are found by their hashes. -/
theorem Reached.findable (h : m.Reached) : m.Findable := by
  obtain ⟨os, rfl⟩ := h
  suffices hgen : ∀ {m : Memory}, m.Orderly → m.Findable → (m.applyAll os).Findable from
    hgen orderly_empty (by simp [Findable, empty])
  induction os with
  | nil => exact fun _ h => h
  | cons o os ih => exact fun ho h => ih (ho.apply o) (h.effect ho (ho.apply_effect o))

theorem Findable.tokenByHash?_self (h : m.Findable) (ho : m.Orderly) {t : Token}
    (ht : t ∈ m.tokens) : m.tokenByHash? t.hash = some t := by
  rw [tokenByHash?, h t ht]
  exact ho.token?_eq_some.mpr ⟨ht, rfl⟩

/-- In a store without some tokens their hashes lead nowhere, and every other hash leads to the row
that it has led to, if that is still there. -/
theorem Findable.tokenByHash?_dropTokens (h : m.Findable) (ho : m.Orderly) {gone : List Token}
    (hgone : ∀ d ∈ gone, d ∈ m.tokens) (hash : Hash) :
    (m.dropTokens gone).tokenByHash? hash =
      (m.tokenByHash? hash).filter fun t => decide (t ∉ gone) := by
  by_cases hd : ∃ d ∈ gone, d.hash = hash
  · obtain ⟨d, hd, rfl⟩ := hd
    rw [tokenByHash?_dropTokens_self hd, h.tokenByHash?_self ho (hgone d hd), Option.filter_some,
      if_neg (by simpa using hd)]
  · have hnone : ∀ d ∈ gone, d.hash ≠ hash := fun d hdm he => hd ⟨d, hdm, he⟩
    rw [tokenByHash?, idOfHash?_dropTokens hnone, tokenByHash?]
    cases m.idOfHash? hash with
    | none => rfl
    | some id =>
      ext t
      simp only [Option.bind_some, Option.filter_eq_some_iff, decide_eq_true_eq,
        (ho.drop gone).token?_eq_some, ho.token?_eq_some, ho.mem_dropTokens_iff hgone,
        and_right_comm]

/-- The second store has what the first has, without some tokens and without what led to them. -/
structure Without (m : Memory) (gone : List Token) (m' : Memory) : Prop where
  users : m'.users = m.users
  sessions : m'.sessions = m.sessions
  tokens : m'.tokens = m.tokens.filter fun t => decide (t ∉ gone)
  index : m'.byHash = m.byHash.filter fun entry => decide (∀ d ∈ gone, d.hash ≠ entry.1)
  found : ∀ hash, m'.tokenByHash? hash = (m.tokenByHash? hash).filter fun t => decide (t ∉ gone)

theorem Findable.without (h : m.Findable) (ho : m.Orderly) (hgone : ∀ d ∈ gone, d ∈ m.tokens) :
    m.Without gone (m.dropTokens gone) where
  users := rfl
  sessions := rfl
  tokens := by
    refine List.filter_congr ?_
    intro t ht
    have hmem := ho.mem_dropTokens_iff hgone (t := t)
    rw [mem_dropTokens, and_congr_right_iff] at hmem
    rw [Bool.eq_iff_iff, decide_eq_true_iff, ← hmem ht]
    simp
  index := by
    refine List.filter_congr ?_
    intro entry _
    rw [Bool.eq_iff_iff]
    simp
  found := h.tokenByHash?_dropTokens ho hgone

end SessionKeeper.Memory
