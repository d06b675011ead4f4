import SessionKeeper.Store.Memory

/-!
# Rows of the store in memory

What a look-up says about the rows, and what each way of writing makes of them. The tables are
lists, so "the row with an identifier" is a row only where identifiers are not repeated; `Orderly`
says that, and that no session has two current tokens. Every operation keeps it (`Effect`).

The operations themselves are not unfolded outside this folder: later modules speak about rows.
-/

namespace SessionKeeper

/-! ## What may become of a row -/

/-- A field that is written once: what it holds stays. -/
def Stays {α : Type} (before after : Option α) : Prop :=
  before = none ∨ after = before

theorem Stays.refl {α : Type} (a : Option α) : Stays a a := .inr rfl

theorem Stays.isSome {α : Type} {a b : Option α} (h : Stays a b) (ha : a.isSome) : b.isSome := by
  rcases h with rfl | rfl
  · simp at ha
  · exact ha

theorem Stays.trans {α : Type} {a b c : Option α} (hab : Stays a b) (hbc : Stays b c) :
    Stays a c := by
  rcases hab with rfl | rfl
  · exact .inl rfl
  · exact hbc

namespace Token

/-- `after` is the same token at a later time: what it was issued with is unchanged, and each mark
of its use, revocation and replacement stays once it is set. -/
structure Ages (before after : Token) : Prop where
  id : after.id = before.id
  session : after.session = before.session
  hash : after.hash = before.hash
  issuedAt : after.issuedAt = before.issuedAt
  expiresAt : after.expiresAt = before.expiresAt
  usedAt : Stays before.usedAt after.usedAt
  revokedAt : Stays before.revokedAt after.revokedAt
  replacedBy : Stays before.replacedBy after.replacedBy

theorem Ages.refl (t : Token) : t.Ages t :=
  ⟨rfl, rfl, rfl, rfl, rfl, .refl _, .refl _, .refl _⟩

theorem Ages.trans {t u v : Token} (h : t.Ages u) (h' : u.Ages v) : t.Ages v :=
  ⟨h'.id.trans h.id, h'.session.trans h.session, h'.hash.trans h.hash,
    h'.issuedAt.trans h.issuedAt, h'.expiresAt.trans h.expiresAt, h.usedAt.trans h'.usedAt,
    h.revokedAt.trans h'.revokedAt, h.replacedBy.trans h'.replacedBy⟩

theorem Ages.ite {p : Prop} [Decidable p] {t u : Token} (h : p → t.Ages u) :
    t.Ages (if p then u else t) := by
  split
  · exact h ‹p›
  · exact .refl t

theorem Ages.isSpent {t u : Token} (h : t.Ages u) (ht : t.isSpent = true) : u.isSpent = true := by
  simp only [Token.isSpent, Bool.or_eq_true] at ht ⊢
  rcases ht with (hu | hr) | hp
  · exact .inl (.inl (h.usedAt.isSome hu))
  · exact .inl (.inr (h.revokedAt.isSome hr))
  · exact .inr (h.replacedBy.isSome hp)

theorem Ages.isCurrent {t u : Token} (h : t.Ages u) (hu : u.isCurrent = true) :
    t.isCurrent = true := by
  simp only [Token.isCurrent, Bool.and_eq_true, Option.isNone_iff_eq_none] at hu ⊢
  obtain ⟨hr, hp⟩ := hu
  refine ⟨?_, ?_⟩
  · rcases h.revokedAt with h | h
    · exact h
    · rw [← h, hr]
  · rcases h.replacedBy with h | h
    · exact h
    · rw [← h, hp]

theorem isCurrent_of_not_isSpent {t : Token} (h : t.isSpent = false) : t.isCurrent = true := by
  simp only [Token.isSpent, Bool.or_eq_false_iff, Option.isSome_eq_false_iff] at h
  simp [Token.isCurrent, h.1.2, h.2]

theorem revoke_eq (t : Token) (now : Instant) :
    t.revoke now = if t.revokedAt = none then { t with revokedAt := some now } else t := by
  obtain ⟨id, session, hash, issuedAt, expiresAt, usedAt, revokedAt, replacedBy⟩ := t
  cases revokedAt <;> rfl

theorem ages_revoke (t : Token) (now : Instant) : t.Ages (t.revoke now) := by
  refine ⟨rfl, rfl, rfl, rfl, rfl, .refl _, ?_, .refl _⟩
  cases hr : t.revokedAt with
  | none => exact .inl rfl
  | some at_ => exact .inr (by simp [Token.revoke, hr])

/-- Using up an unspent token only sets marks. -/
theorem ages_consume {t : Token} (h : t.isSpent = false) (now : Instant) (next : Uuid) :
    t.Ages (t.consume now next) := by
  simp only [Token.isSpent, Bool.or_eq_false_iff, Option.isSome_eq_false_iff,
    Option.isNone_iff_eq_none] at h
  obtain ⟨⟨hu, -⟩, hp⟩ := h
  exact ⟨rfl, rfl, rfl, rfl, rfl, .inl hu, .refl _, .inl hp⟩

/-- Marking a current token as revoked only sets a mark. -/
theorem ages_supersede {t : Token} (h : t.isCurrent = true) (now : Instant) :
    t.Ages { t with revokedAt := some now } := by
  simp only [Token.isCurrent, Bool.and_eq_true, Option.isNone_iff_eq_none] at h
  exact ⟨rfl, rfl, rfl, rfl, rfl, .refl _, .inl h.1, .refl _⟩

@[simp] theorem isCurrent_consume (t : Token) (now : Instant) (next : Uuid) :
    (t.consume now next).isCurrent = false := by simp [Token.isCurrent, Token.consume]

@[simp] theorem isSpent_consume (t : Token) (now : Instant) (next : Uuid) :
    (t.consume now next).isSpent = true := by simp [Token.isSpent, Token.consume]

/-- What is known of a token that has just been made. -/
theorem fresh_eq_ok {id session : Uuid} {hash : Hash} {now : Instant} {lifetime : Span} {t : Token}
    (h : Token.fresh id session hash now lifetime = .ok t) :
    ∃ expiresAt, now.add? lifetime = some expiresAt ∧
      t = ⟨id, session, hash, now, expiresAt, none, none, none⟩ := by
  simp only [Token.fresh] at h
  cases ha : now.add? lifetime with
  | none => rw [ha] at h; cases h
  | some expiresAt => rw [ha] at h; cases h; exact ⟨expiresAt, rfl, rfl⟩

theorem fresh_session_hash {id session : Uuid} {hash : Hash} {now : Instant} {lifetime : Span}
    {t : Token} (h : Token.fresh id session hash now lifetime = .ok t) :
    t.session = session ∧ t.hash = hash := by
  obtain ⟨expiresAt, -, rfl⟩ := fresh_eq_ok h
  exact ⟨rfl, rfl⟩

theorem fresh_id {id session : Uuid} {hash : Hash} {now : Instant} {lifetime : Span} {t : Token}
    (h : Token.fresh id session hash now lifetime = .ok t) : t.id = id := by
  obtain ⟨expiresAt, -, rfl⟩ := fresh_eq_ok h
  rfl

theorem fresh_eq_error {id session : Uuid} {hash : Hash} {now : Instant} {lifetime : Span}
    {e : Error} (h : Token.fresh id session hash now lifetime = .error e) :
    now.add? lifetime = none ∧ e = lifetimeOutOfRange := by
  simp only [Token.fresh] at h
  cases ha : now.add? lifetime with
  | none => rw [ha] at h; cases h; exact ⟨rfl, rfl⟩
  | some expiresAt => rw [ha] at h; cases h

end Token

/-! ## Lists of rows -/

/-- Of rows whose keys are not repeated, the first with a key is the one with it. -/
theorem find?_key_iff {α κ : Type} [BEq κ] [LawfulBEq κ] {key : α → κ} {rows : List α}
    (h : (rows.map key).Nodup) {k : κ} {a : α} :
    rows.find? (fun r => key r == k) = some a ↔ a ∈ rows ∧ key a = k := by
  constructor
  · intro hf
    exact ⟨List.mem_of_find?_eq_some hf, by simpa using List.find?_some hf⟩
  · rintro ⟨ha, rfl⟩
    induction rows with
    | nil => simp at ha
    | cons r rows ih =>
      simp only [List.map_cons, List.nodup_cons, List.mem_map, not_exists, not_and] at h
      rcases List.mem_cons.mp ha with rfl | ha
      · simp
      · have hne : key r ≠ key a := fun he => h.1 a ha he.symm
        rw [List.find?_cons_of_neg (by simpa using hne)]
        exact ih h.2 ha

theorem find?_key_none {α κ : Type} [BEq κ] [LawfulBEq κ] {key : α → κ} {rows : List α} {k : κ} :
    rows.find? (fun r => key r == k) = none ↔ ∀ r ∈ rows, key r ≠ k := by
  simp [List.find?_eq_none]

/-- Rows with one key are one row. -/
theorem eq_of_key_eq {α κ : Type} [BEq κ] [LawfulBEq κ] {key : α → κ} {rows : List α}
    (h : (rows.map key).Nodup) {a b : α} (ha : a ∈ rows) (hb : b ∈ rows) (he : key a = key b) :
    a = b := by
  have hfa := (find?_key_iff h).mpr ⟨ha, he⟩
  have hfb := (find?_key_iff h).mpr ⟨hb, rfl⟩
  rw [hfa] at hfb
  exact Option.some.inj hfb

/-- Changing rows without touching their keys does not repeat a key. -/
theorem map_key_map {α : Type} {key : α → Uuid} {f : α → α} (hf : ∀ r, key (f r) = key r)
    (rows : List α) : (rows.map f).map key = rows.map key := by
  rw [List.map_map]
  exact List.map_congr_left fun r _ => hf r

theorem nodup_key_filter {α κ : Type} {key : α → κ} {rows : List α} (h : (rows.map key).Nodup)
    (p : α → Bool) : ((rows.filter p).map key).Nodup :=
  h.sublist (List.filter_sublist.map key)

theorem nodup_key_append {α : Type} {key : α → Uuid} {rows : List α} {a : α}
    (h : (rows.map key).Nodup) (ha : ∀ r ∈ rows, key r ≠ key a) :
    ((rows ++ [a]).map key).Nodup := by
  rw [List.map_append, List.nodup_append]
  refine ⟨h, by simp, ?_⟩
  intro k hk l hl
  obtain ⟨r, hr, rfl⟩ := List.mem_map.mp hk
  simp only [List.map_cons, List.map_nil, List.mem_singleton] at hl
  subst hl
  exact ha r hr

namespace Memory

variable {m : Memory}

/-! ## What a look-up finds -/

/-- The session with an identifier is there and has not been revoked. -/
def Active (m : Memory) (id : Uuid) (s : Session) : Prop :=
  m.session? id = some s ∧ s.isRevoked = false

theorem mem_of_session? {id : Uuid} {s : Session} (h : m.session? id = some s) :
    s ∈ m.sessions ∧ s.id = id :=
  ⟨List.mem_of_find?_eq_some h, by simpa using List.find?_some h⟩

theorem mem_of_token? {id : Uuid} {t : Token} (h : m.token? id = some t) :
    t ∈ m.tokens ∧ t.id = id :=
  ⟨List.mem_of_find?_eq_some h, by simpa using List.find?_some h⟩

theorem mem_of_tokenByHash? {hash : Hash} {t : Token} (h : m.tokenByHash? hash = some t) :
    t ∈ m.tokens := by
  simp only [tokenByHash?, Option.bind_eq_some_iff] at h
  obtain ⟨id, -, ht⟩ := h
  exact (mem_of_token? ht).1

theorem mem_of_currentOf? {session : Uuid} {t : Token} (h : m.currentOf? session = some t) :
    t ∈ m.tokens ∧ t.session = session ∧ t.isCurrent = true := by
  have hp := List.find?_some h
  simp only [Bool.and_eq_true, beq_iff_eq] at hp
  exact ⟨List.mem_of_find?_eq_some h, hp⟩

theorem currentOf?_eq_none {session : Uuid} :
    m.currentOf? session = none ↔
      ∀ t ∈ m.tokens, t.session = session → t.isCurrent = false := by
  simp [currentOf?, List.find?_eq_none]

theorem withActive_of_none {α : Type} {id : Uuid} (h : m.session? id = none)
    (f : Session → Outcome α) : m.withActive id f = (.error (.sessionNotFound id), m) := by
  simp only [withActive, h]

theorem withActive_of_revoked {α : Type} {id : Uuid} {s : Session} (h : m.session? id = some s)
    (hr : s.isRevoked = true) (f : Session → Outcome α) :
    m.withActive id f = (.error (.sessionRevoked id), m) := by
  simp only [withActive, h, hr, if_true]

theorem Active.withActive {α : Type} {id : Uuid} {s : Session} (h : m.Active id s)
    (f : Session → Outcome α) : m.withActive id f = f s := by
  simp only [Memory.withActive, h.1, h.2, Bool.false_eq_true, if_false]

/-! ## What is written -/

@[simp] theorem modifyToken_sessions (id : Uuid) (f : Token → Token) :
    (m.modifyToken id f).sessions = m.sessions := rfl

@[simp] theorem modifySession_tokens (id : Uuid) (f : Session → Session) :
    (m.modifySession id f).tokens = m.tokens := rfl

/-- Enter a token that nothing stands in the way of. -/
def enter (m : Memory) (t : Token) : Memory := (m.indexHash t.hash t.id).putToken t

@[simp] theorem enter_users (t : Token) : (m.enter t).users = m.users := by
  simp only [enter, putToken, modifyToken, indexHash]; split <;> rfl

@[simp] theorem enter_sessions (t : Token) : (m.enter t).sessions = m.sessions := by
  simp only [enter, putToken, modifyToken, indexHash]; split <;> rfl

@[simp] theorem enter_byHash (t : Token) :
    (m.enter t).byHash = m.byHash ++ [(t.hash, t.id)] := by
  simp only [enter, putToken, modifyToken, indexHash]; split <;> rfl

theorem enter_tokens (t : Token) :
    (m.enter t).tokens =
      if m.tokens.any fun u => u.id == t.id then m.tokens.map fun u => if u.id == t.id then t else u
      else m.tokens ++ [t] := by
  simp only [enter, putToken, modifyToken, indexHash]; split <;> rfl

/-- A token whose identifier is new is entered behind all others. -/
theorem enter_tokens_of_new {t : Token} (h : ∀ u ∈ m.tokens, u.id ≠ t.id) :
    (m.enter t).tokens = m.tokens ++ [t] := by
  rw [enter_tokens, if_neg]
  simpa using h

/-- A token that is entered takes the place of the one with its identifier. -/
theorem mem_enter {t u : Token} :
    u ∈ (m.enter t).tokens ↔ u = t ∨ (u ∈ m.tokens ∧ u.id ≠ t.id) := by
  rw [enter_tokens]
  split
  · rename_i hany
    obtain ⟨v, hv, hvt⟩ := List.any_eq_true.mp hany
    simp only [List.mem_map]
    constructor
    · rintro ⟨w, hw, rfl⟩
      by_cases he : w.id = t.id
      · simp [he]
      · exact .inr ⟨by simpa [he] using hw, by simp [he]⟩
    · rintro (rfl | ⟨hu, he⟩)
      · exact ⟨v, hv, by simp [hvt]⟩
      · exact ⟨u, hu, by simp [he]⟩
  · rename_i hnone
    simp only [List.any_eq_true, beq_iff_eq, not_exists, not_and] at hnone
    simp only [List.mem_append, List.mem_singleton]
    constructor
    · rintro (hu | rfl)
      · exact .inr ⟨hu, hnone u hu⟩
      · exact .inl rfl
    · rintro (rfl | ⟨hu, -⟩)
      · exact .inr rfl
      · exact .inl hu

theorem mem_modifyToken {id : Uuid} {f : Token → Token} {u : Token} :
    u ∈ (m.modifyToken id f).tokens ↔ ∃ t ∈ m.tokens, u = if t.id = id then f t else t := by
  simp only [modifyToken, List.mem_map, beq_iff_eq]
  exact ⟨fun ⟨t, ht, he⟩ => ⟨t, ht, he.symm⟩, fun ⟨t, ht, he⟩ => ⟨t, ht, he.symm⟩⟩

theorem mem_dropTokens {doomed : List Token} {u : Token} :
    u ∈ (m.dropTokens doomed).tokens ↔ u ∈ m.tokens ∧ ∀ d ∈ doomed, d.id ≠ u.id := by
  simp [dropTokens]

/-- Only tokens that expired before the cutoff, are not current and have no predecessor are chosen
for deletion. -/
theorem mem_of_doomed {cutoff : Instant} {limit : Int} {t : Token}
    (h : t ∈ m.doomed cutoff limit) :
    t ∈ m.tokens ∧ t.expiresAt < cutoff ∧ t.isCurrent = false ∧ m.isReferenced t.id = false := by
  have hp : t ∈ m.purgeable cutoff :=
    (List.mergeSort_perm _ _).subset (List.mem_of_mem_take h)
  simpa [purgeable, and_assoc] using hp

end Memory

end SessionKeeper
