import SessionKeeper.Proofs.Store.Ascent

/-!
# Issuing a token under a stored identifier

Before a token is entered, its hash is looked up, and the current token of its session, but not its
identifier. The services draw a new identifier for every token, and then issuing one adds a row and
keeps all others (`Adds`). The store itself takes any identifier: where a row has it, that row is
lost, and its hash leads to the token that has taken its place.
-/

namespace SessionKeeper

/-- What becomes of a row when a token is issued: if it is superseded, it is revoked. -/
def TokenIssue.leaves (issued : TokenIssue) (now : Instant) (u : Token) : Token :=
  if issued.superseded = some u.id then { u with revokedAt := some now } else u

@[simp] theorem TokenIssue.leaves_id (issued : TokenIssue) (now : Instant) (u : Token) :
    (issued.leaves now u).id = u.id := by
  unfold leaves
  split <;> rfl

@[simp] theorem TokenIssue.leaves_hash (issued : TokenIssue) (now : Instant) (u : Token) :
    (issued.leaves now u).hash = u.hash := by
  unfold leaves
  split <;> rfl

namespace Memory

variable {m m' : Memory} {t : Token} {policy : IssuePolicy} {now : Instant} {issued : TokenIssue}

/-- Issuing a token adds one row and loses none. -/
structure Adds (m : Memory) (issued : TokenIssue) (now : Instant) (m' : Memory) : Prop where
  /-- There is one row more. -/
  count : m'.tokens.length = m.tokens.length + 1
  /-- Every row is still there, and only the superseded one has changed. -/
  rows : ∀ u ∈ m.tokens, issued.leaves now u ∈ m'.tokens
  /-- Every hash that led to its row leads to a row with this hash. -/
  found : ∀ hash u, m.tokenByHash? hash = some u → u.hash = hash →
    ∃ v, m'.tokenByHash? hash = some v ∧ v.hash = hash

/-- The store after a token has been issued: it is entered, and the superseded one is revoked. -/
def afterIssue (m : Memory) (issued : TokenIssue) (now : Instant) (t : Token) : Memory :=
  enter { m with tokens := m.tokens.map (issued.leaves now) } t

theorem mem_afterIssue {v : Token} :
    v ∈ (m.afterIssue issued now t).tokens ↔
      v = t ∨ ∃ u ∈ m.tokens, u.id ≠ t.id ∧ v = issued.leaves now u := by
  rw [afterIssue, mem_enter]
  refine or_congr_right ?_
  constructor
  · rintro ⟨hv, hne⟩
    obtain ⟨u, hu, rfl⟩ := List.mem_map.mp hv
    exact ⟨u, hu, by simpa using hne, rfl⟩
  · rintro ⟨u, hu, hne, rfl⟩
    exact ⟨List.mem_map_of_mem hu, by simpa using hne⟩

theorem Issued.eq_afterIssue (h : Issued m t policy now (.ok issued, m')) :
    m.hasHash t.hash = false ∧ m' = m.afterIssue issued now t := by
  cases h with
  | first _ hh =>
    have hkept : m.tokens.map (TokenIssue.leaves ⟨t, none⟩ now) = m.tokens :=
      List.map_id'' (fun _ => rfl) _
    exact ⟨hh, by rw [afterIssue, hkept]⟩
  | @superseding _ _ c _ hh =>
    refine ⟨hh, congrArg (fun tokens => enter { m with tokens } t) (List.map_congr_left ?_)⟩
    intro u _
    simp only [TokenIssue.leaves, Option.some.injEq, beq_iff_eq, eq_comm (a := c.id)]

/-- What has led to the identifier of a row still does. -/
theorem Findable.idOfHash?_afterIssue (h : m.Findable) {u : Token} (hu : u ∈ m.tokens) :
    (m.afterIssue issued now t).idOfHash? u.hash = some u.id := by
  have hlookup : m.byHash.lookup u.hash = some u.id := h u hu
  simp [afterIssue, idOfHash?, List.lookup_append, hlookup]

/-- If a row has the identifier of the token, the token takes its place and its hash. -/
theorem Findable.lost (h : m.Findable) (hh : m.hasHash t.hash = false)
    (ho : (m.afterIssue issued now t).Orderly) {u : Token} (hu : u ∈ m.tokens)
    (hid : u.id = t.id) :
    (m.afterIssue issued now t).tokens.length = m.tokens.length ∧
      (∀ v ∈ (m.afterIssue issued now t).tokens, v.hash ≠ u.hash) ∧
      (m.afterIssue issued now t).tokenByHash? u.hash = some t := by
  refine ⟨?_, ?_, ?_⟩
  · rw [afterIssue, enter_tokens, if_pos]
    · simp
    · simpa using ⟨u, hu, hid⟩
  · intro v hv he
    rcases mem_afterIssue.mp hv with rfl | ⟨w, hw, hne, rfl⟩
    · rw [hasHash, he, h u hu] at hh
      cases hh
    · -- rows with one hash have one identifier
      have hsame := h w hw
      rw [← issued.leaves_hash now w, he, h u hu] at hsame
      exact hne ((Option.some.inj hsame).symm.trans hid)
  · rw [tokenByHash?, h.idOfHash?_afterIssue hu, hid]
    exact ho.token?_eq_some.mpr ⟨mem_afterIssue.mpr (.inl rfl), rfl⟩

/-- If no row has the identifier of the token, it is added. -/
theorem Findable.adds (h : m.Findable) (ho : (m.afterIssue issued now t).Orderly)
    (hnew : ∀ u ∈ m.tokens, u.id ≠ t.id) : m.Adds issued now (m.afterIssue issued now t) where
  count := by
    have htokens := enter_tokens_of_new (t := t)
      (m := { m with tokens := m.tokens.map (issued.leaves now) }) (by simpa using hnew)
    rw [afterIssue, htokens]
    simp
  rows := fun u hu => mem_afterIssue.mpr (.inr ⟨u, hu, hnew u hu, rfl⟩)
  found := by
    rintro _ u hfound rfl
    have hu := mem_of_tokenByHash? hfound
    refine ⟨issued.leaves now u, ?_, by simp⟩
    rw [tokenByHash?, h.idOfHash?_afterIssue hu]
    exact ho.token?_eq_some.mpr ⟨mem_afterIssue.mpr (.inr ⟨u, hu, hnew u hu, rfl⟩), by simp⟩

/-- On every store that operations can reach, a token that is issued is added, and nothing is lost,
exactly if its identifier is new. If a row has this identifier, there are no more rows than before,
none of them has the hash of that row, and who looks for this hash finds the token instead. -/
theorem issueToken_adds_iff_new (hm : m.Reached)
    (h : m.issueToken t policy now = (.ok issued, m')) :
    (m.Adds issued now m' ↔ ∀ u ∈ m.tokens, u.id ≠ t.id) ∧
      ∀ u ∈ m.tokens, u.id = t.id → m'.tokens.length = m.tokens.length ∧
        (∀ v ∈ m'.tokens, v.hash ≠ u.hash) ∧ m'.tokenByHash? u.hash = some t := by
  have ho' : m'.Orderly := by
    have happly : m.apply (.ask (.issueToken t policy now)) = m' := congrArg Prod.snd h
    exact happly ▸ hm.orderly.apply _
  have hissued := issueToken_issued hm.orderly t policy now
  rw [h] at hissued
  obtain ⟨hh, rfl⟩ := hissued.eq_afterIssue
  refine ⟨⟨?_, hm.findable.adds ho'⟩, fun u => hm.findable.lost hh ho'⟩
  intro hadds u hu hid
  have hcount := hadds.count
  have hlength := (hm.findable.lost hh ho' hu hid).1
  omega

/-- A store with a session and its token. -/
def occupied : Memory :=
  empty.applyAll [.addUser ⟨1⟩, .ask (.createSession (.start ⟨7⟩ ⟨1⟩ none ⟨0, false⟩)),
    .ask (.issueToken ⟨⟨11⟩, ⟨7⟩, [1], ⟨0, false⟩, ⟨100, false⟩, none, none, none⟩ .reject
      ⟨0, false⟩)]

/-- A token for the session that supersedes that one and has its identifier. -/
def intruder : Token := ⟨⟨11⟩, ⟨7⟩, [2], ⟨10, false⟩, ⟨110, false⟩, none, none, none⟩

/-- It is issued, and the superseded token is lost instead of being revoked. -/
theorem issueToken_adds_iff_new_intruder :
    ∃ issued m', occupied.issueToken intruder .supersede ⟨10, false⟩ = (.ok issued, m') ∧
      ¬ occupied.Adds issued ⟨10, false⟩ m' ∧ occupied.tokens.length = 1 ∧
      m'.tokens.length = 1 ∧ m'.tokenByHash? [1] = some intruder := by
  have hissue : occupied.issueToken intruder .supersede ⟨10, false⟩ =
      (.ok ⟨intruder, some ⟨11⟩⟩, _) := rfl
  obtain ⟨hadds, hlost⟩ := issueToken_adds_iff_new ⟨_, rfl⟩ hissue
  have hstored :
      ⟨⟨11⟩, ⟨7⟩, [1], ⟨0, false⟩, ⟨100, false⟩, none, none, none⟩ ∈ occupied.tokens := by decide
  obtain ⟨hcount, -, hfound⟩ := hlost _ hstored rfl
  exact ⟨_, _, hissue, fun h => hadds.mp h _ hstored rfl, rfl, hcount, hfound⟩

/-- Issuing a token can destroy a stored row. -/
theorem issueToken_overwrites :
    ¬ ∀ (m : Memory) (t : Token) (policy : IssuePolicy) (now : Instant) (issued : TokenIssue)
      (m' : Memory), m.Reached → m.issueToken t policy now = (.ok issued, m') →
      m.Adds issued now m' := by
  intro h
  have hadds := h occupied intruder .supersede ⟨10, false⟩ _ _ ⟨_, rfl⟩ rfl
  exact absurd hadds.count (by decide)

end Memory

end SessionKeeper
