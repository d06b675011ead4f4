import SessionKeeper.Proofs.Service.Trail
import SessionKeeper.Proofs.Service.Trimming
import SessionKeeper.Proofs.Service.Walk

/-!
# The history of a session

The tokens of a stored session, listed along their links, are its whole history: nothing is missing
and nothing comes twice. In a sound store the tokens of one session make up whole chains, since a
link leads to a token of the same session, and links lead upwards in every run; so all of them are
visited. The store gives them in the order of their issue, and the first tokens of the chains are
found in this order.
-/

namespace SessionKeeper

/-! ## The order of issue -/

/-- One token was issued before another, or at the same instant under a smaller identifier. -/
def Token.Precedes (a b : Token) : Prop :=
  a.issuedAt < b.issuedAt ∨ (a.issuedAt = b.issuedAt ∧ a.id < b.id)

namespace Store

theorem issuedBefore_iff {a b : Token} :
    issuedBefore a b = true ↔ a.issuedAt.rank < b.issuedAt.rank ∨
      (a.issuedAt.rank = b.issuedAt.rank ∧ a.id.bits.toNat ≤ b.id.bits.toNat) := by
  unfold issuedBefore
  split
  · rename_i he
    rw [decide_eq_true_iff, he]
    show a.id.bits.toNat ≤ b.id.bits.toNat ↔ _
    omega
  · rename_i hne
    rw [← Instant.rank_inj] at hne
    rw [decide_eq_true_iff, Instant.lt_def]
    omega

theorem issuedBefore_trans (a b c : Token) (hab : issuedBefore a b = true)
    (hbc : issuedBefore b c = true) : issuedBefore a c = true := by
  rw [issuedBefore_iff] at hab hbc ⊢
  omega

theorem issuedBefore_total (a b : Token) : (issuedBefore a b || issuedBefore b a) = true := by
  rw [Bool.or_eq_true, issuedBefore_iff, issuedBefore_iff]
  omega

theorem precedes_of_issuedBefore {a b : Token} (h : issuedBefore a b = true) (hne : a.id ≠ b.id) :
    a.Precedes b := by
  have hbits : a.id.bits.toNat ≠ b.id.bits.toNat := by
    intro he
    exact hne (congrArg Uuid.mk (BitVec.eq_of_toNat_eq he))
  rw [issuedBefore_iff] at h
  rcases h with hlt | ⟨heq, hle⟩
  · exact .inl hlt
  · exact .inr ⟨Instant.rank_inj.mp heq, Nat.lt_of_le_of_ne hle hbits⟩

end Store

namespace Memory

variable {m : Memory} {session : Uuid}

theorem sessionTokens_perm (m : Memory) (session : Uuid) :
    (m.sessionTokens session).Perm (m.tokensOf session) := List.mergeSort_perm _ _

theorem mem_tokensOf {t : Token} : t ∈ m.tokensOf session ↔ t ∈ m.tokens ∧ t.session = session := by
  simp [tokensOf]

/-- The tokens of a session are given in the order of their issue. -/
theorem Orderly.sessionTokens_sorted (h : m.Orderly) (session : Uuid) :
    (m.sessionTokens session).Pairwise Token.Precedes := by
  have hsorted : (m.sessionTokens session).Pairwise fun a b => Store.issuedBefore a b = true :=
    List.pairwise_mergeSort Store.issuedBefore_trans Store.issuedBefore_total _
  have hids : ((m.tokensOf session).map (·.id)).Nodup :=
    h.tokenIds.sublist (List.filter_sublist.map _)
  have hapart : (m.sessionTokens session).Pairwise fun a b => a.id ≠ b.id :=
    List.pairwise_map.mp (((sessionTokens_perm m session).map _).nodup_iff.mpr hids)
  exact hsorted.imp₂ (fun a b => Store.precedes_of_issuedBefore) hapart

/-! ## The chains of a session -/

/-- The tokens of one session make up whole chains. -/
theorem Sound.complete_tokensOf (h : m.Sound) (session : Uuid) :
    Chain.Complete (m.tokensOf session) where
  ids := h.orderly.tokenIds.sublist (List.filter_sublist.map _)
  target := by
    intro t ht next hn
    obtain ⟨ht, hsession⟩ := mem_tokensOf.mp ht
    obtain ⟨u, hu, hid, hus⟩ := h.chained.linked.target ht hn
    exact ⟨u, mem_tokensOf.mpr ⟨hu, hus.trans hsession⟩, hid⟩
  apart := by
    intro t ht u hu next htn hun
    have ht := (mem_tokensOf.mp ht).1
    have hu := (mem_tokensOf.mp hu).1
    exact h.orderly.token_eq ht hu (h.chained.apart t ht u hu next htn hun)

/-- A token of a session can only be named by another token of it. -/
theorem Sound.isReferenced_tokensOf (h : m.Sound) {t : Token} (ht : t ∈ m.tokensOf session) :
    Chain.isReferenced (m.tokensOf session) t.id = m.isReferenced t.id := by
  obtain ⟨ht, hsession⟩ := mem_tokensOf.mp ht
  cases href : m.isReferenced t.id with
  | false =>
    rw [Chain.isReferenced_eq_false]
    rw [isReferenced, List.any_eq_false] at href
    intro v hv hn
    exact href v (mem_tokensOf.mp hv).1 (by simpa using hn)
  | true =>
    obtain ⟨v, hv, hlink⟩ := List.any_eq_true.mp href
    obtain ⟨u, hu, hid, hus⟩ := h.chained.linked.target hv (by simpa using hlink)
    rw [h.orderly.token_eq hu ht hid] at hus
    exact List.any_eq_true.mpr ⟨v, mem_tokensOf.mpr ⟨hv, hus.symm.trans hsession⟩, hlink⟩

/-- A list of tokens is the history of a session: every stored token of it once, each with its
replacement directly behind it, in runs each of which begins with a token that no stored token
names, and these in the order of their issue. -/
structure History (m : Memory) (session : Uuid) (tokens : List Token) : Prop where
  mem_iff : ∀ t, t ∈ tokens ↔ t ∈ m.tokens ∧ t.session = session
  nodup : tokens.Nodup
  follows : Chain.Follows tokens
  runs : ∃ (runs : List (List Token)) (firsts : List Token), tokens = runs.flatten ∧
    (∀ run ∈ runs, Chain.Run run) ∧ runs.map List.head? = firsts.map some ∧
    (∀ t, t ∈ firsts ↔ t ∈ tokens ∧ m.isReferenced t.id = false) ∧
    firsts.Pairwise Token.Precedes

theorem Sound.history (h : m.Sound) (ha : m.Ascending) (session : Uuid) :
    m.History session (Chain.order (m.sessionTokens session)) := by
  have hperm := sessionTokens_perm m session
  have hcomplete := (h.complete_tokensOf session).perm hperm.symm
  obtain ⟨rank, hrank⟩ := ha
  obtain ⟨runs, horder, hruns, hall, hfirsts⟩ := hcomplete.order_runs rank
    fun t ht => hrank t (mem_tokensOf.mp (hperm.mem_iff.mp ht)).1
  rw [horder]
  refine ⟨?_, ?_, Chain.follows_flatten hruns, runs, _, rfl, hruns, hfirsts, ?_, ?_⟩
  · intro t
    rw [hall.mem_iff, hperm.mem_iff, mem_tokensOf]
  · exact hall.nodup_iff.mpr hcomplete.nodup
  · intro t
    rw [List.mem_filter, hall.mem_iff, Bool.not_eq_true', Chain.isReferenced_perm hperm]
    refine and_congr_right ?_
    intro ht
    rw [h.isReferenced_tokensOf (hperm.mem_iff.mp ht)]
  · exact (h.orderly.sessionTokens_sorted session).filter _

end Memory

namespace Service

namespace Scene

variable {w : Scene} {session : Uuid}

theorem perform_chain (w : Scene) (session : Uuid) :
    w.perform (Tokens.chain session) =
      match w.memory.session? session with
      | none => (.error (.sessionNotFound session), w)
      | some _ => (.ok (Chain.order (w.memory.sessionTokens session)), w) := by
  have hfind : w.perform (store (.findSession session)) =
      (.ok (w.memory.session? session), w) := perform_store w _
  unfold Tokens.chain
  rw [perform_bind_ok hfind, perform_orThrow_bind]
  cases w.memory.session? session <;> rfl

end Scene

namespace System

/-- After any run in which no identifier is drawn twice, whatever else happens in it, listing the
tokens of a stored session gives its history, and listing those of any other session is refused. -/
theorem chain_lists_history (settings : Settings) (start : Instant) (es : List Event)
    (surroundings : Surroundings) (session : Uuid) :
    let m := (runUnder Mark.isId settings start es).memory
    let w : Scene := ⟨m, surroundings⟩
    (m.session? session = none →
      w.perform (Tokens.chain session) = (.error (.sessionNotFound session), w)) ∧
    ∀ s, m.session? session = some s → ∃ tokens,
      w.perform (Tokens.chain session) = (.ok tokens, w) ∧ m.History session tokens := by
  intro m w
  have hsound : m.Sound := sound_runUnder (fun _ => rfl) settings start es
  have hascending : m.Ascending := (tidy_runUnder Mark.isId settings start es).ascending
  constructor
  · intro hnone
    rw [w.perform_chain session]
    show (match m.session? session with | none => _ | some _ => _) = _
    rw [hnone]
  · intro s hs
    refine ⟨_, ?_, hsound.history hascending session⟩
    rw [w.perform_chain session]
    show (match m.session? session with | none => _ | some _ => _) = _
    rw [hs]

/-- The clock goes back after an exchange, and the token of the exchange is superseded. -/
def supersession : List Event :=
  exchange ++
    [.setClock ⟨-1, false⟩, .call (.issueDefault ⟨7⟩), .go 3 ⟨0⟩ "c", .go 3 ⟨0⟩ "",
      .go 3 ⟨13⟩ "", .go 3 ⟨0⟩ ""]

/-- Its session has three tokens, one of which has been exchanged, and they are all listed. -/
theorem chain_lists_history_superseded :
    let settings : Settings := { database := { url := "" }, tokens := { policy := .supersede } }
    let m := (runUnder Mark.isId settings ⟨0, false⟩ supersession).memory
    let w : Scene := ⟨m, ⟨⟨0, false⟩, fun _ => [], 0⟩⟩
    (m.tokensOf ⟨7⟩).map (fun t => (t.id, t.replacedBy)) =
        [(⟨11⟩, some ⟨12⟩), (⟨12⟩, none), (⟨13⟩, none)] ∧
      (∃ s, m.session? ⟨7⟩ = some s) ∧
      ∃ tokens, w.perform (Tokens.chain ⟨7⟩) = (.ok tokens, w) ∧ m.History ⟨7⟩ tokens := by
  intro settings m w
  have hstored : (m.session? ⟨7⟩).isSome = true := by decide +kernel
  obtain ⟨s, hs⟩ := Option.isSome_iff_exists.mp hstored
  exact ⟨by decide +kernel, ⟨s, hs⟩,
    (chain_lists_history settings ⟨0, false⟩ supersession w.surroundings ⟨7⟩).2 s hs⟩

end System

end Service

end SessionKeeper
