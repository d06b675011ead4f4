import SessionKeeper.Proofs.Store.Rows

/-!
# Chains of tokens

The links between tokens, as they stand in the list of rows. That no chain is a cycle is carried by
the order of entry: a token is replaced by one that is entered after it, so every link points to a
later row (`Linked`). What else holds of links and marks of use is in `Chained`, with one lemma for
each kind of write: rows are revoked, a row is entered, a row is used up and its replacement
entered, rows are deleted.
-/

namespace SessionKeeper

/-! ## Links to later rows -/

/-- Every link points to a later row, of the same session. -/
def Linked : List Token → Prop
  | [] => True
  | t :: later =>
    (∀ next, t.replacedBy = some next → ∃ u ∈ later, u.id = next ∧ u.session = t.session) ∧
      Linked later

theorem Linked.target {tokens : List Token} (h : Linked tokens) {t : Token} (ht : t ∈ tokens)
    {next : Uuid} (hn : t.replacedBy = some next) :
    ∃ u ∈ tokens, u.id = next ∧ u.session = t.session := by
  induction tokens with
  | nil => cases ht
  | cons v later ih =>
    rcases List.mem_cons.mp ht with rfl | ht
    · obtain ⟨u, hu, hid⟩ := h.1 next hn
      exact ⟨u, List.mem_cons_of_mem _ hu, hid⟩
    · obtain ⟨u, hu, hid⟩ := ih h.2 ht
      exact ⟨u, List.mem_cons_of_mem _ hu, hid⟩

/-- No link leads from a row to itself. -/
theorem Linked.ne {tokens : List Token} (h : Linked tokens) (hids : (tokens.map (·.id)).Nodup)
    {t : Token} (ht : t ∈ tokens) {next : Uuid} (hn : t.replacedBy = some next) : next ≠ t.id := by
  induction tokens with
  | nil => cases ht
  | cons v later ih =>
    rw [List.map_cons, List.nodup_cons] at hids
    rcases List.mem_cons.mp ht with rfl | ht
    · obtain ⟨u, hu, rfl, -⟩ := h.1 next hn
      intro he
      exact hids.1 (he ▸ List.mem_map_of_mem hu)
    · exact ih h.2 hids.2 ht

/-- Links survive changes of the rows and an entry behind them, if each changed link points to the
new row. -/
theorem Linked.map_append {tokens : List Token} (h : Linked tokens) {f : Token → Token}
    (hid : ∀ t, (f t).id = t.id) (hsession : ∀ t, (f t).session = t.session) {new : List Token}
    (hnew : ∀ t ∈ new, t.replacedBy = none)
    (hlink : ∀ t ∈ tokens, (f t).replacedBy = t.replacedBy ∨
      ∃ n ∈ new, (f t).replacedBy = some n.id ∧ n.session = t.session) :
    Linked (tokens.map f ++ new) := by
  induction tokens with
  | nil =>
    simp only [List.map_nil, List.nil_append]
    clear hlink
    induction new with
    | nil => exact trivial
    | cons n new ih =>
      refine ⟨fun next hn => ?_, ih fun t ht => hnew t (List.mem_cons_of_mem _ ht)⟩
      rw [hnew n (List.mem_cons_self ..)] at hn
      cases hn
  | cons t later ih =>
    refine ⟨fun next hn => ?_, ih h.2 fun u hu => hlink u (List.mem_cons_of_mem _ hu)⟩
    -- the link of the first row is as it was, or leads behind all of the old rows
    rcases hlink t (List.mem_cons_self ..) with hkeep | ⟨n, hnm, hto, hns⟩
    · obtain ⟨u, hu, huid, hus⟩ := h.1 next (hkeep ▸ hn)
      refine ⟨f u, List.mem_append_left _ (List.mem_map_of_mem hu), ?_, ?_⟩
      · rw [hid, huid]
      · rw [hsession, hsession, hus]
    · rw [hto, Option.some.injEq] at hn
      exact ⟨n, List.mem_append_right _ hnm, hn, by rw [hsession, hns]⟩

/-- Links survive the deletion of rows to which no remaining row points. -/
theorem Linked.filter {tokens : List Token} (h : Linked tokens) {p : Token → Bool}
    (hp : ∀ t ∈ tokens, p t = true → ∀ u ∈ tokens, t.replacedBy = some u.id → p u = true) :
    Linked (tokens.filter p) := by
  induction tokens with
  | nil => exact trivial
  | cons t later ih =>
    have hlater : Linked (later.filter p) := by
      refine ih h.2 fun v hv hpv u hu hvu => ?_
      exact hp v (List.mem_cons_of_mem _ hv) hpv u (List.mem_cons_of_mem _ hu) hvu
    rw [List.filter_cons]
    split
    · rename_i hpt
      refine ⟨fun next hn => ?_, hlater⟩
      obtain ⟨u, hu, rfl, hus⟩ := h.1 next hn
      have hpu := hp t (List.mem_cons_self ..) hpt u (List.mem_cons_of_mem _ hu) hn
      exact ⟨u, List.mem_filter.mpr ⟨hu, hpu⟩, rfl, hus⟩
    · exact hlater

/-! ## Marks and links -/

/-- What holds of the marks and links of the stored tokens: a token is marked as used exactly when
it is replaced, links point to later rows, and no two rows have one replacement. -/
structure Chained (tokens : List Token) : Prop where
  used : ∀ t ∈ tokens, t.usedAt.isSome = t.replacedBy.isSome
  linked : Linked tokens
  apart : ∀ t ∈ tokens, ∀ u ∈ tokens, ∀ next, t.replacedBy = some next →
    u.replacedBy = some next → t.id = u.id

namespace Chained

variable {tokens : List Token}

/-- Revoking rows changes no chain. -/
theorem map_revoked (h : Chained tokens) {f : Token → Token} (hid : ∀ t, (f t).id = t.id)
    (hsession : ∀ t, (f t).session = t.session) (hused : ∀ t, (f t).usedAt = t.usedAt)
    (hreplaced : ∀ t, (f t).replacedBy = t.replacedBy) : Chained (tokens.map f) where
  used := by
    intro t ht
    obtain ⟨u, hu, rfl⟩ := List.mem_map.mp ht
    rw [hused, hreplaced]
    exact h.used u hu
  linked := by
    have hlinked : Linked (tokens.map f ++ []) :=
      h.linked.map_append hid hsession (by simp) fun t _ => .inl (hreplaced t)
    simpa using hlinked
  apart := by
    intro t ht u hu next htn hun
    obtain ⟨v, hv, rfl⟩ := List.mem_map.mp ht
    obtain ⟨w, hw, rfl⟩ := List.mem_map.mp hu
    rw [hid, hid]
    exact h.apart v hv w hw next (hreplaced v ▸ htn) (hreplaced w ▸ hun)

theorem append_unspent (h : Chained tokens) {new : Token} (hn : new.isSpent = false) :
    Chained (tokens ++ [new]) := by
  simp only [Token.isSpent, Bool.or_eq_false_iff, Option.isSome_eq_false_iff,
    Option.isNone_iff_eq_none] at hn
  obtain ⟨⟨hu, -⟩, hp⟩ := hn
  refine ⟨?_, ?_, ?_⟩
  · intro t ht
    rcases List.mem_append.mp ht with ht | ht
    · exact h.used t ht
    · simp [List.mem_singleton.mp ht, hu, hp]
  · have hlinked : Linked (tokens.map id ++ [new]) :=
      h.linked.map_append (fun _ => rfl) (fun _ => rfl) (by simpa using hp) fun t _ => .inl rfl
    simpa using hlinked
  · have old : ∀ t ∈ tokens ++ [new], ∀ next, t.replacedBy = some next → t ∈ tokens := by
      intro t ht next htn
      rcases List.mem_append.mp ht with ht | ht
      · exact ht
      · rw [List.mem_singleton.mp ht, hp] at htn
        cases htn
    intro t ht u hu next htn hun
    exact h.apart t (old t ht next htn) u (old u hu next hun) next htn hun

/-- Using up a token and entering its replacement makes its chain one longer. -/
theorem consume_append (h : Chained tokens) (hids : (tokens.map (·.id)).Nodup) {t new : Token}
    (ht : t ∈ tokens) (hns : new.isSpent = false) (hnew : ∀ u ∈ tokens, u.id ≠ new.id)
    (hsession : new.session = t.session) (now : Instant) :
    Chained ((tokens.map fun u => if u.id == t.id then u.consume now new.id else u) ++ [new]) := by
  simp only [Token.isSpent, Bool.or_eq_false_iff, Option.isSome_eq_false_iff,
    Option.isNone_iff_eq_none] at hns
  obtain ⟨⟨hnu, -⟩, hnp⟩ := hns
  refine ⟨?_, ?_, ?_⟩
  · intro u hu
    rcases List.mem_append.mp hu with hu | hu
    · obtain ⟨v, hv, rfl⟩ := List.mem_map.mp hu
      split
      · rfl
      · exact h.used v hv
    · simp [List.mem_singleton.mp hu, hnu, hnp]
  · refine h.linked.map_append (fun u => ?_) (fun u => ?_) (by simpa using hnp) fun u hu => ?_
    · split <;> rfl
    · split <;> rfl
    · by_cases he : u.id = t.id
      · refine .inr ⟨new, by simp, by simp [he, Token.consume], ?_⟩
        rw [hsession, eq_of_key_eq hids hu ht he]
      · exact .inl (by simp [he])
  · -- a link is either old, or the one from `t` to the new row, to which no old one points
    have link : ∀ u ∈ (tokens.map fun u => if u.id == t.id then u.consume now new.id else u) ++
        [new], ∀ next, u.replacedBy = some next →
        (u.id = t.id ∧ next = new.id) ∨ (u ∈ tokens ∧ next ≠ new.id) := by
      intro u hu next hun
      rcases List.mem_append.mp hu with hu | hu
      · obtain ⟨v, hv, rfl⟩ := List.mem_map.mp hu
        by_cases he : v.id = t.id
        · simp only [he, beq_self_eq_true, if_true, Token.consume, Option.some.injEq] at hun
          exact .inl ⟨by simp [he, Token.consume], hun.symm⟩
        · simp only [he, beq_iff_eq, if_false] at hun ⊢
          obtain ⟨w, hw, hwn, -⟩ := h.linked.target hv hun
          exact .inr ⟨hv, hwn ▸ hnew w hw⟩
      · rw [List.mem_singleton.mp hu, hnp] at hun
        cases hun
    intro u hu v hv next hun hvn
    rcases link u hu next hun with ⟨hut, rfl⟩ | ⟨hum, hne⟩
    · rcases link v hv _ hvn with ⟨hvt, -⟩ | ⟨-, hne⟩
      · rw [hut, hvt]
      · exact absurd rfl hne
    · rcases link v hv next hvn with ⟨-, rfl⟩ | ⟨hvm, -⟩
      · exact absurd rfl hne
      · exact h.apart u hum v hvm next hun hvn

theorem filter (h : Chained tokens) {p : Token → Bool}
    (hp : ∀ t ∈ tokens, p t = true → ∀ u ∈ tokens, t.replacedBy = some u.id → p u = true) :
    Chained (tokens.filter p) where
  used := fun t ht => h.used t (List.mem_filter.mp ht).1
  linked := h.linked.filter hp
  apart := fun t ht u hu => h.apart t (List.mem_filter.mp ht).1 u (List.mem_filter.mp hu).1

end Chained

end SessionKeeper
