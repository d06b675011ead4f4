import SessionKeeper.Proofs.Store.Ascent
import SessionKeeper.Service.Chain

/-!
# Walking along links

The tokens of a session are listed chain by chain. A walk takes the tokens out of those that can
still be visited, so its invariant is about what is left: all links of the tokens that are left lead
to tokens that are left, no two of them to the same (`Complete`), and a token that is left is
referenced there exactly when it was referenced before. With this a walk from a token that no other
names is a run up to a token that has not been replaced, walks from all such tokens are disjoint,
and if links only lead upwards then nothing is left in the end.
-/

namespace SessionKeeper.Chain

variable {tokens : List Token} {t u : Token} {id : Uuid}

/-! ## References -/

theorem isReferenced_eq_false :
    isReferenced tokens id = false ↔ ∀ t ∈ tokens, t.replacedBy ≠ some id := by
  simp [isReferenced]

theorem isReferenced_perm {tokens' : List Token} (h : tokens.Perm tokens') (id : Uuid) :
    isReferenced tokens id = isReferenced tokens' id := h.any_eq

theorem mem_without : t ∈ without id tokens ↔ t ∈ tokens ∧ t.id ≠ id := by
  simp [without]

/-- Taking a token out matters to the token that it names only. -/
theorem isReferenced_without (h : ∀ v ∈ tokens, v.id = t.id → v = t)
    (hother : t.replacedBy ≠ some id) :
    isReferenced (without t.id tokens) id = isReferenced tokens id := by
  cases href : isReferenced tokens id with
  | false =>
    rw [isReferenced_eq_false] at href ⊢
    intro v hv
    exact href v (mem_without.mp hv).1
  | true =>
    obtain ⟨v, hv, hlink⟩ := List.any_eq_true.mp href
    have hne : v.id ≠ t.id := by
      intro he
      rw [h v hv he] at hlink
      exact hother (by simpa using hlink)
    exact List.any_eq_true.mpr ⟨v, mem_without.mpr ⟨hv, hne⟩, hlink⟩

theorem cons_without_perm (hids : (tokens.map (·.id)).Nodup) (ht : t ∈ tokens) :
    (t :: without t.id tokens).Perm tokens := by
  induction tokens with
  | nil => cases ht
  | cons v tokens ih =>
    rw [List.map_cons, List.nodup_cons] at hids
    rcases List.mem_cons.mp ht with rfl | ht
    · have hkept : without t.id (t :: tokens) = tokens := by
        simp only [without, List.filter_cons, bne_self_eq_false, Bool.false_eq_true, if_false]
        rw [List.filter_eq_self]
        intro u hu
        rw [bne_iff_ne]
        intro he
        exact hids.1 (he ▸ List.mem_map_of_mem hu)
      rw [hkept]
    · have hne : v.id ≠ t.id := by
        intro he
        exact hids.1 (he ▸ List.mem_map_of_mem ht)
      have hkept : without t.id (v :: tokens) = v :: without t.id tokens := by
        simp [without, hne]
      rw [hkept]
      exact (List.Perm.swap ..).trans ((ih hids.2 ht).cons v)

/-! ## One walk -/

theorem walk_of_end (h : tokens.find? (fun t => t.id == id) = some t) (hend : t.replacedBy = none) :
    walk id tokens = ([t], without id tokens) := by
  rw [walk]
  split
  · rename_i hnone
    rw [h] at hnone
    cases hnone
  · rename_i v hv
    rw [h] at hv
    cases hv
    rw [hend]

theorem walk_of_link (h : tokens.find? (fun t => t.id == id) = some t) {next : Uuid}
    (hlink : t.replacedBy = some next) :
    walk id tokens =
      (t :: (walk next (without id tokens)).1, (walk next (without id tokens)).2) := by
  rw [walk]
  split
  · rename_i hnone
    rw [h] at hnone
    cases hnone
  · rename_i v hv
    rw [h] at hv
    cases hv
    rw [hlink]

/-! ## Runs -/

/-- Tokens each of which names the next one, up to one that has not been replaced. -/
inductive Run : List Token → Prop where
  | last {t : Token} (hend : t.replacedBy = none) : Run [t]
  | link {t u : Token} {rest : List Token} (hlink : t.replacedBy = some u.id)
      (hrest : Run (u :: rest)) : Run (t :: u :: rest)

/-- Directly behind each token that has been replaced stands its replacement. -/
def Follows (tokens : List Token) : Prop :=
  ∀ (i : Nat) (t : Token) (next : Uuid), tokens[i]? = some t → t.replacedBy = some next →
    ∃ u, tokens[i + 1]? = some u ∧ u.id = next

theorem Run.follows {run : List Token} (h : Run run) : Follows run := by
  induction h with
  | last hnone =>
    intro i t next hi hn
    have ht := List.mem_of_getElem? hi
    rw [List.mem_singleton.mp ht, hnone] at hn
    cases hn
  | link hlink _ ih =>
    intro i t next hi hn
    cases i with
    | zero =>
      cases hi
      rw [hlink] at hn
      exact ⟨_, rfl, Option.some.inj hn⟩
    | succ i => exact ih i t next hi hn

/-- In a run every token but the first has been named. -/
theorem Run.named {run : List Token} (h : Run (t :: run)) (hu : u ∈ run) :
    ∃ v ∈ t :: run, v.replacedBy = some u.id := by
  induction run generalizing t with
  | nil => cases hu
  | cons w run ih =>
    cases h with
    | link hlink hrest =>
      rcases List.mem_cons.mp hu with rfl | hu
      · exact ⟨t, List.mem_cons_self .., hlink⟩
      · obtain ⟨v, hv, hn⟩ := ih hrest hu
        exact ⟨v, List.mem_cons_of_mem _ hv, hn⟩

theorem Follows.append {left right : List Token} (hl : Follows left) (hr : Follows right) :
    Follows (left ++ right) := by
  intro i t next hi hn
  rw [List.getElem?_append] at hi
  split at hi
  · obtain ⟨u, hu, hid⟩ := hl i t next hi hn
    have hlt := (List.getElem?_eq_some_iff.mp hu).1
    exact ⟨u, by rw [List.getElem?_append_left hlt, hu], hid⟩
  · rename_i hge
    obtain ⟨u, hu, hid⟩ := hr _ t next hi hn
    refine ⟨u, ?_, hid⟩
    rw [List.getElem?_append_right (by omega), ← hu]
    congr 1
    omega

theorem follows_flatten {runs : List (List Token)} (h : ∀ run ∈ runs, Run run) :
    Follows runs.flatten := by
  induction runs with
  | nil =>
    intro i t next hi
    cases hi
  | cons run runs ih =>
    have hrun : Run run := h run (by simp)
    exact hrun.follows.append (ih fun run hr => h run (List.mem_cons_of_mem _ hr))

/-! ## Complete chains -/

/-- The tokens make up whole chains: every link leads to one of them, and no two links to one. -/
structure Complete (tokens : List Token) : Prop where
  ids : (tokens.map (·.id)).Nodup
  target : ∀ t ∈ tokens, ∀ next, t.replacedBy = some next → ∃ u ∈ tokens, u.id = next
  apart : ∀ t ∈ tokens, ∀ u ∈ tokens, ∀ next, t.replacedBy = some next →
    u.replacedBy = some next → t = u

namespace Complete

theorem eq_of_id (h : Complete tokens) (ht : t ∈ tokens) (hu : u ∈ tokens) (he : u.id = t.id) :
    u = t := eq_of_key_eq h.ids hu ht he

theorem perm (h : Complete tokens) {tokens' : List Token} (hp : tokens.Perm tokens') :
    Complete tokens' where
  ids := (hp.map _).nodup_iff.mp h.ids
  target := by
    intro t ht next hn
    obtain ⟨u, hu, hid⟩ := h.target t (hp.mem_iff.mpr ht) next hn
    exact ⟨u, hp.mem_iff.mp hu, hid⟩
  apart := by
    intro t ht u hu
    exact h.apart t (hp.mem_iff.mpr ht) u (hp.mem_iff.mpr hu)

/-- What is left is complete if the token that is taken out is the first of its chain. -/
theorem drop_first (h : Complete tokens) (hfirst : isReferenced tokens t.id = false) :
    Complete (without t.id tokens) where
  ids := h.ids.sublist (List.filter_sublist.map _)
  target := by
    intro v hv next hn
    have hv := (mem_without.mp hv).1
    obtain ⟨u, hu, hid⟩ := h.target v hv next hn
    refine ⟨u, mem_without.mpr ⟨hu, ?_⟩, hid⟩
    intro he
    rw [isReferenced_eq_false] at hfirst
    exact hfirst v hv (by rw [hn, ← hid, he])
  apart := by
    intro v hv u hu
    exact h.apart v (mem_without.mp hv).1 u (mem_without.mp hu).1

/-- A walk from the first token of a chain takes this chain out and leaves all others. -/
theorem walk_first (h : Complete tokens) (ht : t ∈ tokens)
    (hfirst : isReferenced tokens t.id = false) :
    ∃ run left, walk t.id tokens = (t :: run, left) ∧ Run (t :: run) ∧
      (t :: run ++ left).Perm tokens ∧ Complete left ∧
      ∀ v ∈ left, isReferenced left v.id = isReferenced tokens v.id := by
  generalize hid : t.id = id at hfirst ⊢
  induction id, tokens using walk.induct generalizing t with
  | case1 id tokens hnone =>
    exact absurd hid (find?_key_none.mp hnone t ht)
  | case2 id tokens v hfind hend =>
    obtain ⟨hv, hvid⟩ := (find?_key_iff h.ids).mp hfind
    obtain rfl : v = t := h.eq_of_id ht hv (hvid.trans hid.symm)
    subst hid
    refine ⟨[], without v.id tokens, walk_of_end hfind hend, .last hend,
      cons_without_perm h.ids ht, h.drop_first hfirst, ?_⟩
    intro u hu
    refine isReferenced_without (fun w hw he => h.eq_of_id ht hw he) ?_
    rw [hend]
    exact nofun
  | case3 id tokens v hfind rest next hlink _ _ _ =>
    rename_i ih
    obtain ⟨hv, hvid⟩ := (find?_key_iff h.ids).mp hfind
    obtain rfl : v = t := h.eq_of_id ht hv (hvid.trans hid.symm)
    subst hid
    have hsame : ∀ w ∈ tokens, w.id = v.id → w = v := fun w hw he => h.eq_of_id ht hw he
    obtain ⟨u, hu, huid⟩ := h.target v ht next hlink
    subst huid
    have hne : u.id ≠ v.id := by
      intro he
      rw [isReferenced_eq_false] at hfirst
      exact hfirst v ht (by rw [hlink, he])
    -- the token that is taken out was the only one that named the next
    have hnext : isReferenced (without v.id tokens) u.id = false := by
      rw [isReferenced_eq_false]
      intro w hw hwu
      obtain ⟨hw, hwne⟩ := mem_without.mp hw
      exact hwne (congrArg Token.id (h.apart w hw v ht u.id hwu hlink))
    obtain ⟨run, left, hwalk, hrun, hperm, hcomplete, hrefs⟩ :=
      ih (h.drop_first hfirst) (mem_without.mpr ⟨hu, hne⟩) rfl hnext
    refine ⟨u :: run, left, ?_, .link hlink hrun, ?_, hcomplete, ?_⟩
    · rw [walk_of_link hfind hlink, hwalk]
    · exact (hperm.cons v).trans (cons_without_perm h.ids ht)
    · intro w hw
      rw [hrefs w hw]
      refine isReferenced_without hsame ?_
      rw [hlink]
      intro he
      have hids := (hperm.map (·.id)).nodup_iff.mpr (h.drop_first hfirst).ids
      rw [List.cons_append, List.map_cons, List.nodup_cons] at hids
      refine hids.1 (List.mem_map.mpr ⟨w, List.mem_append_right _ hw, ?_⟩)
      exact (Option.some.inj he).symm

/-! ## All walks -/

theorem nodup (h : Complete tokens) : tokens.Nodup :=
  (List.pairwise_map.mp h.ids).imp fun hne he => hne (congrArg Token.id he)

/-- What is left after a walk from a first token has the other first tokens. -/
theorem firsts_left (h : Complete tokens) {run left : List Token} (hrun : Run (t :: run))
    (hperm : (t :: run ++ left).Perm tokens)
    (hrefs : ∀ v ∈ left, isReferenced left v.id = isReferenced tokens v.id) (u : Token) :
    (u ∈ left ∧ isReferenced left u.id = false) ↔
      (u ∈ tokens ∧ isReferenced tokens u.id = false) ∧ u ≠ t := by
  have hnodup := hperm.nodup_iff.mpr h.nodup
  constructor
  · rintro ⟨hu, href⟩
    refine ⟨⟨hperm.mem_iff.mp (List.mem_append_right _ hu), by rw [← hrefs u hu, href]⟩, ?_⟩
    intro he
    exact (List.nodup_append.mp hnodup).2.2 t (List.mem_cons_self ..) u hu he.symm
  · rintro ⟨⟨hu, href⟩, hne⟩
    have hleft : u ∈ left := by
      rcases List.mem_append.mp (hperm.mem_iff.mpr hu) with hmem | hmem
      · rcases List.mem_cons.mp hmem with he | hmem
        · exact absurd he hne
        · obtain ⟨v, hv, hn⟩ := hrun.named hmem
          rw [isReferenced_eq_false] at href
          exact absurd hn (href v (hperm.mem_iff.mp (List.mem_append_left _ hv)))
      · exact hmem
    exact ⟨hleft, by rw [hrefs u hleft, href]⟩

/-- The walks from all first tokens are runs, one behind the other. Of what they leave, every token
is referenced. -/
theorem walkAll_firsts {firsts : List Token} (h : Complete tokens)
    (hfirsts : ∀ t, t ∈ firsts ↔ t ∈ tokens ∧ isReferenced tokens t.id = false)
    (hnodup : firsts.Nodup) :
    ∃ (runs : List (List Token)) (left : List Token),
      walkAll (firsts.map (·.id)) tokens = runs.flatten ∧ (∀ run ∈ runs, Run run) ∧
      runs.map List.head? = firsts.map some ∧ (runs.flatten ++ left).Perm tokens ∧
      ∀ t ∈ left, isReferenced left t.id = true := by
  induction firsts generalizing tokens with
  | nil =>
    refine ⟨[], tokens, rfl, by simp, rfl, .refl _, ?_⟩
    intro t ht
    cases href : isReferenced tokens t.id with
    | true => rfl
    | false => exact absurd ((hfirsts t).mpr ⟨ht, href⟩) (by simp)
  | cons first firsts ih =>
    obtain ⟨hnot, hnodup⟩ := List.nodup_cons.mp hnodup
    obtain ⟨hmem, href⟩ := (hfirsts first).mp (by simp)
    obtain ⟨run, left, hwalk, hrun, hperm, hleft, hrefs⟩ := h.walk_first hmem href
    have hothers : ∀ t, t ∈ firsts ↔ t ∈ left ∧ isReferenced left t.id = false := by
      intro t
      rw [h.firsts_left hrun hperm hrefs, ← hfirsts t, List.mem_cons]
      constructor
      · intro ht
        exact ⟨.inr ht, fun he => hnot (he ▸ ht)⟩
      · rintro ⟨he | ht, hne⟩
        · exact absurd he hne
        · exact ht
    obtain ⟨runs, rest, hall, hruns, hheads, hperm', hrest⟩ := ih hleft hothers hnodup
    refine ⟨(first :: run) :: runs, rest, ?_, ?_, ?_, ?_, hrest⟩
    · rw [List.map_cons, walkAll, hwalk, List.flatten_cons, ← hall]
    · intro r hr
      rcases List.mem_cons.mp hr with rfl | hr
      · exact hrun
      · exact hruns r hr
    · rw [List.map_cons, List.map_cons, hheads]
      rfl
    · rw [List.flatten_cons, List.append_assoc]
      exact (hperm'.append_left _).trans hperm

end Complete

/-- Where links lead upwards, not every token is referenced. -/
theorem eq_nil_of_referenced (rank : Uuid → Nat)
    (hrank : ∀ t ∈ tokens, ∀ next, t.replacedBy = some next → rank t.id < rank next)
    (hall : ∀ t ∈ tokens, isReferenced tokens t.id = true) : tokens = [] := by
  have hnone : ∀ n, ∀ t ∈ tokens, ¬ rank t.id < n := by
    intro n
    induction n with
    | zero =>
      intro t _
      omega
    | succ n ih =>
      -- a token names this one, and is ranked below it
      intro t ht hlt
      obtain ⟨v, hv, hlink⟩ := List.any_eq_true.mp (hall t ht)
      have hbelow := hrank v hv t.id (by simpa using hlink)
      exact ih v hv (by omega)
  refine List.eq_nil_iff_forall_not_mem.mpr ?_
  intro t ht
  exact hnone (rank t.id + 1) t ht (Nat.lt_succ_self _)

/-- Whole chains whose links lead upwards are listed run by run, each from a token that no other
names, in the order in which these are given. -/
theorem Complete.order_runs (h : Complete tokens) (rank : Uuid → Nat)
    (hrank : ∀ t ∈ tokens, ∀ next, t.replacedBy = some next → rank t.id < rank next) :
    ∃ runs : List (List Token), order tokens = runs.flatten ∧ (∀ run ∈ runs, Run run) ∧
      runs.flatten.Perm tokens ∧
      runs.map List.head? = (tokens.filter fun t => !isReferenced tokens t.id).map some := by
  have hreverse : tokens.Perm tokens.reverse := tokens.reverse_perm.symm
  have hfirsts : ∀ t, t ∈ tokens.filter (fun t => !isReferenced tokens t.id) ↔
      t ∈ tokens.reverse ∧ isReferenced tokens.reverse t.id = false := by
    intro t
    rw [List.mem_filter, hreverse.mem_iff, isReferenced_perm hreverse]
    simp
  obtain ⟨runs, left, hall, hruns, hheads, hperm, hleft⟩ :=
    (h.perm hreverse).walkAll_firsts hfirsts (h.nodup.filter _)
  have hnil : left = [] := by
    refine eq_nil_of_referenced rank ?_ hleft
    intro t ht
    refine hrank t (hreverse.mem_iff.mpr (hperm.mem_iff.mp ?_))
    exact List.mem_append_right _ ht
  rw [hnil, List.append_nil] at hperm
  exact ⟨runs, hall, hruns, hperm.trans hreverse.symm, hheads⟩

end SessionKeeper.Chain
