import Mathlib.Data.Fintype.Order
import Mathlib.Logic.Relation
import SessionKeeper.Proofs.Service.Walk

/-!
# Links of any shape

Tokens are listed along their links whatever these look like: a link may lead to no token or back to
its own token, several tokens may name the same one, and links may run in circles. What is listed is
what can be reached from the tokens that no token names (`Listing`). The invariant is again about
what is left to be visited: no token that has been visited names one that is left (`Taken.closed`).
So a walk that stops at a token that has been taken out before misses nothing, since the walk that
took it out has gone on from there. Each pass of the loop takes a token out or turns to the next
head, which bounds the number of passes (`Sweep`).
-/

namespace SessionKeeper.Chain

variable {tokens visited left listed : List Token} {t u : Token} {id : Uuid}

/-- A token names another as the one that took its place. -/
def Names (t u : Token) : Prop := t.replacedBy = some u.id

/-- A link between two tokens of a list. -/
def Leads (tokens : List Token) (t u : Token) : Prop := t ∈ tokens ∧ u ∈ tokens ∧ Names t u

/-- A token of a list that no token of it names. -/
def IsHead (tokens : List Token) (t : Token) : Prop := t ∈ tokens ∧ ∀ v ∈ tokens, ¬ Names v t

/-- A token that can be reached from a head along the links of a list. -/
def Reached (tokens : List Token) (t : Token) : Prop :=
  ∃ head, IsHead tokens head ∧ Relation.ReflTransGen (Leads tokens) head t

/-- Every token is one of the given ones or stands directly behind a token that names it. -/
def Placed (first : Token → Prop) (listed : List Token) : Prop :=
  ∀ (i : Nat) (u : Token), listed[i]? = some u →
    first u ∨ ∃ j t, i = j + 1 ∧ listed[j]? = some t ∧ Names t u

/-- The tokens of a list as they are listed along their links. -/
structure Listing (tokens listed : List Token) : Prop where
  nodup : listed.Nodup
  mem_iff : ∀ t, t ∈ listed ↔ Reached tokens t
  placed : Placed (IsHead tokens) listed

/-! ## Places -/

theorem Placed.mono {first first' : Token → Prop} (h : Placed first listed)
    (hf : ∀ u ∈ listed, first u → first' u) : Placed first' listed :=
  fun i u hu => (h i u hu).imp_left (hf u (List.mem_of_getElem? hu))

theorem Placed.append {first : Token → Prop} {left right : List Token} (hl : Placed first left)
    (hr : Placed first right) : Placed first (left ++ right) := by
  intro i u hu
  rw [List.getElem?_append] at hu
  split at hu
  · refine (hl i u hu).imp_right ?_
    rintro ⟨j, t, rfl, ht, hn⟩
    exact ⟨j, t, rfl, by rw [List.getElem?_append_left (by omega), ht], hn⟩
  · refine (hr _ u hu).imp_right ?_
    rintro ⟨j, t, hj, ht, hn⟩
    refine ⟨left.length + j, t, by omega, ?_, hn⟩
    rw [List.getElem?_append_right (by omega), Nat.add_sub_cancel_left, ht]

theorem placed_of_isChain {first : Token → Prop} (h : visited.IsChain Names)
    (hfirst : ∀ t ∈ visited.head?, first t) : Placed first visited := by
  intro i u hu
  cases i with
  | zero => exact .inl (hfirst u (by rw [List.head?_eq_getElem?]; exact hu))
  | succ j =>
    obtain ⟨hlt, rfl⟩ := List.getElem?_eq_some_iff.mp hu
    exact .inr ⟨j, visited[j], rfl, by simp, List.isChain_iff_getElem.mp h j hlt⟩

/-- What stands in its place has been reached. -/
theorem Placed.reached (h : Placed (IsHead tokens) listed) (hmem : ∀ t ∈ listed, t ∈ tokens)
    (ht : t ∈ listed) : Reached tokens t := by
  obtain ⟨i, hi⟩ := List.mem_iff_getElem?.mp ht
  induction i generalizing t with
  | zero =>
    rcases h 0 t hi with hhead | ⟨j, v, hj, -⟩
    · exact ⟨t, hhead, .refl⟩
    · cases hj
  | succ i ih =>
    rcases h (i + 1) t hi with hhead | ⟨j, v, hj, hv, hn⟩
    · exact ⟨t, hhead, .refl⟩
    · cases hj
      obtain ⟨head, hhead, hreach⟩ := ih (List.mem_of_getElem? hv) hv
      have hlink : Leads tokens v t := ⟨hmem v (List.mem_of_getElem? hv), hmem t ht, hn⟩
      exact ⟨head, hhead, hreach.tail hlink⟩

/-! ## What is taken out -/

/-- Tokens have been taken out, from the ones with the given identifiers on. -/
structure Taken (starts : List Uuid) (tokens listed left : List Token) : Prop where
  perm : (listed ++ left).Perm tokens
  begun : ∀ u ∈ left, u.id ∉ starts
  closed : ∀ t ∈ listed, ∀ u ∈ left, ¬ Names t u
  placed : Placed (fun u => u.id ∈ starts) listed

theorem walk_of_missing (h : tokens.find? (fun t => t.id == id) = none) :
    walk id tokens = ([], tokens) := by
  rw [walk]
  split
  · rfl
  · rename_i t ht
    rw [h] at ht
    cases ht

theorem nodup_without (h : (tokens.map (·.id)).Nodup) (id : Uuid) :
    ((without id tokens).map (·.id)).Nodup := h.sublist (List.filter_sublist.map _)

/-- A walk is a run of tokens each of which names the next, from the one with the identifier on. -/
theorem isChain_walk (id : Uuid) (tokens : List Token) :
    (walk id tokens).1.IsChain Names ∧ ∀ t ∈ (walk id tokens).1.head?, t.id = id := by
  induction id, tokens using walk.induct with
  | case1 id tokens hnone =>
    rw [walk_of_missing hnone]
    exact ⟨.nil, by simp⟩
  | case2 id tokens t hfind hend =>
    have hid : t.id = id := by simpa using List.find?_some hfind
    rw [walk_of_end hfind hend]
    exact ⟨.singleton t, by simpa using hid⟩
  | case3 id tokens t hfind rest next hlink _ _ _ =>
    rename_i ih
    have hid : t.id = id := by simpa using List.find?_some hfind
    rw [walk_of_link hfind hlink]
    refine ⟨ih.1.cons fun u hu => ?_, by simpa using hid⟩
    rw [Names, hlink, ih.2 u hu]

theorem placed_walk (id : Uuid) (tokens : List Token) :
    Placed (fun u => u.id ∈ [id]) (walk id tokens).1 := by
  obtain ⟨hchain, hfirst⟩ := isChain_walk id tokens
  exact placed_of_isChain hchain fun t ht => by simpa using hfirst t ht

theorem taken_walk (hids : (tokens.map (·.id)).Nodup) (id : Uuid) :
    Taken [id] tokens (walk id tokens).1 (walk id tokens).2 := by
  have hplaced := placed_walk id tokens
  induction id, tokens using walk.induct with
  | case1 id tokens hnone =>
    rw [walk_of_missing hnone] at hplaced ⊢
    refine ⟨.refl _, fun u hu => ?_, by simp, hplaced⟩
    simpa using find?_key_none.mp hnone u hu
  | case2 id tokens t hfind hend =>
    obtain ⟨ht, rfl⟩ := (find?_key_iff hids).mp hfind
    rw [walk_of_end hfind hend] at hplaced ⊢
    refine ⟨cons_without_perm hids ht, fun u hu => ?_, fun v hv u _ hn => ?_, hplaced⟩
    · simpa using (mem_without.mp hu).2
    · rw [List.mem_singleton.mp hv, Names, hend] at hn
      cases hn
  | case3 id tokens t hfind rest next hlink _ _ _ =>
    rename_i ih
    obtain ⟨ht, rfl⟩ := (find?_key_iff hids).mp hfind
    have hrest : Taken [next] (without t.id tokens) _ _ :=
      ih (nodup_without hids _) (placed_walk next _)
    rw [walk_of_link hfind hlink] at hplaced ⊢
    refine ⟨(hrest.perm.cons t).trans (cons_without_perm hids ht), fun u hu => ?_, ?_, hplaced⟩
    · have hmem := hrest.perm.mem_iff.mp (List.mem_append_right _ hu)
      simpa using (mem_without.mp hmem).2
    · intro v hv u hu hn
      rcases List.mem_cons.mp hv with rfl | hv
      · -- the walk has gone on to the token that is named, or there was none
        rw [Names, hlink] at hn
        exact hrest.begun u hu (by simpa using (Option.some.inj hn).symm)
      · exact hrest.closed v hv u hu hn

theorem Taken.ids_left {starts : List Uuid} (h : Taken starts tokens listed left)
    (hids : (tokens.map (·.id)).Nodup) : (left.map (·.id)).Nodup := by
  have hall := (h.perm.map (·.id)).nodup_iff.mpr hids
  rw [List.map_append] at hall
  exact (List.nodup_append.mp hall).2.1

theorem taken_walkAll (heads : List Uuid) (hids : (tokens.map (·.id)).Nodup) :
    ∃ left, Taken heads tokens (walkAll heads tokens) left := by
  induction heads generalizing tokens with
  | nil =>
    rw [walkAll]
    exact ⟨tokens, .refl _, by simp, by simp, placed_of_isChain .nil (by simp)⟩
  | cons head heads ih =>
    have hwalk := taken_walk hids head
    obtain ⟨left, hrest⟩ := ih (hwalk.ids_left hids)
    have hmem : ∀ u ∈ left, u ∈ (walk head tokens).2 :=
      fun u hu => hrest.perm.mem_iff.mp (List.mem_append_right _ hu)
    refine ⟨left, ?_, ?_, ?_, ?_⟩
    · rw [walkAll, List.append_assoc]
      exact (hrest.perm.append_left _).trans hwalk.perm
    · intro u hu hstart
      rcases List.mem_cons.mp hstart with he | hstart
      · exact hwalk.begun u (hmem u hu) (by simpa using he)
      · exact hrest.begun u hu hstart
    · intro t ht u hu
      rw [walkAll] at ht
      rcases List.mem_append.mp ht with ht | ht
      · exact hwalk.closed t ht u (hmem u hu)
      · exact hrest.closed t ht u hu
    · rw [walkAll]
      refine (hwalk.placed.mono fun u _ hu => ?_).append (hrest.placed.mono fun u _ hu => ?_)
      · exact List.mem_cons.mpr (.inl (by simpa using hu))
      · exact List.mem_cons_of_mem _ hu

/-! ## What is listed -/

theorem mem_heads (hids : (tokens.map (·.id)).Nodup) (ht : t ∈ tokens) :
    t.id ∈ heads tokens ↔ IsHead tokens t := by
  have hhead : IsHead tokens t ↔ isReferenced tokens t.id = false := by
    rw [isReferenced_eq_false]
    exact and_iff_right ht
  rw [hhead, heads, List.mem_map]
  constructor
  · rintro ⟨u, hu, he⟩
    obtain ⟨hu, href⟩ := List.mem_filter.mp hu
    obtain rfl : u = t := eq_of_key_eq hids hu ht he
    simpa using href
  · intro href
    exact ⟨t, List.mem_filter.mpr ⟨ht, by simpa using href⟩, rfl⟩

theorem taken_order (hids : (tokens.map (·.id)).Nodup) :
    ∃ left, Taken (heads tokens) tokens (order tokens) left := by
  have hreverse : (tokens.reverse.map (·.id)).Nodup :=
    (tokens.reverse_perm.map (·.id)).nodup_iff.mpr hids
  obtain ⟨left, h⟩ := taken_walkAll (heads tokens) hreverse
  exact ⟨left, h.perm.trans tokens.reverse_perm, h.begun, h.closed, h.placed⟩

theorem Taken.mem (h : Taken (heads tokens) tokens listed left) :
    ∀ t ∈ listed, t ∈ tokens :=
  fun _ ht => h.perm.mem_iff.mp (List.mem_append_left _ ht)

/-- A token that is not left has been listed. -/
theorem Taken.mem_of_not_left (h : Taken (heads tokens) tokens listed left) (ht : t ∈ tokens)
    (hleft : t ∉ left) : t ∈ listed :=
  (List.mem_append.mp (h.perm.mem_iff.mpr ht)).resolve_right hleft

theorem Taken.mem_of_reached (h : Taken (heads tokens) tokens listed left)
    (hids : (tokens.map (·.id)).Nodup) (ht : Reached tokens t) : t ∈ listed := by
  obtain ⟨head, hhead, hreach⟩ := ht
  induction hreach with
  | refl =>
    refine h.mem_of_not_left hhead.1 fun hleft => ?_
    exact h.begun head hleft ((mem_heads hids hhead.1).mpr hhead)
  | tail _ hlink ih =>
    obtain ⟨-, hmem, hn⟩ := hlink
    exact h.mem_of_not_left hmem fun hleft => h.closed _ ih _ hleft hn

theorem Taken.listing (h : Taken (heads tokens) tokens listed left)
    (hids : (tokens.map (·.id)).Nodup) : Listing tokens listed := by
  have hplaced : Placed (IsHead tokens) listed :=
    h.placed.mono fun u hu => (mem_heads hids (h.mem u hu)).mp
  have hnodup : (listed ++ left).Nodup := h.perm.nodup_iff.mpr hids.of_map
  refine ⟨(List.nodup_append.mp hnodup).1, fun t => ?_, hplaced⟩
  exact ⟨hplaced.reached h.mem, h.mem_of_reached hids⟩

/-- Every token that is left is named by one that is left. -/
theorem Taken.named_left (h : Taken (heads tokens) tokens listed left)
    (hids : (tokens.map (·.id)).Nodup) (hu : u ∈ left) : ∃ t ∈ left, Leads tokens t u := by
  have hmem : u ∈ tokens := h.perm.mem_iff.mp (List.mem_append_right _ hu)
  have hnot : ¬ IsHead tokens u := fun hhead => h.begun u hu ((mem_heads hids hmem).mpr hhead)
  obtain ⟨t, ht, hn⟩ : ∃ t ∈ tokens, Names t u := by
    simpa [IsHead, hmem] using hnot
  refine ⟨t, by_contra fun hleft => ?_, ht, hmem, hn⟩
  exact h.closed t (h.mem_of_not_left ht hleft) u hu hn

/-- No link leads back to where it came from, over any number of tokens. -/
def Acyclic (tokens : List Token) : Prop :=
  ∀ t ∈ tokens, ¬ Relation.TransGen (Leads tokens) t t

theorem Taken.eq_nil (h : Taken (heads tokens) tokens listed left)
    (hids : (tokens.map (·.id)).Nodup) (hacyclic : Acyclic tokens) : left = [] := by
  by_contra hne
  -- among finitely many tokens that are left, one is not reached from any other
  let r : {t // t ∈ left} → {t // t ∈ left} → Prop :=
    fun t u => Relation.TransGen (Leads tokens) t.1 u.1
  have : Finite {t // t ∈ left} := List.finite_toSet left
  have : IsTrans _ r := ⟨fun _ _ _ => Relation.TransGen.trans⟩
  have : Std.Irrefl r := ⟨fun t =>
    hacyclic t.1 (h.perm.mem_iff.mp (List.mem_append_right _ t.2))⟩
  obtain ⟨t, ht⟩ := List.exists_mem_of_ne_nil left hne
  obtain ⟨u, -, hmin⟩ := (Finite.wellFounded_of_trans_of_irrefl r).has_min Set.univ
    ⟨⟨t, ht⟩, trivial⟩
  obtain ⟨v, hv, hlink⟩ := h.named_left hids u.2
  exact hmin ⟨v, hv⟩ trivial (.single hlink)

/-! ## The passes of the loop -/

/-- The loop over the heads, between two passes. -/
structure Sweep where
  /-- The token to go on with, if the last one named one. -/
  cursor : Option Uuid
  /-- The heads that are still to come. -/
  heads : List Uuid
  unvisited : Unvisited
  listed : List Token

namespace Sweep

variable {todo : List Uuid} {done : List Token}

/-- The loop before its first pass. -/
def start (tokens : List Token) : Sweep := ⟨none, Chain.heads tokens, tokens.reverse, []⟩

/-- There is nothing to go on with. -/
def Finished (s : Sweep) : Prop := s.cursor = none ∧ s.heads = []

/-- One pass: the token at the cursor is taken out, or the loop turns to the next head. -/
def pass (s : Sweep) : Sweep :=
  match s.cursor, s.heads with
  | some id, _ =>
    match s.unvisited.find? fun t => t.id == id with
    | some t =>
      { s with
        cursor := t.replacedBy
        unvisited := without id s.unvisited
        listed := s.listed ++ [t] }
    | none => { s with cursor := none }
  | none, head :: heads => { s with cursor := some head, heads }
  | none, [] => s

theorem pass_of_found (h : tokens.find? (fun t => t.id == id) = some t) :
    pass ⟨some id, todo, tokens, done⟩ =
      ⟨t.replacedBy, todo, without id tokens, done ++ [t]⟩ := by
  simp only [pass, h]

theorem pass_of_missing (h : tokens.find? (fun t => t.id == id) = none) :
    pass ⟨some id, todo, tokens, done⟩ = ⟨none, todo, tokens, done⟩ := by
  simp only [pass, h]

/-- A walk takes a pass for each token, and perhaps one to find that there is no other. -/
theorem passes_walk (todo : List Uuid) (id : Uuid) (tokens done : List Token) :
    ∃ n ≤ (walk id tokens).1.length + 1, pass^[n] ⟨some id, todo, tokens, done⟩ =
      ⟨none, todo, (walk id tokens).2, done ++ (walk id tokens).1⟩ := by
  induction id, tokens using walk.induct generalizing done with
  | case1 id tokens hnone =>
    refine ⟨1, by omega, ?_⟩
    rw [walk_of_missing hnone, List.append_nil]
    exact pass_of_missing hnone
  | case2 id tokens t hfind hend =>
    refine ⟨1, by omega, ?_⟩
    rw [walk_of_end hfind hend, ← hend]
    exact pass_of_found hfind
  | case3 id tokens t hfind rest next hlink _ _ _ =>
    rename_i ih
    obtain ⟨n, hn, hpasses⟩ := ih (done ++ [t])
    refine ⟨n + 1, ?_, ?_⟩
    · rw [walk_of_link hfind hlink]
      exact Nat.add_le_add_right hn 1
    · rw [Function.iterate_succ_apply, pass_of_found hfind, hlink, hpasses,
        walk_of_link hfind hlink, List.append_assoc, List.singleton_append]

theorem passes_walkAll (heads : List Uuid) (tokens done : List Token) :
    ∃ n ≤ 2 * heads.length + (walkAll heads tokens).length, ∃ left,
      pass^[n] ⟨none, heads, tokens, done⟩ = ⟨none, [], left, done ++ walkAll heads tokens⟩ := by
  induction heads generalizing tokens done with
  | nil => exact ⟨0, by simp, tokens, by simp [walkAll]⟩
  | cons head heads ih =>
    obtain ⟨n, hn, hwalk⟩ := passes_walk heads head tokens done
    obtain ⟨m, hm, left, hall⟩ := ih (walk head tokens).2 (done ++ (walk head tokens).1)
    refine ⟨m + n + 1, ?_, left, ?_⟩
    · rw [walkAll, List.length_append, List.length_cons]
      omega
    · rw [Function.iterate_succ_apply]
      show pass^[m + n] ⟨some head, heads, tokens, done⟩ = _
      rw [Function.iterate_add_apply, hwalk, hall, walkAll, List.append_assoc]

/-- The loop ends, after at most three passes for each token, and has listed them in order. -/
theorem ends (hids : (tokens.map (·.id)).Nodup) :
    ∃ n ≤ 3 * tokens.length,
      (pass^[n] (start tokens)).Finished ∧ (pass^[n] (start tokens)).listed = order tokens := by
  obtain ⟨n, hn, left, hpasses⟩ := passes_walkAll (Chain.heads tokens) tokens.reverse []
  have hheads : (Chain.heads tokens).length ≤ tokens.length := by
    rw [Chain.heads, List.length_map]
    exact List.length_filter_le _ _
  have hlisted : (order tokens).length ≤ tokens.length := by
    obtain ⟨_, h⟩ := taken_order hids
    have hlength := h.perm.length_eq
    rw [List.length_append] at hlength
    omega
  refine ⟨n, ?_, ?_⟩
  · unfold order at hlisted
    omega
  · rw [start, hpasses]
    exact ⟨⟨rfl, rfl⟩, rfl⟩

end Sweep

/-- Whatever the links of tokens with distinct identifiers look like: the loop that orders them
ends, after at most three passes for each of them. What is listed is, without repetitions, the
tokens that can be reached from those that none names, each as it was, and each of the others
directly behind one that names it. If no links run in a circle, all tokens are listed. -/
theorem order_tangled (tokens : List Token) (hids : (tokens.map (·.id)).Nodup) :
    (∃ n ≤ 3 * tokens.length, (Sweep.pass^[n] (.start tokens)).Finished ∧
      (Sweep.pass^[n] (.start tokens)).listed = order tokens) ∧
    Listing tokens (order tokens) ∧
    (Acyclic tokens → (order tokens).Perm tokens) := by
  obtain ⟨left, h⟩ := taken_order hids
  refine ⟨Sweep.ends hids, h.listing hids, fun hacyclic => ?_⟩
  have hperm := h.perm
  rw [h.eq_nil hids hacyclic, List.append_nil] at hperm
  exact hperm

/-- A token of which nothing matters but its identifier and its link. -/
def linked (id : BitVec 128) (next : Option (BitVec 128)) : Token :=
  ⟨⟨id⟩, ⟨0⟩, [], ⟨0, false⟩, ⟨1, false⟩, none, none, next.map Uuid.mk⟩

/-- A circle that is entered from two sides, one that is not entered, a token that names itself,
and a link to no token. -/
def knot : List Token :=
  [linked 7 (some 6), linked 2 (some 3), linked 1 (some 2), linked 5 (some 5), linked 3 (some 2),
    linked 4 (some 2), linked 8 (some 99), linked 6 (some 7)]

/-- Two tokens that name the same one, and a link to no token. -/
def fork : List Token := [linked 3 none, linked 2 (some 3), linked 1 (some 3), linked 4 (some 99)]

theorem acyclic_fork : Acyclic fork := by
  have hend : ∀ t ∈ fork, ∀ u ∈ fork, t.replacedBy = some u.id → u.replacedBy = none := by
    decide +kernel
  intro t _ hcircle
  obtain ⟨u, ⟨-, -, hout⟩, -⟩ := Relation.TransGen.head'_iff.mp hcircle
  obtain ⟨v, -, hv, ht, hin⟩ := Relation.TransGen.tail'_iff.mp hcircle
  rw [Names, hend v hv t ht hin] at hout
  cases hout

/-- The circle is listed from where it is first entered, once, and the tokens that no head leads to
are not; where there is no circle, all are listed. -/
theorem order_tangled_knot :
    (knot.map (·.id)).Nodup ∧ Listing knot (order knot) ∧
      (order knot).map (·.id) = [⟨1⟩, ⟨2⟩, ⟨3⟩, ⟨4⟩, ⟨8⟩] ∧
    (fork.map (·.id)).Nodup ∧ Acyclic fork ∧ (order fork).Perm fork := by
  have hknot : (knot.map (·.id)).Nodup := by decide +kernel
  have hfork : (fork.map (·.id)).Nodup := by decide +kernel
  exact ⟨hknot, (order_tangled knot hknot).2.1, by decide +kernel, hfork, acyclic_fork,
    (order_tangled fork hfork).2.2 acyclic_fork⟩

end SessionKeeper.Chain
