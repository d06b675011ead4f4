import SessionKeeper.Proofs.Service.Custody
import SessionKeeper.Proofs.Service.Inspection
import SessionKeeper.Proofs.Service.Requests
import SessionKeeper.Proofs.Service.SingleUse

/-!
# Cleaning up is not observed

A cleanup cycle takes tokens out of use away and nothing else (`perform_runOnce`). From then on two
runs are compared, one on the store as it was and one on the cleaned store, with the same events. As
long as no call goes on that presents a deleted token, the calls of both runs are at the same point
after every event, and the second store is the first without the deleted tokens: this is kept by one
step (`Spared.step`) and so by a whole run (`Spared.resume`). What a deleted token was, the cleaned
store no longer knows: presenting it is refused as presenting any unknown token is.
-/

namespace SessionKeeper

namespace Memory

variable {m : Memory} {gone : List Token}

/-! ## What cleaning up deletes -/

/-- Tokens that are stored and not current are out of use. -/
theorem Sound.disused (hm : m.Sound) (h : ∀ d ∈ gone, d ∈ m.tokens ∧ d.isCurrent = false) :
    m.Disused gone where
  same := by
    intro t ht
    constructor
    · rintro ⟨d, hd, hid⟩
      exact ⟨d, hd, by rw [hm.orderly.token_eq (h d hd).1 ht hid]⟩
    · rintro ⟨d, hd, hhash⟩
      exact ⟨d, hd, hm.indexed.id_eq (h d hd).1 ht hhash⟩
  idle := by
    rintro t ht ⟨d, hd, hid⟩
    rw [← hm.orderly.token_eq (h d hd).1 ht hid]
    exact (h d hd).2

/-- The rows of a store that another lacks. -/
def missing (m m' : Memory) : List Token := m.tokens.filter fun t => decide (t ∉ m'.tokens)

theorem Orderly.mem_missing (ho : m.Orderly) (h : ∀ d ∈ gone, d ∈ m.tokens) {t : Token} :
    t ∈ m.missing (m.dropTokens gone) ↔ t ∈ gone := by
  simp only [missing, List.mem_filter, decide_eq_true_eq, ho.mem_dropTokens_iff h, not_and, not_not]
  constructor
  · rintro ⟨ht, hgone⟩
    exact hgone ht
  · exact fun ht => ⟨h t ht, fun _ => ht⟩

end Memory

namespace Service

namespace Scene

variable {w : Scene}

/-- What is left of a cycle takes away some tokens that are not current and have expired before its
cutoff, and is not refused. -/
theorem perform_purgeAll (cutoff : Instant) (budget deleted passes : Nat) (w : Scene) :
    ∃ gone report,
      (∀ d ∈ gone, d ∈ w.memory.tokens ∧ d.isCurrent = false ∧ d.expiresAt < cutoff) ∧
      report.cutoff = cutoff ∧ w.perform (Cleanup.purgeAll cutoff budget deleted passes) =
        (.ok report, { w with memory := w.memory.dropTokens gone }) := by
  induction deleted, passes using Cleanup.purgeAll.induct budget generalizing w with
  | case1 deleted passes hbelow ih =>
    rw [perform_purgeAll_below hbelow]
    split
    · exact ⟨[], _, by simp, rfl, by rw [Memory.dropTokens_nil]⟩
    · rename_i hnothing
      let doomed := w.memory.doomed cutoff ((budget - deleted : Nat) : Int)
      obtain ⟨gone, report, hgone, hcutoff, hperform⟩ :=
        ih doomed.length (by simpa [doomed] using hnothing)
          { w with memory := w.memory.dropTokens doomed }
      refine ⟨doomed ++ gone, report, ?_, hcutoff, ?_⟩
      · intro d hd
        rcases List.mem_append.mp hd with hd | hd
        · obtain ⟨hmem, hexpired, hcurrent, -⟩ := Memory.mem_of_doomed hd
          exact ⟨hmem, hcurrent, hexpired⟩
        · exact ⟨(Memory.mem_dropTokens.mp (hgone d hd).1).1, (hgone d hd).2⟩
      · rw [hperform, Memory.dropTokens_append]
  | case2 deleted passes hspent =>
    rw [perform_purgeAll_spent hspent]
    exact ⟨[], _, by simp, rfl, by rw [Memory.dropTokens_nil]⟩

/-- A cleanup cycle deletes some tokens that are not current, and changes nothing else. -/
theorem perform_runOnce (s : CleanupSettings) (w : Scene) :
    ∃ gone, (∀ d ∈ gone, d ∈ w.memory.tokens ∧ d.isCurrent = false) ∧
      (w.perform (Cleanup.runOnce s)).2.memory = w.memory.dropTokens gone := by
  rw [perform_runOnce_eq]
  split
  · obtain ⟨gone, report, hgone, -, hperform⟩ := perform_purgeAll ..
    refine ⟨gone, fun d hd => ⟨(hgone d hd).1, (hgone d hd).2.1⟩, ?_⟩
    rw [hperform]
  all_goals exact ⟨[], by simp, Memory.dropTokens_nil.symm⟩

/-- The store after one cleanup cycle that nothing interrupts. -/
def cleaned (w : Scene) (s : CleanupSettings) : Memory :=
  (w.perform (Cleanup.runOnce s)).2.memory

theorem cleaned_eq (s : CleanupSettings) (ho : w.memory.Orderly) :
    w.cleaned s = w.memory.dropTokens (w.memory.missing (w.cleaned s)) ∧
      ∀ d ∈ w.memory.missing (w.cleaned s), d ∈ w.memory.tokens ∧ d.isCurrent = false := by
  obtain ⟨gone, hgone, hm⟩ := perform_runOnce s w
  have hmissing : ∀ t, t ∈ w.memory.missing (w.cleaned s) ↔ t ∈ gone := by
    intro t
    rw [cleaned, hm]
    exact ho.mem_missing fun d hd => (hgone d hd).1
  refine ⟨?_, fun d hd => hgone d ((hmissing d).mp hd)⟩
  rw [Memory.dropTokens_congr hmissing, cleaned, hm]

/-! ## Unknown values -/

/-- Whoever presents the value is told that there is no such token, and nothing is written. -/
structure Ignores (w : Scene) (value : String) : Prop where
  rotate : ∀ (settings : TokenSettings) (lifetime : Span), settings.lifetime = .ok lifetime →
    ∃ e w', w.perform (Tokens.rotate settings value) = (.error e, w') ∧ e.kind = .invalidToken ∧
      w'.memory = w.memory
  revoke : ∃ e w', w.perform (Tokens.revoke value) = (.error e, w') ∧ e.kind = .invalidToken ∧
    w'.memory = w.memory
  check : (w.perform (Tokens.isCurrentAndValid value)).1 = .ok false

theorem ignores_of_unknown {value : String}
    (h : w.memory.tokenByHash? (Opaque.hash value) = none) : w.Ignores value where
  rotate := by
    intro settings lifetime hlife
    cases hb : Text.allBlank value with
    | true =>
      rw [Tokens.rotate_of_blank settings hb]
      exact ⟨_, _, rfl, rfl, rfl⟩
    | false =>
      have hrefused : ∀ id hash, w.memory.rotateToken (Opaque.hash value) id hash w.clock lifetime =
          (.error .unknownToken, w.memory) := by
        intro id hash
        simp only [Memory.rotateToken, h]
      obtain ⟨surroundings, hw⟩ := perform_rotate_refused hb hlife hrefused rfl
      exact ⟨_, _, hw, rfl, rfl⟩
  revoke := by
    unfold Tokens.revoke
    rw [perform_liftExcept_bind]
    cases hb : Text.allBlank value with
    | true =>
      rw [Tokens.presentedHash_of_blank hb]
      exact ⟨_, _, rfl, rfl, rfl⟩
    | false =>
      have hnow : w.perform Service.now = (.ok w.clock, w) := rfl
      have hrevoke : w.perform (store (.revokeToken (Opaque.hash value) w.clock)) =
          (.error .unknownToken, w) := by
        rw [perform_store]
        simp only [Memory.answer, Memory.revokeToken, h]
        rfl
      rw [Tokens.presentedHash_of_not_blank hb]
      simp only
      rw [perform_bind_ok hnow, perform_bind, hrevoke]
      exact ⟨_, _, rfl, rfl, rfl⟩
  check := by simp [perform_isCurrentAndValid, Memory.isCurrentAndValid, h]

end Scene

namespace System

variable {settings : Settings} {σ σ' : System} {ev : Event} {gone : List Token}

/-! ## Two runs with the same events -/

/-- The system with some tokens deleted from its store. -/
def without (σ : System) (gone : List Token) : System :=
  { σ with memory := σ.memory.dropTokens gone }

/-- The system after some more events. -/
def resume (settings : Settings) (σ : System) (later : List Event) : System :=
  later.foldl (step settings) σ

/-- If the event lets a call go on, the call presents none of the tokens. -/
def Spares (σ : System) (gone : List Token) : Event → Prop
  | .go i _ _ => ∀ th ∈ σ.threads[i]?, th.call.Blind gone
  | _ => True

instance (σ : System) (gone : List Token) : (ev : Event) → Decidable (σ.Spares gone ev)
  | .go i _ _ => inferInstanceAs (Decidable (∀ th ∈ σ.threads[i]?, th.call.Blind gone))
  | .setClock _ | .addUser _ | .removeUser _ | .call _ => .isTrue trivial

/-- No call that presents one of the tokens goes on. -/
def SparesAll (settings : Settings) (gone : List Token) : System → List Event → Prop
  | _, [] => True
  | σ, ev :: later => σ.Spares gone ev ∧ SparesAll settings gone (σ.step settings ev) later

instance decidableSparesAll (settings : Settings) (gone : List Token) :
    (σ : System) → (later : List Event) → Decidable (SparesAll settings gone σ later)
  | _, [] => .isTrue trivial
  | σ, ev :: later =>
    have := decidableSparesAll settings gone (σ.step settings ev) later
    inferInstanceAs (Decidable (_ ∧ _))

/-- Calls that present none of the tokens ask accordingly, all along. -/
theorem discreet_step
    (h : ∀ th ∈ σ.threads, th.call.Blind gone → AsksOnly (Memory.Discreet gone) th.rest)
    (hs : Step settings σ ev σ') :
    ∀ th ∈ σ'.threads, th.call.Blind gone → AsksOnly (Memory.Discreet gone) th.rest := by
  refine hs.threads (P := fun c p => c.Blind gone → AsksOnly (Memory.Discreet gone) p) ?_ ?_ h
  · exact fun c hblind => asksOnly_discreet settings hblind
  · intro c r k hp a hblind
    cases r with
    | inl r => exact (hp hblind).2 a
    | inr r => exact hp hblind a

/-- Some tokens can be deleted without being missed: they are out of use, nothing that they bear is
drawn or entered again, and the calls that present none of them ask accordingly. -/
structure Spared (gone : List Token) (σ : System) : Prop where
  kept : σ.Kept
  disused : σ.memory.Disused gone
  settled : ∀ d ∈ gone, σ.Settled (.id d.id) ∧ σ.Settled (.hash d.hash)
  discreet : ∀ th ∈ σ.threads, th.call.Blind gone → AsksOnly (Memory.Discreet gone) th.rest

theorem Spared.unlike (h : Spared gone σ) {i : Nat} {c : Call} {r : Store.Request}
    {k : signature.Answer (.inl r) → Prog signature (Except Error c.Result)} {held : List Mark}
    (hth : σ.threads[i]? = some ⟨c, .ask (.inl r) k, held⟩) : Memory.Unlike gone r := by
  have hmem := List.mem_of_getElem? hth
  have hcarries : Carries held r := (h.kept.custody.tame _ hmem).1
  intro id hash hbrings d hd
  obtain ⟨hid, hhash⟩ := h.settled d hd
  -- what the call brings it holds, and what the tokens bear nobody holds any more
  have hheld : .id id ∈ held ∧ .hash hash ∈ held := by
    cases r with
    | issueToken t policy now => cases hbrings; exact ⟨hcarries.1, hcarries.2.1⟩
    | rotateToken => cases hbrings; exact hcarries
    | _ => cases hbrings
  exact ⟨fun he => hid.2 _ hmem (he ▸ hheld.1), fun he => hhash.2 _ hmem (he ▸ hheld.2)⟩

/-- An event that spares the tokens does the same with and without them. -/
theorem Spared.step_without (h : Spared gone σ) (hev : σ.Spares gone ev) :
    (σ.without gone).step settings ev = (σ.step settings ev).without gone := by
  cases ev with
  | setClock now => rfl
  | addUser user =>
    simp only [step, without, Memory.apply, Memory.addUser_dropTokens]
  | removeUser user =>
    simp only [step, without, Memory.apply]
    rw [h.kept.sound.removeUser_dropTokens h.disused]
  | call c => rfl
  | go i id value =>
    simp only [step, without]
    cases hth : σ.threads[i]? with
    | none => rfl
    | some th =>
      have hblind := hev th hth
      have hasks := h.discreet th (List.mem_of_getElem? hth) hblind
      obtain ⟨c, rest, held⟩ := th
      cases rest with
      | pure result => rfl
      | ask r k =>
        cases r with
        | inl r =>
          have hputs : σ.Puts (.go i id value) (.ask r) := ⟨r, ⟨c, k, held, hth⟩, rfl⟩
          have hanswer := h.kept.sound.answer_dropTokens h.disused hasks.1
            (h.kept.custody.fresh hputs) (h.unlike hth)
          simp only [go, Memory.apply, hanswer]
        | inr r =>
          simp only [go]
          split <;> rfl

theorem Spared.step (h : Spared gone σ) (hs : Step settings σ ev σ') : Spared gone σ' where
  kept := h.kept.step hs
  disused := by
    rcases hs.memory with hm | ⟨o, hp, hm⟩
    · exact hm ▸ h.disused
    · rw [hm]
      refine h.disused.apply h.kept.sound.orderly fun r hr => ?_
      subst hr
      cases ev with
      | go i id value =>
        obtain ⟨r, ⟨c, k, held, hth⟩, he⟩ := hp
        cases he
        exact h.unlike hth
      | setClock | call => cases hp
      | addUser user | removeUser user => cases hp
  settled := fun d hd => ⟨hs.settled (h.settled d hd).1, hs.settled (h.settled d hd).2⟩
  discreet := discreet_step h.discreet hs

theorem Spared.resume (h : Spared gone σ) {later : List Event}
    (hl : SparesAll settings gone σ later) :
    resume settings (σ.without gone) later = (resume settings σ later).without gone ∧
      Spared gone (System.resume settings σ later) := by
  induction later generalizing σ with
  | nil => exact ⟨rfl, h⟩
  | cons ev later ih =>
    obtain ⟨hev, hl⟩ := hl
    have hnext := ih (h.step (step_step settings σ ev)) hl
    rw [← h.step_without hev] at hnext
    exact hnext

/-! ## Every run -/

theorem discreet_run (settings : Settings) (start : Instant) (es : List Event) (gone : List Token) :
    ∀ th ∈ (run settings start es).threads, th.call.Blind gone →
      AsksOnly (Memory.Discreet gone) th.rest :=
  run_invariant (I := fun σ => ∀ th ∈ σ.threads, th.call.Blind gone →
    AsksOnly (Memory.Discreet gone) th.rest) (by simp) discreet_step es

/-- Stored tokens that are not current can be spared. -/
theorem spared_run (settings : Settings) (start : Instant) (es : List Event)
    (h : ∀ d ∈ gone, d ∈ (run settings start es).memory.tokens ∧ d.isCurrent = false) :
    Spared gone (run settings start es) := by
  have hk := kept_run settings start es
  exact ⟨hk, hk.sound.disused h, fun d hd => hk.custody.stored d (h d hd).1,
    discreet_run settings start es gone⟩

/-- After any run, let one cleanup cycle go through, under any settings and at any instant. Let any
events follow in which no call goes on that presents a token which the cycle has deleted, and
compare what they come to on the cleaned store with what they come to on the store as it was, with
the same readings of the clock and the same draws. The same calls return the same, and a user who
goes is found in both stores or in none. Only who presents a deleted token learns of the cleaning:
no such token is known. -/
theorem cleanup_unobserved (settings : Settings) (start : Instant) (es later : List Event)
    (cleanup : CleanupSettings) (surroundings : Surroundings) :
    let σ := run settings start es
    let cleaned := Scene.cleaned ⟨σ.memory, surroundings⟩ cleanup
    let gone := σ.memory.missing cleaned
    let τ := resume settings σ later
    let τ' := resume settings { σ with memory := cleaned } later
    SparesAll settings gone σ later →
      (∀ i c result, τ'.Returned i c result ↔ τ.Returned i c result) ∧
      (∀ user, (τ'.memory.removeUser user).1 = (τ.memory.removeUser user).1) ∧
      ∀ d ∈ gone, ∀ value, Opaque.hash value = d.hash →
        ∀ surroundings, Scene.Ignores ⟨τ'.memory, surroundings⟩ value := by
  intro σ cleaned gone τ τ' hlater
  have ho := (kept_run settings start es).sound.orderly
  obtain ⟨hcleaned, hgone⟩ := Scene.cleaned_eq cleanup (w := ⟨σ.memory, surroundings⟩) ho
  have hspared : Spared gone σ := spared_run settings start es hgone
  obtain ⟨hrun, hend⟩ := hspared.resume hlater
  have hτ : τ' = τ.without gone := by
    rw [← hrun]
    exact congrArg (fun m => resume settings { σ with memory := m } later) hcleaned
  rw [hτ]
  refine ⟨fun i c result => Iff.rfl, fun user => ?_, fun d hd value hvalue w => ?_⟩
  · exact (Prod.ext_iff.mp (hend.kept.sound.removeUser_dropTokens hend.disused user)).1
  · refine Scene.ignores_of_unknown ?_
    rw [hvalue]
    exact Memory.tokenByHash?_dropTokens_self hd

/-- A session with a first token, which is exchanged for a second. -/
def exchange : List Event :=
  [.addUser ⟨1⟩, .call (.createSession ⟨1⟩ none), .go 0 ⟨7⟩ "", .go 0 ⟨0⟩ "", .go 0 ⟨0⟩ "",
    .call (.issueDefault ⟨7⟩), .go 1 ⟨0⟩ "a", .go 1 ⟨0⟩ "", .go 1 ⟨11⟩ "", .go 1 ⟨0⟩ "",
    .call (.rotate "a"), .go 2 ⟨0⟩ "b", .go 2 ⟨0⟩ "", .go 2 ⟨12⟩ "", .go 2 ⟨0⟩ ""]

/-- The second token is exchanged for a third. -/
def exchangeAgain : List Event :=
  [.call (.rotate "b"), .go 3 ⟨0⟩ "c", .go 3 ⟨0⟩ "", .go 3 ⟨13⟩ "", .go 3 ⟨0⟩ ""]

/-- A month later the used token is deleted. The second one is exchanged none the less, with the
same result as if the first were still there, and the first is no longer known. -/
theorem cleanup_unobserved_exchange :
    let settings : Settings := { database := { url := "" } }
    let σ := run settings ⟨0, false⟩ exchange
    let cleaned := Scene.cleaned ⟨σ.memory, ⟨⟨2592000000000001, false⟩, fun _ => [], 0⟩⟩
      { retentionHours := 0 }
    let τ := resume settings σ exchangeAgain
    let τ' := resume settings { σ with memory := cleaned } exchangeAgain
    cleaned.tokens.length = 1 ∧
      (∃ r, τ.Returned 3 (.rotate "b") (.ok r) ∧ τ'.Returned 3 (.rotate "b") (.ok r)) ∧
      ∀ surroundings, Scene.Ignores ⟨τ'.memory, surroundings⟩ "a" := by
  intro settings σ cleaned τ τ'
  have hspares : SparesAll settings (σ.memory.missing cleaned) σ exchangeAgain := by
    decide +kernel
  obtain ⟨hreturned, -, hunknown⟩ := cleanup_unobserved settings ⟨0, false⟩ exchange exchangeAgain
    { retentionHours := 0 } ⟨⟨2592000000000001, false⟩, fun _ => [], 0⟩ hspares
  have hended : τ.outcome? 3 "b" = some none := by decide +kernel
  have hgone : (σ.memory.missing cleaned).any (fun d => Opaque.hash "a" == d.hash) = true := by
    decide +kernel
  refine ⟨by decide +kernel, ?_, fun surroundings => ?_⟩
  · obtain ⟨r, hend⟩ := granted_of_outcome? hended
    exact ⟨r, hend, (hreturned 3 _ _).mpr hend⟩
  · obtain ⟨d, hd, hhash⟩ := List.any_eq_true.mp hgone
    exact hunknown d hd "a" (by simpa using hhash) surroundings

end System

end Service

end SessionKeeper
