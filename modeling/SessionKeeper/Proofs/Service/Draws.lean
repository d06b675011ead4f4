import SessionKeeper.Proofs.Service.Conduct
import SessionKeeper.Proofs.Store.Structure

/-!
# Runs in which some draws may be repeated

In `run` no draw repeats an earlier one. Some of what the services guarantee rests on less: on new
identifiers alone, or on nothing of the kind. `runUnder` says which draws have to be new. The others
are forgotten before each event (`forget`), and so nothing stands in the way of drawing them again.

What the services keep about the draws that have to be new is custody: a mark that has been drawn is
held by the call that drew it until that call's next request to the store, no two calls hold one
mark, and the store has none that is still held. So a token that is entered bears new marks,
although between a draw and the request that enters it anything may happen.
-/

namespace SessionKeeper.Service.System

variable {settings : Settings} {σ σ' : System} {ev : Event} {fresh : Mark → Bool}

/-! ## Which draws have to be new -/

/-- The system with no memory of the draws that may be repeated. -/
def forget (fresh : Mark → Bool) (σ : System) : System :=
  { σ with drawn := σ.drawn.filter fresh }

/-- The system after the given events, from an empty store on. An event that would repeat a draw
which has to be new does not happen. -/
def runUnder (fresh : Mark → Bool) (settings : Settings) (start : Instant) (es : List Event) :
    System :=
  es.foldl (fun σ ev => (σ.forget fresh).step settings ev) { clock := start }

theorem runUnder_concat (fresh : Mark → Bool) (settings : Settings) (start : Instant)
    (es : List Event) (ev : Event) :
    runUnder fresh settings start (es ++ [ev]) =
      ((runUnder fresh settings start es).forget fresh).step settings ev := by
  simp [runUnder]

/-- If every draw has to be new, these are the runs without repetitions. -/
theorem runUnder_all (settings : Settings) (start : Instant) (es : List Event) :
    runUnder (fun _ => true) settings start es = run settings start es := by
  have hforget : ∀ σ : System, σ.forget (fun _ => true) = σ := by
    intro σ
    rw [forget, List.filter_eq_self.mpr (by simp)]
  simp only [runUnder, run, hforget]

/-- What every step keeps holds after every run, if it does not depend on forgotten draws. -/
theorem runUnder_invariant {I : System → Prop} {start : Instant} (hstart : I { clock := start })
    (hforget : ∀ {σ}, I σ → I (σ.forget fresh))
    (hstep : ∀ {σ σ' ev}, I σ → Step settings σ ev σ' → I σ') (es : List Event) :
    I (runUnder fresh settings start es) := by
  suffices h : ∀ σ, I σ → I (es.foldl (fun σ ev => (σ.forget fresh).step settings ev) σ) from
    h _ hstart
  induction es with
  | nil => exact fun _ h => h
  | cons ev es ih => exact fun σ h => ih _ (hstep (hforget h) (step_step settings _ ev))

theorem Step.orderly (h : Step settings σ ev σ') (ho : σ.memory.Orderly) : σ'.memory.Orderly := by
  rcases h.memory with hm | ⟨o, -, hm⟩
  · exact hm ▸ ho
  · exact hm ▸ ho.apply o

/-! ## Settled marks -/

/-- A mark has been drawn, and no call holds it any more. -/
def Settled (σ : System) (x : Mark) : Prop :=
  x ∈ σ.drawn ∧ ∀ th ∈ σ.threads, x ∉ th.held

/-- What has been settled stays so. -/
theorem Step.settled (h : Step settings σ ev σ') {x : Mark} (hx : σ.Settled x) :
    σ'.Settled x := by
  cases h with
  | idle | clockSet | userAdded | userRemoved => exact hx
  | called c =>
    refine ⟨hx.1, fun th hth => ?_⟩
    rcases List.mem_append.mp hth with hth | hth
    · exact hx.2 th hth
    · rw [List.mem_singleton.mp hth]
      simp
  | stored h =>
    refine ⟨hx.1, fun th hth => ?_⟩
    rcases (List.mem_or_eq_of_mem_set hth).symm with rfl | hth
    · simp
    · exact hx.2 th hth
  | answered _ h hnew =>
    refine ⟨List.mem_append_right _ hx.1, fun th hth => ?_⟩
    rcases (List.mem_or_eq_of_mem_set hth).symm with rfl | hth
    · simp only [List.mem_append, not_or]
      exact ⟨fun hm => hnew x hm hx.1, hx.2 _ (List.mem_of_getElem? h)⟩
    · exact hx.2 th hth

theorem Settled.forget {x : Mark} (hx : σ.Settled x) (hf : fresh x = true) :
    (σ.forget fresh).Settled x :=
  ⟨List.mem_filter.mpr ⟨hx.1, hf⟩, hx.2⟩

/-! ## Custody -/

/-- The marks that a token bears. -/
def marksOf (t : Token) : List Mark := [.id t.id, .hash t.hash]

/-- Who holds what of the marks that have to be new: the calls are tame, they hold what has been
drawn, no two of them the same, and nothing that the store has. -/
structure CustodyOf (fresh : Mark → Bool) (σ : System) : Prop where
  tame : ∀ th ∈ σ.threads, Tame th.held th.rest
  drawn : ∀ th ∈ σ.threads, ∀ x ∈ th.held, fresh x = true → x ∈ σ.drawn
  apart : ∀ (i j : Nat) (th uh : Thread), σ.threads[i]? = some th → σ.threads[j]? = some uh →
    ∀ x ∈ th.held, x ∈ uh.held → fresh x = true → i = j
  stored : ∀ t ∈ σ.memory.tokens, ∀ x ∈ marksOf t, fresh x = true → σ.Settled x

namespace CustodyOf

theorem forget (hc : σ.CustodyOf fresh) : (σ.forget fresh).CustodyOf fresh where
  tame := hc.tame
  drawn := fun th hth x hx hf => List.mem_filter.mpr ⟨hc.drawn th hth x hx hf, hf⟩
  apart := hc.apart
  stored := fun t ht x hx hf => (hc.stored t ht x hx hf).forget hf

/-- A token that is entered bears marks that the asking call holds. -/
theorem entered (hc : σ.CustodyOf fresh) {i : Nat} {c : Call} {r : Store.Request}
    {k : signature.Answer (.inl r) → Prog signature (Except Error c.Result)} {held : List Mark}
    (h : σ.threads[i]? = some ⟨c, .ask (.inl r) k, held⟩) {u : Token}
    (hu : (Memory.Operation.ask r).Enters u) :
    (∀ x ∈ marksOf u, x ∈ held) ∧ u.isSpent = false := by
  have htame := hc.tame _ (List.mem_of_getElem? h)
  cases r with
  | issueToken t policy now =>
    cases hu
    exact ⟨by simpa [marksOf] using ⟨htame.1.1, htame.1.2.1⟩, htame.1.2.2⟩
  | rotateToken presented id hash now lifetime =>
    obtain ⟨session, hf⟩ := hu
    obtain ⟨expiresAt, -, rfl⟩ := Token.fresh_eq_ok hf
    exact ⟨by simpa [marksOf] using ⟨htame.1.1, htame.1.2⟩, rfl⟩
  | _ => cases hu

theorem held_of_enters (hc : σ.CustodyOf fresh) {o : Memory.Operation} (hp : σ.Puts ev o)
    {u : Token} (hu : o.Enters u) :
    ∃ th ∈ σ.threads, (∀ x ∈ marksOf u, x ∈ th.held) ∧ u.isSpent = false := by
  cases ev with
  | setClock | call => cases hp
  | addUser user => cases hp; cases hu
  | removeUser user => cases hp; cases hu
  | go i id value =>
    obtain ⟨r, ⟨c, k, held, h⟩, rfl⟩ := hp
    exact ⟨_, List.mem_of_getElem? h, hc.entered h hu⟩

/-- If identifiers have to be new, whatever is entered is new to the store. -/
theorem new (hc : σ.CustodyOf fresh) (hids : ∀ id, fresh (.id id) = true) {o : Memory.Operation}
    (hp : σ.Puts ev o) : o.Fresh σ.memory := by
  intro u hu
  obtain ⟨th, hth, hheld, hunspent⟩ := hc.held_of_enters hp hu
  refine ⟨fun t ht he => ?_, hunspent⟩
  have hsettled := hc.stored t ht (.id t.id) (by simp [marksOf]) (hids _)
  exact hsettled.2 th hth (he ▸ hheld (.id u.id) (by simp [marksOf]))

/-! ## Preservation -/

/-- What a call has held is settled once the store has answered it. -/
theorem released (hc : σ.CustodyOf fresh) {i : Nat} {th : Thread} (hth : σ.threads[i]? = some th)
    {x : Mark} (hx : x ∈ th.held) (hf : fresh x = true) {m : Memory} {c : Call}
    {p : Prog signature (Except Error c.Result)} :
    Settled { σ with memory := m, threads := σ.threads.set i ⟨c, p, []⟩ } x := by
  refine ⟨hc.drawn th (List.mem_of_getElem? hth) x hx hf, fun uh huh hxu => ?_⟩
  obtain ⟨j, hj⟩ := List.getElem?_of_mem huh
  rcases thread_set hj with ⟨-, rfl⟩ | ⟨hij, hj⟩
  · cases hxu
  · exact hij (hc.apart i j th uh hth hj x hx hxu hf).symm

theorem stored_step (hc : σ.CustodyOf fresh) (ho : σ.memory.Orderly) (h : Step settings σ ev σ')
    {u : Token} (hu : u ∈ σ'.memory.tokens) :
    ∀ x ∈ marksOf u, fresh x = true → σ'.Settled x := by
  have hold : ∀ t ∈ σ.memory.tokens, t.Ages u → ∀ x ∈ marksOf u, fresh x = true →
      σ'.Settled x := by
    intro t ht ha
    rw [marksOf, ha.id, ha.hash]
    exact fun x hx hf => h.settled (hc.stored t ht x hx hf)
  cases h with
  | idle | clockSet | called | answered => exact hold u hu (.refl u)
  | userAdded user | userRemoved user =>
    rcases (ho.apply_effect _).token_before ho hu with ⟨t, ht, ha⟩ | he
    · exact hold t ht ha
    · cases he
  | stored h =>
    rcases (ho.apply_effect _).token_before ho hu with ⟨t, ht, ha⟩ | he
    · exact hold t ht ha
    · exact fun x hx hf => hc.released h ((hc.entered h he).1 x hx) hf

theorem step (hc : σ.CustodyOf fresh) (ho : σ.memory.Orderly) (h : Step settings σ ev σ') :
    σ'.CustodyOf fresh := by
  have hstored := fun u hu => hc.stored_step ho h (u := u) hu
  cases h with
  | idle => exact hc
  | clockSet | userAdded | userRemoved => exact ⟨hc.tame, hc.drawn, hc.apart, hstored⟩
  | called c =>
    have hnew : ∀ {th}, th ∈ σ.threads ++ [⟨c, (c.action settings).run, []⟩] → th ∈ σ.threads ∨
        th = ⟨c, (c.action settings).run, []⟩ := by
      intro th hth
      simpa using hth
    refine ⟨fun th hth => ?_, fun th hth => ?_, ?_, hstored⟩
    · rcases hnew hth with hth | rfl
      · exact hc.tame th hth
      · exact tame_action settings c
    · rcases hnew hth with hth | rfl
      · exact hc.drawn th hth
      · simp
    · -- the new call holds nothing, so both calls are old
      have hheld : ∀ (j : Nat) (th : Thread),
          (σ.threads ++ [⟨c, (c.action settings).run, []⟩])[j]? = some th →
            ∀ x ∈ th.held, σ.threads[j]? = some th := by
        intro j th hj x hx
        rw [List.getElem?_append] at hj
        split at hj
        · exact hj
        · have hth := List.mem_of_getElem? hj
          rw [List.mem_singleton.mp hth] at hx
          cases hx
      intro i j th uh hi hj x hxi hxj
      exact hc.apart i j th uh (hheld i th hi x hxi) (hheld j uh hj x hxj) x hxi hxj
  | stored h =>
    have htame := hc.tame _ (List.mem_of_getElem? h)
    refine ⟨fun uh huh => ?_, fun uh huh => ?_, fun a b uh vh ha hb x hxu hxv => ?_, hstored⟩
    · rcases (List.mem_or_eq_of_mem_set huh).symm with rfl | huh
      · exact htame.2 _
      · exact hc.tame uh huh
    · rcases (List.mem_or_eq_of_mem_set huh).symm with rfl | huh
      · simp
      · exact hc.drawn uh huh
    · rcases thread_set ha with ⟨-, rfl⟩ | ⟨-, ha⟩
      · cases hxu
      rcases thread_set hb with ⟨-, rfl⟩ | ⟨-, hb⟩
      · cases hxv
      exact hc.apart a b uh vh ha hb x hxu hxv
  | @answered i _ _ _ _ r _ a h hnew =>
    have hthm := List.mem_of_getElem? h
    have htame := hc.tame _ hthm
    -- what has just been drawn is held by nobody else, if it has to be new
    have hother : ∀ uh ∈ σ.threads, ∀ x ∈ marks r a, fresh x = true → x ∉ uh.held := by
      intro uh huh x hx hf hxu
      exact hnew x hx (hc.drawn uh huh x hxu hf)
    refine ⟨fun uh huh => ?_, fun uh huh x hx hf => ?_, fun b c uh vh hb hc' x hxu hxv hf => ?_,
      hstored⟩
    · rcases (List.mem_or_eq_of_mem_set huh).symm with rfl | huh
      · exact htame a
      · exact hc.tame uh huh
    · rcases (List.mem_or_eq_of_mem_set huh).symm with rfl | huh
      · rcases List.mem_append.mp hx with hx | hx
        · exact List.mem_append_left _ hx
        · exact List.mem_append_right _ (hc.drawn _ hthm x hx hf)
      · exact List.mem_append_right _ (hc.drawn uh huh x hx hf)
    · rcases thread_set hb with ⟨hbi, rfl⟩ | ⟨-, hub⟩ <;>
        rcases thread_set hc' with ⟨hci, rfl⟩ | ⟨-, hvc⟩
      · rw [hbi, hci]
      · rcases List.mem_append.mp hxu with hx | hx
        · exact absurd hxv (hother vh (List.mem_of_getElem? hvc) x hx hf)
        · rw [hbi]
          exact hc.apart _ c _ vh h hvc x hx hxv hf
      · rcases List.mem_append.mp hxv with hx | hx
        · exact absurd hxu (hother uh (List.mem_of_getElem? hub) x hx hf)
        · rw [hci]
          exact hc.apart b _ uh _ hub h x hxu hx hf
      · exact hc.apart b c uh vh hub hvc x hxu hxv hf

end CustodyOf

/-! ## Every run -/

/-- Whatever has to be new, the store stays orderly and what has to be new is in custody. -/
theorem custody_runUnder (fresh : Mark → Bool) (settings : Settings) (start : Instant)
    (es : List Event) : (runUnder fresh settings start es).memory.Orderly ∧
      (runUnder fresh settings start es).CustodyOf fresh := by
  refine runUnder_invariant (I := fun σ => σ.memory.Orderly ∧ σ.CustodyOf fresh) ?_ ?_ ?_ es
  · exact ⟨Memory.orderly_empty, by simp, by simp, by simp, by simp [Memory.empty]⟩
  · exact fun h => ⟨h.1, h.2.forget⟩
  · exact fun h hs => ⟨hs.orderly h.1, h.2.step h.1 hs⟩

/-- If identifiers have to be new, the store stays sound. -/
theorem sound_runUnder (hids : ∀ id, fresh (.id id) = true) (settings : Settings) (start : Instant)
    (es : List Event) : (runUnder fresh settings start es).memory.Sound := by
  suffices h : (runUnder fresh settings start es).memory.Sound ∧
      (runUnder fresh settings start es).CustodyOf fresh from h.1
  refine runUnder_invariant (I := fun σ => σ.memory.Sound ∧ σ.CustodyOf fresh) ?_ ?_ ?_ es
  · exact ⟨Memory.sound_empty, by simp, by simp, by simp, by simp [Memory.empty]⟩
  · exact fun h => ⟨h.1, h.2.forget⟩
  · intro σ σ' ev h hs
    obtain ⟨hsound, hcustody⟩ := h
    refine ⟨?_, hcustody.step hsound.orderly hs⟩
    rcases hs.memory with hm | ⟨o, hp, hm⟩
    · exact hm ▸ hsound
    · rw [hm]
      exact hsound.apply (hcustody.new hids hp)

end SessionKeeper.Service.System
