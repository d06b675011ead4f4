import SessionKeeper.Proofs.Service.Cycle

/-!
# Cleanup cycles do not overlap

Clones of a job share its flag, so the calls on all of them are calls on one job. They are made in
any order. A call that is let in starts a cycle, which is answered a few requests at a time; between
two requests it may wait for as long as it likes, while others call, and it may be given up there.

Whatever happens, the job is at rest or has one cycle in progress (`Regular`). The account of an
event is given once for each kind of event and each of these two states; that a run stays regular
follows by induction on its events.
-/

namespace SessionKeeper.CleanupJob

/-! ## Calls on a job -/

/-- What has become of a call. -/
inductive Fate where
  /-- It has come as far as the job says. -/
  | reached (p : Progress)
  /-- It is given up. -/
  | givenUp

/-- A call. -/
structure Attempt where
  /-- What has become of it. -/
  fate : Fate
  /-- What it has asked. -/
  asked : List Asked

/-- A job and the calls that have been made on it; a call's ticket is its place in the list. -/
structure System where
  /-- The job. -/
  job : CleanupJob := {}
  /-- The calls. -/
  attempts : List Attempt := []

/-- What can happen. -/
inductive Event where
  /-- The job is called, and the cycle, if there is one, is told some answers. -/
  | call (answers : List Answer)
  /-- A cycle is told some more answers. -/
  | resume (ticket : Nat) (answers : List Answer)
  /-- A call is given up. -/
  | giveUp (ticket : Nat)

namespace System

/-- What an event does. Calls that are not underway can neither go on nor be given up. -/
def step (s : CleanupSettings) (sys : System) : Event → System
  | .call answers =>
    let ((progress, job), asked) :=
      (call (follow answers) s sys.attempts.length sys.job).run []
    ⟨job, sys.attempts ++ [⟨.reached progress, asked⟩]⟩
  | .resume ticket answers =>
    match sys.attempts[ticket]? with
    | some ⟨.reached .underway, before⟩ =>
      let ((progress, job), asked) := (resume (follow answers) ticket sys.job).run before
      ⟨job, sys.attempts.set ticket ⟨.reached progress, asked⟩⟩
    | _ => sys
  | .giveUp ticket =>
    match sys.attempts[ticket]? with
    | some ⟨.reached .underway, before⟩ =>
      ⟨sys.job.release ticket, sys.attempts.set ticket ⟨.givenUp, before⟩⟩
    | _ => sys

/-- What comes of a list of events on a new job. -/
def run (s : CleanupSettings) (events : List Event) : System := events.foldl (step s) {}

/-- The cycle of the call is in progress. -/
def InProgress (sys : System) (ticket : Nat) : Prop :=
  ∃ asked, sys.attempts[ticket]? = some ⟨.reached .underway, asked⟩

end System

/-! ## What an event does -/

/-- How a cycle that has come as far as `rest` is getting on. -/
def progress : Cycle → Progress
  | .pure result => .done result
  | .ask _ _ => .underway

/-- A job whose only cycle has come as far as `rest`; a cycle that is over has left it at rest. -/
def holding (ticket : Nat) : Cycle → CleanupJob
  | .pure _ => {}
  | .ask r k => ⟨true, [(ticket, .ask r k)]⟩

theorem settle_only (ticket : Nat) (c rest : Cycle) :
    settle ⟨true, [(ticket, c)]⟩ ticket rest = (progress rest, holding ticket rest) := by
  cases rest with
  | pure result => simp [settle, release, progress, holding]
  | ask r k => simp [settle, suspend, progress, holding]

/-- What has become of a call is so: a skipped call has asked nothing, and any other has followed a
cycle, to its end if it says so. -/
def Attempt.Faithful (s : CleanupSettings) (a : Attempt) : Prop :=
  match a.fate with
  | .reached .skipped => a.asked = []
  | .reached (.done result) => Leads (cycleOf s) a.asked (.pure result)
  | .reached .underway | .givenUp => ∃ r k, Leads (cycleOf s) a.asked (.ask r k)

theorem faithful_progress {s : CleanupSettings} {asked : List Asked} {rest : Cycle}
    (h : Leads (cycleOf s) asked rest) :
    Attempt.Faithful s ⟨.reached (progress rest), asked⟩ := by
  cases rest with
  | pure result => exact h
  | ask r k => exact ⟨r, k, h⟩

section

variable {m : Type → Type} [Monad m]

theorem call_idle (advance : Cycle → m Cycle) (s : CleanupSettings) (ticket : Nat) :
    call advance s ticket {} = do
      let rest ← advance (cycleOf s)
      return (progress rest, holding ticket rest) := by
  simp only [← settle_only ticket (cycleOf s)]
  rfl

theorem call_busy (advance : Cycle → m Cycle) (s : CleanupSettings) (ticket : Nat)
    {job : CleanupJob} (h : job.running = true) :
    call advance s ticket job = pure (.skipped, job) := by
  unfold call begin?
  rw [if_pos h]

theorem resume_only (advance : Cycle → m Cycle) (ticket : Nat) (c : Cycle) :
    resume advance ticket ⟨true, [(ticket, c)]⟩ = do
      let rest ← advance c
      return (progress rest, holding ticket rest) := by
  simp only [← settle_only ticket c, resume, List.lookup_cons_self]

end

namespace System

variable {s : CleanupSettings} {sys : System}

theorem step_call_idle (h : sys.job = {}) (answers : List Answer) :
    ∃ asked rest, Follows answers (cycleOf s) asked rest ∧
      sys.step s (.call answers) = ⟨holding sys.attempts.length rest,
        sys.attempts ++ [⟨.reached (progress rest), asked⟩]⟩ := by
  obtain ⟨asked, rest, hrun, hfollows⟩ := follow_follows answers (cycleOf s) []
  refine ⟨asked, rest, hfollows, ?_⟩
  simp only [step, h, call_idle, StateT.run_bind, hrun]
  rfl

theorem step_call_busy (h : sys.job.running = true) (answers : List Answer) :
    sys.step s (.call answers) =
      { sys with attempts := sys.attempts ++ [⟨.reached .skipped, []⟩] } := by
  simp only [step, call_busy _ _ _ h]
  rfl

theorem step_resume {ticket : Nat} {c : Cycle} {before : List Asked}
    (hjob : sys.job = ⟨true, [(ticket, c)]⟩)
    (h : sys.attempts[ticket]? = some ⟨.reached .underway, before⟩) (answers : List Answer) :
    ∃ asked rest, Follows answers c asked rest ∧
      sys.step s (.resume ticket answers) = ⟨holding ticket rest,
        sys.attempts.set ticket ⟨.reached (progress rest), before ++ asked⟩⟩ := by
  obtain ⟨asked, rest, hrun, hfollows⟩ := follow_follows answers c before
  refine ⟨asked, rest, hfollows, ?_⟩
  simp only [step, h, hjob, resume_only, StateT.run_bind, hrun]
  rfl

theorem step_giveUp {ticket : Nat} {c : Cycle} {before : List Asked}
    (hjob : sys.job = ⟨true, [(ticket, c)]⟩)
    (h : sys.attempts[ticket]? = some ⟨.reached .underway, before⟩) :
    sys.step s (.giveUp ticket) = ⟨{}, sys.attempts.set ticket ⟨.givenUp, before⟩⟩ := by
  simp [step, h, hjob, release]

theorem step_resume_ended {ticket : Nat} (h : ¬ sys.InProgress ticket) (answers : List Answer) :
    sys.step s (.resume ticket answers) = sys := by
  simp only [step]
  split
  · exact absurd ⟨_, ‹_›⟩ h
  · rfl

theorem step_giveUp_ended {ticket : Nat} (h : ¬ sys.InProgress ticket) :
    sys.step s (.giveUp ticket) = sys := by
  simp only [step]
  split
  · exact absurd ⟨_, ‹_›⟩ h
  · rfl

/-! ## One cycle at a time -/

/-- The job is at rest, or it has the one cycle that is in progress. -/
inductive Regular (s : CleanupSettings) (sys : System) : Prop where
  | idle (hjob : sys.job = {}) (hnone : ∀ i, ¬ sys.InProgress i)
  | busy {i : Nat} {c : Cycle} {asked : List Asked} (hjob : sys.job = ⟨true, [(i, c)]⟩)
      (hi : sys.attempts[i]? = some ⟨.reached .underway, asked⟩)
      (hc : Leads (cycleOf s) asked c) (hone : ∀ j, sys.InProgress j → j = i)

/-- However far the only cycle has come, it is in progress or the job is at rest. -/
theorem regular_holding {attempts : List Attempt} {i : Nat} {rest : Cycle} {asked : List Asked}
    (hi : attempts[i]? = some ⟨.reached (progress rest), asked⟩)
    (hleads : Leads (cycleOf s) asked rest)
    (hone : ∀ j, InProgress ⟨holding i rest, attempts⟩ j → j = i) :
    Regular s ⟨holding i rest, attempts⟩ := by
  cases rest with
  | pure result =>
    refine .idle rfl fun j hj => ?_
    obtain rfl := hone j hj
    obtain ⟨_, hj⟩ := hj
    rw [hi] at hj
    cases hj
  | ask r k => exact .busy rfl hi hleads hone

theorem InProgress.lt {i : Nat} (h : sys.InProgress i) : i < sys.attempts.length := by
  obtain ⟨_, hi⟩ := h
  exact (List.getElem?_eq_some_iff.mp hi).1

/-- A new call is the only one that can be in progress if none was before. -/
theorem inProgress_append {job : CleanupJob} {a : Attempt} {i : Nat}
    (h : InProgress ⟨job, sys.attempts ++ [a]⟩ i) :
    sys.InProgress i ∨ i = sys.attempts.length ∧ a.fate = .reached .underway := by
  obtain ⟨asked, hi⟩ := h
  rw [List.getElem?_append] at hi
  split at hi
  · exact .inl ⟨asked, hi⟩
  · right
    obtain ⟨hlt, hi⟩ := List.getElem?_eq_some_iff.mp hi
    rw [List.length_singleton] at hlt
    rw [List.getElem_singleton] at hi
    exact ⟨by omega, congrArg Attempt.fate hi⟩

theorem inProgress_set {job : CleanupJob} {a : Attempt} {i j : Nat} (hij : j ≠ i)
    (h : InProgress ⟨job, sys.attempts.set i a⟩ j) : sys.InProgress j := by
  obtain ⟨asked, hj⟩ := h
  rw [List.getElem?_set_ne hij.symm] at hj
  exact ⟨asked, hj⟩

theorem Regular.of_inProgress (h : Regular s sys) {i : Nat} (hi : sys.InProgress i) :
    ∃ c asked, sys.job = ⟨true, [(i, c)]⟩ ∧
      sys.attempts[i]? = some ⟨.reached .underway, asked⟩ ∧ Leads (cycleOf s) asked c ∧
      ∀ j, sys.InProgress j → j = i := by
  cases h with
  | idle hjob hnone => exact absurd hi (hnone i)
  | busy hjob hasked hc hone =>
    obtain rfl := hone i hi
    exact ⟨_, _, hjob, hasked, hc, hone⟩

/-- A cycle in progress goes on from where it was. -/
theorem step_inProgress (h : Regular s sys) {i : Nat} {before : List Asked}
    (hi : sys.attempts[i]? = some ⟨.reached .underway, before⟩) (answers : List Answer) :
    ∃ c asked rest, Leads (cycleOf s) before c ∧ Follows answers c asked rest ∧
      sys.step s (.resume i answers) = ⟨holding i rest,
        sys.attempts.set i ⟨.reached (progress rest), before ++ asked⟩⟩ := by
  obtain ⟨c, _, hjob, hi', hc, -⟩ := h.of_inProgress ⟨before, hi⟩
  rw [hi] at hi'
  cases hi'
  obtain ⟨asked, rest, hfollows, hstep⟩ := step_resume (s := s) hjob hi answers
  exact ⟨c, asked, rest, hc, hfollows, hstep⟩

/-- While a cycle is in progress, no event puts another in progress. -/
theorem Regular.alone (h : Regular s sys) {i j : Nat} (hi : sys.InProgress i) (event : Event)
    (hj : (sys.step s event).InProgress j) : j = i := by
  obtain ⟨c, before, hjob, hbefore, -, hone⟩ := h.of_inProgress hi
  cases event with
  | call answers =>
    rw [step_call_busy (by rw [hjob])] at hj
    rcases inProgress_append hj with hj | ⟨-, hfate⟩
    · exact hone j hj
    · cases hfate
  | resume k answers =>
    by_cases hk : sys.InProgress k
    · obtain rfl := hone k hk
      obtain ⟨_, _, _, -, -, hstep⟩ := step_inProgress h hbefore answers
      rw [hstep] at hj
      by_cases hjk : j = k
      · exact hjk
      · exact hone j (inProgress_set hjk hj)
    · rw [step_resume_ended hk] at hj
      exact hone j hj
  | giveUp k =>
    by_cases hk : sys.InProgress k
    · obtain rfl := hone k hk
      rw [step_giveUp hjob hbefore] at hj
      by_cases hjk : j = k
      · exact hjk
      · exact hone j (inProgress_set hjk hj)
    · rw [step_giveUp_ended hk] at hj
      exact hone j hj

/-- If the cycle in progress is no more, then none is. -/
theorem Regular.ended (h : Regular s sys) {i : Nat} (hi : sys.InProgress i) (event : Event)
    (hended : ¬ (sys.step s event).InProgress i) : ¬ ∃ j, (sys.step s event).InProgress j := by
  rintro ⟨j, hj⟩
  obtain rfl := h.alone hi event hj
  exact hended hj

/-- A cycle that is given up is not in progress any more. -/
theorem not_inProgress_givenUp {i : Nat} {asked : List Asked} {job : CleanupJob}
    {attempts : List Attempt} : ¬ InProgress ⟨job, attempts.set i ⟨.givenUp, asked⟩⟩ i := by
  rintro ⟨_, hi⟩
  obtain ⟨_, hi⟩ := List.getElem?_eq_some_iff.mp hi
  rw [List.getElem_set_self] at hi
  cases hi

/-- A run is regular, and what has become of its calls is so. -/
structure Sound (s : CleanupSettings) (sys : System) : Prop where
  regular : Regular s sys
  faithful : ∀ a ∈ sys.attempts, a.Faithful s

theorem Sound.append (h : Sound s sys) {a : Attempt} (ha : a.Faithful s) :
    ∀ b ∈ sys.attempts ++ [a], b.Faithful s := by
  intro b hb
  rcases List.mem_append.mp hb with hb | hb
  · exact h.faithful b hb
  · obtain rfl := List.mem_singleton.mp hb
    exact ha

theorem Sound.set (h : Sound s sys) {i : Nat} {a : Attempt} (ha : a.Faithful s) :
    ∀ b ∈ sys.attempts.set i a, b.Faithful s := by
  intro b hb
  rcases List.mem_or_eq_of_mem_set hb with hb | rfl
  · exact h.faithful b hb
  · exact ha

theorem sound_call (h : Sound s sys) (answers : List Answer) :
    Sound s (sys.step s (.call answers)) := by
  cases h.regular with
  | idle hjob hnone =>
    obtain ⟨asked, rest, hfollows, hstep⟩ := step_call_idle (s := s) hjob answers
    rw [hstep]
    refine ⟨regular_holding List.getElem?_concat_length hfollows.leads fun j hj => ?_,
      h.append (faithful_progress hfollows.leads)⟩
    rcases inProgress_append hj with hj | ⟨hj, -⟩
    · exact absurd hj (hnone j)
    · exact hj
  | busy hjob hi hc hone =>
    have halone := fun j => h.regular.alone ⟨_, hi⟩ (.call answers) (j := j)
    rw [step_call_busy (by rw [hjob])] at halone ⊢
    exact ⟨.busy hjob ((List.getElem?_append_left (InProgress.lt ⟨_, hi⟩)).trans hi) hc halone,
      h.append rfl⟩

theorem sound_resume (h : Sound s sys) (i : Nat) (answers : List Answer) :
    Sound s (sys.step s (.resume i answers)) := by
  by_cases hi : sys.InProgress i
  · obtain ⟨-, before, -, hbefore, -, -⟩ := h.regular.of_inProgress hi
    obtain ⟨c, asked, rest, hc, hfollows, hstep⟩ := step_inProgress h.regular hbefore answers
    have hleads := hc.trans hfollows.leads
    have halone := fun j => h.regular.alone hi (.resume i answers) (j := j)
    rw [hstep] at halone ⊢
    exact ⟨regular_holding (List.getElem?_set_self hi.lt) hleads halone,
      h.set (faithful_progress hleads)⟩
  · rw [step_resume_ended hi]
    exact h

theorem sound_giveUp (h : Sound s sys) (i : Nat) : Sound s (sys.step s (.giveUp i)) := by
  by_cases hi : sys.InProgress i
  · obtain ⟨c, before, hjob, hbefore, -, -⟩ := h.regular.of_inProgress hi
    have halone := fun j => h.regular.alone hi (.giveUp i) (j := j)
    rw [step_giveUp hjob hbefore] at halone ⊢
    have hfaithful : Attempt.Faithful s ⟨.reached .underway, before⟩ :=
      h.faithful _ (List.mem_of_getElem? hbefore)
    refine ⟨.idle rfl fun j hj => ?_, h.set (a := ⟨.givenUp, before⟩) hfaithful⟩
    obtain rfl := halone j hj
    exact not_inProgress_givenUp hj
  · rw [step_giveUp_ended hi]
    exact h

theorem sound_step (h : Sound s sys) (event : Event) : Sound s (sys.step s event) := by
  cases event with
  | call answers => exact sound_call h answers
  | resume i answers => exact sound_resume h i answers
  | giveUp i => exact sound_giveUp h i

theorem sound_run (s : CleanupSettings) (events : List Event) : Sound s (run s events) := by
  have hnew : Sound s {} := ⟨.idle rfl fun i hi => (nomatch hi), nofun⟩
  unfold run
  generalize ({} : System) = sys at hnew
  induction events generalizing sys with
  | nil => exact hnew
  | cons event events ih => exact ih _ (sound_step hnew event)

theorem Regular.running_iff (h : Regular s sys) :
    sys.job.running = true ↔ ∃ i, sys.InProgress i := by
  cases h with
  | idle hjob hnone =>
    rw [hjob]
    exact ⟨nofun, fun ⟨i, hi⟩ => absurd hi (hnone i)⟩
  | busy hjob hi hc hone =>
    rw [hjob]
    exact ⟨fun _ => ⟨_, _, hi⟩, fun _ => rfl⟩

theorem Regular.mem_cycles_iff (h : Regular s sys) (i : Nat) :
    i ∈ sys.job.cycles.map Prod.fst ↔ sys.InProgress i := by
  cases h with
  | idle hjob hnone =>
    rw [hjob]
    exact ⟨nofun, fun hi => absurd hi (hnone i)⟩
  | busy hjob hj hc hone =>
    rw [hjob]
    constructor
    · intro hi
      obtain rfl := List.mem_singleton.mp hi
      exact ⟨_, hj⟩
    · intro hi
      obtain rfl := hone i hi
      exact List.mem_singleton_self i

theorem Regular.unique (h : Regular s sys) {i j : Nat} (hi : sys.InProgress i)
    (hj : sys.InProgress j) : i = j := by
  obtain ⟨-, -, -, -, -, hone⟩ := h.of_inProgress hj
  exact hone i hi

theorem Regular.job_eq (h : Regular s sys) (hnone : ¬ ∃ i, sys.InProgress i) : sys.job = {} := by
  cases h with
  | idle hjob _ => exact hjob
  | busy _ hi _ _ => exact absurd ⟨_, _, hi⟩ hnone

/-- However a job is called, and however its cycles are answered or given up: at most one cycle is
in progress, and the flag tells whether one is. A call that is made meanwhile is skipped and asks
nothing. Any other is let in; its cycle ends by itself, if it is answered, and has the result that
cleaning up has with these answers. When it has ended, or has been given up, no cycle is in
progress, so the next call is let in. -/
theorem cycles_never_overlap (s : CleanupSettings) (events : List Event) :
    let sys := run s events
    (∀ i j, sys.InProgress i → sys.InProgress j → i = j) ∧
    (∀ i, i ∈ sys.job.cycles.map Prod.fst ↔ sys.InProgress i) ∧
    (sys.job.running = true ↔ ∃ i, sys.InProgress i) ∧
    (∀ a ∈ sys.attempts, a.Faithful s) ∧
    (∀ answers, (∃ i, sys.InProgress i) → sys.step s (.call answers) =
      { sys with attempts := sys.attempts ++ [⟨.reached .skipped, []⟩] }) ∧
    (∀ answers, (¬ ∃ i, sys.InProgress i) → ∃ asked rest,
      Follows answers (cycleOf s) asked rest ∧
      (s.batchSize.toNat < answers.length → ∃ result, rest = .pure result) ∧
      (sys.step s (.call answers)).attempts =
        sys.attempts ++ [⟨.reached (progress rest), asked⟩]) ∧
    ∀ i before, sys.attempts[i]? = some ⟨.reached .underway, before⟩ →
      (∀ answers, ∃ c asked rest, Leads (cycleOf s) before c ∧ Follows answers c asked rest ∧
        (s.batchSize.toNat < answers.length → ∃ result, rest = .pure result) ∧
        (sys.step s (.resume i answers)).attempts =
          sys.attempts.set i ⟨.reached (progress rest), before ++ asked⟩) ∧
      ¬ (sys.step s (.giveUp i)).InProgress i ∧
      ∀ event, ¬ (sys.step s event).InProgress i → ¬ ∃ j, (sys.step s event).InProgress j := by
  intro sys
  have h : Sound s sys := sound_run s events
  refine ⟨fun _ _ => h.regular.unique, h.regular.mem_cycles_iff, h.regular.running_iff, h.faithful,
    fun answers hbusy => step_call_busy (h.regular.running_iff.mpr hbusy) answers,
    fun answers hidle => ?_, fun i before hi => ⟨fun answers => ?_, ?_, h.regular.ended ⟨_, hi⟩⟩⟩
  · obtain ⟨asked, rest, hfollows, hstep⟩ := step_call_idle (h.regular.job_eq hidle) answers
    refine ⟨asked, rest, hfollows, fun hn => ?_, by rw [hstep]⟩
    exact hfollows.ended_of_lt (.here _) hn
  · obtain ⟨c, asked, rest, hc, hfollows, hstep⟩ := step_inProgress h.regular hi answers
    exact ⟨c, asked, rest, hc, hfollows, hfollows.ended_of_lt hc, by rw [hstep]⟩
  · obtain ⟨c, _, hjob, hbefore, -, -⟩ := h.regular.of_inProgress ⟨before, hi⟩
    rw [step_giveUp hjob hbefore]
    exact not_inProgress_givenUp

/-- A call is skipped while a cycle waits for its first answer. Once that cycle is given up, a call
is let in and comes to its end. -/
theorem cycles_never_overlap_given_up :
    let s : CleanupSettings := { batchSize := 1 }
    let failing : Answer
      | .inl _ => Except.error (Error.setting "no store")
      | .inr .now => (⟨0, false⟩ : Instant)
      | .inr .freshId => (⟨0⟩ : Uuid)
      | .inr .freshOpaque => ""
    let waiting := run s [.call []]
    let again := run s [.call [], .giveUp 0]
    waiting.step s (.call [failing, failing]) =
        { waiting with attempts := waiting.attempts ++ [⟨.reached .skipped, []⟩] } ∧
      (∃ asked result, (again.step s (.call [failing, failing])).attempts =
        again.attempts ++ [⟨.reached (.done result), asked⟩]) := by
  intro s failing waiting again
  have hwaiting := cycles_never_overlap s [.call []]
  have hagain := cycles_never_overlap s [.call [], .giveUp 0]
  have hbusy : waiting.InProgress 0 := ⟨_, rfl⟩
  constructor
  · exact hwaiting.2.2.2.2.1 _ ⟨0, hbusy⟩
  · obtain ⟨-, -, -, -, -, hlet, -⟩ := hagain
    have hidle : ¬ ∃ i, again.InProgress i :=
      (hwaiting.2.2.2.2.2.2 0 _ rfl).2.2 (.giveUp 0) (hwaiting.2.2.2.2.2.2 0 _ rfl).2.1
    obtain ⟨asked, rest, -, hended, hattempts⟩ := hlet [failing, failing] hidle
    obtain ⟨result, rfl⟩ := hended (by decide)
    exact ⟨asked, result, hattempts⟩

end System

end SessionKeeper.CleanupJob
