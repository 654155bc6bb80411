import SandboxProvider.Node.Terminate

/-!
# What `terminate` leaves behind

In every run of `terminate`, whatever the processes and the timer do meanwhile: each started process
gets SIGTERM, in the reverse of the order in which they were started; SIGKILL is sent only after the
timer has fired; and when `terminate` returns, each started process has been reaped or has been sent
SIGKILL. It may return before the `done` channel of a reaped process is closed. It does return,
whatever the processes do.
-/

namespace SandboxProvider.Node

open Lib

/-- The process that a SIGTERM was sent to. -/
def ShutdownEvent.sigterm {n : Nat} : ShutdownEvent n → Option (Fin n)
  | .signalled i .sigterm _ => some i
  | _ => none

namespace Shutdown

variable {n : Nat} {s s' : Shutdown n} {initial : Fin n → Phase}

/-! ## What no step undoes -/

theorem phase_next {p p' : Phase} (h : p.next = some p') :
    p'.started = p.started ∧ (p.exited = true → p'.exited = true) ∧ p ≠ .closed := by
  cases p <;> cases h <;> decide

structure Follows (s s' : Shutdown n) : Prop where
  started : ∀ i, (s'.phase i).started = (s.phase i).started
  exited : ∀ i, (s.phase i).exited = true → (s'.phase i).exited = true
  closed : ∀ i, s.phase i = .closed → s'.phase i = .closed
  history : ∀ e ∈ s.history, e ∈ s'.history

theorem Follows.of_phase (hphase : s'.phase = s.phase) (hhistory : ∀ e ∈ s.history, e ∈ s'.history) :
    Follows s s' where
  started i := by rw [hphase]
  exited i h := by rw [hphase]; exact h
  closed i h := by rw [hphase]; exact h
  history := hhistory

theorem Move.follows (h : Move s s') : Follows s s' := by
  cases h with
  | signal => exact .of_phase rfl fun e he => List.mem_cons_of_mem _ he
  | kill => exact .of_phase rfl fun e he => List.mem_cons_of_mem _ he
  | _ => exact .of_phase rfl fun e he => he

theorem Moves.follows (h : Moves s s') : Follows s s' := by
  cases h with
  | @proceed i p hp =>
    obtain ⟨hstarted, hexited, hopen⟩ := phase_next hp
    refine ⟨fun j => ?_, fun j hj => ?_, fun j hj => ?_, fun e he => he⟩ <;> dsimp only
    · by_cases hij : j = i
      · subst hij
        rw [Function.update_self]
        exact hstarted
      · rw [Function.update_of_ne hij]
    · by_cases hij : j = i
      · subst hij
        rw [Function.update_self]
        exact hexited hj
      · rw [Function.update_of_ne hij]
        exact hj
    · have hij : j ≠ i := by
        rintro rfl
        exact hopen hj
      rw [Function.update_of_ne hij]
      exact hj
  | expire => exact .of_phase rfl fun e he => List.mem_cons_of_mem _ he
  | run h => exact h.follows

/-! ## The invariant -/

/-- SIGTERM was sent to the started ones among these processes, in this order. -/
def Sent (initial : Fin n → Phase) (visited : List (Fin n)) (s : Shutdown n) : Prop :=
  s.history.filterMap ShutdownEvent.sigterm =
    (visited.filter fun i => (initial i).started).reverse

/-- The process was reaped, or it was alive when SIGKILL was sent to it. -/
def Settled (s : Shutdown n) (i : Fin n) : Prop :=
  (s.phase i).exited = true ∨ .signalled i .sigkill .running ∈ s.history

theorem Settled.mono {i : Fin n} (h : s.Settled i) (hfollows : Follows s s') : s'.Settled i :=
  h.imp (hfollows.exited i) (hfollows.history _)

/-- What each loop has done with the processes that it has visited. -/
def Progress (initial : Fin n → Phase) (s : Shutdown n) : TerminateState n → Prop
  | .signalling rest => ∃ visited, backward n = visited ++ rest ∧ Sent initial visited s
  | .waiting rest => Sent initial (backward n) s ∧ ∃ visited, backward n = visited ++ rest ∧
      ∀ i ∈ visited, (initial i).started = true → s.phase i = .closed
  | .killing rest => (Sent initial (backward n) s ∧ s.expired = true) ∧
      ∃ visited, List.finRange n = visited ++ rest ∧
        ∀ i ∈ visited, (initial i).started = true → s.Settled i
  | .kill i rest => (Sent initial (backward n) s ∧ s.expired = true) ∧
      ∃ visited, List.finRange n = visited ++ i :: rest ∧
        ∀ i ∈ visited, (initial i).started = true → s.Settled i
  | .returned => Sent initial (backward n) s ∧
      ∀ i, (initial i).started = true → s.Settled i

structure Inv (initial : Fin n → Phase) (s : Shutdown n) : Prop where
  started : ∀ i, (s.phase i).started = (initial i).started
  expired : s.expired = true → .expired ∈ s.history
  sigterm : ∀ {i p}, .signalled i .sigterm p ∈ s.history → p.started = true
  sigkill : Historically (fun past e => ∀ i p, e = .signalled i .sigkill p → .expired ∈ past)
    s.history
  progress : Progress initial s s.state

/-- The environment takes a step: what the loops have done stays done. -/
theorem Progress.mono {state : TerminateState n} (h : Progress initial s state)
    (hfollows : Follows s s') (hexpired : s.expired = true → s'.expired = true)
    (hsent : s'.history.filterMap ShutdownEvent.sigterm =
      s.history.filterMap ShutdownEvent.sigterm) : Progress initial s' state := by
  have hsent' {visited : List (Fin n)} (h : Sent initial visited s) : Sent initial visited s' :=
    hsent.trans h
  cases state with
  | signalling rest =>
    obtain ⟨visited, hsplit, h⟩ := h
    exact ⟨visited, hsplit, hsent' h⟩
  | waiting rest =>
    obtain ⟨h, visited, hsplit, hclosed⟩ := h
    exact ⟨hsent' h, visited, hsplit, fun i hi hs => hfollows.closed i (hclosed i hi hs)⟩
  | killing rest =>
    obtain ⟨⟨h, he⟩, visited, hsplit, hsettled⟩ := h
    exact ⟨⟨hsent' h, hexpired he⟩, visited, hsplit,
      fun i hi hs => (hsettled i hi hs).mono hfollows⟩
  | kill i rest =>
    obtain ⟨⟨h, he⟩, visited, hsplit, hsettled⟩ := h
    exact ⟨⟨hsent' h, hexpired he⟩, visited, hsplit,
      fun i hi hs => (hsettled i hi hs).mono hfollows⟩
  | returned => exact ⟨hsent' h.1, fun i hs => (h.2 i hs).mono hfollows⟩

namespace Inv

theorem start (initial : Fin n → Phase) : Inv initial (Shutdown.start initial) where
  started _ := rfl
  expired h := by cases h
  sigterm h := by cases h
  sigkill := trivial
  progress := ⟨[], rfl, rfl⟩

/-- Visiting one more process. -/
theorem visit {P : Fin n → Prop} {visited rest all : List (Fin n)} {i : Fin n}
    (hsplit : all = visited ++ i :: rest) (h : ∀ j ∈ visited, P j) (hi : P i) :
    ∃ visited', all = visited' ++ rest ∧ ∀ j ∈ visited', P j := by
  refine ⟨visited ++ [i], by rw [hsplit, List.append_assoc]; rfl, fun j hj => ?_⟩
  rcases List.mem_append.mp hj with hj | hj
  · exact h j hj
  · obtain rfl := List.mem_singleton.mp hj
    exact hi

/-- The first loop visits one more process. -/
theorem sent_visit {visited : List (Fin n)} {i : Fin n} (h : Sent initial visited s)
    (hnext : s'.history.filterMap ShutdownEvent.sigterm =
      (if (initial i).started then [i] else []) ++ s.history.filterMap ShutdownEvent.sigterm) :
    Sent initial (visited ++ [i]) s' := by
  unfold Sent at h ⊢
  rw [hnext, h, List.filter_append, List.reverse_append]
  cases hstarted : (initial i).started with
  | false => simp [hstarted]
  | true => simp [hstarted]

theorem exited_of_not_running (hinv : Inv initial s) {i : Fin n} (hstarted : (initial i).started = true)
    (hi : s.phase i ≠ .running) : (s.phase i).exited = true := by
  rw [← hinv.started i] at hstarted
  by_contra hexited
  exact hi (running_iff.mp ⟨hstarted, hexited⟩)

theorem progress_move (hinv : Inv initial s) (h : Move s s') : Progress initial s' s'.state := by
  have hprogress := hinv.progress
  have hfollows := h.follows
  -- a process that was not started stays so
  have hcreated {i : Fin n} (hi : s.phase i = .created) : (initial i).started = false := by
    rw [← hinv.started i, hi]
    rfl
  cases h with
  | @signal i rest hs hi =>
    rw [hs] at hprogress
    obtain ⟨visited, hsplit, hsent⟩ := hprogress
    refine ⟨visited ++ [i], by rw [hsplit, List.append_assoc]; rfl, sent_visit hsent ?_⟩
    rw [hinv.started i] at hi
    rw [hi]
    rfl
  | @skipSignal i rest hs hi =>
    rw [hs] at hprogress
    obtain ⟨visited, hsplit, hsent⟩ := hprogress
    refine ⟨visited ++ [i], by rw [hsplit, List.append_assoc]; rfl, sent_visit hsent ?_⟩
    rw [hcreated hi]
    rfl
  | signalled hs =>
    rw [hs] at hprogress
    obtain ⟨visited, hsplit, hsent⟩ := hprogress
    rw [List.append_nil] at hsplit
    subst hsplit
    exact ⟨hsent, [], rfl, fun i hi => (List.not_mem_nil hi).elim⟩
  | @skipWait i rest hs hi =>
    rw [hs] at hprogress
    obtain ⟨hsent, visited, hsplit, hclosed⟩ := hprogress
    refine ⟨hsent, visit hsplit hclosed fun hstarted => ?_⟩
    rw [hcreated hi] at hstarted
    cases hstarted
  | @waited i rest hs hi =>
    rw [hs] at hprogress
    obtain ⟨hsent, visited, hsplit, hclosed⟩ := hprogress
    exact ⟨hsent, visit hsplit hclosed fun _ => hi⟩
  | deadline hs hexpired =>
    rw [hs] at hprogress
    exact ⟨⟨hprogress.1, hexpired⟩, [], rfl, fun i hi => (List.not_mem_nil hi).elim⟩
  | allWaited hs =>
    rw [hs] at hprogress
    obtain ⟨hsent, visited, hsplit, hclosed⟩ := hprogress
    rw [List.append_nil] at hsplit
    subst hsplit
    refine ⟨hsent, fun i hstarted => .inl ?_⟩
    rw [hclosed i (List.mem_reverse.mpr (List.mem_finRange i)) hstarted]
    rfl
  | alive hs hi =>
    rw [hs] at hprogress
    exact hprogress
  | @skipKill i rest hs hi =>
    rw [hs] at hprogress
    obtain ⟨hsent, visited, hsplit, hsettled⟩ := hprogress
    exact ⟨hsent, visit hsplit hsettled fun hstarted => .inl (hinv.exited_of_not_running hstarted hi)⟩
  | @kill i rest hs =>
    rw [hs] at hprogress
    obtain ⟨hsent, visited, hsplit, hsettled⟩ := hprogress
    refine ⟨hsent, visit hsplit (fun j hj hstarted => (hsettled j hj hstarted).mono hfollows)
      fun hstarted => ?_⟩
    by_cases hrunning : s.phase i = .running
    · refine .inr ?_
      rw [← hrunning]
      exact List.mem_cons_self
    · exact .inl (hinv.exited_of_not_running hstarted hrunning)
  | allKilled hs =>
    rw [hs] at hprogress
    obtain ⟨hsent, visited, hsplit, hsettled⟩ := hprogress
    rw [List.append_nil] at hsplit
    exact ⟨hsent.1, fun i => hsettled i (hsplit ▸ List.mem_finRange i)⟩

theorem sigterm_move (hinv : Inv initial s) (h : Move s s') {i : Fin n} {p : Phase}
    (hmem : .signalled i .sigterm p ∈ s'.history) : p.started = true := by
  cases h with
  | signal hs hi =>
    rcases List.mem_cons.mp hmem with heq | hmem
    · cases heq
      exact hi
    · exact hinv.sigterm hmem
  | kill =>
    rcases List.mem_cons.mp hmem with heq | hmem
    · cases heq
    · exact hinv.sigterm hmem
  | _ => exact hinv.sigterm hmem

theorem sigkill_move (hinv : Inv initial s) (h : Move s s') :
    Historically (fun past e => ∀ i p, e = .signalled i .sigkill p → .expired ∈ past)
      s'.history := by
  cases h with
  | signal => exact ⟨nofun, hinv.sigkill⟩
  | kill hs =>
    have hprogress := hinv.progress
    rw [hs] at hprogress
    exact ⟨fun _ _ _ => hinv.expired hprogress.1.2, hinv.sigkill⟩
  | _ => exact hinv.sigkill

theorem expired_move (hinv : Inv initial s) (h : Move s s') (hexpired : s'.expired = true) :
    .expired ∈ s'.history := by
  have hbefore : s.expired = true := by cases h <;> exact hexpired
  exact h.follows.history _ (hinv.expired hbefore)

theorem step (hinv : Inv initial s) (h : Moves s s') : Inv initial s' := by
  have hstarted (i : Fin n) : (s'.phase i).started = (initial i).started :=
    (h.follows.started i).trans (hinv.started i)
  have hfollows := h.follows
  cases h with
  | proceed hp => exact ⟨hstarted, hinv.expired, hinv.sigterm, hinv.sigkill,
      hinv.progress.mono hfollows id rfl⟩
  | expire =>
    refine ⟨hstarted, fun _ => List.mem_cons_self, fun hmem => ?_,
      ⟨nofun, hinv.sigkill⟩, hinv.progress.mono hfollows (fun _ => rfl) rfl⟩
    rcases List.mem_cons.mp hmem with heq | hmem
    · cases heq
    · exact hinv.sigterm hmem
  | run hmove => exact ⟨hstarted, hinv.expired_move hmove, hinv.sigterm_move hmove,
      hinv.sigkill_move hmove, hinv.progress_move hmove⟩

end Inv

/-! ## It returns -/

/-- No process does anything. -/
def Unaided (_ : Shutdown n) (l : ShutdownLabel n) : Prop := ∀ i, l ≠ .proceed i

/-- `terminate` can return, whatever the processes do not do. -/
def Returns (s : Shutdown n) : Prop :=
  ∃ ls s', Run step Unaided s ls s' ∧ s'.state = .returned

theorem returns_of_returned (h : s.state = .returned) : Returns s := ⟨[], s, .nil s, h⟩

theorem Returns.of_step {l : ShutdownLabel n} (h : Returns s') (hl : ∀ i, l ≠ .proceed i)
    (hstep : s.step l = some s') : Returns s := by
  obtain ⟨ls, t, hrun, hreturned⟩ := h
  exact ⟨l :: ls, t, .cons hl hstep hrun, hreturned⟩

theorem Returns.of_advance (h : Returns s') (deadline : Bool)
    (hstep : s.advance deadline = some s') : Returns s :=
  h.of_step (l := .run deadline) nofun hstep

theorem returns_of_killing {rest : List (Fin n)} (h : s.state = .killing rest) : Returns s := by
  induction rest generalizing s with
  | nil =>
    have hnext : Returns { s with state := .returned } := returns_of_returned rfl
    exact hnext.of_advance false (by simp only [advance, h])
  | cons i rest ih =>
    by_cases hi : (s.phase i).started = true ∧ ¬ (s.phase i).exited = true
    · have hkilled : Returns (send { s with state := .kill i rest } i .sigkill (.killing rest)) :=
        ih rfl
      have hnext : Returns { s with state := .kill i rest } := hkilled.of_advance false rfl
      exact hnext.of_advance false (by simp only [advance, h, if_pos hi])
    · have hnext : Returns { s with state := .killing rest } := ih rfl
      exact hnext.of_advance false (by simp only [advance, h, if_neg hi])

theorem returns_of_waiting {rest : List (Fin n)} (h : s.state = .waiting rest) : Returns s := by
  induction rest generalizing s with
  | nil =>
    have hnext : Returns { s with state := .returned } := returns_of_returned rfl
    exact hnext.of_advance false (by simp only [advance, h])
  | cons i rest ih =>
    cases hi : (s.phase i).started with
    | false =>
      have hnext : Returns { s with state := .waiting rest } := ih rfl
      exact hnext.of_advance false (by simp [advance, h, hi])
    | true =>
      -- the timer fires, if it has not yet, and the loop is left for the one that kills
      have hexpired {t : Shutdown n} (ht : t.state = .waiting (i :: rest))
          (hphase : t.phase = s.phase) (hfired : t.expired = true) : Returns t := by
        have hnext : Returns { t with state := .killing (List.finRange n) } := returns_of_killing rfl
        exact hnext.of_advance true (by simp [advance, ht, hphase, hi, hfired])
      cases hfired : s.expired with
      | true => exact hexpired h rfl hfired
      | false =>
        have hnext : Returns { s with expired := true, history := .expired :: s.history } :=
          hexpired h rfl rfl
        refine hnext.of_step (l := .expire) nofun ?_
        simp [step, timed, h, hfired]

/-- **`terminate` returns**: from wherever it is, it comes to its end by its own steps and the firing
of the timer. -/
theorem terminate_returns (s : Shutdown n) : Returns s := by
  cases h : s.state with
  | signalling rest =>
    induction rest generalizing s with
    | nil =>
      have hnext : Returns { s with state := .waiting (backward n) } := returns_of_waiting rfl
      exact hnext.of_advance false (by simp only [advance, h])
    | cons i rest ih =>
      by_cases hi : (s.phase i).started = true
      · have hnext : Returns (s.send i .sigterm (.signalling rest)) := ih _ rfl
        exact hnext.of_advance false (by simp only [advance, h, if_pos hi])
      · have hnext : Returns { s with state := .signalling rest } := ih _ rfl
        exact hnext.of_advance false (by simp only [advance, h, if_neg hi])
  | waiting rest => exact returns_of_waiting h
  | killing rest => exact returns_of_killing h
  | kill i rest =>
    have hnext : Returns (s.send i .sigkill (.killing rest)) := returns_of_killing rfl
    exact hnext.of_advance false (by simp only [advance, h])
  | returned => exact returns_of_returned h

/-! ## When it has returned -/

theorem mem_filterMap_sigterm {i : Fin n} {history : List (ShutdownEvent n)}
    (h : i ∈ history.filterMap ShutdownEvent.sigterm) :
    ∃ p, .signalled i .sigterm p ∈ history := by
  obtain ⟨e, he, hi⟩ := List.mem_filterMap.mp h
  unfold ShutdownEvent.sigterm at hi
  split at hi
  · cases hi
    exact ⟨_, he⟩
  · cases hi

/-- **`terminate` accounts for every process.** For every list of processes, in whatever phase each
is, and every order in which they exit and the timer fires: when `terminate` returns, SIGTERM was sent
to exactly the started ones, in the reverse of their order, each of them being alive or reaped by
then; each of them has been reaped or was sent SIGKILL while alive; and no SIGKILL was sent before the
timer fired. -/
theorem terminate_accounts_for_processes (initial : Fin n → Phase) (ls : List (ShutdownLabel n))
    (s : Shutdown n) (h : Run step (fun _ _ => True) (Shutdown.start initial) ls s)
    (hreturned : s.state = .returned) :
    s.history.filterMap ShutdownEvent.sigterm =
      (List.finRange n).filter (fun i => (initial i).started) ∧
    (∀ i, (initial i).started = true →
      (∃ p, .signalled i .sigterm p ∈ s.history ∧ (p = .running ∨ p.exited = true)) ∧
      ((s.phase i).exited = true ∨ .signalled i .sigkill .running ∈ s.history)) ∧
    Historically (fun past e => ∀ i p, e = .signalled i .sigkill p → .expired ∈ past) s.history := by
  have hinv : Inv initial s :=
    h.invariant (Inv initial) (fun _ _ _ hi _ hstep => hi.step (moves hstep)) (.start initial)
  have hprogress := hinv.progress
  rw [hreturned] at hprogress
  obtain ⟨hsent, hsettled⟩ := hprogress
  have hterms : s.history.filterMap ShutdownEvent.sigterm =
      (List.finRange n).filter (fun i => (initial i).started) := by
    rw [hsent, backward, List.filter_reverse, List.reverse_reverse]
  refine ⟨hterms, fun i hstarted => ⟨?_, hsettled i hstarted⟩, hinv.sigkill⟩
  have hmem : i ∈ s.history.filterMap ShutdownEvent.sigterm := by
    rw [hterms]
    exact List.mem_filter.mpr ⟨List.mem_finRange i, hstarted⟩
  obtain ⟨p, hp⟩ := mem_filterMap_sigterm hmem
  refine ⟨p, hp, ?_⟩
  by_cases hexited : p.exited = true
  · exact .inr hexited
  · exact .inl (running_iff.mp ⟨hinv.sigterm hp, hexited⟩)

/-- A process that was never started, one that ignores SIGTERM, and one that has exited. -/
def sampleProcesses : Fin 3 → Phase
  | 0 => .created
  | 1 => .running
  | 2 => .closed

/-- The timer fires while `terminate` waits for the second process. -/
def killRun : List (ShutdownLabel 3) :=
  [.run false, .run false, .run false, .run false, .run false, .expire, .run true] ++
    List.replicate 5 (.run false)

theorem stubborn_process_is_killed :
    ∃ s, Run step (fun _ _ => True) (Shutdown.start sampleProcesses) killRun s ∧
      s.state = .returned ∧ s.history.filterMap ShutdownEvent.sigterm = [1, 2] ∧
      .signalled 1 .sigkill .running ∈ s.history := by
  obtain ⟨s, hrun, hreturned, hphase⟩ := Run.exists_of_checkRun
    (fun s : Shutdown 3 => s.state = .returned ∧ s.phase 1 = .running)
    (show (checkRun step (fun _ _ => True) (Shutdown.start sampleProcesses) killRun).any _ = true by
      decide)
  obtain ⟨hterms, haccounts, -⟩ := terminate_accounts_for_processes _ _ s hrun hreturned
  refine ⟨s, hrun, hreturned, hterms, (haccounts 1 rfl).2.resolve_left ?_⟩
  rw [hphase]
  decide

/-- `Wait` of the process returns after the timer has fired, and `done` is not closed yet when the
second loop over the processes comes to it. -/
def reapedRun : List (ShutdownLabel 1) :=
  [.run false, .run false, .expire, .run true, .proceed 0, .run false, .run false]

theorem returns_before_done_is_closed :
    ∃ s, Run step (fun _ _ => True) (Shutdown.start fun _ : Fin 1 => .running) reapedRun s ∧
      s.state = .returned ∧ s.phase 0 ≠ .closed ∧ ∀ p, .signalled 0 .sigkill p ∉ s.history := by
  obtain ⟨s, hrun, hreturned, hphase, hkilled⟩ := Run.exists_of_checkRun
    (fun s : Shutdown 1 => s.state = .returned ∧ s.phase 0 ≠ .closed ∧
      s.history = [.expired, .signalled 0 .sigterm .running])
    (show (checkRun step (fun _ _ => True) (Shutdown.start fun _ : Fin 1 => .running) reapedRun).any
      _ = true by decide)
  refine ⟨s, hrun, hreturned, hphase, fun p hmem => ?_⟩
  rw [hkilled] at hmem
  simp at hmem

end Shutdown

end SandboxProvider.Node
