import SandboxProvider.Node.Run
import SandboxProvider.Verify.AdaptorStart
import SandboxProvider.Verify.Shutdown

/-!
# The processes of a node

Whatever fails, exits or is signalled meanwhile: when `run` returns, every process that was ever started
has exited or was killed after the time that `terminate` gives, with one exception: the adaptor of the
attempt during which the kubelet exited.
-/

namespace SandboxProvider.Node

open Lib

/-! ## Processes -/

theorem Process.next_of_proceed {p p' : Process} {err : Option String} (h : p.proceed err = some p') :
    p.phase.next = some p'.phase ∧ p'.name = p.name := by
  unfold proceed at h
  split at h
  · rename_i hphase
    cases h
    rw [hphase]
    exact ⟨rfl, rfl⟩
  · rename_i hphase
    cases h
    rw [hphase]
    exact ⟨rfl, rfl⟩
  · cases h

theorem Phase.next_eq_some {p p' : Phase} (h : p.next = some p') : p ≠ .created ∧ p ≠ .closed := by
  cases p with
  | created | closed => cases h
  | running | reaped => exact ⟨nofun, nofun⟩

/-! ## The adaptors -/

/-- The attempt that a place of `startCAA` belongs to. -/
def CAAState.current : CAAState → Option Nat
  | .stat k | .poll k _ | .select k | .signal k | .await k | .returned (.ok k) => some k
  | _ => none

namespace Adaptor

variable {s s' : Adaptor}

/-- The attempts are numbered from zero, and an exit that is returned is that of the kubelet. -/
structure Numbered (s : Adaptor) : Prop where
  fresh : ∀ k, s.attempts ≤ k → (s.caa k).phase = .created
  current : ∀ k, s.state.current = some k → k < s.attempts
  kubelet : s.kubelet.name = kubeletProcess.name
  blames : ∀ {name err}, s.state = .returned (.error (.processExit name err)) →
    name = s.kubelet.name ∧ s.kubelet.phase = .closed ∧ s.kubelet.err = err

theorem Numbered.start (socket : Bool) : Numbered (Adaptor.start kubeletProcess socket) where
  fresh _ _ := rfl
  current _ h := by cases h
  kubelet := rfl
  blames h := by cases h

/-- `startCAA` goes to a place of an attempt that exists. -/
theorem Numbered.goes (h : Numbered s) (hcaa : s'.caa = s.caa) (hattempts : s'.attempts = s.attempts)
    (hkubelet : s'.kubelet = s.kubelet) (hcurrent : ∀ k, s'.state.current = some k → k < s.attempts)
    (herr : ∀ name err, s'.state ≠ .returned (.error (.processExit name err))) : Numbered s' where
  fresh k hk := by
    rw [hcaa]
    exact h.fresh k (hattempts ▸ hk)
  current k hk := by
    rw [hattempts]
    exact hcurrent k hk
  kubelet := by
    rw [hkubelet]
    exact h.kubelet
  blames hr := absurd hr (herr _ _)

/-- `startCAA` goes on with the attempt that it is at. -/
theorem Numbered.goesOn (h : Numbered s) {k : Nat} (hs : s.state.current = some k) {state : CAAState}
    (hstate : state.current = some k) : Numbered { s with state := state } := by
  refine h.goes rfl rfl rfl (fun j hj => ?_) ?_
  · obtain rfl : j = k := Option.some.inj (hj.symm.trans hstate)
    exact h.current j hs
  · rintro name err rfl
    cases hstate

/-- A process that `waitForPath` saw exit ends `startCAA` only if it is the kubelet. -/
theorem Numbered.exited (h : Numbered s) (hinv : Inv s) {k : Nat} {w : Watched}
    (hs : s.state.current = some k) (hclosed : (s.watched k w).phase = .closed) :
    Numbered { s with
      state := s.afterWait k (.processExit (s.watched k w).name (s.watched k w).err) } := by
  unfold afterWait
  dsimp only
  split
  · rename_i hname
    refine ⟨h.fresh, nofun, h.kubelet, fun hr => ?_⟩
    cases hr
    cases w with
    | kubelet => exact ⟨rfl, hclosed, rfl⟩
    | caa =>
      have hcaa : (s.caa k).name = cloudAPIAdaptor.name := hinv.named k
      have hclash : cloudAPIAdaptor.name = kubeletProcess.name :=
        hcaa.symm.trans (hname.trans h.kubelet)
      exact absurd hclash (by decide)
  · split
    · exact h.goesOn hs rfl
    · exact h.goes rfl rfl rfl nofun nofun

theorem Numbered.move (h : Numbered s) (hinv : Inv s) (hmove : Move s s') : Numbered s' := by
  cases hmove with
  | started hs =>
    refine ⟨fun k hk => ?_, fun k hk => ?_, h.kubelet, nofun⟩
    · have hne : k ≠ s.attempts := Nat.ne_of_gt hk
      simp only [Function.update_of_ne hne]
      exact h.fresh k (Nat.le_of_succ_le hk)
    · cases hk
      exact Nat.lt_succ_self _
  | ready hs => exact h.goesOn (by rw [hs]; rfl) rfl
  | @within k state hs hstate =>
    have hk : s.state.current = some k := by
      rcases hs with hs | ⟨rest, hs⟩ | hs
      all_goals rw [hs]; rfl
    rcases hstate with rfl | ⟨rest, rfl⟩ | rfl
    all_goals exact h.goesOn hk rfl
  | exited hs hclosed => exact h.exited hinv (by rw [hs]; rfl) hclosed
  | gaveUp hs => exact h.goesOn (by rw [hs]; rfl) rfl
  | signal hs =>
    refine h.goes rfl rfl rfl (fun j hj => ?_) nofun
    cases hj
    exact h.current _ (by rw [hs]; rfl)
  | startFailed hs => exact h.goes rfl rfl rfl nofun nofun
  | awaited hs hclosed => exact h.goes rfl rfl rfl nofun nofun
  | abandoned hs => exact h.goes rfl rfl rfl nofun nofun
  | again hs => exact h.goes rfl rfl rfl nofun nofun

/-- An attempt is counted when its adaptor is started. -/
theorem Move.attempts_eq (h : Move s s') (hnew : s'.attempts ≠ s.attempts) :
    s'.attempts = s.attempts + 1 := by
  cases h with
  | started => rfl
  | _ => exact absurd rfl hnew

theorem Move.cancelled_eq (h : Move s s') : s'.cancelled = s.cancelled := by
  cases h <;> rfl

theorem Numbered.step (h : Numbered s) (hinv : Inv s) (hmoves : Moves s s') : Numbered s' := by
  cases hmoves with
  | @caa k p err hp =>
    refine ⟨fun j hj => ?_, h.current, h.kubelet, h.blames⟩
    have hne : j ≠ k := by
      rintro rfl
      exact (Phase.next_eq_some (Process.next_of_proceed hp).1).1 (h.fresh j hj)
    simp only [Function.update_of_ne hne]
    exact h.fresh j hj
  | kubelet hp =>
    obtain ⟨hnext, hname⟩ := Process.next_of_proceed hp
    refine ⟨h.fresh, h.current, hname.trans h.kubelet, fun hr => ?_⟩
    exact absurd (h.blames hr).2.1 (Phase.next_eq_some hnext).2
  | around => exact ⟨h.fresh, h.current, h.kubelet, h.blames⟩
  | run hmove => exact h.move hinv hmove

end Adaptor

/-! ## A call of `terminate` -/

theorem Shutdown.Move.phase_eq {n : Nat} {s s' : Shutdown n} (h : Shutdown.Move s s') :
    s'.phase = s.phase := by
  cases h <;> rfl

namespace Termination

variable {t : Termination} {phase phase' : Managed → Phase} {initial : Fin t.processes.length → Phase}

/-- A process of the node proceeds while `terminate` runs. -/
theorem inv_of_proceed (h : Shutdown.Inv initial (t.view phase)) (hnodup : t.processes.Nodup) {p : Managed}
    (hp : (phase p).next = some (phase' p)) (hother : ∀ q, q ≠ p → phase' q = phase q) :
    Shutdown.Inv initial (t.view phase') := by
  by_cases hmem : p ∈ t.processes
  · obtain ⟨i, hi⟩ := List.mem_iff_get.mp hmem
    have hview : t.view phase' =
        { t.view phase with phase := Function.update (t.view phase).phase i (phase' p) } := by
      unfold view
      congr 1
      funext j
      by_cases hij : j = i
      · subst hij
        rw [Function.update_self, hi]
      · rw [Function.update_of_ne hij]
        refine hother _ fun hj => hij ?_
        exact (List.Nodup.get_inj_iff hnodup).mp (hj.trans hi.symm)
    rw [hview]
    refine h.step (.proceed ?_)
    change (phase (t.processes.get i)).next = _
    rw [hi]
    exact hp
  · have hview : t.view phase' = t.view phase := by
      unfold view
      congr 1
      funext j
      refine hother _ ?_
      rintro hj
      exact hmem (hj ▸ List.get_mem _ _)
    rw [hview]
    exact h

theorem view_next {s : Shutdown t.processes.length} (h : s.phase = (t.view phase).phase) :
    (t.next s).view phase = s := by
  unfold next view
  cases s
  cases h
  rfl

end Termination

/-! ## What `run` knows of its processes -/

namespace Supervisor

variable {e : Environment} {s s' : Supervisor} {result : Option NodeError} {t : Termination}

/-- No attempt to start an adaptor has been made. -/
def Idle (s : Supervisor) : Prop := s.adaptor.state = .attempt ∧ s.adaptor.attempts = 0

/-- Nothing has been started. -/
structure Untouched (s : Supervisor) : Prop where
  idle : s.Idle
  containerd : s.containerd.phase = .created
  kubelet : s.adaptor.kubelet.phase = .created
  termination : s.termination = none
  serving : s.serving = false

/-- These processes are in the list, and `run` has not begun to leave. -/
structure Up (s : Supervisor) (processes : List Managed) : Prop where
  processes : s.processes = processes
  termination : s.termination = none

/-- The processes that `terminate` is called with, and what is known of those that are missing. -/
inductive Registered (s : Supervisor) (result : Option NodeError) : List Managed → Prop
  | containerd (hidle : s.Idle) (hkubelet : s.adaptor.kubelet.phase = .created) :
      Registered s result [.containerd]
  | kubelet (hcaa : s.Idle ∨ ∃ err, s.adaptor.state = .returned (.error err) ∧ result = some err) :
      Registered s result [.containerd, .kubelet]
  | adaptor {k} (hcaa : s.adaptor.state = .returned (.ok k)) :
      Registered s result [.containerd, .kubelet, .caa k]

/-- Without an error the context was cancelled; the exit of a process is that of one of this name, with
its error, or with a text where it had none. -/
def Explained (s : Supervisor) : Option NodeError → Prop
  | none => .cancelled ∈ s.history
  | some (.processExit name err) => ∃ p, (s.process p).name = name ∧ s.phase p = .closed ∧
      (err = (s.process p).err ∨
        (err = some "process exited without an error" ∧ (s.process p).err = none))
  | some (.other _) => True

/-- `run` is in its deferred calls. -/
structure Leaving (s : Supervisor) (result : Option NodeError) (t : Termination) : Prop where
  termination : s.termination = some t
  registered : s.Registered result t.processes
  serving : s.serving = false
  shutdown : ∃ initial, Shutdown.Inv initial (t.view s.phase)

/-- All processes are there. -/
def Watching (s : Supervisor) : Prop :=
  ∃ k, s.Up [.containerd, .kubelet, .caa k] ∧ s.adaptor.state = .returned (.ok k)

/-- The processes at each place of `run`. -/
def Standing (s : Supervisor) : NodeState → Prop
  | .stat _ | .poll _ | .select _ | .startKubelet _ =>
      s.Up [.containerd] ∧ s.serving = false ∧ s.Idle ∧ s.adaptor.kubelet.phase = .created
  | .hashPlugin => s.Up [.containerd, .kubelet] ∧ s.serving = false ∧ s.Idle
  | .startCAA _ => s.Up [.containerd, .kubelet] ∧ s.serving = false
  | .watch => s.Watching
  | .shutdownHealth result => s.Explained result ∧ s.Watching
  | .terminate result => s.Explained result ∧ ∃ t, s.Leaving result t
  | .cleanup result => s.Explained result ∧ ∃ t, s.Leaving result t ∧ t.state = .returned
  | .returned result => s.Explained result ∧
      (s.Untouched ∨ (∃ t, s.Leaving result t ∧ t.state = .returned) ∧
        ∃ failure, .cleaned failure ∈ s.history)
  | _ => s.Untouched

theorem Standing.untouched {state : NodeState} (h : s.Standing state) (hearly : state.early = true) :
    s.Untouched := by
  cases state with
  | stat | poll | select | startKubelet | hashPlugin | startCAA | watch | shutdownHealth | terminate
  | cleanup | returned => cases hearly
  | _ => exact h

theorem Registered.nodup {ps : List Managed} (h : s.Registered result ps) : ps.Nodup := by
  cases h with
  | containerd | kubelet | adaptor => simp

/-! ### What stays -/

/-- A step that leaves the adaptors and the list of processes to what they are. -/
structure Keeps (s s' : Supervisor) : Prop where
  processes : s'.processes = s.processes
  serving : s'.serving = s.serving
  adaptorState : s'.adaptor.state = s.adaptor.state
  attempts : s'.adaptor.attempts = s.adaptor.attempts
  created : ∀ p, s.phase p = .created → s'.phase p = .created
  closed : ∀ p, s.phase p = .closed → s'.process p = s.process p
  history : ∀ ev ∈ s.history, ev ∈ s'.history

theorem Keeps.idle (h : Keeps s s') (hidle : s.Idle) : s'.Idle :=
  ⟨h.adaptorState.trans hidle.1, h.attempts.trans hidle.2⟩

theorem Keeps.up (h : Keeps s s') (ht : s'.termination = s.termination) {ps : List Managed}
    (hup : s.Up ps) : s'.Up ps :=
  ⟨h.processes.trans hup.processes, ht.trans hup.termination⟩

theorem Keeps.untouched (h : Keeps s s') (ht : s'.termination = s.termination) (hu : s.Untouched) :
    s'.Untouched where
  idle := h.idle hu.idle
  containerd := h.created .containerd hu.containerd
  kubelet := h.created .kubelet hu.kubelet
  termination := ht.trans hu.termination
  serving := h.serving.trans hu.serving

/-- A process that has exited stays as it is. -/
theorem Explained.mono (hexplained : s.Explained result)
    (hclosed : ∀ p, s.phase p = .closed → s'.process p = s.process p)
    (hhistory : ∀ ev ∈ s.history, ev ∈ s'.history) : s'.Explained result := by
  cases result with
  | none => exact hhistory _ hexplained
  | some err =>
    cases err with
    | other => trivial
    | processExit name err =>
      obtain ⟨p, hname, hp, herr⟩ := hexplained
      have hsame : s'.process p = s.process p := hclosed p hp
      refine ⟨p, ?_, ?_, ?_⟩
      · rw [hsame]
        exact hname
      · unfold phase
        rw [hsame]
        exact hp
      · rw [hsame]
        exact herr

theorem Keeps.explained (h : Keeps s s') (hexplained : s.Explained result) : s'.Explained result :=
  hexplained.mono h.closed h.history

theorem Keeps.registered (h : Keeps s s') {ps : List Managed} (hreg : s.Registered result ps) :
    s'.Registered result ps := by
  cases hreg with
  | containerd hidle hkubelet => exact .containerd (h.idle hidle) (h.created .kubelet hkubelet)
  | kubelet hcaa =>
    refine .kubelet (hcaa.imp h.idle ?_)
    rintro ⟨err, hstate, herr⟩
    exact ⟨err, h.adaptorState.trans hstate, herr⟩
  | adaptor hcaa => exact .adaptor (h.adaptorState.trans hcaa)

/-- What `run` knows stays true, if the calls of `terminate` keep their invariant. -/
theorem Keeps.standing (h : Keeps s s') (hnone : s.termination = none → s'.termination = none)
    (hsome : ∀ result t, s.Leaving result t → ∃ t', s'.Leaving result t' ∧
      (t.state = .returned → t'.state = .returned)) {state : NodeState} (hs : s.Standing state) :
    s'.Standing state := by
  have hup {ps : List Managed} (hup : s.Up ps) : s'.Up ps :=
    h.up ((hnone hup.termination).trans hup.termination.symm) hup
  have huntouched (hu : s.Untouched) : s'.Untouched :=
    h.untouched ((hnone hu.termination).trans hu.termination.symm) hu
  have hleft {result : Option NodeError} (hl : ∃ t, s.Leaving result t ∧ t.state = .returned) :
      ∃ t, s'.Leaving result t ∧ t.state = .returned := by
    obtain ⟨t, hl, hreturned⟩ := hl
    obtain ⟨t', hl', hkeep⟩ := hsome result t hl
    exact ⟨t', hl', hkeep hreturned⟩
  have hwatch (hw : s.Watching) : s'.Watching := by
    obtain ⟨k, hup', hcaa⟩ := hw
    exact ⟨k, hup hup', h.adaptorState.trans hcaa⟩
  cases state with
  | stat | poll | select | startKubelet =>
    obtain ⟨hup', hserving, hidle, hkubelet⟩ := hs
    exact ⟨hup hup', h.serving.trans hserving, h.idle hidle, h.created .kubelet hkubelet⟩
  | hashPlugin =>
    obtain ⟨hup', hserving, hidle⟩ := hs
    exact ⟨hup hup', h.serving.trans hserving, h.idle hidle⟩
  | startCAA => exact ⟨hup hs.1, h.serving.trans hs.2⟩
  | watch => exact hwatch hs
  | shutdownHealth => exact ⟨h.explained hs.1, hwatch hs.2⟩
  | terminate =>
    obtain ⟨hexplained, t, hl⟩ := hs
    obtain ⟨t', hl', -⟩ := hsome _ t hl
    exact ⟨h.explained hexplained, t', hl'⟩
  | cleanup => exact ⟨h.explained hs.1, hleft hs.2⟩
  | returned =>
    refine ⟨h.explained hs.1, hs.2.imp huntouched ?_⟩
    rintro ⟨hl, failure, hcleaned⟩
    exact ⟨hleft hl, failure, h.history _ hcleaned⟩
  | _ => exact huntouched hs

/-- One process of the node proceeds. -/
structure Proceeds (s s' : Supervisor) (p : Managed) : Prop where
  next : (s.phase p).next = some (s'.phase p)
  others : ∀ q, q ≠ p → s'.process q = s.process q

theorem Proceeds.created {p q : Managed} (h : Proceeds s s' p) (hq : s.phase q = .created) :
    s'.phase q = .created := by
  have hne : q ≠ p := by
    rintro rfl
    exact (Phase.next_eq_some h.next).1 hq
  unfold phase at hq ⊢
  rw [h.others q hne]
  exact hq

theorem Proceeds.closed {p q : Managed} (h : Proceeds s s' p) (hq : s.phase q = .closed) :
    s'.process q = s.process q := by
  refine h.others q ?_
  rintro rfl
  exact (Phase.next_eq_some h.next).2 hq

theorem Proceeds.leaving {p : Managed} (h : Proceeds s s' p) (hkeeps : Keeps s s')
    (ht : s'.termination = s.termination) (hl : s.Leaving result t) : s'.Leaving result t where
  termination := ht.trans hl.termination
  registered := hkeeps.registered hl.registered
  serving := hkeeps.serving.trans hl.serving
  shutdown := by
    obtain ⟨initial, hinv⟩ := hl.shutdown
    refine ⟨initial, Termination.inv_of_proceed hinv hl.registered.nodup h.next fun q hq => ?_⟩
    unfold phase
    rw [h.others q hq]

theorem Keeps.leaving (h : Keeps s s') (hprocess : s'.process = s.process)
    (ht : s'.termination = s.termination) (hl : s.Leaving result t) : s'.Leaving result t where
  termination := ht.trans hl.termination
  registered := h.registered hl.registered
  serving := h.serving.trans hl.serving
  shutdown := by
    have hphase : s'.phase = s.phase := by
      unfold phase
      rw [hprocess]
    rw [hphase]
    exact hl.shutdown

/-- `run` moves to another place, and something happens. -/
theorem Keeps.moved {state : NodeState} {history : List NodeEvent}
    (h : ∀ ev ∈ s.history, ev ∈ history) : Keeps s { s with state := state, history := history } :=
  ⟨rfl, rfl, rfl, rfl, fun _ hp => hp, fun _ _ => rfl, h⟩

theorem Keeps.standing_of_process (h : Keeps s s') (hprocess : s'.process = s.process)
    (ht : s'.termination = s.termination) {state : NodeState} (hs : s.Standing state) :
    s'.Standing state :=
  h.standing (fun hnone => ht.trans hnone) (fun _ t hl => ⟨t, h.leaving hprocess ht hl, id⟩) hs

structure StopInv (s : Supervisor) : Prop where
  adaptor : s.adaptor.Inv
  numbered : s.adaptor.Numbered
  cancelled : s.adaptor.cancelled = true → .cancelled ∈ s.history
  standing : s.Standing s.state

/-! ### Steps of the others -/

/-- The adaptor's part of the node proceeds. -/
theorem proceeds_of_step {l : AdaptorLabel} {err : Option String} {a : Adaptor}
    (hl : l = .kubelet err ∨ ∃ k, l = .caa k err) (h : s.adaptor.step l = some a) :
    (∃ p, Proceeds s { s with adaptor := a } p) ∧ a.state = s.adaptor.state ∧
      a.attempts = s.adaptor.attempts ∧ a.cancelled = s.adaptor.cancelled := by
  rcases hl with rfl | ⟨k, rfl⟩
  · obtain ⟨p, hp, rfl⟩ := Option.map_eq_some_iff.mp h
    refine ⟨⟨.kubelet, (Process.next_of_proceed hp).1, fun q hq => ?_⟩, rfl, rfl, rfl⟩
    cases q with
    | containerd | caa => rfl
    | kubelet => exact absurd rfl hq
  · obtain ⟨p, hp, rfl⟩ := Option.map_eq_some_iff.mp h
    refine ⟨⟨.caa k, ?_, fun q hq => ?_⟩, rfl, rfl, rfl⟩
    · have hnext := (Process.next_of_proceed hp).1
      unfold phase process
      simpa using hnext
    · cases q with
      | containerd | kubelet => rfl
      | caa j =>
        have hne : j ≠ k := fun hj => hq (congrArg _ hj)
        simp [process, Function.update_of_ne hne]

theorem StopInv.proceeds (hinv : StopInv s) {p : Managed} (h : Proceeds s s' p)
    (hkeeps : Keeps s s') (hstate : s'.state = s.state) (ht : s'.termination = s.termination)
    (hadaptor : s'.adaptor.Inv) (hnumbered : s'.adaptor.Numbered)
    (hcancelled : s'.adaptor.cancelled = s.adaptor.cancelled) : StopInv s' where
  adaptor := hadaptor
  numbered := hnumbered
  cancelled hc := hkeeps.history _ (hinv.cancelled (hcancelled ▸ hc))
  standing := by
    rw [hstate]
    exact hkeeps.standing (fun hnone => ht.trans hnone) (fun _ t hl => ⟨t, h.leaving hkeeps ht hl, id⟩)
      hinv.standing

/-- A step in which no process does anything. -/
theorem StopInv.undisturbed (hinv : StopInv s) (hkeeps : Keeps s s') (hstate : s'.state = s.state)
    (hprocess : s'.process = s.process) (ht : s'.termination = s.termination)
    (hadaptor : s'.adaptor.Inv) (hnumbered : s'.adaptor.Numbered)
    (hcancelled : s'.adaptor.cancelled = true → .cancelled ∈ s'.history) : StopInv s' where
  adaptor := hadaptor
  numbered := hnumbered
  cancelled := hcancelled
  standing := by
    rw [hstate]
    exact hkeeps.standing_of_process hprocess ht hinv.standing

/-! ### Steps of `run` -/

theorem keeps_leave : Keeps s (s.leave result) :=
  ⟨rfl, rfl, rfl, rfl, fun _ hp => hp, fun _ _ => rfl, fun _ h => List.mem_cons_of_mem _ h⟩

theorem keeps_termination : Keeps s { s with termination := some t } :=
  ⟨rfl, rfl, rfl, rfl, fun _ hp => hp, fun _ _ => rfl, fun _ h => h⟩

/-- `run` begins to leave. -/
theorem leaving_of_leave {ps : List Managed} (hps : s.processes = ps) (hreg : s.Registered result ps)
    (hserving : s.serving = false) : ∃ t, (s.leave result).Leaving result t := by
  subst hps
  exact ⟨.start s.processes, rfl, keeps_leave.registered hreg, hserving,
    fun i => s.phase (s.processes.get i), .start _⟩

/-- A step of `terminate`. -/
theorem Leaving.terminating (hl : s.Leaving result t) {next : Shutdown t.processes.length}
    (hmove : Shutdown.Move (t.view s.phase) next) :
    Leaving { s with termination := some (t.next next) } result (t.next next) where
  termination := rfl
  registered := keeps_termination.registered hl.registered
  serving := hl.serving
  shutdown := by
    obtain ⟨initial, hinv⟩ := hl.shutdown
    refine ⟨initial, ?_⟩
    have hview : (t.next next).view s.phase = next := Termination.view_next hmove.phase_eq
    change Shutdown.Inv initial ((t.next next).view s.phase)
    rw [hview]
    exact hinv.step (.run hmove)

/-- The timer of `terminate` fires. -/
theorem Leaving.expired (hl : s.Leaving result t) (htimed : (t.view s.phase).timed = true)
    (hnew : t.expired = false) : Leaving { s with termination := some t.expire } result t.expire where
  termination := rfl
  registered := keeps_termination.registered hl.registered
  serving := hl.serving
  shutdown := by
    obtain ⟨initial, hinv⟩ := hl.shutdown
    exact ⟨initial, hinv.step (.expire htimed hnew)⟩

theorem Standing.pass {state state' : NodeState} (h : s.Standing state) (hpass : Passes state state') :
    s.Standing state' := by
  cases hpass with
  | mkdir | made | statSyslog | removeSyslog | linkSyslog | statConfigured | statClientCA | writeConfig
  | poll | select | again => exact h

theorem StopInv.move (hinv : StopInv s) (h : Move e s s') : StopInv s' := by
  obtain ⟨hadaptor, hnumbered, hcancelled, hstanding⟩ := hinv
  have hgrown (ev : NodeEvent) (hc : s.adaptor.cancelled = true) : .cancelled ∈ ev :: s.history :=
    List.mem_cons_of_mem _ (hcancelled hc)
  have hmoved (state : NodeState) : Keeps s { s with state := state } := .moved fun _ h => h
  have hevent (state : NodeState) (ev : NodeEvent) :
      Keeps s { s with state := state, history := ev :: s.history } :=
    .moved fun _ h => List.mem_cons_of_mem _ h
  cases h with
  | @pass state h =>
    exact ⟨hadaptor, hnumbered, hcancelled, (hmoved state).standing_of_process rfl rfl (hstanding.pass h)⟩
  | gave h =>
    exact ⟨hadaptor, hnumbered, hcancelled, trivial,
      .inl ((hmoved _).untouched rfl (hstanding.untouched h))⟩
  | configured h =>
    have hu := hstanding.untouched (by rw [h]; rfl)
    exact ⟨hadaptor, hnumbered, hgrown _, (hevent _ _).untouched rfl hu⟩
  | wrote h =>
    have hu := hstanding.untouched (by rw [h]; rfl)
    exact ⟨hadaptor, hnumbered, hgrown _, (hevent _ _).untouched rfl hu⟩
  | startedContainerd h =>
    have hu := hstanding.untouched (by rw [h]; rfl)
    exact ⟨hadaptor, hnumbered, hgrown _, ⟨rfl, hu.termination⟩, hu.serving, hu.idle, hu.kubelet⟩
  | sawContainerd h =>
    rw [h] at hstanding
    exact ⟨hadaptor, hnumbered, hgrown _, (hevent _ _).standing_of_process rfl rfl hstanding⟩
  | containerdExited h hclosed =>
    rw [h] at hstanding
    obtain ⟨hup, hserving, hidle, hkubelet⟩ := hstanding
    refine ⟨hadaptor, hnumbered, hgrown _, ⟨.containerd, rfl, hclosed, .inl rfl⟩, ?_⟩
    exact leaving_of_leave hup.processes (.containerd hidle hkubelet) hserving
  | gaveUp h =>
    rw [h] at hstanding
    obtain ⟨hup, hserving, hidle, hkubelet⟩ := hstanding
    exact ⟨hadaptor, hnumbered, hgrown _, trivial,
      leaving_of_leave hup.processes (.containerd hidle hkubelet) hserving⟩
  | startedKubelet h =>
    rw [h] at hstanding
    obtain ⟨hup, hserving, hidle, hkubelet⟩ := hstanding
    have hps : s.processes ++ [Managed.kubelet] = [.containerd, .kubelet] := by
      rw [hup.processes]
      rfl
    refine ⟨?_, ?_, hgrown _, ⟨hps, hup.termination⟩, hserving, hidle⟩
    · exact ⟨hadaptor.named, hadaptor.started, hadaptor.alone.mono rfl fun _ hk => hk, hadaptor.awaited⟩
    · refine ⟨hnumbered.fresh, hnumbered.current, hnumbered.kubelet, fun hr => ?_⟩
      rw [show s.adaptor.state = .attempt from hidle.1] at hr
      cases hr
  | @kubeletFailed c err h =>
    rw [h] at hstanding
    obtain ⟨hup, hserving, hidle, hkubelet⟩ := hstanding
    have hps : s.processes ++ [Managed.kubelet] = [.containerd, .kubelet] := by
      rw [hup.processes]
      rfl
    refine ⟨hadaptor, hnumbered, hgrown _, trivial, ?_⟩
    exact leaving_of_leave (s := { s with processes := s.processes ++ [Managed.kubelet] }) hps
      (.kubelet (.inl hidle)) hserving
  | hashed h =>
    rw [h] at hstanding
    exact ⟨hadaptor, hnumbered, hgrown _, (hevent _ _).up rfl hstanding.1, hstanding.2.1⟩
  | hashFailed h =>
    rw [h] at hstanding
    obtain ⟨hup, hserving, hidle⟩ := hstanding
    exact ⟨hadaptor, hnumbered, hgrown _, trivial,
      leaving_of_leave hup.processes (.kubelet (.inl hidle)) hserving⟩
  | adaptorStarted h hmove hnew =>
    rw [h] at hstanding
    refine ⟨hadaptor.move hmove, hnumbered.move hadaptor hmove, fun hc => ?_, ?_⟩
    · exact hgrown _ (hmove.cancelled_eq ▸ hc)
    · change Standing _ s.state
      rw [h]
      exact ⟨⟨hstanding.1.processes, hstanding.1.termination⟩, hstanding.2⟩
  | adaptor h hmove hsame =>
    rw [h] at hstanding
    refine ⟨hadaptor.move hmove, hnumbered.move hadaptor hmove, fun hc => ?_, ?_⟩
    · exact hcancelled (hmove.cancelled_eq ▸ hc)
    · change Standing _ s.state
      rw [h]
      exact ⟨⟨hstanding.1.processes, hstanding.1.termination⟩, hstanding.2⟩
  | @adaptorReady hash k h ha =>
    rw [h] at hstanding
    have hps : s.processes ++ [Managed.caa k] = [.containerd, .kubelet, .caa k] := by
      rw [hstanding.1.processes]
      rfl
    exact ⟨hadaptor, hnumbered, hgrown _, k, ⟨hps, hstanding.1.termination⟩, ha⟩
  | @adaptorFailed hash err h ha =>
    rw [h] at hstanding
    obtain ⟨hup, hserving⟩ := hstanding
    have hexplained : s.Explained (some err) := by
      cases err with
      | other => trivial
      | processExit name err =>
        obtain ⟨hname, hclosed, herr⟩ := hnumbered.blames ha
        exact ⟨.kubelet, hname.symm, hclosed, .inl herr.symm⟩
    exact ⟨hadaptor, hnumbered, hgrown _, keeps_leave.explained hexplained,
      leaving_of_leave hup.processes (.kubelet (.inr ⟨err, ha, rfl⟩)) hserving⟩
  | stopped h hc =>
    rw [h] at hstanding
    have hwatching := (hmoved (.shutdownHealth none)).standing_of_process rfl rfl hstanding
    exact ⟨hadaptor, hnumbered, hcancelled, hcancelled hc, hwatching⟩
  | @exited p h hp hclosed =>
    rw [h] at hstanding
    have hwatching := (hmoved (.shutdownHealth (some (s.exitError p)))).standing_of_process rfl rfl
      hstanding
    refine ⟨hadaptor, hnumbered, hcancelled, ⟨p, rfl, hclosed, ?_⟩, hwatching⟩
    change some ((s.process p).err.getD "process exited without an error") = (s.process p).err ∨
      (some ((s.process p).err.getD "process exited without an error") = some _ ∧
        (s.process p).err = none)
    cases (s.process p).err with
    | none => exact .inr ⟨rfl, rfl⟩
    | some err => exact .inl rfl
  | healthDown h =>
    rw [h] at hstanding
    obtain ⟨hexplained, k, hup, hcaa⟩ := hstanding
    refine ⟨hadaptor, hnumbered, hgrown _, ?_, ?_⟩
    · exact hexplained.mono (fun _ _ => rfl) fun _ hev => List.mem_cons_of_mem _ hev
    · exact leaving_of_leave (s := { s with serving := false }) hup.processes (.adaptor hcaa) rfl
  | @terminating result t next h ht hmove =>
    rw [h] at hstanding
    obtain ⟨hexplained, t', hl⟩ := hstanding
    obtain rfl : t = t' := Option.some.inj (ht.symm.trans hl.termination)
    have hnext : Standing { s with termination := some (t.next next) } (.terminate result) :=
      ⟨keeps_termination.explained hexplained, _, hl.terminating hmove⟩
    rw [← h] at hnext
    exact ⟨hadaptor, hnumbered, hcancelled, hnext⟩
  | @terminated result t h ht hreturned =>
    rw [h] at hstanding
    obtain ⟨hexplained, t', hl⟩ := hstanding
    obtain rfl : t = t' := Option.some.inj (ht.symm.trans hl.termination)
    have hkeeps := hevent (.cleanup result) .terminated
    exact ⟨hadaptor, hnumbered, hgrown _, hkeeps.explained hexplained, t, hkeeps.leaving rfl rfl hl,
      hreturned⟩
  | @cleaned result failure h =>
    rw [h] at hstanding
    obtain ⟨hexplained, t, hl, hreturned⟩ := hstanding
    have hkeeps := hevent (.returned result) (.cleaned failure)
    exact ⟨hadaptor, hnumbered, hgrown _, hkeeps.explained hexplained,
      .inr ⟨⟨t, hkeeps.leaving rfl rfl hl, hreturned⟩, failure, List.mem_cons_self⟩⟩

theorem StopInv.step (hinv : StopInv s) (h : Moves e s s') : StopInv s' := by
  cases h with
  | run h => exact hinv.move h
  | @containerd p err hp =>
    have hproceeds : Proceeds s { s with containerd := p } .containerd := by
      refine ⟨(Process.next_of_proceed hp).1, fun q hq => ?_⟩
      cases q with
      | containerd => exact absurd rfl hq
      | kubelet | caa => rfl
    have hkeeps : Keeps s { s with containerd := p } :=
      ⟨rfl, rfl, rfl, rfl, fun _ => hproceeds.created, fun _ => hproceeds.closed, fun _ hev => hev⟩
    exact hinv.proceeds hproceeds hkeeps rfl rfl hinv.adaptor hinv.numbered rfl
  | @adaptor l err a hl ha =>
    obtain ⟨⟨p, hproceeds⟩, hstate, hattempts, hcancelled⟩ := proceeds_of_step hl ha
    have hkeeps : Keeps s { s with adaptor := a } :=
      ⟨rfl, rfl, hstate, hattempts, fun _ => hproceeds.created, fun _ => hproceeds.closed, fun _ hev => hev⟩
    have hmoves := Adaptor.moves ha
    exact hinv.proceeds hproceeds hkeeps rfl rfl (hinv.adaptor.step hmoves)
      (hinv.numbered.step hinv.adaptor hmoves) hcancelled
  | around =>
    refine hinv.undisturbed ⟨rfl, rfl, rfl, rfl, fun _ hp => ?_, fun p _ => ?_, fun _ hev => hev⟩ rfl
      (funext fun p => ?_) rfl (hinv.adaptor.step .around) (hinv.numbered.step hinv.adaptor .around)
      hinv.cancelled
    · exact hp
    · cases p <;> rfl
    · cases p <;> rfl
  | cancel h =>
    refine hinv.undisturbed
      ⟨rfl, rfl, rfl, rfl, fun _ hp => ?_, fun p _ => ?_, fun _ hev => List.mem_cons_of_mem _ hev⟩ rfl
      (funext fun p => ?_) rfl (hinv.adaptor.step .around) (hinv.numbered.step hinv.adaptor .around)
      fun _ => List.mem_cons_self
    · exact hp
    · cases p <;> rfl
    · cases p <;> rfl
  | @expired t ht htimed hnew =>
    refine ⟨hinv.adaptor, hinv.numbered, hinv.cancelled, ?_⟩
    refine Keeps.standing (s := s) keeps_termination (fun hnone => ?_) (fun result t' hl => ?_) hinv.standing
    · rw [ht] at hnone
      cases hnone
    · obtain rfl : t = t' := Option.some.inj (ht.symm.trans hl.termination)
      exact ⟨t.expire, hl.expired htimed hnew, id⟩

/-! ## Whole runs -/

theorem StopInv.start (containerdSocket hypervisorSocket : Bool) :
    StopInv (Supervisor.start containerdSocket hypervisorSocket) where
  adaptor := .start _ _
  numbered := .start _
  cancelled h := by cases h
  standing := ⟨⟨rfl, rfl⟩, rfl, rfl, rfl, rfl⟩

/-- `terminate` sent the process SIGKILL while it was alive. -/
def Killed (s : Supervisor) (p : Managed) : Prop :=
  ∃ t, s.termination = some t ∧ ∃ i, t.processes.get i = p ∧
    .signalled i .sigkill .running ∈ t.history

/-- `terminate` accounts for the processes in its list. -/
theorem Leaving.settled (hl : s.Leaving result t) (hreturned : t.state = .returned) {p : Managed}
    (hp : p ∈ t.processes) (hstarted : (s.phase p).started = true) :
    (s.phase p).exited = true ∨ s.Killed p := by
  obtain ⟨initial, hinv⟩ := hl.shutdown
  obtain ⟨i, rfl⟩ := List.mem_iff_get.mp hp
  have hprogress := hinv.progress
  rw [show (t.view s.phase).state = .returned from hreturned] at hprogress
  have hinitial : (initial i).started = true := (hinv.started i).symm.trans hstarted
  rcases hprogress.2 i hinitial with hexited | hkilled
  · exact .inl hexited
  · exact .inr ⟨t, hl.termination, i, rfl, hkilled⟩

/-- Where no attempt was made, there is no adaptor. -/
theorem StopInv.not_started_of_idle (hinv : StopInv s) (hidle : s.Idle) (k : Nat) :
    ¬ (s.phase (.caa k)).started = true := by
  have hfresh : s.phase (.caa k) = .created := hinv.numbered.fresh k (hidle.2 ▸ Nat.zero_le k)
  rw [hfresh]
  nofun

/-- The adaptors that the list of `terminate` does not have. -/
theorem StopInv.adaptor_settled (hinv : StopInv s) (hl : s.Leaving result t) {k : Nat}
    (hk : .caa k ∉ t.processes) (hstarted : (s.phase (.caa k)).started = true) :
    (s.phase (.caa k)).exited = true ∨ ∃ err, result = some (.processExit kubeletProcess.name err) := by
  by_cases hexited : (s.phase (.caa k)).exited = true
  · exact .inl hexited
  · have halive : s.adaptor.alive k = true :=
      Adaptor.alive_iff.mpr (Shutdown.running_iff.mp ⟨hstarted, hexited⟩)
    have halone := hinv.adaptor.alone
    have hreg := hl.registered
    generalize t.processes = ps at hk hreg
    cases hreg with
    | containerd hidle => exact absurd hstarted (hinv.not_started_of_idle hidle k)
    | kubelet hcaa =>
      obtain hidle | ⟨err, hstate, rfl⟩ := hcaa
      · exact absurd hstarted (hinv.not_started_of_idle hidle k)
      · rw [hstate] at halone
        obtain ⟨_, honly⟩ := halone
        have hexit := (honly k halive).2
        cases err with
        | other => exact hexit.elim
        | processExit name err =>
          obtain rfl : name = kubeletProcess.name := hexit.trans hinv.numbered.kubelet
          exact .inr ⟨err, rfl⟩
    | adaptor hcaa =>
      rw [hcaa] at halone
      obtain rfl := halone k halive
      exact absurd (by simp) hk

theorem StopInv.accounted (hinv : StopInv s) (hl : s.Leaving result t) (hreturned : t.state = .returned)
    {p : Managed} (hstarted : (s.phase p).started = true) :
    (s.phase p).exited = true ∨ s.Killed p ∨
      ∃ k err, p = .caa k ∧ result = some (.processExit kubeletProcess.name err) := by
  by_cases hp : p ∈ t.processes
  · exact (hl.settled hreturned hp hstarted).imp id .inl
  · cases p with
    | caa k =>
      refine (hinv.adaptor_settled hl hp hstarted).imp id fun ⟨err, herr⟩ => ?_
      exact .inr ⟨k, err, rfl, herr⟩
    | containerd =>
      have hreg := hl.registered
      generalize t.processes = ps at hp hreg
      cases hreg with
      | containerd | kubelet | adaptor => exact absurd List.mem_cons_self hp
    | kubelet =>
      have hreg := hl.registered
      generalize t.processes = ps at hp hreg
      cases hreg with
      | containerd hidle hkubelet =>
        rw [show s.phase .kubelet = .created from hkubelet] at hstarted
        cases hstarted
      | kubelet | adaptor => exact absurd (by simp) hp

theorem Untouched.not_started (hinv : StopInv s) (h : s.Untouched) (p : Managed) :
    ¬ (s.phase p).started = true := by
  cases p with
  | containerd =>
    rw [show s.phase .containerd = .created from h.containerd]
    nofun
  | kubelet =>
    rw [show s.phase .kubelet = .created from h.kubelet]
    nofun
  | caa k => exact hinv.not_started_of_idle h.idle k

/-! ### A node that is stopped -/

namespace Sample

def environment : Environment where
  getenv name := if name = "PEER_POD_NODE_KUBELET_CONFIG" then "/etc/kubelet.yaml" else ""
  osHostname := some "node"
  parseIP _ := false

def runs (n : Nat) (answer : NodeAnswer) : List NodeLabel := List.replicate n (.run answer)

/-- Everything is started. -/
def startSteps : List NodeLabel :=
  List.flatten [runs 9 .ok, runs 1 .notExist, runs 3 .ok, [.containerdSocket true], runs 2 .ok,
    runs 1 (.content []), runs 1 (.choose .next), [.hypervisorSocket true], runs 2 (.choose .next)]

/-- A signal arrives; the adaptor exits on SIGTERM, the others do not. -/
def stopSteps : List NodeLabel :=
  List.flatten [[.signal], runs 1 (.choose .done), runs 1 .ok, runs 4 (.choose .next),
    [.proceed (.caa 0) none, .proceed (.caa 0) none], runs 1 (.choose .next), [.expire],
    runs 1 (.choose .deadline), runs 7 (.choose .next),
    runs 1 (.netns ⟨.ok [], fun _ => none, fun _ => none⟩ { present := [] })]

end Sample

/-- **What a node leaves behind.** In every run, when `run` has returned: every process that was ever
started has exited or was sent SIGKILL by `terminate` while alive, but for an adaptor where the result is
the exit of the kubelet; the health server is down; if anything was started, the network namespaces were
cleaned up; and a result without an error says that the context was cancelled, an exit that a process of
this name has exited with this error. -/
theorem node_leaves_no_process (e : Environment) (containerdSocket hypervisorSocket : Bool)
    {ls : List NodeLabel} {s : Supervisor}
    (hrun : Run (step e) (fun _ _ => True) (Supervisor.start containerdSocket hypervisorSocket) ls s)
    (result : Option NodeError) (hreturned : s.state = .returned result) :
    (∀ p, (s.phase p).started = true → (s.phase p).exited = true ∨ s.Killed p ∨
      ∃ k err, p = .caa k ∧ result = some (.processExit kubeletProcess.name err)) ∧
    s.serving = false ∧
    (∀ p, (s.phase p).started = true → ∃ failure, .cleaned failure ∈ s.history) ∧
    s.Explained result := by
  have hinv : StopInv s := hrun.invariant StopInv (fun _ _ _ hinv _ h => hinv.step (moves h))
    (.start containerdSocket hypervisorSocket)
  have hstanding := hinv.standing
  rw [hreturned] at hstanding
  obtain ⟨hexplained, huntouched | ⟨⟨t, hl, hstate⟩, hcleaned⟩⟩ := hstanding
  · have hnone (p : Managed) := huntouched.not_started hinv p
    exact ⟨fun p hp => absurd hp (hnone p), huntouched.serving, fun p hp => absurd hp (hnone p), hexplained⟩
  · exact ⟨fun p hp => hinv.accounted hl hstate hp, hl.serving, fun _ _ => hcleaned, hexplained⟩

theorem stopped_node_leaves_no_process :
    ∃ s, Run (step Sample.environment) (fun _ _ => True) (Supervisor.start false false)
        (Sample.startSteps ++ Sample.stopSteps) s ∧
      s.state = .returned none ∧ s.Killed .kubelet ∧ s.serving = false ∧ .cancelled ∈ s.history := by
  have hcheck : (checkRun (step Sample.environment) (fun _ _ => True) (Supervisor.start false false)
      (Sample.startSteps ++ Sample.stopSteps)).any
        (fun s => s.state = .returned none ∧ s.phase .kubelet = .running) = true := by
    decide +kernel
  obtain ⟨s, hrun, hstate, hkubelet⟩ := Run.exists_of_checkRun _ hcheck
  obtain ⟨hprocesses, hserving, -, hexplained⟩ := node_leaves_no_process _ _ _ hrun none hstate
  refine ⟨s, hrun, hstate, ?_, hserving, hexplained⟩
  obtain hexited | hkilled | ⟨k, err, hk, -⟩ := hprocesses .kubelet (by rw [hkubelet]; rfl)
  · rw [hkubelet] at hexited
    cases hexited
  · exact hkilled
  · cases hk

end Supervisor

end SandboxProvider.Node
