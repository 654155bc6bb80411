import SandboxProvider.Runner.Bridge

/-!
# What a bridge delivers

As long as no read and no write fails, a copy loop delivers its stream in order, and all of it before
it signals (`Bridge.CopyInv`). The main routine closes both connections after the first signal, though,
so what the other loop has not delivered by then is lost: with a half-close by one peer, the rest of
the other peer's stream. Nothing is lost in the runs in which both copies have ended before the main
routine comes to close a connection (`Bridge.WaitsForBoth`), with or without a half-close.
-/

namespace SandboxProvider.Runner.Bridge

open Lib

/-- No read and no write fails before the main routine closes the connections. -/
def Undisturbed (b : Bridge) : BridgeLabel → Prop
  | .readFail _ | .writeFail _ _ => b.main.allOpen = false
  | _ => True

instance (b : Bridge) : (l : BridgeLabel) → Decidable (b.Undisturbed l)
  | .readFail _ | .writeFail _ _ => inferInstanceAs (Decidable (b.main.allOpen = false))
  | .send .. | .finish _ | .read .. | .write _ | .closeWrite _ | .signal _ | .receive
  | .closeUpstream | .closeConnection => isTrue trivial

/-- Besides, the main routine closes nothing before both copies have ended. -/
def WaitsForBoth (b : Bridge) : BridgeLabel → Prop
  | .closeUpstream =>
    (b.direction .connection).loop.isOver = true ∧ (b.direction .upstream).loop.isOver = true
  | l => b.Undisturbed l

instance (b : Bridge) : (l : BridgeLabel) → Decidable (b.WaitsForBoth l)
  | .closeUpstream => inferInstanceAs (Decidable (_ ∧ _))
  | .readFail _ | .writeFail _ _ => inferInstanceAs (Decidable (b.main.allOpen = false))
  | .send .. | .finish _ | .read .. | .write _ | .closeWrite _ | .signal _ | .receive
  | .closeConnection => isTrue trivial

theorem WaitsForBoth.undisturbed {b : Bridge} {l : BridgeLabel} (h : b.WaitsForBoth l) :
    b.Undisturbed l := by
  cases l with
  | closeUpstream => trivial
  | _ => exact h

/-- What was delivered is a prefix of the stream; while the loop copies, the rest of the stream is in
its hands, before it, or not sent yet. -/
inductive Progress (d : Direction) : Prop
  | copying (h : d.loop.isOver = false)
      (hstream : d.stream = d.delivered ++ d.loop.inHand ++ d.buffered ++ d.unsent)
  | stopped (h : d.loop.isOver = true) (hle : d.delivered <+: d.stream)

theorem Progress.delivered_le {d : Direction} (h : Progress d) : d.delivered <+: d.stream := by
  cases h with
  | copying _ hstream =>
    refine ⟨d.loop.inHand ++ d.buffered ++ d.unsent, ?_⟩
    rw [hstream]
    simp only [List.append_assoc]
  | stopped _ hle => exact hle

/-- The peer of the source has ended its stream, and all of it was delivered. -/
def Complete (d : Direction) : Prop := d.ended = true ∧ d.delivered = d.stream

/-- Without failures, every loop delivers in order, and it ends with its stream delivered. -/
structure CopyInv (b : Bridge) : Prop where
  progress : ∀ s, Progress (b.direction s)
  complete : b.main.allOpen = true → ∀ s, (b.direction s).loop.isOver = true →
    Complete (b.direction s)
  ended : ∀ s, (b.direction s).ended = true → (b.direction s).unsent = []

section Loop

variable {b : Bridge} {s : Conn} {d d' : Direction} {l : BridgeLabel}

/-- A loop only adds to what it delivered. -/
theorem LoopMove.delivered (h : LoopMove b s d l d') :
    d'.stream = d.stream ∧ d.delivered <+: d'.delivered := by
  cases h with
  | write => exact ⟨rfl, List.prefix_append _ _⟩
  | writeFail => exact ⟨rfl, List.prefix_append _ _⟩
  | _ => exact ⟨rfl, List.prefix_refl _⟩

theorem LoopMove.progress (h : LoopMove b s d l d') (hd : Progress d) : Progress d' := by
  cases h with
  | send =>
    cases hd with
    | copying hover hstream =>
      refine .copying hover ?_
      simp only [hstream, List.append_assoc, List.take_append_drop]
    | stopped hover hle => exact .stopped hover hle
  | finish =>
    cases hd with
    | copying hover hstream => exact .copying hover hstream
    | stopped hover hle => exact .stopped hover hle
  | read hloop =>
    cases hd with
    | copying hover hstream =>
      refine .copying rfl ?_
      rw [hloop] at hstream
      simp only [CopyState.inHand, List.append_nil] at hstream ⊢
      rw [hstream, List.append_assoc d.delivered (List.take _ _), List.take_append_drop]
    | stopped hover =>
      rw [hloop] at hover
      cases hover
  | write hloop =>
    cases hd with
    | copying hover hstream =>
      refine .copying rfl ?_
      rw [hloop] at hstream
      simp only [CopyState.inHand, List.append_nil] at hstream ⊢
      exact hstream
    | stopped hover =>
      rw [hloop] at hover
      cases hover
  | @writeFail chunk n hloop =>
    refine .stopped rfl ?_
    cases hd with
    | copying hover hstream =>
      rw [hloop] at hstream
      refine ⟨chunk.drop n ++ d.buffered ++ d.unsent, ?_⟩
      simp only [CopyState.inHand] at hstream
      rw [hstream]
      simp only [List.append_assoc]
      rw [← List.append_assoc (chunk.take n), List.take_append_drop]
    | stopped hover =>
      rw [hloop] at hover
      cases hover
  | _ => exact .stopped rfl hd.delivered_le

/-- A loop that ends without a failure has seen the EOF with nothing before it. -/
theorem LoopMove.complete (h : LoopMove b s d l d') (hok : b.Undisturbed l)
    (hopen : b.main.allOpen = true) (hd : Progress d)
    (hended : d.ended = true → d.unsent = []) (hcomplete : d.loop.isOver = true → Complete d)
    (hover : d'.loop.isOver = true) : Complete d' := by
  cases h with
  | send hunsent =>
    obtain ⟨hend, -⟩ := hcomplete hover
    exact absurd (hended hend) hunsent
  | finish => exact ⟨rfl, (hcomplete hover).2⟩
  | read => cases hover
  | write => cases hover
  | readFail =>
    rw [show b.main.allOpen = false from hok] at hopen
    cases hopen
  | writeFail =>
    rw [show b.main.allOpen = false from hok] at hopen
    cases hopen
  | closeWrite hloop => exact hcomplete (by rw [hloop]; rfl)
  | eof hloop hbuffered hend =>
    refine ⟨hend, ?_⟩
    cases hd with
    | copying _ hstream =>
      rw [hloop, hbuffered, hended hend] at hstream
      simpa [CopyState.inHand] using hstream.symm
    | stopped hover' =>
      rw [hloop] at hover'
      cases hover'

theorem LoopMove.ended (h : LoopMove b s d l d') (hended : d.ended = true → d.unsent = []) :
    d'.ended = true → d'.unsent = [] := by
  cases h with
  | send hunsent =>
    intro hend
    exact absurd (hended hend) hunsent
  | finish hunsent => exact fun _ => hunsent
  | _ => exact hended

end Loop

section Invariant

variable {b b' : Bridge} {l : BridgeLabel}

theorem CopyInv.start (streams : Conn → List UInt8) (tcp : Conn → Bool) :
    CopyInv (Bridge.start streams tcp) where
  progress s := .copying rfl (by simp [Bridge.start, Direction.start, CopyState.inHand])
  complete _ s hover := by cases hover
  ended s hend := by cases hend

/-- A property of every direction, after one of them was replaced. -/
theorem forall_set {P : Conn → Direction → Prop} (h : ∀ s, P s (b.direction s)) {s : Conn}
    {d : Direction} (hd : P s d) : ∀ t, P t ((b.set s d).direction t) := by
  intro t
  by_cases ht : t = s
  · subst ht
    rw [direction_set_self]
    exact hd
  · rw [direction_set_ne b d ht]
    exact h t

theorem CopyInv.step (hinv : CopyInv b) (hok : b.Undisturbed l) (h : Moves b l b') :
    CopyInv b' := by
  cases h with
  | @loop _ s d hloop =>
    refine ⟨?_, fun hopen => ?_, ?_⟩
    · exact forall_set (P := fun _ d => Progress d) hinv.progress
        (hloop.progress (hinv.progress s))
    · refine forall_set (P := fun _ d => d.loop.isOver = true → Complete d) (hinv.complete hopen) ?_
      exact hloop.complete hok hopen (hinv.progress s) (hinv.ended s) (hinv.complete hopen s)
    · exact forall_set (P := fun _ d => d.ended = true → d.unsent = []) hinv.ended
        (hloop.ended (hinv.ended s))
  | @signal s hloop =>
    have hover : (b.direction s).loop.isOver = true := by rw [hloop]; rfl
    refine ⟨?_, fun hopen => ?_, ?_⟩
    · exact forall_set (P := fun _ d => Progress d) hinv.progress
        (.stopped rfl (hinv.progress s).delivered_le)
    · refine forall_set (P := fun _ d => d.loop.isOver = true → Complete d) (hinv.complete hopen) ?_
      exact fun _ => hinv.complete hopen s hover
    · exact forall_set (P := fun _ d => d.ended = true → d.unsent = []) hinv.ended (hinv.ended s)
  | receive hmain => exact ⟨hinv.progress, fun _ => hinv.complete (by rw [hmain]; rfl), hinv.ended⟩
  | closeUpstream => exact ⟨hinv.progress, fun hopen => (by cases hopen), hinv.ended⟩
  | closeConnection => exact ⟨hinv.progress, fun hopen => (by cases hopen), hinv.ended⟩

/-- A step changes no stream and takes nothing back. -/
theorem Moves.grows (h : Moves b l b') (s : Conn) :
    (b'.direction s).stream = (b.direction s).stream ∧
      (b.direction s).delivered <+: (b'.direction s).delivered := by
  have hsame (t : Conn) : (b.direction t).stream = (b.direction t).stream ∧
      (b.direction t).delivered <+: (b.direction t).delivered := ⟨rfl, List.prefix_refl _⟩
  cases h with
  | @loop _ t d hloop =>
    exact forall_set (P := fun s d => d.stream = (b.direction s).stream ∧
      (b.direction s).delivered <+: d.delivered) hsame hloop.delivered s
  | @signal t hloop =>
    exact forall_set (P := fun s d => d.stream = (b.direction s).stream ∧
      (b.direction s).delivered <+: d.delivered) hsame (d := { b.direction t with loop := .signalled })
      (hsame t) s
  | receive => exact hsame s
  | closeUpstream => exact hsame s
  | closeConnection => exact hsame s

/-- What was delivered completely stays so. -/
theorem Moves.delivered_all (h : Moves b l b') (hinv : CopyInv b') {s : Conn}
    (hs : (b.direction s).delivered = (b.direction s).stream) :
    (b'.direction s).delivered = (b'.direction s).stream := by
  obtain ⟨hstream, hle⟩ := h.grows s
  rw [hs, ← hstream] at hle
  exact (hinv.progress s).delivered_le.eq_of_length_le hle.length_le

/-- The main routine begins to close the connections in one place. -/
theorem Moves.closing (h : Moves b l b') (hclosed : b'.main.allOpen = false) :
    b.main.allOpen = false ∨ (l = .closeUpstream ∧ b.main.allOpen = true) := by
  cases h with
  | loop => exact .inl hclosed
  | signal => exact .inl hclosed
  | receive => cases hclosed
  | closeUpstream hmain => exact .inr ⟨rfl, by rw [hmain]; rfl⟩
  | closeConnection hmain =>
    rw [hmain]
    exact .inl rfl

/-- Once a connection is closed, both streams were delivered. -/
structure BridgeInv (b : Bridge) : Prop where
  copy : CopyInv b
  closed : b.main.allOpen = false → ∀ s, (b.direction s).delivered = (b.direction s).stream

theorem BridgeInv.start (streams : Conn → List UInt8) (tcp : Conn → Bool) :
    BridgeInv (Bridge.start streams tcp) where
  copy := .start streams tcp
  closed h := by cases h

theorem BridgeInv.step (hinv : BridgeInv b) (hok : b.WaitsForBoth l) (h : Moves b l b') :
    BridgeInv b' := by
  have hcopy := hinv.copy.step hok.undisturbed h
  refine ⟨hcopy, fun hclosed s => h.delivered_all hcopy ?_⟩
  rcases h.closing hclosed with hclosed | ⟨rfl, hopen⟩
  · exact hinv.closed hclosed s
  · -- both loops have ended, and a loop ends with its stream delivered
    cases s with
    | connection => exact (hinv.copy.complete hopen .connection hok.1).2
    | upstream => exact (hinv.copy.complete hopen .upstream hok.2).2

end Invariant

section Runs

variable {streams : Conn → List UInt8} {tcp : Conn → Bool} {ls : List BridgeLabel} {b : Bridge}

theorem stream_of_run {ok : Bridge → BridgeLabel → Prop}
    (h : Run step ok (start streams tcp) ls b) (s : Conn) : (b.direction s).stream = streams s := by
  refine h.invariant (fun b => (b.direction s).stream = streams s) ?_ rfl
  intro b l b' hstream _ hstep
  rw [((moves hstep).grows s).1]
  exact hstream

/-- Without failures nothing is reordered, doubled or made up, and what the loop that ended first had
to deliver is delivered. -/
theorem delivered_of_undisturbed (h : Run step Undisturbed (start streams tcp) ls b) (s : Conn) :
    (b.direction s).delivered <+: streams s ∧
      (b.main.allOpen = true → (b.direction s).loop.isOver = true →
        (b.direction s).delivered = streams s) := by
  have hinv := h.invariant CopyInv (fun b l b' hi hok hstep => hi.step hok (moves hstep))
    (.start streams tcp)
  rw [← stream_of_run h s]
  exact ⟨(hinv.progress s).delivered_le, fun hopen hover => (hinv.complete hopen s hover).2⟩

end Runs

/-- When the main routine closes the connections, each peer has been sent the whole stream of the other
one, if both copies have ended by then. -/
theorem bridge_delivers_streams (streams : Conn → List UInt8) (tcp : Conn → Bool)
    (ls : List BridgeLabel) (b : Bridge) (h : Run step WaitsForBoth (start streams tcp) ls b)
    (hclosed : b.main.allOpen = false) (s : Conn) : (b.direction s).delivered = streams s := by
  have hinv := h.invariant BridgeInv (fun b l b' hi hok hstep => hi.step hok (moves hstep))
    (.start streams tcp)
  rw [← stream_of_run h s]
  exact hinv.closed hclosed s

/-- The agent asks over the connection, and the upstream answers. -/
def sampleStreams : Conn → List UInt8
  | .connection => [1]
  | .upstream => [2, 3]

/-- The connection's peer half-closes after its request, and the signal of the first loop is received
after the second one has copied the answer. -/
def requestAndAnswer : List BridgeLabel :=
  [.send .connection 1, .finish .connection, .read .connection 512, .write .connection,
    .read .connection 512, .closeWrite .connection, .signal .connection,
    .send .upstream 1, .read .upstream 512, .send .upstream 1, .write .upstream,
    .read .upstream 512, .write .upstream, .finish .upstream, .read .upstream 512,
    .receive, .closeUpstream]

theorem bridge_delivers_answer :
    ∃ b, Run step WaitsForBoth (start sampleStreams fun _ => true) requestAndAnswer b ∧
      b.main = .upstreamClosed ∧ ∀ s, (b.direction s).delivered = sampleStreams s := by
  obtain ⟨b, hrun, hmain⟩ := Run.exists_of_checkRun (fun b : Bridge => b.main = .upstreamClosed)
    (show (checkRun step WaitsForBoth (start sampleStreams fun _ => true) requestAndAnswer).any _ =
      true by decide +kernel)
  refine ⟨b, hrun, hmain, bridge_delivers_streams _ _ _ _ hrun ?_⟩
  rw [hmain]
  rfl

/-- The connection's peer half-closes after its request. The whole answer waits at the bridge when the
main routine closes the connections. -/
def halfCloseRun : List BridgeLabel :=
  [.send .connection 1, .finish .connection, .read .connection 512, .write .connection,
    .read .connection 512, .closeWrite .connection, .send .upstream 2, .finish .upstream,
    .signal .connection, .receive, .closeUpstream, .closeConnection]

theorem bridge_cuts_answer_after_half_close :
    ∃ b, Run step Undisturbed (start sampleStreams fun _ => true) halfCloseRun b ∧
      b.main = .closed ∧ (b.direction .upstream).ended = true ∧
      (b.direction .upstream).buffered = [2, 3] ∧ (b.direction .upstream).delivered = [] :=
  Run.exists_of_checkRun (fun b : Bridge => b.main = .closed ∧
      (b.direction .upstream).ended = true ∧ (b.direction .upstream).buffered = [2, 3] ∧
      (b.direction .upstream).delivered = [])
    (show (checkRun step Undisturbed (start sampleStreams fun _ => true) halfCloseRun).any _ =
      true by decide +kernel)

end SandboxProvider.Runner.Bridge
