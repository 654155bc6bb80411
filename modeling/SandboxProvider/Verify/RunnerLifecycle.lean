import SandboxProvider.Runner.Run

/-!
# The life of a PodVM

Whatever fails on the way, `run` runs its commands in their order and starts the hypervisor only when all
of them have succeeded, the seed holds the user data and the identity of this PodVM, and both proxies are
there. When it returns, the proxies are closed and the hypervisor has exited or was to be killed, which
happens only ten seconds after a shutdown that a signal asked for.
-/

namespace SandboxProvider.Runner

open Lib FilePath

/-! ## Commands -/

def RunEvent.command : RunEvent → Option (List String)
  | .ran args _ => some args
  | _ => none

/-- The commands of a history, in order. -/
def commandsOf (history : List RunEvent) : List (List String) :=
  (history.filterMap RunEvent.command).reverse

@[simp] theorem commandsOf_ran (args : List String) (files : AList fun _ : String => String)
    (history : List RunEvent) :
    commandsOf (.ran args files :: history) = commandsOf history ++ [args] := by
  simp [commandsOf, RunEvent.command]

/-- The commands before the one of the seed. -/
def Options.overlay (opts : Options) : List (List String) :=
  if opts.kernelPath = "" then [opts.overlayCommand] else []

/-- All commands of `run`. -/
def Options.commands (opts : Options) : List (List String) :=
  opts.overlay ++ opts.seedCommand.1 ::
    networkCommands primaryLink bridgeName tapName opts.networkMTU

/-! ## What is prepared -/

/-- The network state was made of random bytes that were drawn. -/
def Drawn (history : List RunEvent) (network : NetworkState) : Prop :=
  ∃ bytes dns, .drew bytes ∈ history ∧ bytes.length = 6 ∧
    network = ⟨guestAddress, gateway, dns, randomMAC bytes⟩

/-- The files of the seed. -/
structure SeedFiles (opts : Options) (network : NetworkState) (userData : String)
    (files : AList fun _ : String => String) : Prop where
  userData : files.lookup (opts.seedFile "user-data") = some userData
  metaData : files.lookup (opts.seedFile "meta-data") = some (metaData network.mac)
  networkConfig : files.lookup (opts.seedFile "network-config") =
    some (renderNetworkConfig network opts.networkMTU)

/-- The seed was made of the user data that was read and of this network state. -/
def Seeded (opts : Options) (history : List RunEvent) (network : NetworkState) : Prop :=
  ∃ userData files, .read opts.userDataPath userData ∈ history ∧
    .ran opts.seedCommand.1 files ∈ history ∧ SeedFiles opts network userData files

/-- The hypervisor may be started with these arguments. -/
def Ready (opts : Options) (past : List RunEvent) (args : List String) : Prop :=
  ∃ network, Drawn past network ∧ Seeded opts past network ∧ commandsOf past = opts.commands ∧
    .agentProxy ∈ past ∧ .httpProxy ∈ past ∧ args = opts.hypervisor network.mac

def StartsReady (opts : Options) (past : List RunEvent) : RunEvent → Prop
  | .started args => Ready opts past args
  | _ => True

theorem Drawn.cons {history : List RunEvent} {network : NetworkState} (h : Drawn history network)
    (e : RunEvent) : Drawn (e :: history) network := by
  obtain ⟨bytes, dns, hbytes, hrest⟩ := h
  exact ⟨bytes, dns, List.mem_cons_of_mem _ hbytes, hrest⟩

theorem Seeded.cons {opts : Options} {history : List RunEvent} {network : NetworkState}
    (h : Seeded opts history network) (e : RunEvent) : Seeded opts (e :: history) network := by
  obtain ⟨userData, files, hread, hran, hfiles⟩ := h
  exact ⟨userData, files, List.mem_cons_of_mem _ hread, List.mem_cons_of_mem _ hran, hfiles⟩

/-! ## The invariant -/

section Progress

variable (opts : Options) (files : AList fun _ : String => String) (history : List RunEvent)

/-- What has been done at each place of `run`. -/
def Progress : RunState → Prop
  | .mkdirState | .randomMAC => commandsOf history = []
  | .nameservers guestMAC => commandsOf history = [] ∧
      ∃ bytes, .drew bytes ∈ history ∧ bytes.length = 6 ∧ guestMAC = randomMAC bytes
  | .createOverlay network => commandsOf history = [] ∧ Drawn history network ∧ opts.kernelPath = ""
  | .mkdirSeed network | .readUserData network =>
      commandsOf history = opts.overlay ∧ Drawn history network
  | .writeUserData network userData =>
      commandsOf history = opts.overlay ∧ Drawn history network ∧
        .read opts.userDataPath userData ∈ history
  | .writeMetaData network =>
      commandsOf history = opts.overlay ∧ Drawn history network ∧
        ∃ userData, .read opts.userDataPath userData ∈ history ∧
          files.lookup (opts.seedFile "user-data") = some userData
  | .writeNetworkConfig network =>
      commandsOf history = opts.overlay ∧ Drawn history network ∧
        ∃ userData, .read opts.userDataPath userData ∈ history ∧
          files.lookup (opts.seedFile "user-data") = some userData ∧
          files.lookup (opts.seedFile "meta-data") = some (metaData network.mac)
  | .createSeed network =>
      commandsOf history = opts.overlay ∧ Drawn history network ∧
        ∃ userData, .read opts.userDataPath userData ∈ history ∧
          SeedFiles opts network userData files
  | .configure network rest =>
      commandsOf history ++ rest = opts.commands ∧ Drawn history network ∧ Seeded opts history network
  | .startAgentProxy network =>
      commandsOf history = opts.commands ∧ Drawn history network ∧ Seeded opts history network
  | .startHTTPProxy network =>
      commandsOf history = opts.commands ∧ Drawn history network ∧ Seeded opts history network ∧
        .agentProxy ∈ history
  | .removeSocket network | .startVM network =>
      commandsOf history = opts.commands ∧ Drawn history network ∧ Seeded opts history network ∧
        .agentProxy ∈ history ∧ .httpProxy ∈ history
  | .wait | .shutdown | .await _ | .kill | .closeHTTPProxy _ | .closeAgentProxy _ | .returned _ =>
      commandsOf history <+: opts.commands

variable {opts files history}

theorem overlay_prefix_commands : opts.overlay <+: opts.commands := List.prefix_append _ _

theorem Progress.commands {s : RunState} (h : Progress opts files history s) :
    commandsOf history <+: opts.commands := by
  cases s with
  | mkdirState | randomMAC =>
    rw [show commandsOf history = [] from h]
    exact List.nil_prefix
  | nameservers | createOverlay =>
    rw [h.1]
    exact List.nil_prefix
  | mkdirSeed | readUserData | writeUserData | writeMetaData | writeNetworkConfig | createSeed =>
    rw [h.1]
    exact overlay_prefix_commands
  | configure network rest => exact ⟨rest, h.1⟩
  | startAgentProxy | startHTTPProxy | removeSocket | startVM =>
    exact ⟨[], by rw [h.1, List.append_nil]⟩
  | wait | shutdown | await | kill | closeHTTPProxy | closeAgentProxy | returned => exact h

end Progress

/-- Somebody else's writes spare the files of the seed. -/
def RunnerLabel.SparesSeed (opts : Options) : RunnerLabel → Prop
  | .update path _ => path ≠ opts.seedFile "user-data" ∧ path ≠ opts.seedFile "meta-data" ∧
      path ≠ opts.seedFile "network-config"
  | _ => True

instance (opts : Options) : (l : RunnerLabel) → Decidable (l.SparesSeed opts)
  | .update path _ => inferInstanceAs (Decidable (path ≠ opts.seedFile "user-data" ∧
      path ≠ opts.seedFile "meta-data" ∧ path ≠ opts.seedFile "network-config"))
  | .run _ | .exit _ | .signal | .elapse => inferInstanceAs (Decidable True)

theorem Progress.update {opts : Options} {files : AList fun _ : String => String}
    {history : List RunEvent} {s : RunState} {path : String} (h : Progress opts files history s)
    (hpath : path ≠ opts.seedFile "user-data" ∧ path ≠ opts.seedFile "meta-data" ∧
      path ≠ opts.seedFile "network-config") (content : String) :
    Progress opts (files.insert path content) history s := by
  obtain ⟨huser, hmeta, hnetwork⟩ := hpath
  have hkeep {name : String} (hne : path ≠ name) :
      (files.insert path content).lookup name = files.lookup name :=
    AList.lookup_insert_ne (Ne.symm hne)
  cases s with
  | writeMetaData =>
    obtain ⟨hcommands, hdrawn, userData, hread, hfile⟩ := h
    exact ⟨hcommands, hdrawn, userData, hread, (hkeep huser).trans hfile⟩
  | writeNetworkConfig =>
    obtain ⟨hcommands, hdrawn, userData, hread, hfile, hmetaFile⟩ := h
    exact ⟨hcommands, hdrawn, userData, hread, (hkeep huser).trans hfile, (hkeep hmeta).trans hmetaFile⟩
  | createSeed =>
    obtain ⟨hcommands, hdrawn, userData, hread, hfiles⟩ := h
    exact ⟨hcommands, hdrawn, userData, hread, (hkeep huser).trans hfiles.userData,
      (hkeep hmeta).trans hfiles.metaData, (hkeep hnetwork).trans hfiles.networkConfig⟩
  | _ => exact h

theorem seedFile_ne (opts : Options) {name name' : String} (hname : IsName name.toList)
    (hname' : IsName name'.toList) (hne : name ≠ name') : opts.seedFile name ≠ opts.seedFile name' :=
  fun h => hne (join_injOn _ hname hname' h)

section Steps

open RunnerProcess

variable {opts : Options} {files : AList fun _ : String => String} {history : List RunEvent}

theorem Progress.pass {s s' : RunState} (hprogress : Progress opts files history s)
    (h : Passes opts s s') : Progress opts files history s' := by
  cases h with
  | mkdirState => exact hprogress
  | nameservers =>
    obtain ⟨hcommands, bytes, hdrew, hlength, rfl⟩ := hprogress
    unfold prepareDisks
    split
    · rename_i hkernel
      exact ⟨hcommands, ⟨bytes, _, hdrew, hlength, rfl⟩, hkernel⟩
    · rename_i hkernel
      refine ⟨?_, bytes, _, hdrew, hlength, rfl⟩
      rw [hcommands, Options.overlay, if_neg hkernel]
  | mkdirSeed => exact hprogress
  | configured =>
    obtain ⟨hcommands, hrest⟩ := hprogress
    exact ⟨by rw [← hcommands, List.append_nil], hrest⟩
  | removeSocket => exact hprogress

theorem Progress.command {args : List String} {s s' : RunState}
    (hprogress : Progress opts files history s) (h : Runs opts s args s') :
    Progress opts files (.ran args files :: history) s' := by
  cases h with
  | overlay =>
    obtain ⟨hcommands, hdrawn, hkernel⟩ := hprogress
    refine ⟨?_, hdrawn.cons _⟩
    rw [commandsOf_ran, hcommands, Options.overlay, if_pos hkernel]
    rfl
  | seed =>
    obtain ⟨hcommands, hdrawn, userData, hread, hfiles⟩ := hprogress
    refine ⟨?_, hdrawn.cons _, userData, files, List.mem_cons_of_mem _ hread, List.mem_cons_self,
      hfiles⟩
    rw [commandsOf_ran, hcommands, Options.commands, List.append_assoc]
    rfl
  | configure =>
    obtain ⟨hcommands, hdrawn, hseeded⟩ := hprogress
    refine ⟨?_, hdrawn.cons _, hseeded.cons _⟩
    rw [commandsOf_ran, List.append_assoc]
    exact hcommands

theorem Progress.write {path content : String} {s s' : RunState}
    (hprogress : Progress opts files history s) (h : Writes opts s path content s') :
    Progress opts (files.insert path content) history s' := by
  have huserMeta : opts.seedFile "user-data" ≠ opts.seedFile "meta-data" :=
    seedFile_ne opts (by decide) (by decide) (by decide)
  have huserNetwork : opts.seedFile "user-data" ≠ opts.seedFile "network-config" :=
    seedFile_ne opts (by decide) (by decide) (by decide)
  have hmetaNetwork : opts.seedFile "meta-data" ≠ opts.seedFile "network-config" :=
    seedFile_ne opts (by decide) (by decide) (by decide)
  cases h with
  | userData =>
    obtain ⟨hcommands, hdrawn, hread⟩ := hprogress
    exact ⟨hcommands, hdrawn, _, hread, AList.lookup_insert _⟩
  | metaData =>
    obtain ⟨hcommands, hdrawn, userData, hread, hfile⟩ := hprogress
    exact ⟨hcommands, hdrawn, userData, hread, (AList.lookup_insert_ne huserMeta).trans hfile,
      AList.lookup_insert _⟩
  | networkConfig =>
    obtain ⟨hcommands, hdrawn, userData, hread, hfile, hmeta⟩ := hprogress
    exact ⟨hcommands, hdrawn, userData, hread, (AList.lookup_insert_ne huserNetwork).trans hfile,
      (AList.lookup_insert_ne hmetaNetwork).trans hmeta, AList.lookup_insert _⟩

end Steps

namespace RunnerProcess

variable {parseIP : String → Bool} {opts : Options} {r r' : RunnerProcess}

structure Inv (opts : Options) (r : RunnerProcess) : Prop where
  progress : Progress opts r.files r.history r.state
  starts : Historically (StartsReady opts) r.history

/-- `run` returns, from wherever it is. -/
theorem progress_leave {err : Option String} (h : commandsOf r.history <+: opts.commands) :
    Progress opts (r.leave err).files (r.leave err).history (r.leave err).state := by
  unfold leave
  dsimp only
  split
  · exact h
  · split
    · exact h
    · exact h

namespace Inv

theorem start (opts : Options) (files : AList fun _ : String => String) :
    Inv opts (RunnerProcess.start opts files) where
  progress := by
    unfold RunnerProcess.start
    dsimp only
    split
    · exact List.nil_prefix
    · rfl
  starts := trivial

theorem move (hinv : Inv opts r) (h : Move opts r r') : Inv opts r' := by
  obtain ⟨hprogress, hstarts⟩ := hinv
  cases h with
  | pass h => exact ⟨hprogress.pass h, hstarts⟩
  | command h => exact ⟨hprogress.command h, trivial, hstarts⟩
  | write h => exact ⟨hprogress.write h, hstarts⟩
  | @drew bytes h hbytes =>
    rw [h] at hprogress
    have hcommands : commandsOf (.drew bytes :: r.history) = [] := hprogress
    exact ⟨⟨hcommands, bytes, List.mem_cons_self, hbytes, rfl⟩, trivial, hstarts⟩
  | read h hread =>
    rw [h] at hprogress
    obtain ⟨hcommands, hdrawn⟩ := hprogress
    exact ⟨⟨hcommands, hdrawn.cons _, List.mem_cons_self⟩, trivial, hstarts⟩
  | agentProxy h =>
    rw [h] at hprogress
    obtain ⟨hcommands, hdrawn, hseeded⟩ := hprogress
    exact ⟨⟨hcommands, hdrawn.cons _, hseeded.cons _, List.mem_cons_self⟩, trivial, hstarts⟩
  | httpProxy h =>
    rw [h] at hprogress
    obtain ⟨hcommands, hdrawn, hseeded, hagent⟩ := hprogress
    exact ⟨⟨hcommands, hdrawn.cons _, hseeded.cons _, List.mem_cons_of_mem _ hagent,
      List.mem_cons_self⟩, trivial, hstarts⟩
  | @started network h =>
    rw [h] at hprogress
    obtain ⟨hcommands, hdrawn, hseeded, hagent, hhttp⟩ := hprogress
    have hready : Ready opts r.history (opts.hypervisor network.mac) :=
      ⟨network, hdrawn, hseeded, hcommands, hagent, hhttp, rfl⟩
    have hall : commandsOf (.started (opts.hypervisor network.mac) :: r.history) = opts.commands :=
      hcommands
    refine ⟨⟨[], ?_⟩, hready, hstarts⟩
    rw [hall, List.append_nil]
  | failed h => exact ⟨progress_leave hprogress.commands, hstarts⟩
  | signalled h => exact ⟨hprogress.commands, trivial, hstarts⟩
  | shutdown h => exact ⟨hprogress.commands, trivial, hstarts⟩
  | exited h hvm => exact ⟨progress_leave hprogress.commands, hstarts⟩
  | expired h htime => exact ⟨hprogress.commands, hstarts⟩
  | @killed err h =>
    have hcommands : commandsOf (.killed r.now err :: r.history) <+: opts.commands :=
      hprogress.commands
    exact ⟨progress_leave hcommands, trivial, hstarts⟩
  | httpProxyClosed h => exact ⟨hprogress.commands, hstarts⟩
  | agentProxyClosed h => exact ⟨hprogress.commands, hstarts⟩

theorem step (hinv : Inv opts r) {l : RunnerLabel} (hok : l.SparesSeed opts) (h : Moves opts r l r') :
    Inv opts r' := by
  cases h with
  | run h => exact hinv.move h
  | exit h => exact ⟨hinv.progress, hinv.starts⟩
  | signal => exact ⟨hinv.progress, hinv.starts⟩
  | elapse => exact ⟨hinv.progress, hinv.starts⟩
  | update => exact ⟨hinv.progress.update hok _, hinv.starts⟩

end Inv

/-! ## The end of a run -/

/-- The hypervisor is not left behind. -/
def Gone (r : RunnerProcess) : Prop := r.vm = .running → ∃ time err, .killed time err ∈ r.history

/-- The proxies, the hypervisor and the shutdown at each place of `run`. -/
def Standing (r : RunnerProcess) : RunState → Prop
  | .startHTTPProxy _ => r.vm = .absent ∧ r.agentProxy = true
  | .removeSocket _ | .startVM _ => r.vm = .absent ∧ r.agentProxy = true ∧ r.httpProxy = true
  | .wait => r.agentProxy = true ∧ r.httpProxy = true
  | .shutdown => r.agentProxy = true ∧ r.httpProxy = true ∧ .signalled ∈ r.history
  | .await deadline => r.agentProxy = true ∧ r.httpProxy = true ∧ .signalled ∈ r.history ∧
      ∃ time, .shutdown time ∈ r.history ∧ time + 10 = deadline
  | .kill => r.agentProxy = true ∧ r.httpProxy = true ∧ .signalled ∈ r.history ∧
      ∃ time, .shutdown time ∈ r.history ∧ time + 10 ≤ r.now
  | .closeHTTPProxy _ => r.Gone
  | .closeAgentProxy _ => r.httpProxy = false ∧ r.Gone
  | .returned _ => r.agentProxy = false ∧ r.httpProxy = false ∧ r.Gone
  | _ => r.vm = .absent

/-- A kill comes after a signal, and ten seconds after a shutdown. -/
def KillsLate (past : List RunEvent) : RunEvent → Prop
  | .killed time _ => .signalled ∈ past ∧ ∃ shutdown, .shutdown shutdown ∈ past ∧ shutdown + 10 ≤ time
  | _ => True

structure StopInv (r : RunnerProcess) : Prop where
  standing : r.Standing r.state
  kills : Historically KillsLate r.history

/-- `run` returns, once the hypervisor is gone. -/
theorem standing_leave {err : Option String} (h : r.Gone) :
    (r.leave err).Standing (r.leave err).state := by
  unfold leave
  dsimp only
  split
  · exact h
  · rename_i hhttp
    split
    · exact ⟨by simpa using hhttp, h⟩
    · rename_i hagent
      exact ⟨by simpa using hagent, by simpa using hhttp, h⟩

theorem gone_of_absent (h : r.vm = .absent) : r.Gone := by
  intro hvm
  rw [h] at hvm
  cases hvm

theorem Standing.absent {s : RunState} (h : r.Standing s) (hs : s.preparing = true) :
    r.vm = .absent := by
  cases s with
  | startHTTPProxy | removeSocket | startVM => exact h.1
  | wait | shutdown | await | kill | closeHTTPProxy | closeAgentProxy | returned => cases hs
  | _ => exact h

theorem Standing.proxies {s : RunState} (h : r.Standing s) (hs : s.supervising = true) :
    r.agentProxy = true ∧ r.httpProxy = true := by
  cases s with
  | wait => exact h
  | shutdown | await | kill => exact ⟨h.1, h.2.1⟩
  | _ => cases hs

theorem Standing.pass {s s' : RunState} (h : r.Standing s) (hpass : Passes opts s s') :
    r.Standing s' := by
  cases hpass with
  | nameservers =>
    unfold prepareDisks
    split
    · exact h
    · exact h
  | mkdirState | mkdirSeed | configured | removeSocket => exact h

theorem Standing.command {s s' : RunState} {args : List String} (h : r.Standing s)
    (hruns : Runs opts s args s') : (r.ran args s').Standing s' := by
  cases hruns with
  | overlay | seed | configure => exact h

theorem Standing.write {s s' : RunState} {path content : String} (h : r.Standing s)
    (hwrites : Writes opts s path content s') : (r.write path content s').Standing s' := by
  cases hwrites with
  | userData | metaData | networkConfig => exact h

theorem StopInv.start (opts : Options) (files : AList fun _ : String => String) :
    StopInv (RunnerProcess.start opts files) where
  standing := by
    unfold RunnerProcess.start
    dsimp only
    split
    · exact ⟨rfl, rfl, gone_of_absent rfl⟩
    · rfl
  kills := trivial

theorem StopInv.move (hinv : StopInv r) (h : Move opts r r') : StopInv r' := by
  obtain ⟨hstanding, hkills⟩ := hinv
  cases h with
  | pass h => exact ⟨hstanding.pass h, hkills⟩
  | command h => exact ⟨hstanding.command h, trivial, hkills⟩
  | write h => exact ⟨hstanding.write h, hkills⟩
  | drew h hbytes =>
    rw [h] at hstanding
    exact ⟨hstanding, trivial, hkills⟩
  | read h hread =>
    rw [h] at hstanding
    exact ⟨hstanding, trivial, hkills⟩
  | agentProxy h =>
    rw [h] at hstanding
    exact ⟨⟨hstanding, rfl⟩, trivial, hkills⟩
  | httpProxy h =>
    rw [h] at hstanding
    exact ⟨⟨hstanding.1, hstanding.2, rfl⟩, trivial, hkills⟩
  | started h =>
    rw [h] at hstanding
    exact ⟨hstanding.2, trivial, hkills⟩
  | failed h => exact ⟨standing_leave (gone_of_absent (hstanding.absent h)), hkills⟩
  | signalled h =>
    rw [h] at hstanding
    exact ⟨⟨hstanding.1, hstanding.2, List.mem_cons_self⟩, trivial, hkills⟩
  | shutdown h =>
    rw [h] at hstanding
    obtain ⟨hagent, hhttp, hsignalled⟩ := hstanding
    exact ⟨⟨hagent, hhttp, List.mem_cons_of_mem _ hsignalled, r.now, List.mem_cons_self, rfl⟩, trivial,
      hkills⟩
  | exited h hvm =>
    refine ⟨standing_leave fun hrunning => ?_, hkills⟩
    rw [hvm] at hrunning
    cases hrunning
  | expired h htime =>
    rw [h] at hstanding
    obtain ⟨hagent, hhttp, hsignalled, time, hshutdown, rfl⟩ := hstanding
    exact ⟨⟨hagent, hhttp, hsignalled, time, hshutdown, htime⟩, hkills⟩
  | @killed err h =>
    rw [h] at hstanding
    obtain ⟨-, -, hsignalled, time, hshutdown, htime⟩ := hstanding
    refine ⟨standing_leave fun _ => ⟨r.now, err, List.mem_cons_self⟩, ?_⟩
    exact ⟨⟨hsignalled, time, hshutdown, htime⟩, hkills⟩
  | httpProxyClosed h =>
    rw [h] at hstanding
    exact ⟨⟨rfl, hstanding⟩, hkills⟩
  | agentProxyClosed h =>
    rw [h] at hstanding
    exact ⟨⟨rfl, hstanding⟩, hkills⟩

theorem StopInv.exit (hinv : StopInv r) (hvm : r.vm = .running) (err : Option String) :
    StopInv { r with vm := .exited err } where
  standing := by
    have hstanding := hinv.standing
    have hgone : Gone { r with vm := .exited err } := by
      intro hrunning
      cases hrunning
    have hnot (hs : r.state.preparing = true) : False := by
      rw [hstanding.absent hs] at hvm
      cases hvm
    change Standing { r with vm := .exited err } r.state
    generalize r.state = s at hstanding hnot
    cases s with
    | wait | shutdown | await | kill => exact hstanding
    | closeHTTPProxy => exact hgone
    | closeAgentProxy => exact ⟨hstanding.1, hgone⟩
    | returned => exact ⟨hstanding.1, hstanding.2.1, hgone⟩
    | _ => exact (hnot rfl).elim
  kills := hinv.kills

theorem StopInv.elapse (hinv : StopInv r) : StopInv { r with now := r.now + 1 } where
  standing := by
    have hstanding := hinv.standing
    change Standing { r with now := r.now + 1 } r.state
    generalize r.state = s at hstanding
    cases s with
    | kill =>
      obtain ⟨hagent, hhttp, hsignalled, time, hshutdown, htime⟩ := hstanding
      exact ⟨hagent, hhttp, hsignalled, time, hshutdown, Nat.le_succ_of_le htime⟩
    | _ => exact hstanding
  kills := hinv.kills

theorem StopInv.step (hinv : StopInv r) {l : RunnerLabel} (h : Moves opts r l r') : StopInv r' := by
  cases h with
  | run h => exact hinv.move h
  | exit h => exact hinv.exit h _
  | signal => exact ⟨hinv.standing, hinv.kills⟩
  | elapse => exact hinv.elapse
  | update => exact ⟨hinv.standing, hinv.kills⟩

end RunnerProcess

open RunnerProcess

/-! ## A PodVM that does not stop -/

namespace Sample

def options : Options where
  imageDir := "/image"
  configDir := "/config"

def files : AList fun _ : String => String :=
  ((∅ : AList fun _ : String => String).insert "/config/userdata" "cloud-config").insert
    resolvConf "nameserver 10.96.0.10\n"

/-- Every operation succeeds, up to the start of the hypervisor. -/
def untilStarted (opts : Options) : List RunnerLabel :=
  [.run .ok, .run (.random [0, 1, 2, 3, 4, 5])] ++
    List.replicate (11 + opts.commands.length) (.run .ok)

/-- A signal arrives, and the hypervisor does not exit. -/
def untilKilled : List RunnerLabel :=
  untilStarted options ++ [.signal, .run .signal, .run .ok] ++ List.replicate 10 .elapse ++
    [.run .timeout, .run .ok, .run .ok, .run .ok]

end Sample

/-- **The hypervisor starts when everything is prepared.** In every run the commands are run in their
order, and before the hypervisor is started all of them have succeeded, both proxies listen, and the seed
was made of the user data of the config directory and of the MAC address that the hypervisor gets. -/
theorem vm_starts_prepared (parseIP : String → Bool) (opts : Options)
    (files : AList fun _ : String => String) {ls : List RunnerLabel} {r : RunnerProcess}
    (hrun : Run (RunnerProcess.step parseIP opts) (fun _ l => l.SparesSeed opts)
      (RunnerProcess.start opts files) ls r) :
    commandsOf r.history <+: opts.commands ∧ Historically (StartsReady opts) r.history := by
  have hinv : Inv opts r := hrun.invariant _ (fun _ _ _ hinv hok h => hinv.step hok (moves h))
    (.start opts files)
  exact ⟨hinv.progress.commands, hinv.starts⟩

theorem sample_vm_starts_prepared :
    ∃ r, Run (RunnerProcess.step (fun _ => true) Sample.options)
        (fun _ l => l.SparesSeed Sample.options) (RunnerProcess.start Sample.options Sample.files)
        (Sample.untilStarted Sample.options) r ∧
      r.vm = .running ∧ Historically (StartsReady Sample.options) r.history := by
  have hcheck : (checkRun (RunnerProcess.step (fun _ => true) Sample.options)
      (fun _ l => l.SparesSeed Sample.options) (RunnerProcess.start Sample.options Sample.files)
      (Sample.untilStarted Sample.options)).any (fun r => r.vm = .running) = true := by
    decide +kernel
  obtain ⟨r, hrun, hvm⟩ := Run.exists_of_checkRun _ hcheck
  exact ⟨r, hrun, hvm, (vm_starts_prepared _ _ _ hrun).2⟩

/-- **Nothing is left behind.** While `run` looks after the hypervisor, both proxies are open; when it
has returned, both are closed and the hypervisor was never started, has exited or was to be killed; and
that happens only after a signal, and ten seconds after the shutdown was requested. -/
theorem run_leaves_nothing_behind (parseIP : String → Bool) (opts : Options)
    (files : AList fun _ : String => String) {ls : List RunnerLabel} {r : RunnerProcess}
    (hrun : Run (RunnerProcess.step parseIP opts) (fun _ _ => True)
      (RunnerProcess.start opts files) ls r) :
    (r.state.supervising = true → r.agentProxy = true ∧ r.httpProxy = true) ∧
      (∀ err, r.state = .returned err → r.agentProxy = false ∧ r.httpProxy = false ∧
        (r.vm = .running → ∃ time err, .killed time err ∈ r.history)) ∧
      Historically KillsLate r.history := by
  have hinv : StopInv r := hrun.invariant _ (fun _ _ _ hinv _ h => hinv.step (moves h))
    (.start opts files)
  refine ⟨hinv.standing.proxies, fun err hs => ?_, hinv.kills⟩
  have hstanding := hinv.standing
  rw [hs] at hstanding
  exact hstanding

theorem sample_vm_is_killed :
    ∃ r, Run (RunnerProcess.step (fun _ => true) Sample.options) (fun _ _ => True)
        (RunnerProcess.start Sample.options Sample.files) Sample.untilKilled r ∧
      r.state = .returned none ∧ r.vm = .running ∧ r.agentProxy = false ∧
      ∃ time err, .killed time err ∈ r.history := by
  have hcheck : (checkRun (RunnerProcess.step (fun _ => true) Sample.options) (fun _ _ => True)
      (RunnerProcess.start Sample.options Sample.files) Sample.untilKilled).any
        (fun r => r.state = .returned none ∧ r.vm = .running) = true := by
    decide +kernel
  obtain ⟨r, hrun, hstate, hvm⟩ := Run.exists_of_checkRun _ hcheck
  obtain ⟨hagent, -, hkilled⟩ := (run_leaves_nothing_behind _ _ _ hrun).2.1 none hstate
  exact ⟨r, hrun, hstate, hvm, hagent, hkilled hvm⟩

end SandboxProvider.Runner
