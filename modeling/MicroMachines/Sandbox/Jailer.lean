import MicroMachines.Lib.Runs

set_option autoImplicit false

/-! # The jailer

`confine` forks once, or twice with a user namespace. Only the youngest process returns from it; every parent
waits for its child and ends with its status. With a user namespace the first two processes wait for each
other: the parent for the namespace, the child for its maps. A process that returns is in the jail
(`confine_confined`), and the processes never all wait (`confine_not_stuck`).
-/

namespace MicroMachines.Sandbox

open MicroMachines.Lib

structure CgroupLimits where
  name : String
  cpuMax : String
  memoryMaxBytes : Nat

structure JailSpec where
  chrootDir : String
  uid : Nat
  gid : Nat
  cgroup : CgroupLimits
  userNamespace : Bool

/-- The files that are written: of the cgroup, and of the child below `/proc`. -/
inductive File | cpuMax | memoryMax | setgroups | uidMap | gidMap
  deriving DecidableEq

def text (spec : JailSpec) : File → String
  | .cpuMax => spec.cgroup.cpuMax
  | .memoryMax => toString spec.cgroup.memoryMaxBytes
  | .setgroups => "deny"
  | .uidMap => "0 " ++ toString spec.uid ++ " 1"
  | .gidMap => "0 " ++ toString spec.gid ++ " 1"

/-- What a parent does after a fork. It does not return. -/
inductive ParentOp | awaitChild | write (file : File) | release | reap

/-- What the process does that returns. At a fork it is the child that goes on. -/
inductive Op
  | createDir | write (file : File) | join (cgroup : String) | pipe
  | fork (parent : List ParentOp) | deathSignal | unshareUser | announce | awaitMaps | unshareNs
  | makePrivate | chroot (dir : String) | chdir (dir : String) | noNewPrivs
  | setgroups (gids : List Nat) | setgid (gid : Nat) | setuid (uid : Nat)

def applyCgroupLimits (cgroup : CgroupLimits) : List Op :=
  [.createDir, .write .cpuMax, .write .memoryMax, .join cgroup.name]

def setupUserNamespaceViaParent : List Op :=
  [.pipe, .pipe,
   .fork [.awaitChild, .write .setgroups, .write .uidMap, .write .gidMap, .release, .reap],
   .deathSignal, .unshareUser, .announce, .awaitMaps]

def forkIntoPidNamespace : List Op := [.fork [.reap], .deathSignal]

def enterChroot (dir : String) : List Op := [.chroot dir, .chdir "/"]

def dropPrivileges (uid gid : Nat) : List Op := [.setgroups [gid], .setgid gid, .setuid uid]

def confine (spec : JailSpec) : List Op :=
  applyCgroupLimits spec.cgroup ++ (if spec.userNamespace then setupUserNamespaceViaParent else []) ++
    .unshareNs :: forkIntoPidNamespace ++ .makePrivate :: enterChroot spec.chrootDir ++
    .noNewPrivs :: if !spec.userNamespace then dropPrivileges spec.uid spec.gid else []

/-- What the kernel keeps for a process, and a child inherits; `none` is what the launcher had. -/
structure Attrs where
  cgroup : Option String := none
  userNs : Bool := false
  mountNs : Bool := false
  pidNsForChildren : Bool := false
  /-- The process is the first of its PID namespace. -/
  init : Bool := false
  privateMounts : Bool := false
  root : Option String := none
  cwd : Option String := none
  noNewPrivs : Bool := false
  groups : Option (List Nat) := none
  gid : Option Nat := none
  uid : Option Nat := none

def Attrs.after (a : Attrs) : Op → Attrs
  | .join cgroup => { a with cgroup := some cgroup }
  | .fork _ => { a with init := a.pidNsForChildren, pidNsForChildren := false }
  | .unshareUser => { a with userNs := true }
  | .unshareNs => { a with mountNs := true, pidNsForChildren := true }
  | .makePrivate => { a with privateMounts := true }
  | .chroot dir => { a with root := some dir }
  | .chdir dir => { a with cwd := some dir }
  | .noNewPrivs => { a with noNewPrivs := true }
  | .setgroups gids => { a with groups := some gids }
  | .setgid gid => { a with gid := some gid }
  | .setuid uid => { a with uid := some uid }
  | _ => a

/-! ## The processes -/

structure Parent where
  todo : List ParentOp
  /-- The code with which it has ended; `128 + n` for the signal `n`. -/
  ended : Option Nat

structure World where
  /-- The youngest process. -/
  todo : List Op
  attrs : Attrs
  ended : Option Nat
  /-- Its parent comes first. -/
  parents : List Parent
  files : File → Option String
  /-- The bytes that have been written to the two pipes. -/
  announced : Bool
  released : Bool

inductive Event
  | go
  | goParent (k : Nat)
  /-- A call fails, the process is killed, or the machine has ended. -/
  | stop (code : Nat)
  | stopParent (k code : Nat)

namespace World

variable (spec : JailSpec) (w : World)

def start (files : File → Option String) : World :=
  ⟨confine spec, {}, none, [], files, false, false⟩

/-- The pipes to the parent have no other end. -/
def parentEnded : Bool := w.parents.head?.all (fun p => p.ended.isSome)

def childEnded : Nat → Option Nat
  | 0 => w.ended
  | k + 1 => w.parents[k]?.bind Parent.ended

def write (file : File) : World :=
  { w with files := Function.update w.files file (some (text spec file)) }

def setParent (k : Nat) (p : Parent) : World := { w with parents := w.parents.set k p }

def go (rest : List Op) : Op → Option World
  | .write file => some { w.write spec file with todo := rest }
  | .fork parent => some { w with
      todo := rest, attrs := w.attrs.after (.fork parent), parents := ⟨parent, none⟩ :: w.parents }
  | .announce => some { w with todo := rest, announced := true }
  | .awaitMaps =>
    if w.released then some { w with todo := rest }
    else if w.parentEnded then some { w with ended := some 1 } else none
  | op => some { w with todo := rest, attrs := w.attrs.after op }

def goParent (k : Nat) (op : ParentOp) (rest : List ParentOp) : Option World :=
  let next := w.setParent k ⟨rest, none⟩
  let ended := fun code => w.setParent k ⟨op :: rest, some code⟩
  match op with
  | .awaitChild => if w.announced then some next else (w.childEnded k).map (fun _ => ended 1)
  | .write file => some (next.write spec file)
  | .release => some { next with released := true }
  | .reap => (w.childEnded k).map ended

def step : Event → Option World
  | .go =>
    match w.ended, w.todo with
    | none, op :: rest => w.go spec rest op
    | _, _ => none
  | .goParent k =>
    match w.parents[k]? with
    | some ⟨op :: rest, none⟩ => w.goParent spec k op rest
    | _ => none
  | .stop code => if w.ended.isNone then some { w with ended := some code } else none
  | .stopParent k code =>
    match w.parents[k]? with
    | some ⟨todo, none⟩ => some (w.setParent k ⟨todo, some code⟩)
    | _ => none

/-- A file has the text that is meant for it. -/
def Holds (file : File) : Prop := w.files file = some (text spec file)

end World

/-! ## What is still to be done -/

def maps : List File := [.setgroups, .uidMap, .gidMap]

/-- The files that hold before anything of the guest runs. -/
def needed (spec : JailSpec) : List File :=
  [.cpuMax, .memoryMax] ++ if spec.userNamespace then maps else []

/-- The jail. In a user namespace the process stays the root of that namespace. -/
def jailed (spec : JailSpec) : Attrs where
  cgroup := some spec.cgroup.name
  userNs := spec.userNamespace
  mountNs := true
  init := true
  privateMounts := true
  root := some spec.chrootDir
  cwd := some "/"
  noNewPrivs := true
  groups := if spec.userNamespace then none else some [spec.gid]
  gid := if spec.userNamespace then none else some spec.gid
  uid := if spec.userNamespace then none else some spec.uid

/-- What a parent has yet to do, when the files in `F` hold. -/
def ParentDue (F : File → Prop) : List ParentOp → Prop
  | [] => False
  | .write file :: rest => ParentDue (fun f => F f ∨ f = file) rest
  | .release :: rest => (∀ f ∈ maps, F f) ∧ ParentDue F rest
  | .awaitChild :: rest => ParentDue F rest
  | .reap :: rest => rest = []

/-- A parent and a child that wait for each other both have the other's byte to write. -/
def Paired (parent : List ParentOp) (todo : List Op) (announced released : Bool) : Prop :=
  (.awaitChild ∈ parent → .announce ∈ todo ∨ announced = true) ∧
    (.awaitMaps ∈ todo → .release ∈ parent ∨ released = true)

/-- What is left of `confine` leads to the jail. -/
def Due (spec : JailSpec) : (File → Prop) → List Op → Attrs → Prop
  | F, [], a => a = jailed spec ∧ ∀ f ∈ needed spec, F f
  | F, .write file :: rest, a => Due spec (fun f => F f ∨ f = file) rest a
  | F, .awaitMaps :: rest, a => .announce ∉ rest ∧ Due spec (fun f => F f ∨ f ∈ maps) rest a
  | F, .fork parent :: rest, a =>
    (ParentDue F parent ∧ Paired parent rest false false) ∧ Due spec F rest (a.after (.fork parent))
  | F, op :: rest, a => Due spec F rest (a.after op)

variable {spec : JailSpec}

theorem ParentDue.mono {F G : File → Prop} (hFG : ∀ f, F f → G f) {todo : List ParentOp}
    (h : ParentDue F todo) : ParentDue G todo := by
  induction todo generalizing F G with
  | nil => exact h
  | cons op rest ih =>
    cases op with
    | write file => exact ih (fun f => Or.imp_left (hFG f)) h
    | release => exact ⟨fun f hf => hFG f (h.1 f hf), ih hFG h.2⟩
    | awaitChild => exact ih hFG h
    | reap => exact h

theorem Due.mono {F G : File → Prop} (hFG : ∀ f, F f → G f) {todo : List Op} {a : Attrs}
    (h : Due spec F todo a) : Due spec G todo a := by
  induction todo generalizing F G a with
  | nil => exact ⟨h.1, fun f hf => hFG f (h.2 f hf)⟩
  | cons op rest ih =>
    cases op with
    | write file => exact ih (fun f => Or.imp_left (hFG f)) h
    | awaitMaps => exact ⟨h.1, ih (fun f => Or.imp_left (hFG f)) h.2⟩
    | fork parent => exact ⟨⟨h.1.1.mono hFG, h.1.2⟩, ih hFG h.2⟩
    | _ => exact ih hFG h

theorem due_confine (spec : JailSpec) (F : File → Prop) : Due spec F (confine spec) {} := by
  cases h : spec.userNamespace <;>
    simp [confine, applyCgroupLimits, setupUserNamespaceViaParent, forkIntoPidNamespace, enterChroot,
      dropPrivileges, h, Due, ParentDue, Paired, jailed, needed, maps, Attrs.after]

/-! ## Every step -/

/-- Every process has to do what is still missing, and no two wait for each other in vain. -/
structure Inv (spec : JailSpec) (w : World) : Prop where
  due : Due spec (w.Holds spec) w.todo w.attrs
  parents : ∀ p ∈ w.parents, ParentDue (w.Holds spec) p.todo
  maps : w.released = true → ∀ f ∈ maps, w.Holds spec f
  paired : ∀ p ∈ w.parents.head?, Paired p.todo w.todo w.announced w.released

namespace Inv

variable {w w' : World}

theorem start (spec : JailSpec) (files : File → Option String) : Inv spec (World.start spec files) := by
  constructor <;> simp [World.start, due_confine]

theorem holds_write {file f : File} (h : w.Holds spec f ∨ f = file) :
    (w.write spec file).Holds spec f := by
  by_cases hf : f = file
  · subst hf
    exact Function.update_self ..
  · exact (Function.update_of_ne hf ..).trans (h.resolve_right hf)

theorem write (h : Inv spec w) (file : File) : Inv spec (w.write spec file) where
  due := h.due.mono (fun _ hf => holds_write (.inl hf))
  parents p hp := (h.parents p hp).mono (fun _ hf => holds_write (.inl hf))
  maps hr f hf := holds_write (.inl (h.maps hr f hf))
  paired := h.paired

theorem setParent (h : Inv spec w) {k : Nat} {p p' : Parent} (hk : w.parents[k]? = some p)
    (hdue : ParentDue (w.Holds spec) p'.todo)
    (hpaired : Paired p.todo w.todo w.announced w.released →
      Paired p'.todo w.todo w.announced w.released) : Inv spec (w.setParent k p') := by
  refine ⟨h.due, fun q hq => ?_, h.maps, fun q hq => ?_⟩
  · rcases List.mem_or_eq_of_mem_set hq with hq | rfl
    · exact h.parents q hq
    · exact hdue
  · have hold := h.paired
    rw [List.head?_eq_getElem?] at hold
    simp only [World.setParent, List.head?_eq_getElem?, List.getElem?_set] at hq
    split_ifs at hq with h0
    · cases hq
      subst h0
      exact hpaired (hold p hk)
    · cases hq
    · exact hold q hq

theorem go (h : Inv spec w) {op : Op} {rest : List Op} (htodo : w.todo = op :: rest)
    (hs : w.go spec rest op = some w') : Inv spec w' := by
  obtain ⟨hdue, hparents, hmaps, hpaired⟩ := id h
  rw [htodo] at hdue hpaired
  have htail : op ≠ .announce → ∀ p ∈ w.parents.head?, Paired p.todo rest w.announced w.released := by
    intro hop p hp
    refine ⟨fun hc => ((hpaired p hp).1 hc).imp_left (fun hmem => ?_), fun hm => ?_⟩
    · exact (List.mem_cons.mp hmem).resolve_left hop.symm
    · exact (hpaired p hp).2 (List.mem_cons_of_mem _ hm)
  cases op with
  | write file =>
    cases hs
    have hw := h.write file
    exact ⟨hdue.mono (fun _ => holds_write), hw.parents, hw.maps, htail (by simp)⟩
  | fork parent =>
    cases hs
    refine ⟨hdue.2, fun p hp => ?_, hmaps, fun p hp => ?_⟩
    · rcases List.mem_cons.mp hp with rfl | hp
      · exact hdue.1.1
      · exact hparents p hp
    · cases hp
      have hnew := hdue.1.2
      simp only [Paired, Bool.false_eq_true, or_false] at hnew
      exact ⟨fun hc => .inl (hnew.1 hc), fun hm => .inl (hnew.2 hm)⟩
  | announce =>
    cases hs
    refine ⟨hdue, hparents, hmaps, fun p hp => ⟨fun _ => .inr rfl, fun hm => ?_⟩⟩
    exact (hpaired p hp).2 (List.mem_cons_of_mem _ hm)
  | awaitMaps =>
    simp only [World.go] at hs
    split_ifs at hs with hreleased <;> cases hs
    · refine ⟨hdue.2.mono (fun f hf => ?_), hparents, hmaps, htail (by simp)⟩
      exact hf.elim id (hmaps hreleased f)
    · exact ⟨h.due, hparents, hmaps, h.paired⟩
  | _ =>
    cases hs
    exact ⟨hdue, hparents, hmaps, htail (by simp)⟩

theorem goParent (h : Inv spec w) {k : Nat} {op : ParentOp} {rest : List ParentOp}
    (hk : w.parents[k]? = some ⟨op :: rest, none⟩) (hs : w.goParent spec k op rest = some w') :
    Inv spec w' := by
  have hdue := h.parents _ (List.mem_of_getElem? hk)
  have hended : ∀ code, Inv spec (w.setParent k ⟨op :: rest, some code⟩) :=
    fun code => h.setParent hk hdue id
  have htail : ∀ {x y}, op ≠ .release ∨ y = true → Paired (op :: rest) w.todo x y → Paired rest w.todo x y := by
    refine fun hop hp => ⟨fun hc => hp.1 (List.mem_cons_of_mem _ hc), fun hm => ?_⟩
    rcases hop with hop | hop
    · exact (hp.2 hm).imp_left (fun hmem => (List.mem_cons.mp hmem).resolve_left hop.symm)
    · exact .inr hop
  cases op with
  | awaitChild =>
    simp only [World.goParent] at hs
    split_ifs at hs
    · cases hs
      exact h.setParent hk hdue (htail (.inl (by simp)))
    · obtain ⟨_, _, rfl⟩ := Option.map_eq_some_iff.mp hs
      exact hended 1
  | write file =>
    cases hs
    exact (h.write file).setParent hk (hdue.mono (fun _ => holds_write)) (htail (.inl (by simp)))
  | release =>
    cases hs
    have hreleased : Inv spec { w with released := true } :=
      ⟨h.due, h.parents, fun _ => hdue.1, fun p hp => ⟨(h.paired p hp).1, fun _ => .inr rfl⟩⟩
    exact hreleased.setParent hk hdue.2 (htail (.inr rfl))
  | reap =>
    obtain ⟨code, _, rfl⟩ := Option.map_eq_some_iff.mp hs
    exact hended code

theorem step (w : World) (e : Event) (w' : World) (h : Inv spec w) (hs : w.step spec e = some w') :
    Inv spec w' := by
  cases e with
  | go =>
    simp only [World.step] at hs
    split at hs
    next op rest _ htodo => exact h.go htodo hs
    next => cases hs
  | goParent k =>
    simp only [World.step] at hs
    split at hs
    next op rest hk => exact h.goParent hk hs
    next => cases hs
  | stop code =>
    simp only [World.step] at hs
    split_ifs at hs
    cases hs
    exact ⟨h.due, h.parents, h.maps, h.paired⟩
  | stopParent k code =>
    simp only [World.step] at hs
    split at hs
    next todo hk =>
      cases hs
      have hdue := h.parents _ (List.mem_of_getElem? hk)
      exact h.setParent hk hdue id
    next => cases hs

/-- A parent can go on when its child has ended, or has announced its namespace and waits for the maps. -/
theorem parent_moves (h : Inv spec w) {k : Nat} {todo : List ParentOp}
    (hk : w.parents[k]? = some ⟨todo, none⟩) (hchild : w.childEnded k ≠ none ∨
      .release ∈ todo ∧ (.awaitChild ∈ todo → w.announced = true)) :
    (w.step spec (.goParent k)).isSome = true := by
  have hdue := h.parents _ (List.mem_of_getElem? hk)
  simp only [World.step, hk]
  match todo with
  | [] => exact absurd hdue id
  | .write file :: rest | .release :: rest => rfl
  | .awaitChild :: rest =>
    rcases hchild with hended | ⟨-, hannounced⟩
    · simp [World.goParent, apply_ite Option.isSome, Option.isSome_iff_ne_none, hended]
    · simp [World.goParent, hannounced]
  | .reap :: rest =>
    obtain rfl : rest = [] := hdue
    simpa [World.goParent, Option.isSome_iff_ne_none] using hchild

end Inv

section Runs

variable (spec) (files : File → Option String) (es : List Event) (w : World)
  (hrun : run (World.step spec) (.start spec files) es = some w)
include hrun

theorem inv_run : Inv spec w := run_invariant_all _ Inv.step es _ w (.start spec files) hrun

/-- **A process that returns from `confine` is in the jail**: in the cgroup with the limits it was given, the
first process of new namespaces with its own mounts and root, and without the privileges of the
launcher; in a user namespace its maps are written. -/
theorem confine_confined (htodo : w.todo = []) :
    w.attrs = jailed spec ∧ ∀ f ∈ needed spec, w.files f = some (text spec f) := by
  have h := (inv_run spec files es w hrun).due
  rw [htodo] at h
  exact h

/-- **The jailer does not deadlock**: unless a process has returned from `confine`, or all have ended, one of
them can go on, whatever calls have failed and whichever processes have been killed. -/
theorem confine_not_stuck (htodo : w.todo ≠ []) (halive : w.ended = none ∨ ∃ p ∈ w.parents, p.ended = none) :
    (w.step spec .go).isSome = true ∨ ∃ k, (w.step spec (.goParent k)).isSome = true := by
  have h := inv_run spec files es w hrun
  by_contra hstuck
  obtain ⟨hgo, hparent⟩ := not_or.mp hstuck
  have hended : w.ended ≠ none := by
    intro hended
    obtain ⟨op, rest, ht⟩ := List.exists_cons_of_ne_nil htodo
    by_cases hop : op = .awaitMaps
    · subst hop
      simp only [World.step, hended, ht, World.go] at hgo
      split_ifs at hgo with hreleased hparents
      · exact hgo rfl
      · exact hgo rfl
      · match hps : w.parents with
        | [] | ⟨_, some _⟩ :: _ => simp [World.parentEnded, hps] at hparents
        | ⟨todo, none⟩ :: _ =>
          have hdue := h.due
          have hpaired := h.paired ⟨todo, none⟩ (by simp [hps])
          rw [ht] at hdue hpaired
          have hk : w.parents[0]? = some ⟨todo, none⟩ := by rw [hps, List.getElem?_cons_zero]
          refine hparent ⟨0, h.parent_moves hk (.inr ⟨?_, fun hc => ?_⟩)⟩
          · exact (hpaired.2 List.mem_cons_self).resolve_right hreleased
          · exact (hpaired.1 hc).resolve_left (by simpa using hdue.1)
    · refine hgo ?_
      simp only [World.step, hended, ht]
      cases op <;> first | rfl | exact absurd rfl hop
  -- All parents have ended, from the youngest on.
  have hall (k : Nat) : ∀ p, w.parents[k]? = some p → p.ended ≠ none := by
    induction k with
    | zero =>
      rintro ⟨todo, ended⟩ hk (rfl : ended = none)
      exact hparent ⟨0, h.parent_moves hk (.inl hended)⟩
    | succ k ih =>
      rintro ⟨todo, ended⟩ hk (rfl : ended = none)
      have hlt : k + 1 < w.parents.length := (List.getElem?_eq_some_iff.mp hk).1
      have hq : w.parents[k]? = some w.parents[k] := List.getElem?_eq_getElem _
      refine hparent ⟨k + 1, h.parent_moves hk (.inl ?_)⟩
      rw [World.childEnded, hq]
      exact ih _ hq
  rcases halive with hnone | ⟨p, hp, hnone⟩
  · exact hended hnone
  · obtain ⟨k, hk⟩ := List.getElem?_of_mem hp
    exact hall k p hk hnone

end Runs

def sample : JailSpec := ⟨"/jail", 1000, 1000, ⟨"vm", "max", 4096⟩, true⟩

def sampleRun : List Event :=
  List.replicate 10 .go ++ List.replicate 5 (.goParent 0) ++ List.replicate 8 .go

theorem confined_sample : ∃ w,
    run (World.step sample) (.start sample (fun _ => none)) sampleRun = some w ∧
      w.attrs = jailed sample :=
  ⟨_, rfl, (confine_confined sample (fun _ => none) sampleRun _ rfl rfl).1⟩

/-- The child waits for its maps, and the parent has not yet seen it. -/
theorem not_stuck_sample : ∃ w,
    run (World.step sample) (.start sample (fun _ => none)) (sampleRun.take 10) = some w ∧
      ((w.step sample .go).isSome = true ∨ ∃ k, (w.step sample (.goParent k)).isSome = true) :=
  ⟨_, rfl, confine_not_stuck sample (fun _ => none) (sampleRun.take 10) _ rfl (by simp) (.inl rfl)⟩

end MicroMachines.Sandbox
