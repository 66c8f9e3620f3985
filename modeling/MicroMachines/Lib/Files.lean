import Mathlib.Data.List.AList
import MicroMachines.Lib.Crash

set_option autoImplicit false

/-! # A file system

Files and directories under a root, and the calls of a program that works on them. A call is one
statement, and a write is one statement for each byte: a program that is killed in the middle of
a write leaves a prefix of it.

* `Fs`: a tree, in the order in which its directories list their entries.
* `Fs.Only`, `Fs.Shrinks`: what a call leaves alone.
* `removeDirAll`: a directory and all below it, its entries in any order; the rule
  `safe_removeDirAll` follows it entry by entry.
-/

namespace MicroMachines.Lib

/-- A path from the root, as its components. -/
abbrev Path := List String

inductive Node
  | dir
  | file (content : List UInt8)
  deriving DecidableEq, Repr

inductive IoError
  | alreadyExists
  | notFound
  | notADirectory
  | isADirectory
  | directoryNotEmpty
  | other
  deriving DecidableEq, Repr

/-- The nodes below the root. What has a path is in a directory. -/
structure Fs where
  nodes : AList (fun _ : Path => Node)
  tree : ∀ p name, p ++ [name] ∈ nodes → p = [] ∨ nodes.lookup p = some .dir

namespace Fs

/-- Nothing but the root. -/
def empty : Fs := ⟨∅, fun _ _ h => absurd h (AList.notMem_empty _)⟩

/-- The node at a path. The root is a directory. -/
def get (fs : Fs) (p : Path) : Option Node := if p = [] then some .dir else fs.nodes.lookup p

theorem get_append (fs : Fs) (p : Path) (name : String) :
    fs.get (p ++ [name]) = fs.nodes.lookup (p ++ [name]) :=
  if_neg (List.append_ne_nil_of_right_ne_nil p (List.cons_ne_nil name []))

theorem get_parent {fs : Fs} {p : Path} {name : String} (h : fs.get (p ++ [name]) ≠ none) :
    fs.get p = some .dir := by
  rw [get_append, ne_eq, AList.lookup_eq_none, not_not] at h
  unfold get
  split_ifs with hp
  · rfl
  · exact (fs.tree p name h).resolve_left hp

/-- What is not there has nothing in it. -/
theorem get_child_of_none {fs : Fs} {p : Path} (h : fs.get p = none) (name : String) :
    fs.get (p ++ [name]) = none := by
  by_contra hc
  rw [get_parent hc] at h
  cases h

/-- A node at a path in a directory, in the place of a file or of nothing. -/
def put (fs : Fs) (d : Path) (name : String) (n : Node) (hdir : fs.get d = some .dir)
    (hnode : fs.get (d ++ [name]) ≠ some .dir) : Fs where
  nodes := fs.nodes.insert (d ++ [name]) n
  tree := by
    intro p x hx
    by_cases hp : p = []
    · exact Or.inl hp
    · refine Or.inr ?_
      have hdirp : fs.get p = some .dir := by
        rcases (AList.mem_insert fs.nodes).mp hx with heq | hmem
        · rw [(List.append_inj' heq rfl).1]
          exact hdir
        · refine @get_parent fs p x ?_
          rw [get_append, ne_eq, AList.lookup_eq_none, not_not]
          exact hmem
      have hne : p ≠ d ++ [name] := by
        rintro rfl
        exact hnode hdirp
      rw [AList.lookup_insert_ne hne]
      rw [get, if_neg hp] at hdirp
      exact hdirp

/-- The tree without a node that has nothing in it. -/
def del (fs : Fs) (p : Path) (hleaf : ∀ x, fs.get (p ++ [x]) = none) : Fs where
  nodes := fs.nodes.erase p
  tree := by
    intro q x hx
    by_cases hq : q = []
    · exact Or.inl hq
    · refine Or.inr ?_
      have hmem : q ++ [x] ∈ fs.nodes := (AList.mem_erase.mp hx).2
      have hne : q ≠ p := by
        rintro rfl
        have hnone := hleaf x
        rw [get_append, AList.lookup_eq_none] at hnone
        exact hnone hmem
      rw [AList.lookup_erase_ne hne]
      exact (fs.tree q x hmem).resolve_left hq

/-- Nothing changes but what is at `p`. -/
def Only (p : Path) (fs fs' : Fs) : Prop := ∀ q, q ≠ p → fs'.get q = fs.get q

theorem get_put_self {fs : Fs} {d : Path} {name : String} {n : Node} {hdir hnode} :
    (fs.put d name n hdir hnode).get (d ++ [name]) = some n := by
  rw [get_append]
  exact AList.lookup_insert fs.nodes

theorem only_put {fs : Fs} {d : Path} {name : String} {n : Node} {hdir hnode} :
    Only (d ++ [name]) fs (fs.put d name n hdir hnode) := by
  intro q hq
  unfold get
  split_ifs with hnil
  · rfl
  · exact AList.lookup_insert_ne hq

theorem get_del_self {fs : Fs} {d : Path} {name : String} {hleaf} :
    (fs.del (d ++ [name]) hleaf).get (d ++ [name]) = none := by
  rw [get_append]
  exact AList.lookup_erase _ fs.nodes

theorem only_del {fs : Fs} {p : Path} {hleaf} : Only p fs (fs.del p hleaf) := by
  intro q hq
  unfold get
  split_ifs with hnil
  · rfl
  · exact AList.lookup_erase_ne hq

/-! ## Reading -/

def readFile (fs : Fs) (p : Path) : Option (List UInt8) :=
  match fs.get p with
  | some (.file c) => some c
  | _ => none

theorem readFile_eq_some {fs : Fs} {p : Path} {c : List UInt8} :
    fs.readFile p = some c ↔ fs.get p = some (.file c) := by
  unfold readFile
  split
  · next c' h => simp [h]
  · next h =>
      constructor
      · intro hc
        cases hc
      · intro hc
        exact absurd hc (h c)

/-- The name of a path that lies directly in `p`. -/
def childOf (p q : Path) : Option String := if q.dropLast = p then q.getLast? else none

/-- The names of the entries of a directory, as it lists them. -/
def readDir (fs : Fs) (p : Path) : List String := fs.nodes.keys.filterMap (childOf p)

theorem childOf_eq_some {p q : Path} {name : String} :
    childOf p q = some name ↔ q = p ++ [name] := by
  unfold childOf
  constructor
  · intro h
    split_ifs at h with hp
    have hne : q ≠ [] := by
      rintro rfl
      cases h
    rw [List.getLast?_eq_some_getLast hne, Option.some.injEq] at h
    rw [← hp, ← h, List.dropLast_append_getLast hne]
  · rintro rfl
    rw [List.dropLast_concat, if_pos rfl, List.getLast?_concat]

theorem mem_readDir {fs : Fs} {p : Path} {name : String} :
    name ∈ fs.readDir p ↔ fs.get (p ++ [name]) ≠ none := by
  rw [readDir, List.mem_filterMap, get_append, ne_eq, AList.lookup_eq_none, not_not, AList.mem_keys]
  constructor
  · rintro ⟨q, hq, hchild⟩
    rw [← childOf_eq_some.mp hchild]
    exact hq
  · intro h
    exact ⟨_, h, childOf_eq_some.mpr rfl⟩

theorem nodup_readDir (fs : Fs) (p : Path) : (fs.readDir p).Nodup := by
  refine List.Nodup.filterMap ?_ fs.nodes.nodupKeys
  intro q q' name hq hq'
  rw [childOf_eq_some.mp hq, childOf_eq_some.mp hq']

/-! ## The calls -/

/-- `mkdir`. -/
def createDir (fs : Fs) (d : Path) (name : String) : Except IoError Fs :=
  if hdir : fs.get d = some .dir then
    if hnode : fs.get (d ++ [name]) = none then
      .ok (fs.put d name .dir hdir (by rw [hnode]; simp))
    else .error .alreadyExists
  else if fs.get d = none then .error .notFound
  else .error .notADirectory

/-- Open a file and change its content; `none` stands for a file that is not there. -/
def modifyFile (fs : Fs) (d : Path) (name : String)
    (f : Option (List UInt8) → Except IoError (List UInt8)) : Except IoError Fs :=
  if hdir : fs.get d = some .dir then
    if hnode : fs.get (d ++ [name]) = some .dir then .error .isADirectory
    else (f (fs.readFile (d ++ [name]))).map (fun c => fs.put d name (.file c) hdir hnode)
  else if fs.get d = none then .error .notFound
  else .error .notADirectory

/-- `unlink`: only a file. -/
def unlink (fs : Fs) (d : Path) (name : String) : Except IoError Fs :=
  match hnode : fs.get (d ++ [name]) with
  | none => .error .notFound
  | some .dir => .error .isADirectory
  | some (.file _) =>
    .ok (fs.del (d ++ [name]) (by
      intro x
      by_contra hc
      rw [get_parent hc] at hnode
      cases hnode))

/-- `rmdir`: only an empty directory. -/
def rmdir (fs : Fs) (d : Path) (name : String) : Except IoError Fs :=
  match fs.get (d ++ [name]) with
  | none => .error .notFound
  | some (.file _) => .error .notADirectory
  | some .dir =>
    if hempty : fs.readDir (d ++ [name]) = [] then
      .ok (fs.del (d ++ [name]) (by
        intro x
        by_contra hc
        have hmem := mem_readDir.mpr hc
        rw [hempty] at hmem
        cases hmem))
    else .error .directoryNotEmpty

variable {fs fs' : Fs} {d : Path} {name : String}

theorem createDir_ok (h : fs.createDir d name = .ok fs') :
    fs.get (d ++ [name]) = none ∧ fs'.get (d ++ [name]) = some .dir ∧
      Only (d ++ [name]) fs fs' := by
  unfold createDir at h
  split_ifs at h with hdir hnode
  cases h
  exact ⟨hnode, get_put_self, only_put⟩

theorem modifyFile_ok {f : Option (List UInt8) → Except IoError (List UInt8)}
    (h : fs.modifyFile d name f = .ok fs') :
    ∃ c, f (fs.readFile (d ++ [name])) = .ok c ∧ fs'.get (d ++ [name]) = some (.file c) ∧
      Only (d ++ [name]) fs fs' := by
  unfold modifyFile at h
  split_ifs at h with hdir hnode
  cases hf : f (fs.readFile (d ++ [name])) with
  | error e =>
    rw [hf] at h
    cases h
  | ok c =>
    rw [hf] at h
    cases h
    exact ⟨c, rfl, get_put_self, only_put⟩

theorem unlink_ok (h : fs.unlink d name = .ok fs') :
    fs'.get (d ++ [name]) = none ∧ Only (d ++ [name]) fs fs' := by
  unfold unlink at h
  split at h
  · cases h
  · cases h
  · cases h
    exact ⟨get_del_self, only_del⟩

theorem rmdir_ok (h : fs.rmdir d name = .ok fs') :
    fs'.get (d ++ [name]) = none ∧ Only (d ++ [name]) fs fs' := by
  unfold rmdir at h
  split at h
  · cases h
  · cases h
  · split_ifs at h
    cases h
    exact ⟨get_del_self, only_del⟩

/-! ## Removing -/

/-- Some of what is at `p` or below it is gone, and nothing else has changed. -/
def Shrinks (p : Path) (fs fs' : Fs) : Prop :=
  ∀ q, fs'.get q = fs.get q ∨ p <+: q ∧ fs'.get q = none

theorem Shrinks.refl (p : Path) (fs : Fs) : Shrinks p fs fs := fun _ => Or.inl rfl

theorem Shrinks.trans {p : Path} {a b c : Fs} (hab : Shrinks p a b) (hbc : Shrinks p b c) :
    Shrinks p a c := by
  intro q
  rcases hbc q with h | h
  · rw [h]
    exact hab q
  · exact Or.inr h

theorem Shrinks.mono {p p' : Path} (hp : p <+: p') (h : Shrinks p' fs fs') : Shrinks p fs fs' := by
  intro q
  rcases h q with hq | ⟨hpre, hq⟩
  · exact Or.inl hq
  · exact Or.inr ⟨hp.trans hpre, hq⟩

theorem Only.shrinks {p : Path} (h : Only p fs fs') (hp : fs'.get p = none) : Shrinks p fs fs' := by
  intro q
  by_cases hq : q = p
  · subst hq
    exact Or.inr ⟨List.prefix_refl q, hp⟩
  · exact Or.inl (h q hq)

/-- What is gone has nothing below it. -/
theorem get_of_prefix_none {p q : Path} (hp : fs.get p = none) (hpq : p <+: q) : fs.get q = none := by
  obtain ⟨rest, rfl⟩ := hpq
  induction rest using List.reverseRecOn with
  | nil => rwa [List.append_nil]
  | append_singleton rest x ih =>
    rw [← List.append_assoc]
    exact get_child_of_none ih x

/-- `fs` without what is at the paths `ps` or below them. -/
structure Without (ps : List Path) (fs fs' : Fs) : Prop where
  gone : ∀ p ∈ ps, ∀ q, p <+: q → fs'.get q = none
  kept : ∀ q, (∀ p ∈ ps, ¬ p <+: q) → fs'.get q = fs.get q

theorem Without.refl (fs : Fs) : Without [] fs fs := ⟨nofun, fun _ _ => rfl⟩

/-- One more directory is removed. -/
theorem Without.snoc {ps : List Path} {p : Path} {a b c : Fs} (hab : Without ps a b)
    (hbc : Shrinks p b c) (hp : c.get p = none) : Without (ps ++ [p]) a c := by
  constructor
  · intro p' hp' q hq
    rcases List.mem_append.mp hp' with hp' | hp'
    · have hb := hab.gone p' hp' q hq
      rcases hbc q with hc | hc
      · rw [hc, hb]
      · exact hc.2
    · rw [List.mem_singleton.mp hp'] at hq
      exact get_of_prefix_none hp hq
  · intro q hq
    rcases hbc q with hc | hc
    · rw [hc]
      exact hab.kept q (fun p' hp' => hq p' (List.mem_append_left _ hp'))
    · exact absurd hc.1 (hq p (List.mem_append_right _ List.mem_cons_self))

/-! ## Growing -/

/-- Nothing changes but at the paths in `T`. -/
def Within (T : Path → Prop) (fs fs' : Fs) : Prop := ∀ q, ¬ T q → fs'.get q = fs.get q

/-- What is there stays as it is. -/
def Grows (fs fs' : Fs) : Prop := ∀ q, fs.get q ≠ none → fs'.get q = fs.get q

theorem Only.within {p : Path} {T : Path → Prop} (h : Only p fs fs') (hp : T p) : Within T fs fs' := by
  intro q hq
  refine h q ?_
  rintro rfl
  exact hq hp

theorem Only.grows {p : Path} (h : Only p fs fs') (hp : fs.get p = none) : Grows fs fs' := by
  intro q hq
  refine h q ?_
  rintro rfl
  exact hq hp

theorem Within.refl (T : Path → Prop) (fs : Fs) : Within T fs fs := fun _ _ => rfl

theorem Within.trans {T : Path → Prop} {a b c : Fs} (hab : Within T a b) (hbc : Within T b c) :
    Within T a c :=
  fun q hq => (hbc q hq).trans (hab q hq)

theorem Within.mono {S T : Path → Prop} (hST : ∀ q, S q → T q) (h : Within S fs fs') : Within T fs fs' :=
  fun q hq => h q (fun hS => hq (hST q hS))

theorem Grows.refl (fs : Fs) : Grows fs fs := fun _ _ => rfl

theorem Grows.trans {a b c : Fs} (hab : Grows a b) (hbc : Grows b c) : Grows a c := by
  intro q hq
  have hb := hab q hq
  rw [hbc q (by rw [hb]; exact hq), hb]

end Fs

/-! ## Programs -/

/-- A program that works on files. -/
abbrev FsM (α : Type) : Type := Fallible Fs IoError α

open Fallible

/-- A statement that reads. -/
def look {α : Type} (f : Fs → Except IoError α) : FsM α := atomic (fun fs => (f fs).map (fs, ·))

/-- A statement that changes the tree. -/
def change (f : Fs → Except IoError Fs) : FsM Unit := atomic (fun fs => (f fs).map (·, ()))

def createDir (d : Path) (name : String) : FsM Unit := change (fun fs => fs.createDir d name)

/-- Make a directory unless it is there. -/
def ensureDir (d : Path) (name : String) : FsM Unit := do
  let there ← look (fun fs => .ok (decide (fs.get (d ++ [name]) = some .dir)))
  if there then pure () else createDir d name

/-- `create_dir_all`: the directories `path` below `base`, one in the other. -/
def createDirAll (base : Path) : Path → FsM Unit
  | [] => pure ()
  | name :: path => do
      ensureDir base name
      createDirAll (base ++ [name]) path

/-- `File::create`: an empty file. -/
def createFile (d : Path) (name : String) : FsM Unit :=
  change (fun fs => fs.modifyFile d name (fun _ => .ok []))

/-- Change the content of a file that is there. -/
def rewriteFile (d : Path) (name : String) (f : List UInt8 → List UInt8) : FsM Unit :=
  change (fun fs => fs.modifyFile d name (fun old =>
    match old with
    | none => .error .notFound
    | some c => .ok (f c)))

/-- `write_all` at the end of a file. -/
def appendAll (d : Path) (name : String) (bytes : List UInt8) : FsM Unit :=
  forEach bytes (fun b => rewriteFile d name (· ++ [b]))

/-- `fs::write`. -/
def writeFile (d : Path) (name : String) (bytes : List UInt8) : FsM Unit := do
  createFile d name
  appendAll d name bytes

/-- One byte at an offset; a gap behind the end is filled with zeros. -/
def setByte (offset : Nat) (b : UInt8) (c : List UInt8) : List UInt8 :=
  if offset < c.length then c.set offset b
  else c ++ List.replicate (offset - c.length) 0 ++ [b]

/-- Bytes from an offset on. -/
def setBytes : Nat → List UInt8 → List UInt8 → List UInt8
  | _, [], c => c
  | offset, b :: bs, c => setBytes (offset + 1) bs (setByte offset b c)

/-- `write_all_at`. -/
def writeAt (d : Path) (name : String) : Nat → List UInt8 → FsM Unit
  | _, [] => pure ()
  | offset, b :: bs => do
      rewriteFile d name (setByte offset b)
      writeAt d name (offset + 1) bs

/-- A call for a path in a directory. -/
def atPath (p : Path) (call : Path → String → FsM Unit) : FsM Unit :=
  match p.getLast? with
  | some name => call p.dropLast name
  | none => fail .isADirectory

theorem atPath_concat (d : Path) (name : String) (call : Path → String → FsM Unit) :
    atPath (d ++ [name]) call = call d name := by
  simp [atPath]

/-- `hard_link`: a new name for the content of a file. -/
def hardLink (src d : Path) (name : String) : FsM Unit :=
  change (fun fs =>
    match fs.readFile src with
    | none => .error .notFound
    | some c => fs.modifyFile d name (fun old =>
      match old with
      | none => .ok c
      | some _ => .error .alreadyExists))

/-- `fs::copy`. -/
def copyFile (src d : Path) (name : String) : FsM Unit := do
  let c ← look (fun fs =>
    match fs.readFile src with
    | none => .error .notFound
    | some c => .ok c)
  writeFile d name c

/-- Remove one entry, a directory with all below it. -/
def removeEntry (removeDir : Path → String → FsM Unit) (p : Path) (x : String) : FsM Unit := do
  let isDir ← look (fun fs => .ok (decide (fs.get (p ++ [x]) = some .dir)))
  if isDir then removeDir p x else change (fun fs => fs.unlink p x)

/-- An order in which the entries of each directory come. -/
structure EntryOrder where
  arrange : List String → List String
  perm : ∀ names, (arrange names).Perm names

/-- The name `x` before all others. -/
def EntryOrder.first (x : String) : EntryOrder where
  arrange names := names.filter (fun y => decide (y = x)) ++ names.filter (fun y => !decide (y = x))
  perm names := List.filter_append_perm (fun y => decide (y = x)) names

def readDirectory (p : Path) : FsM (List String) :=
  look (fun fs =>
    match fs.get p with
    | none => .error .notFound
    | some (.file _) => .error .notADirectory
    | some .dir => .ok (fs.readDir p))

/-- Remove a directory and all below it, down to `depth` levels. -/
def removeTree (o : EntryOrder) : Nat → Path → String → FsM Unit
  | 0, _, _ => fail .other
  | depth + 1, d, name => do
      let names ← readDirectory (d ++ [name])
      forEach (o.arrange names) (removeEntry (removeTree o depth) (d ++ [name]))
      change (fun fs => fs.rmdir d name)

/-- `remove_dir_all`. No directory is deeper than there are nodes. -/
def removeDirAll (o : EntryOrder) (d : Path) (name : String) : FsM Unit := do
  let size ← look (fun fs => .ok fs.nodes.keys.length)
  removeTree o (size + 1) d name

/-! ## Rules -/

section Rules

variable {α : Type} {I : Fs → Prop} {E : Fs → Prop} {fs : Fs} {d : Path} {name : String}

theorem safe_look {f : Fs → Except IoError α} {Q : Fs → α → Prop} (hI : I fs)
    (hok : ∀ a, f fs = .ok a → Q fs a) (herr : E fs) : Safe I Q E fs (look f) := by
  refine safe_atomic hI ?_ herr
  intro fs' a h
  cases hf : f fs with
  | error e =>
    rw [hf] at h
    cases h
  | ok a' =>
    rw [hf] at h
    cases h
    exact ⟨hI, hok a hf⟩

theorem safe_change {f : Fs → Except IoError Fs} {Q : Fs → Unit → Prop} (hI : I fs)
    (hok : ∀ fs', f fs = .ok fs' → I fs' ∧ Q fs' ()) (herr : E fs) : Safe I Q E fs (change f) := by
  refine safe_atomic hI ?_ herr
  intro fs' a h
  cases hf : f fs with
  | error e =>
    rw [hf] at h
    cases h
  | ok fs'' =>
    rw [hf] at h
    cases h
    exact hok fs' hf

/-- A tree in which only the file `p` differs, and that one has a content in `S`. -/
def FileIn (p : Path) (S : List UInt8 → Prop) (fs fs' : Fs) : Prop :=
  Fs.Only p fs fs' ∧ ∃ c, S c ∧ fs'.get p = some (.file c)

theorem safe_createFile {Q : Fs → Unit → Prop} (hI : I fs)
    (hok : ∀ fs', FileIn (d ++ [name]) (· = []) fs fs' → I fs' ∧ Q fs' ()) (herr : E fs) :
    Safe I Q E fs (createFile d name) := by
  refine safe_change hI ?_ herr
  intro fs' h
  obtain ⟨c, hc, hget, honly⟩ := Fs.modifyFile_ok h
  cases hc
  exact hok fs' ⟨honly, [], rfl, hget⟩

theorem safe_rewriteFile {Q : Fs → Unit → Prop} {c : List UInt8} {f : List UInt8 → List UInt8}
    (hI : I fs) (hfile : fs.get (d ++ [name]) = some (.file c))
    (hok : ∀ fs', FileIn (d ++ [name]) (· = f c) fs fs' → I fs' ∧ Q fs' ()) (herr : E fs) :
    Safe I Q E fs (rewriteFile d name f) := by
  refine safe_change hI ?_ herr
  intro fs' h
  obtain ⟨c', hc', hget, honly⟩ := Fs.modifyFile_ok h
  rw [Fs.readFile_eq_some.mpr hfile] at hc'
  cases hc'
  exact hok fs' ⟨honly, f c, rfl, hget⟩

theorem FileIn.get {p : Path} {c : List UInt8} {a b : Fs} (h : FileIn p (· = c) a b) :
    b.get p = some (.file c) := by
  obtain ⟨_, c', rfl, hget⟩ := h
  exact hget

theorem FileIn.trans {p : Path} {S T : List UInt8 → Prop} {a b c : Fs} (hab : FileIn p S a b)
    (hbc : FileIn p T b c) : FileIn p T a c :=
  ⟨fun q hq => (hbc.1 q hq).trans (hab.1 q hq), hbc.2⟩

theorem FileIn.mono {p : Path} {S T : List UInt8 → Prop} {a b : Fs} (hST : ∀ c, S c → T c)
    (h : FileIn p S a b) : FileIn p T a b := by
  obtain ⟨honly, c, hc, hget⟩ := h
  exact ⟨honly, c, hST c hc, hget⟩

/-- A call that changes one file: to a content in `T` on the way and if it fails, in `S` in the end. -/
abbrev Edits (p : Path) (T S : List UInt8 → Prop) (fs : Fs) (t : FsM Unit) : Prop :=
  Safe (FileIn p T fs) (fun fs' _ => FileIn p S fs fs') (FileIn p T fs) fs t

theorem Edits.after {p : Path} {S T : List UInt8 → Prop} {a b : Fs} {t : FsM Unit}
    (ht : Edits p T S b t) (h : FileIn p T a b) :
    Safe (FileIn p T a) (fun c _ => FileIn p S a c) (FileIn p T a) b t :=
  ht.mono (fun _ hc => h.trans hc) (fun _ _ hc => h.trans hc) (fun _ hc => h.trans hc)

/-- The same, of which only the content in the end matters. -/
abbrev Writes (p : Path) (S : List UInt8 → Prop) (fs : Fs) (t : FsM Unit) : Prop :=
  Safe (Fs.Only p fs) (fun fs' _ => FileIn p S fs fs') (Fs.Only p fs) fs t

theorem Writes.stays {p : Path} {S : List UInt8 → Prop} {t : FsM Unit} (h : Writes p S fs t) :
    Stays (Fs.Only p fs) fs t :=
  h.imp (fun _ _ h => h.1)

/-- A write to a file that holds `c₀` at first: on the way the file always holds `c₀` and a prefix
of the bytes, and at the end all of them. -/
theorem safe_appendAll {c₀ bytes : List UInt8} (hfile : fs.get (d ++ [name]) = some (.file c₀)) :
    Edits (d ++ [name]) (· <+: c₀ ++ bytes) (· = c₀ ++ bytes) fs (appendAll d name bytes) := by
  refine safe_forEach
    (fun rest fs' => ∃ done, bytes = done ++ rest ∧
      FileIn (d ++ [name]) (· = c₀ ++ done) fs fs')
    bytes ⟨[], rfl, fun _ _ => rfl, c₀, (List.append_nil c₀).symm, hfile⟩ ?_ ?_
  · rintro b rest fs' ⟨done, rfl, hin⟩
    have hpre : FileIn (d ++ [name]) (· <+: c₀ ++ (done ++ b :: rest)) fs fs' := by
      refine hin.mono ?_
      rintro c rfl
      exact ⟨b :: rest, List.append_assoc c₀ done _⟩
    refine safe_rewriteFile hpre hin.get ?_ hpre
    intro fs'' h
    have hnext : FileIn (d ++ [name]) (· = c₀ ++ (done ++ [b])) fs fs'' := by
      refine (hin.trans h).mono ?_
      rintro c rfl
      exact List.append_assoc c₀ done [b]
    refine ⟨hnext.mono ?_, done ++ [b], by simp, hnext⟩
    rintro c rfl
    exact ⟨rest, by simp⟩
  · rintro fs' ⟨done, hdone, hin⟩
    rw [List.append_nil] at hdone
    rw [hdone]
    exact hin

/-- A file that is written from its beginning. -/
theorem safe_writeFile {bytes : List UInt8} :
    Safe (fun fs' => fs' = fs ∨ FileIn (d ++ [name]) (fun c => c <+: bytes) fs fs')
      (fun fs' _ => FileIn (d ++ [name]) (· = bytes) fs fs')
      (fun fs' => fs' = fs ∨ FileIn (d ++ [name]) (fun c => c <+: bytes) fs fs') fs
      (writeFile d name bytes) := by
  refine safe_bind (safe_createFile (Or.inl rfl) ?_ (Or.inl rfl))
  intro fs' hempty
  refine ⟨Or.inr (hempty.mono ?_), ?_⟩
  · rintro c rfl
    exact List.nil_prefix
  · refine Safe.mono ?_ ?_ ?_ (@safe_appendAll fs' d name [] bytes hempty.get)
    · exact fun _ h => Or.inr (hempty.trans h)
    · exact fun _ _ h => hempty.trans h
    · exact fun _ h => Or.inr (hempty.trans h)

theorem safe_createFile_only : Writes (d ++ [name]) (· = []) fs (createFile d name) :=
  safe_createFile (fun _ _ => rfl) (fun _ h => ⟨h.1, h⟩) (fun _ _ => rfl)

theorem safe_writeFile_only {bytes : List UInt8} :
    Writes (d ++ [name]) (· = bytes) fs (writeFile d name bytes) := by
  have honly : ∀ fs', fs' = fs ∨ FileIn (d ++ [name]) (fun c => c <+: bytes) fs fs' →
      Fs.Only (d ++ [name]) fs fs' := by
    rintro fs' (rfl | h)
    · exact fun _ _ => rfl
    · exact h.1
  exact safe_writeFile.mono honly (fun _ _ h => h) honly

/-- What a program does to a file that is there. -/
theorem safe_only {p : Path} {S T : List UInt8 → Prop} {t : FsM Unit}
    (h : Edits p T S fs t) : Writes p S fs t :=
  h.mono (fun _ h => h.1) (fun _ _ h => h) (fun _ h => h.1)

/-- A write at an offset, to a file that holds `c₀` at first. What it holds on the way is not
told. -/
theorem safe_writeAt {offset : Nat} {bytes c₀ : List UInt8}
    (hfile : fs.get (d ++ [name]) = some (.file c₀)) :
    Edits (d ++ [name]) (fun _ => True) (· = setBytes offset bytes c₀) fs (writeAt d name offset bytes) := by
  induction bytes generalizing fs offset c₀ with
  | nil => exact safe_pure ⟨fun _ _ => rfl, c₀, rfl, hfile⟩
  | cons b bs ih =>
    have hself : FileIn (d ++ [name]) (fun _ => True) fs fs := ⟨fun _ _ => rfl, c₀, trivial, hfile⟩
    refine safe_bind (safe_rewriteFile hself hfile ?_ hself)
    intro fs' h
    have hany : FileIn (d ++ [name]) (fun _ => True) fs fs' := h.mono (fun _ _ => trivial)
    exact ⟨hany, Edits.after (@ih _ (offset + 1) _ h.get) hany⟩

/-- Making directories changes nothing but paths that were empty. -/
theorem safe_createDirAll {base path : Path} (hI : I fs)
    (hmake : ∀ p a b, I a → base <+: p → p <+: base ++ path → a.get p = none → Fs.Only p a b → I b) :
    Stays I fs (createDirAll base path) := by
  induction path generalizing base fs with
  | nil => exact hI
  | cons x path ih =>
    have happ : base ++ x :: path = base ++ [x] ++ path := by simp
    have hrest : ∀ {fs : Fs}, I fs → Stays I fs (createDirAll (base ++ [x]) path) := by
      intro fs hI
      refine ih hI ?_
      intro p a b ha hp hpath
      exact hmake p a b ha ((List.prefix_append base [x]).trans hp) (happ ▸ hpath)
    refine safe_bind (safe_bind (safe_look hI ?_ hI))
    intro there _
    split_ifs
    · exact safe_pure (hrest hI)
    · refine safe_change hI ?_ hI
      intro fs' h
      obtain ⟨hnone, _, honly⟩ := Fs.createDir_ok h
      have hI' : I fs' := hmake (base ++ [x]) fs fs' hI (List.prefix_append base [x])
        (happ ▸ List.prefix_append (base ++ [x]) path) hnone honly
      exact ⟨hI', hrest hI'⟩

theorem safe_createDirAll_grows {path : Path} :
    Stays (fun fs' => fs.Within (· <+: path) fs' ∧ fs.Grows fs') fs (createDirAll [] path) := by
  refine safe_createDirAll ⟨Fs.Within.refl _ fs, Fs.Grows.refl fs⟩ ?_
  rintro p a b ⟨hwithin, hgrows⟩ - hp hnone honly
  exact ⟨hwithin.trans (honly.within hp), hgrows.trans (honly.grows hnone)⟩

theorem safe_hardLink {src : Path} {Q : Fs → Unit → Prop} (hI : I fs)
    (hok : ∀ c fs', fs.readFile src = some c → FileIn (d ++ [name]) (· = c) fs fs' → I fs' ∧ Q fs' ())
    (herr : E fs) : Safe I Q E fs (hardLink src d name) := by
  refine safe_change hI ?_ herr
  intro fs' h
  cases hsrc : fs.readFile src with
  | none =>
    rw [hsrc] at h
    cases h
  | some c =>
    rw [hsrc] at h
    obtain ⟨c', hc', hget, honly⟩ := Fs.modifyFile_ok h
    cases hold : fs.readFile (d ++ [name]) with
    | some old =>
      rw [hold] at hc'
      cases hc'
    | none =>
      rw [hold] at hc'
      cases hc'
      exact hok c fs' hsrc ⟨honly, c, rfl, hget⟩

theorem safe_copyFile {src : Path} : Safe (Fs.Only (d ++ [name]) fs)
      (fun fs' _ => ∃ c, fs.readFile src = some c ∧ FileIn (d ++ [name]) (· = c) fs fs')
      (Fs.Only (d ++ [name]) fs) fs (copyFile src d name) := by
  have hself : Fs.Only (d ++ [name]) fs fs := fun _ _ => rfl
  refine safe_bind (safe_look hself ?_ hself)
  intro c hc
  have hsrc : fs.readFile src = some c := by
    cases hread : fs.readFile src with
    | none =>
      rw [hread] at hc
      cases hc
    | some c' =>
      rw [hread] at hc
      cases hc
      rfl
  exact safe_writeFile_only.imp (fun _ _ h => ⟨c, hsrc, h⟩)

variable {o : EntryOrder}

/-- A call that takes away what is at or below a path, all of it if it succeeds. -/
abbrev Removes (p : Path) (fs : Fs) (t : FsM Unit) : Prop :=
  Safe (Fs.Shrinks p fs) (fun fs' _ => Fs.Shrinks p fs fs' ∧ fs'.get p = none) (Fs.Shrinks p fs) fs t

theorem Removes.stays {p : Path} {t : FsM Unit} (h : Removes p fs t) : Stays (Fs.Shrinks p fs) fs t :=
  h.imp (fun _ _ h => h.1)

/-- Removing an entry takes away nothing that is not at it or below it. -/
theorem safe_removeEntry {removeDir : Path → String → FsM Unit}
    (hremove : ∀ fs p x, Removes (p ++ [x]) fs (removeDir p x)) (p : Path) (x : String) :
    Removes (p ++ [x]) fs (removeEntry removeDir p x) := by
  have hself := Fs.Shrinks.refl (p ++ [x]) fs
  refine safe_bind (safe_look hself ?_ hself)
  intro isDir _
  split_ifs
  · exact hremove fs p x
  · refine safe_change hself ?_ hself
    intro fs' h
    obtain ⟨hnone, honly⟩ := Fs.unlink_ok h
    have hshrinks := honly.shrinks hnone
    exact ⟨hshrinks, hshrinks, hnone⟩

theorem safe_removeTree_shrinks (depth : Nat) (d : Path) (name : String) (fs : Fs) :
    Removes (d ++ [name]) fs (removeTree o depth d name) := by
  induction depth generalizing d name fs with
  | zero => exact safe_fail (Fs.Shrinks.refl _ fs)
  | succ depth ih =>
    have hself := Fs.Shrinks.refl (d ++ [name]) fs
    refine safe_bind (safe_look hself ?_ hself)
    intro names _
    refine safe_bind (safe_forEach (fun _ fs' => Fs.Shrinks (d ++ [name]) fs fs') _ hself ?_ ?_)
    · intro x rest fs' hfs'
      have hsub : ∀ b, Fs.Shrinks (d ++ [name] ++ [x]) fs' b → Fs.Shrinks (d ++ [name]) fs b :=
        fun b hb => hfs'.trans (hb.mono (List.prefix_append _ [x]))
      refine Safe.mono hsub ?_ hsub
        (safe_removeEntry (fun fs p x => ih p x fs) (d ++ [name]) x)
      exact fun b _ hb => hsub b hb.1
    · intro fs' hfs'
      refine safe_change hfs' ?_ hfs'
      intro fs'' h
      obtain ⟨hnone, honly⟩ := Fs.rmdir_ok h
      have hshrinks := hfs'.trans (honly.shrinks hnone)
      exact ⟨hshrinks, hshrinks, hnone⟩

/-- A directory that has been removed is gone, with what is below it and nothing else. -/
theorem safe_removeDirAll_gone (o : EntryOrder) (d : Path) (name : String) (fs : Fs) :
    Removes (d ++ [name]) fs (removeDirAll o d name) := by
  have hself := Fs.Shrinks.refl (d ++ [name]) fs
  refine safe_bind (safe_look hself ?_ hself)
  intro size _
  exact safe_removeTree_shrinks (size + 1) d name fs

/-- **The rule for the removal of a directory.** `K rest` holds before each entry is removed, where
`rest` are the names still to come. -/
theorem safe_removeDirAll (K : List String → Fs → Prop) (hI : I fs)
    (h0 : fs.get (d ++ [name]) = some .dir → K (o.arrange (fs.readDir (d ++ [name]))) fs)
    (hturn : ∀ x rest a b, K (x :: rest) a → Fs.Shrinks (d ++ [name] ++ [x]) a b →
      I b ∧ (b.get (d ++ [name] ++ [x]) = none → K rest b))
    (hlast : ∀ a b, K [] a → Fs.Only (d ++ [name]) a b → I a ∧ I b) :
    Stays I fs (removeDirAll o d name) := by
  refine safe_bind (safe_look hI ?_ hI)
  intro size _
  have hK : ∀ rest a, K rest a → I a := by
    intro rest a ha
    cases rest with
    | nil => exact (hlast a a ha (fun _ _ => rfl)).1
    | cons x rest => exact (hturn x rest a a ha (Fs.Shrinks.refl _ a)).1
  refine safe_bind (safe_look hI ?_ hI)
  intro names hnames
  have hstart : K (o.arrange names) fs := by
    split at hnames
    · cases hnames
    · cases hnames
    · next hdir =>
        cases hnames
        exact h0 hdir
  refine safe_bind (safe_forEach K _ hstart ?_ ?_)
  · intro x rest a ha
    refine Safe.mono ?_ ?_ ?_
      (safe_removeEntry (fun fs p x => safe_removeTree_shrinks size p x fs) (d ++ [name]) x)
    · exact fun b hb => (hturn x rest a b ha hb).1
    · exact fun b _ hb => (hturn x rest a b ha hb.1).2 hb.2
    · exact fun b hb => (hturn x rest a b ha hb).1
  · intro a ha
    refine safe_change (hK [] a ha) ?_ (hK [] a ha)
    intro b hb
    have hIb := (hlast a b ha (Fs.rmdir_ok hb).2).2
    exact ⟨hIb, hIb⟩

end Rules

end MicroMachines.Lib
