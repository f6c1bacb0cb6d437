import Mathlib.Logic.Function.Basic
import Mathlib.Data.List.Infix

/-!
# File trees

Directories and files under one root, with the calls of an operating system that
make them.  A path lists its names from the innermost one out, so the places
above it are its suffixes.  Every call may also fail for a reason of its own,
given from outside.
-/

namespace VpnBridge.FileTree

abbrev Path := List String

inductive Node where
  | directory
  | file (contents : List UInt8)
  deriving DecidableEq

structure Tree where
  node : Path → Option Node
  root : node [] = some .directory
  /-- What has a name is in a directory. -/
  parent : ∀ name dir, node (name :: dir) ≠ none → node dir = some .directory

/-- What the tree itself has against a call. -/
inductive Refusal where
  | notFound
  | notDirectory
  | isDirectory
  | alreadyExists
  deriving DecidableEq

inductive FileError (Failure : Type) where
  | refused (refusal : Refusal)
  | failed (failure : Failure)

/-- A call that may change the tree before it fails. -/
abbrev FileM (Failure : Type) := EStateM (FileError Failure) Tree

namespace Tree

def empty : Tree where
  node
    | [] => some .directory
    | _ :: _ => none
  root := rfl
  parent _ _ hnode := absurd rfl hnode

def existsAt (tree : Tree) (path : Path) : Bool :=
  (tree.node path).isSome

variable {tree : Tree} {name : String} {dir path place : Path}

theorem not_below_isSuffix : ¬ name :: dir <:+ dir := by
  intro hsuffix
  have hlength := hsuffix.length_le
  rw [List.length_cons] at hlength
  omega

theorem directory_of_isSuffix (hsuffix : place <:+ dir)
    (hdir : tree.node dir = some .directory) : tree.node place = some .directory := by
  induction dir with
  | nil => rwa [List.suffix_nil.mp hsuffix]
  | cons name dir ih =>
      rcases List.suffix_cons_iff.mp hsuffix with rfl | hsuffix
      · exact hdir
      · exact ih hsuffix (tree.parent name dir (by simp [hdir]))

/-- Above what exists, everything exists. -/
theorem node_above (hsuffix : place <:+ path) (hnode : tree.node path ≠ none) :
    tree.node place ≠ none := by
  cases path with
  | nil => rwa [List.suffix_nil.mp hsuffix]
  | cons name dir =>
      rcases List.suffix_cons_iff.mp hsuffix with rfl | hsuffix
      · exact hnode
      · simp [directory_of_isSuffix hsuffix (tree.parent name dir hnode)]

/-- Put something in a directory, at a name that has no directory. -/
def put (tree : Tree) (name : String) (dir : Path) (node : Node)
    (hdir : tree.node dir = some .directory)
    (hfree : tree.node (name :: dir) ≠ some .directory) : Tree where
  node := Function.update tree.node (name :: dir) (some node)
  root := by
    rw [Function.update_of_ne (List.cons_ne_nil name dir).symm]
    exact tree.root
  parent other above hnode := by
    have habove : tree.node above = some .directory := by
      by_cases hother : other :: above = name :: dir
      · cases hother
        exact hdir
      · rw [Function.update_of_ne hother] at hnode
        exact tree.parent other above hnode
    by_cases hplace : above = name :: dir
    · exact absurd (hplace ▸ habove) hfree
    · rw [Function.update_of_ne hplace]
      exact habove

section Put

variable {node : Node} {hdir : tree.node dir = some .directory}
variable {hfree : tree.node (name :: dir) ≠ some .directory}

@[simp]
theorem node_put_self : (tree.put name dir node hdir hfree).node (name :: dir) = some node :=
  Function.update_self _ _ _

@[simp]
theorem node_put_of_ne (hne : place ≠ name :: dir) :
    (tree.put name dir node hdir hfree).node place = tree.node place :=
  Function.update_of_ne hne _ _

end Put

/-- What a call answers when the place it needs is not a directory. -/
def unreachable (tree : Tree) (dir : Path) : Refusal :=
  if tree.existsAt dir then .notDirectory else .notFound

def mkdir (tree : Tree) : Path → Except Refusal Tree
  | [] => .error .alreadyExists
  | name :: dir =>
      if hdir : tree.node dir = some .directory then
        if hfree : tree.node (name :: dir) = none then
          .ok (tree.put name dir .directory hdir (by simp [hfree]))
        else
          .error .alreadyExists
      else
        .error (tree.unreachable dir)

end Tree

inductive OpenMode where
  /-- `File::create`. -/
  | truncate
  /-- `create_new`. -/
  | exclusive
  deriving DecidableEq

namespace Tree

/-- Open a file for writing; it is empty then. -/
def openFile (tree : Tree) (mode : OpenMode) : Path → Except Refusal Tree
  | [] => .error (if mode = .exclusive then .alreadyExists else .isDirectory)
  | name :: dir =>
      if hdir : tree.node dir = some .directory then
        if mode = .exclusive ∧ tree.existsAt (name :: dir) = true then
          .error .alreadyExists
        else if hfree : tree.node (name :: dir) = some .directory then
          .error .isDirectory
        else
          .ok (tree.put name dir (.file []) hdir hfree)
      else
        .error (tree.unreachable dir)

/-- Write to an open file. -/
def fill (tree : Tree) (contents : List UInt8) : Path → Tree
  | [] => tree
  | name :: dir =>
      if hfile : tree.existsAt (name :: dir) = true ∧
          tree.node (name :: dir) ≠ some .directory then
        tree.put name dir (.file contents)
          (tree.parent name dir (Option.isSome_iff_ne_none.mp hfile.1)) hfile.2
      else
        tree

end Tree

/-! ## Calls that may fail -/

section Calls

variable {Failure : Type}

/-- Take a step of the tree, unless the call fails first. -/
def attempt (fault : Option Failure) (call : Tree → Except Refusal Tree) : FileM Failure Unit :=
  fun tree =>
    match call tree with
    | .error refusal => .error (.refused refusal) tree
    | .ok next =>
        match fault with
        | some failure => .error (.failed failure) tree
        | none => .ok () next

/-- `create_dir_all` after its first `mkdir`; `again` is for a missing parent. -/
def afterMkdir (path : Path) (again : FileM Failure Unit) :
    EStateM.Result (FileError Failure) Tree Unit →
      EStateM.Result (FileError Failure) Tree Unit
  | .ok () next => .ok () next
  | .error (.refused .notFound) same => again same
  | .error error same =>
      if same.node path = some .directory then .ok () same else .error error same

/-- `create_dir_all`; `faults` has the paths whose `mkdir` fails. -/
def createDirAll (faults : Path → Option Failure) : Path → FileM Failure Unit
  | [] => pure ()
  | name :: dir => fun tree =>
      let create := attempt (faults (name :: dir)) fun tree => tree.mkdir (name :: dir)
      afterMkdir (name :: dir) (do createDirAll faults dir; create) (create tree)

/-- Write to an open file; `partly` is how much of it is written when that fails. -/
def writeAll (path : Path) (contents : List UInt8) :
    Option (ℕ × Failure) → FileM Failure Unit
  | none => modify fun tree => tree.fill contents path
  | some (count, failure) => do
      modify fun tree => tree.fill (contents.take count) path
      throw (.failed failure)

/-- Open a file and write it, each with its own way to report an error. -/
def writeFile {Error : Type} (opening writing : FileError Failure → Error) (mode : OpenMode)
    (refused : Option Failure) (partly : Option (ℕ × Failure)) (path : Path)
    (contents : List UInt8) : EStateM Error Tree Unit := do
  (attempt refused fun tree => tree.openFile mode path).adaptExcept opening
  (writeAll path contents partly).adaptExcept writing

/-! ## What the calls do -/

theorem bind_ok {Value Result Error : Type} {first : EStateM Error Tree Value}
    {rest : Value → EStateM Error Tree Result} {tree next : Tree} {value : Value}
    (hfirst : first tree = .ok value next) : (first >>= rest) tree = rest value next := by
  simp only [bind, EStateM.bind, hfirst]

theorem bind_error {Value Result Error : Type} {first : EStateM Error Tree Value}
    {rest : Value → EStateM Error Tree Result} {tree next : Tree} {error : Error}
    (hfirst : first tree = .error error next) :
    (first >>= rest) tree = .error error next := by
  simp only [bind, EStateM.bind, hfirst]

theorem adaptExcept_ok {Value Error Error' : Type} {report : Error → Error'}
    {call : EStateM Error Tree Value} {tree next : Tree} {value : Value}
    (hcall : call tree = .ok value next) : call.adaptExcept report tree = .ok value next := by
  simp only [EStateM.adaptExcept, hcall]

theorem adaptExcept_error {Value Error Error' : Type} {report : Error → Error'}
    {call : EStateM Error Tree Value} {tree next : Tree} {error : Error}
    (hcall : call tree = .error error next) :
    call.adaptExcept report tree = .error (report error) next := by
  simp only [EStateM.adaptExcept, hcall]

theorem afterMkdir_error {path : Path} {again : FileM Failure Unit} {same : Tree}
    {error : FileError Failure} (herror : error ≠ .refused .notFound) :
    afterMkdir path again (.error error same) =
      if same.node path = some .directory then .ok () same else .error error same := by
  rw [afterMkdir]
  exact herror

theorem attempt_eq_ok_iff {fault : Option Failure} {call : Tree → Except Refusal Tree}
    {tree next : Tree} :
    attempt fault call tree = .ok () next ↔ call tree = .ok next ∧ fault = none := by
  rw [attempt]
  cases call tree <;> cases fault <;> simp

theorem eq_of_attempt_error {fault : Option Failure} {call : Tree → Except Refusal Tree}
    {tree next : Tree} {error : FileError Failure}
    (herror : attempt fault call tree = .error error next) : next = tree := by
  rw [attempt] at herror
  cases hcall : call tree <;> cases fault <;> rw [hcall] at herror <;> cases herror <;> rfl

/-- Every place down to the path is a directory, or can be made one. -/
def Creatable (faults : Path → Option Failure) (tree : Tree) (path : Path) : Prop :=
  ∀ place, place <:+ path →
    tree.node place = some .directory ∨ tree.node place = none ∧ faults place = none

section Creatable

variable {faults : Path → Option Failure} {tree next : Tree} {name : String}
variable {dir path place : Path}

theorem Creatable.above (hcreatable : Creatable faults tree path) (hsuffix : place <:+ path) :
    Creatable faults tree place :=
  fun other hother => hcreatable other (hother.trans hsuffix)

theorem creatable_of_directory (hnode : tree.node path = some .directory) :
    Creatable faults tree path :=
  fun _ hplace => .inl (Tree.directory_of_isSuffix hplace hnode)

theorem creatable_cons_iff :
    Creatable faults tree (name :: dir) ↔
      Creatable faults tree dir ∧
        (tree.node (name :: dir) = some .directory ∨
          tree.node (name :: dir) = none ∧ faults (name :: dir) = none) := by
  constructor
  · intro hcreatable
    exact ⟨hcreatable.above (List.suffix_cons name dir), hcreatable _ List.suffix_rfl⟩
  · rintro ⟨hdir, hpath⟩ place hplace
    rcases List.suffix_cons_iff.mp hplace with rfl | hplace
    · exact hpath
    · exact hdir place hplace

/-- `next` has the missing directories down to `path`, as far as they can be made. -/
structure MakesDirs (faults : Path → Option Failure) (tree : Tree) (path : Path)
    (next : Tree) : Prop where
  made : ∀ place, place <:+ path → tree.node place = none →
    Creatable faults tree place → next.node place = some .directory
  kept : ∀ place, (place <:+ path → tree.node place = none → ¬ Creatable faults tree place) →
    next.node place = tree.node place

/-- There is nothing to make above what exists. -/
theorem makesDirs_of_node (hnode : tree.node path ≠ none) :
    MakesDirs faults tree path tree where
  made _ hplace hnone _ := absurd hnone (Tree.node_above hplace hnode)
  kept _ _ := rfl

/-- A place that a call leaves alone below the directories it made. -/
theorem MakesDirs.node_below (hmakes : MakesDirs faults tree dir next) :
    next.node (name :: dir) = tree.node (name :: dir) :=
  hmakes.kept _ fun hsuffix => absurd hsuffix Tree.not_below_isSuffix

theorem MakesDirs.directory (hmakes : MakesDirs faults tree path next)
    (hcreatable : Creatable faults tree path) : next.node path = some .directory := by
  rcases hcreatable path List.suffix_rfl with hnode | ⟨hnode, -⟩
  · rw [hmakes.kept path (fun _ hnone => by simp [hnode] at hnone), hnode]
  · exact hmakes.made path List.suffix_rfl hnode hcreatable

/-- The missing directory below the ones that a call made, when that fails. -/
theorem MakesDirs.stop (hmakes : MakesDirs faults tree dir next)
    (hpath : ¬ Creatable faults tree (name :: dir)) :
    MakesDirs faults tree (name :: dir) next where
  made place hplace hnode hcreatable := by
    rcases List.suffix_cons_iff.mp hplace with rfl | hplace
    · exact absurd hcreatable hpath
    · exact hmakes.made place hplace hnode hcreatable
  kept place hkept := by
    apply hmakes.kept
    intro hplace
    exact hkept (hplace.trans (List.suffix_cons name dir))

/-- The missing directory below the ones that a call made, when it is made too. -/
theorem MakesDirs.put (hmakes : MakesDirs faults tree dir next)
    (hnode : tree.node (name :: dir) = none) (hpath : Creatable faults tree (name :: dir))
    (hdir : next.node dir = some .directory)
    (hfree : next.node (name :: dir) ≠ some .directory) :
    MakesDirs faults tree (name :: dir) (next.put name dir .directory hdir hfree) where
  made place hplace hnone hcreatable := by
    rcases List.suffix_cons_iff.mp hplace with rfl | hplace
    · exact Tree.node_put_self
    · rw [Tree.node_put_of_ne, hmakes.made place hplace hnone hcreatable]
      rintro rfl
      exact Tree.not_below_isSuffix hplace
  kept place hkept := by
    have hne : place ≠ name :: dir := by
      rintro rfl
      exact hkept List.suffix_rfl hnode hpath
    rw [Tree.node_put_of_ne hne]
    apply hmakes.kept
    intro hplace
    exact hkept (hplace.trans (List.suffix_cons name dir))

/-- The last `mkdir` of `create_dir_all`, with the directories above made. -/
theorem attempt_mkdir (hmakes : MakesDirs faults tree dir next)
    (hdir : Creatable faults tree dir) (hnode : tree.node (name :: dir) = none) :
    ∃ last, MakesDirs faults tree (name :: dir) last ∧
      (Creatable faults tree (name :: dir) ∧
          attempt (faults (name :: dir)) (fun tree => tree.mkdir (name :: dir)) next =
            .ok () last ∨
        ¬ Creatable faults tree (name :: dir) ∧ ∃ failure,
          attempt (faults (name :: dir)) (fun tree => tree.mkdir (name :: dir)) next =
            .error (.failed failure) last) := by
  have habove : next.node dir = some .directory := hmakes.directory hdir
  have hfree : next.node (name :: dir) = none := hmakes.node_below.trans hnode
  cases hfault : faults (name :: dir) with
  | none =>
      have hpath : Creatable faults tree (name :: dir) :=
        creatable_cons_iff.mpr ⟨hdir, .inr ⟨hnode, hfault⟩⟩
      refine ⟨_, hmakes.put hnode hpath habove (by simp [hfree]), .inl ⟨hpath, ?_⟩⟩
      rw [attempt, Tree.mkdir, dif_pos habove, dif_pos hfree]
  | some failure =>
      have hpath : ¬ Creatable faults tree (name :: dir) := by
        intro hpath
        simpa [hnode, hfault] using (creatable_cons_iff.mp hpath).2
      refine ⟨next, hmakes.stop hpath, .inr ⟨hpath, failure, ?_⟩⟩
      rw [attempt, Tree.mkdir, dif_pos habove, dif_pos hfree]

theorem createDirAll_cons :
    createDirAll faults (name :: dir) tree =
      afterMkdir (name :: dir)
        (createDirAll faults dir >>= fun _ =>
          attempt (faults (name :: dir)) fun tree => tree.mkdir (name :: dir))
        (attempt (faults (name :: dir)) (fun tree => tree.mkdir (name :: dir)) tree) :=
  rfl

/-- How `create_dir_all` ends, and what it leaves. -/
def Creates (faults : Path → Option Failure) (path : Path) (tree next : Tree)
    (result : EStateM.Result (FileError Failure) Tree Unit) : Prop :=
  Creatable faults tree path ∧ result = .ok () next ∨
    ¬ Creatable faults tree path ∧ ∃ error, result = .error error next

/-- `create_dir_all` of something that exists. -/
theorem createDirAll_exists {node : Node} (hnode : tree.node (name :: dir) = some node) :
    Creates faults (name :: dir) tree tree (createDirAll faults (name :: dir) tree) := by
  have habove : tree.node dir = some .directory := tree.parent name dir (by simp [hnode])
  have hexists : attempt (faults (name :: dir)) (fun tree => tree.mkdir (name :: dir)) tree =
      .error (.refused .alreadyExists) tree := by
    rw [attempt, Tree.mkdir, dif_pos habove, dif_neg (by simp [hnode])]
  rw [createDirAll_cons, hexists, afterMkdir_error (by simp)]
  cases node with
  | directory => exact .inl ⟨creatable_of_directory hnode, if_pos hnode⟩
  | file contents =>
      refine .inr ⟨?_, _, if_neg (by simp [hnode])⟩
      intro hcreatable
      simpa [hnode] using (creatable_cons_iff.mp hcreatable).2

/-- The two directions that a `mkdir` below what exists can take. -/
theorem createDirAll_below (hdir : tree.node dir = some .directory)
    (hnode : tree.node (name :: dir) = none) :
    ∃ next, MakesDirs faults tree (name :: dir) next ∧
      Creates faults (name :: dir) tree next (createDirAll faults (name :: dir) tree) := by
  have hself : MakesDirs faults tree dir tree := makesDirs_of_node (by simp [hdir])
  obtain ⟨last, hmakes, ⟨hpath, hlast⟩ | ⟨hpath, failure, hlast⟩⟩ :=
    attempt_mkdir hself (creatable_of_directory hdir) hnode
  · refine ⟨last, hmakes, .inl ⟨hpath, ?_⟩⟩
    rw [createDirAll_cons, hlast, afterMkdir]
  · have hstill : last.node (name :: dir) = none :=
      (hmakes.kept _ fun _ _ => hpath).trans hnode
    refine ⟨last, hmakes, .inr ⟨hpath, .failed failure, ?_⟩⟩
    rw [createDirAll_cons, hlast, afterMkdir_error (by simp), if_neg (by simp [hstill])]

/-- A file stands where a directory is needed. -/
theorem createDirAll_under_file {contents : List UInt8}
    (hdir : tree.node dir = some (.file contents)) (hnode : tree.node (name :: dir) = none) :
    MakesDirs faults tree (name :: dir) tree ∧
      Creates faults (name :: dir) tree tree (createDirAll faults (name :: dir) tree) := by
  have hpath : ¬ Creatable faults tree (name :: dir) := by
    intro hpath
    simpa [hdir] using hpath dir (List.suffix_cons name dir)
  have hrefused : attempt (faults (name :: dir)) (fun tree => tree.mkdir (name :: dir)) tree =
      .error (.refused .notDirectory) tree := by
    rw [attempt, Tree.mkdir, dif_neg (by simp [hdir])]
    simp [Tree.unreachable, Tree.existsAt, hdir]
  have hself : MakesDirs faults tree dir tree := makesDirs_of_node (by simp [hdir])
  refine ⟨hself.stop hpath, .inr ⟨hpath, .refused .notDirectory, ?_⟩⟩
  rw [createDirAll_cons, hrefused, afterMkdir_error (by simp), if_neg (by simp [hnode])]

/-- `create_dir_all` makes what it can, and succeeds when that is everything. -/
theorem createDirAll_creates (faults : Path → Option Failure) (path : Path) (tree : Tree) :
    ∃ next, MakesDirs faults tree path next ∧
      Creates faults path tree next (createDirAll faults path tree) := by
  induction path with
  | nil =>
      exact ⟨tree, makesDirs_of_node (by simp [tree.root]),
        .inl ⟨creatable_of_directory tree.root, rfl⟩⟩
  | cons name dir ih =>
      cases hnode : tree.node (name :: dir) with
      | some node =>
          exact ⟨tree, makesDirs_of_node (by simp [hnode]), createDirAll_exists hnode⟩
      | none =>
          cases hdir : tree.node dir with
          | some above =>
              cases above with
              | directory => exact createDirAll_below hdir hnode
              | file contents => exact ⟨tree, createDirAll_under_file hdir hnode⟩
          | none =>
              have hmissing : attempt (faults (name :: dir))
                  (fun tree => tree.mkdir (name :: dir)) tree =
                    .error (.refused .notFound) tree := by
                rw [attempt, Tree.mkdir, dif_neg (by simp [hdir])]
                simp [Tree.unreachable, Tree.existsAt, hdir]
              rw [createDirAll_cons, hmissing, afterMkdir]
              obtain ⟨middle, hmakes, ⟨habove, hcreate⟩ | ⟨habove, error, hcreate⟩⟩ := ih
              · obtain ⟨last, hlast, ⟨hpath, hmkdir⟩ | ⟨hpath, failure, hmkdir⟩⟩ :=
                  attempt_mkdir hmakes habove hnode
                · exact ⟨last, hlast, .inl ⟨hpath, by rw [bind_ok hcreate, hmkdir]⟩⟩
                · exact ⟨last, hlast, .inr ⟨hpath, .failed failure, by
                    rw [bind_ok hcreate, hmkdir]⟩⟩
              · have hpath : ¬ Creatable faults tree (name :: dir) :=
                  fun hpath => habove (creatable_cons_iff.mp hpath).1
                exact ⟨middle, hmakes.stop hpath, .inr ⟨hpath, error, bind_error hcreate⟩⟩

/-- `next` has some directories more. -/
def AddsDirs (tree next : Tree) : Prop :=
  ∀ place, next.node place = tree.node place ∨
    tree.node place = none ∧ next.node place = some .directory

theorem MakesDirs.adds (hmakes : MakesDirs faults tree path next) : AddsDirs tree next := by
  intro place
  by_cases hmade : place <:+ path ∧ tree.node place = none ∧ Creatable faults tree place
  · exact .inr ⟨hmade.2.1, hmakes.made place hmade.1 hmade.2.1 hmade.2.2⟩
  · exact .inl (hmakes.kept place fun hplace hnone hcreatable =>
      hmade ⟨hplace, hnone, hcreatable⟩)

theorem AddsDirs.trans {last : Tree} (hfirst : AddsDirs tree next)
    (hsecond : AddsDirs next last) : AddsDirs tree last := by
  intro place
  rcases hfirst place with hsame | ⟨hnone, hdir⟩
  · rcases hsecond place with hlast | ⟨hnext, hlast⟩
    · exact .inl (hlast.trans hsame)
    · exact .inr ⟨hsame ▸ hnext, hlast⟩
  · rcases hsecond place with hlast | ⟨hnext, -⟩
    · exact .inr ⟨hnone, hlast.trans hdir⟩
    · rw [hdir] at hnext
      cases hnext

theorem AddsDirs.directory (hadds : AddsDirs tree next)
    (hnode : tree.node place = some .directory) : next.node place = some .directory := by
  rcases hadds place with hsame | ⟨-, hdir⟩
  · exact hsame.trans hnode
  · exact hdir

/-- Directories that are there already do no harm. -/
theorem AddsDirs.creatable (hadds : AddsDirs tree next)
    (hcreatable : Creatable faults tree path) : Creatable faults next path := by
  intro place hplace
  rcases hadds place with hsame | ⟨-, hdir⟩
  · rw [hsame]
    exact hcreatable place hplace
  · exact .inl hdir

theorem MakesDirs.creatable_iff (hmakes : MakesDirs faults tree path next) :
    Creatable faults next place ↔ Creatable faults tree place := by
  constructor
  · intro hcreatable other hother
    by_cases hmade : other <:+ path ∧ tree.node other = none ∧ Creatable faults tree other
    · exact hmade.2.2 other List.suffix_rfl
    · rw [← hmakes.kept other fun hplace hnone hcreatable => hmade ⟨hplace, hnone, hcreatable⟩]
      exact hcreatable other hother
  · exact hmakes.adds.creatable

end Creatable

section Writing

variable {tree next : Tree} {name : String} {dir path : Path} {mode : OpenMode}
variable {refused : Option Failure} {partly : Option (ℕ × Failure)} {contents : List UInt8}
variable {Error : Type} {opening writing : FileError Failure → Error}

/-- The tree that a call leaves, however it ends. -/
def left : EStateM.Result Error Tree Unit → Tree
  | .ok () next => next
  | .error _ next => next

/-- `next` differs from `tree` in this file. -/
structure Writes (tree : Tree) (path : Path) (contents : List UInt8) (next : Tree) :
    Prop where
  written : next.node path = some (.file contents)
  kept : ∀ place, place ≠ path → next.node place = tree.node place

theorem Tree.openFile_new (mode : OpenMode) (hdir : tree.node dir = some .directory)
    (hnode : tree.node (name :: dir) = none) :
    ∃ opened, tree.openFile mode (name :: dir) = .ok opened ∧
      Writes tree (name :: dir) [] opened := by
  have hfree : tree.node (name :: dir) ≠ some .directory := by simp [hnode]
  have hexists : ¬ (mode = .exclusive ∧ tree.existsAt (name :: dir) = true) := by
    simp [Tree.existsAt, hnode]
  refine ⟨tree.put name dir (.file []) hdir hfree, ?_, Tree.node_put_self,
    fun _ hne => Tree.node_put_of_ne hne⟩
  rw [Tree.openFile, dif_pos hdir, if_neg hexists, dif_neg hfree]

theorem Writes.fill {old : List UInt8} (hwrites : Writes tree (name :: dir) old next)
    (contents : List UInt8) :
    Writes tree (name :: dir) contents (next.fill contents (name :: dir)) := by
  have hfile : next.existsAt (name :: dir) = true ∧
      next.node (name :: dir) ≠ some .directory := by
    simp [Tree.existsAt, hwrites.written]
  rw [Tree.fill, dif_pos hfile]
  exact ⟨Tree.node_put_self, fun place hne =>
    (Tree.node_put_of_ne hne).trans (hwrites.kept place hne)⟩

/-- Writing a file that is not there yet. -/
theorem writeFile_new (hdir : tree.node dir = some .directory)
    (hnode : tree.node (name :: dir) = none) :
    (refused ≠ none ∧ ∃ error,
        writeFile opening writing mode refused partly (name :: dir) contents tree =
          .error error tree) ∨
      refused = none ∧ partly = none ∧ (∃ next, Writes tree (name :: dir) contents next ∧
        writeFile opening writing mode refused partly (name :: dir) contents tree =
          .ok () next) ∨
      refused = none ∧ partly ≠ none ∧ ∃ part error next,
        Writes tree (name :: dir) part next ∧
        writeFile opening writing mode refused partly (name :: dir) contents tree =
          .error error next := by
  obtain ⟨opened, hopen, hwrites⟩ := Tree.openFile_new mode hdir hnode
  cases refused with
  | some failure =>
      refine .inl ⟨by simp, opening (.failed failure), ?_⟩
      rw [writeFile]
      exact bind_error (adaptExcept_error (by rw [attempt, hopen]))
  | none =>
      have hattempt : attempt (none : Option Failure)
          (fun tree => tree.openFile mode (name :: dir)) tree = .ok () opened :=
        attempt_eq_ok_iff.mpr ⟨hopen, rfl⟩
      rw [writeFile, bind_ok (adaptExcept_ok hattempt)]
      cases partly with
      | none => exact .inr (.inl ⟨rfl, rfl, _, hwrites.fill contents, rfl⟩)
      | some part =>
          exact .inr (.inr ⟨rfl, by simp, _, _, _,
            hwrites.fill (contents.take part.1), rfl⟩)

/-- What stands in the way of a file stays. -/
theorem writeFile_occupied
    (hnode : tree.node path = some .directory ∨ mode = .exclusive ∧ tree.node path ≠ none) :
    ∃ error, writeFile opening writing mode refused partly path contents tree =
      .error error tree := by
  obtain ⟨refusal, hopen⟩ : ∃ refusal, tree.openFile mode path = .error refusal := by
    cases path with
    | nil => exact ⟨_, rfl⟩
    | cons name dir =>
        have hexists : tree.node (name :: dir) ≠ none := by
          rcases hnode with hnode | ⟨-, hnode⟩
          · simp [hnode]
          · exact hnode
        rw [Tree.openFile, dif_pos (tree.parent name dir hexists)]
        rcases hnode with hnode | ⟨hmode, -⟩
        · split <;> exact ⟨_, rfl⟩
        · exact ⟨_, if_pos ⟨hmode, Option.isSome_iff_ne_none.mpr hexists⟩⟩
  refine ⟨opening (.refused refusal), ?_⟩
  rw [writeFile]
  exact bind_error (adaptExcept_error (by rw [attempt, hopen]))

theorem Tree.node_put_ne_none {node : Node} {hdir : tree.node dir = some .directory}
    {hfree : tree.node (name :: dir) ≠ some .directory} {place : Path}
    (hnode : tree.node place ≠ none) :
    (tree.put name dir node hdir hfree).node place ≠ none := by
  by_cases hplace : place = name :: dir
  · simp [hplace]
  · rwa [Tree.node_put_of_ne hplace]

theorem Tree.node_openFile_ne_none {place : Path} (hopen : tree.openFile mode path = .ok next)
    (hnode : tree.node place ≠ none) : next.node place ≠ none := by
  cases path with
  | nil => cases hopen
  | cons name dir =>
      rw [Tree.openFile] at hopen
      split at hopen
      next hdir =>
        split at hopen
        next => cases hopen
        next =>
          split at hopen
          next => cases hopen
          next =>
            cases hopen
            exact Tree.node_put_ne_none hnode
      next => cases hopen

theorem Tree.node_fill_ne_none {place : Path} (hnode : tree.node place ≠ none) :
    (tree.fill contents path).node place ≠ none := by
  cases path with
  | nil => exact hnode
  | cons name dir =>
      rw [Tree.fill]
      split
      · exact Tree.node_put_ne_none hnode
      · exact hnode

/-- Nothing disappears in a write. -/
theorem writeFile_keeps {place : Path} (hnode : tree.node place ≠ none) :
    (left (writeFile opening writing mode refused partly path contents tree)).node place ≠
      none := by
  rw [writeFile]
  cases hattempt : attempt refused (fun tree => tree.openFile mode path) tree with
  | error error same =>
      rw [bind_error (adaptExcept_error hattempt), eq_of_attempt_error hattempt]
      exact hnode
  | ok value opened =>
      rw [bind_ok (adaptExcept_ok hattempt)]
      have hopen : tree.openFile mode path = .ok opened :=
        (attempt_eq_ok_iff.mp hattempt).1
      have hopened : opened.node place ≠ none := Tree.node_openFile_ne_none hopen hnode
      cases partly with
      | none => exact Tree.node_fill_ne_none hopened
      | some part => exact Tree.node_fill_ne_none hopened

/-- An opened file is empty, and nothing else changes. -/
theorem Tree.writes_openFile (hopen : tree.openFile mode path = .ok next) :
    Writes tree path [] next := by
  cases path with
  | nil => cases hopen
  | cons name dir =>
      rw [Tree.openFile] at hopen
      split at hopen
      next hdir =>
        split at hopen
        next => cases hopen
        next =>
          split at hopen
          next => cases hopen
          next =>
            cases hopen
            exact ⟨Tree.node_put_self, fun _ hne => Tree.node_put_of_ne hne⟩
      next => cases hopen

theorem Writes.refill {old : List UInt8} (hwrites : Writes tree path old next)
    (contents : List UInt8) : Writes tree path contents (next.fill contents path) := by
  cases path with
  | nil => cases next.root.symm.trans hwrites.written
  | cons name dir => exact hwrites.fill contents

/-- A write that succeeds has written everything, to this file. -/
theorem writes_of_ok
    (hwrite : writeFile opening writing mode refused partly path contents tree = .ok () next) :
    Writes tree path contents next := by
  rw [writeFile] at hwrite
  cases hattempt : attempt refused (fun tree => tree.openFile mode path) tree with
  | error failure same =>
      rw [bind_error (adaptExcept_error hattempt)] at hwrite
      cases hwrite
  | ok value opened =>
      rw [bind_ok (adaptExcept_ok hattempt)] at hwrite
      have hopened : Writes tree path [] opened :=
        Tree.writes_openFile (attempt_eq_ok_iff.mp hattempt).1
      cases partly with
      | none =>
          cases hwrite
          exact hopened.refill contents
      | some part => cases hwrite

/-- A write that fails has written a first part, if anything. -/
theorem writes_of_error {error : Error}
    (hwrite : writeFile opening writing mode refused partly path contents tree =
      .error error next) :
    next = tree ∨ ∃ part, part <+: contents ∧ Writes tree path part next := by
  rw [writeFile] at hwrite
  cases hattempt : attempt refused (fun tree => tree.openFile mode path) tree with
  | error failure same =>
      rw [bind_error (adaptExcept_error hattempt)] at hwrite
      cases hwrite
      exact .inl (eq_of_attempt_error hattempt)
  | ok value opened =>
      rw [bind_ok (adaptExcept_ok hattempt)] at hwrite
      have hopened : Writes tree path [] opened :=
        Tree.writes_openFile (attempt_eq_ok_iff.mp hattempt).1
      cases partly with
      | none => cases hwrite
      | some part =>
          cases hwrite
          exact .inr ⟨_, List.take_prefix part.1 contents, hopened.refill _⟩

end Writing

end Calls

end VpnBridge.FileTree
