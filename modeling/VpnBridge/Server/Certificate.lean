import VpnBridge.Core.FileTree
import VpnBridge.Proto.Wire

/-!
# The identity of the proxy server

`certificate::ensure_exists` over a file tree.  When neither file is there it
generates a certificate with its key, makes the two directories, and writes one
file after the other; each of these calls may fail.
-/

namespace VpnBridge.Server

open VpnBridge.FileTree VpnBridge.Proto

/-- `rcgen::CertifiedKey`, as the two PEM texts. -/
structure Identity where
  certificatePem : String
  signingKeyPem : String
  deriving DecidableEq

/-- The calls that fail, for a reason that the file tree does not have. -/
structure Faults where
  /-- The directories that cannot be made. -/
  mkdir : Path → Option IoError
  createCertificate : Option IoError
  /-- How much of the certificate is written before that fails. -/
  writeCertificate : Option (ℕ × IoError)
  createKey : Option IoError
  writeKey : Option (ℕ × IoError)

def Faults.none : Faults where
  mkdir _ := .none
  createCertificate := .none
  writeCertificate := .none
  createKey := .none
  writeKey := .none

/-- What the operating system says. -/
def refusalMessage : Refusal → String
  | .notFound => "No such file or directory (os error 2)"
  | .alreadyExists => "File exists (os error 17)"
  | .notDirectory => "Not a directory (os error 20)"
  | .isDirectory => "Is a directory (os error 21)"

def ioMessage : FileError IoError → String
  | .refused refusal => refusalMessage refusal
  | .failed failure => failure.message

/-- `with_context` on an error of the file system. -/
def withContext (context : String) (error : FileError IoError) : AnyhowError :=
  [context, ioMessage error]

section Generation

variable (display : Path → String)

/-- `create_dir_all` of the parent, if the path has one. -/
def createParent (faults : Faults) (purpose : String) : Path → EStateM AnyhowError Tree Unit
  | [] => pure ()
  | _ :: parent =>
      (createDirAll faults.mkdir parent).adaptExcept
        (withContext s!"creating {purpose} directory {display parent}")

def writeCertificate (faults : Faults) (path : Path) (contents : List UInt8) :
    EStateM AnyhowError Tree Unit :=
  writeFile (withContext s!"writing certificate {display path}")
    (withContext s!"writing certificate {display path}") .truncate
    faults.createCertificate faults.writeCertificate path contents

def writePrivateKey (faults : Faults) (path : Path) (contents : List UInt8) :
    EStateM AnyhowError Tree Unit :=
  writeFile (withContext s!"creating private key {display path}")
    (withContext s!"writing private key {display path}") .exclusive
    faults.createKey faults.writeKey path contents

/-- `ensure_exists`.  `display` is how a path is written, `generate` is
`rcgen::generate_simple_self_signed` of one server name. -/
def ensureExists (generate : String → Except String Identity) (faults : Faults)
    (certificate privateKey : Path) (serverName : String) :
    EStateM AnyhowError Tree Unit := do
  let tree ← get
  match tree.existsAt certificate, tree.existsAt privateKey with
  | true, true => return ()
  | true, false | false, true =>
      throw [s!"certificate and private key must either both exist or both be absent: {display certificate}, {display privateKey}"]
  | false, false =>
      match generate serverName with
      | .error error => throw ["generating self-signed certificate", error]
      | .ok generated =>
          createParent display faults "certificate" certificate
          createParent display faults "private-key" privateKey
          writeCertificate display faults certificate (asBytes generated.certificatePem)
          writePrivateKey display faults privateKey (asBytes generated.signingKeyPem)

end Generation

/-! ## The directories -/

section Directories

variable {display : Path → String} {faults : Faults} {tree : Tree}
variable {certificateName keyName : String} {certificateDir keyDir place : Path}

/-- The directories that the call tries to make. -/
def TriesDirectory (faults : Faults) (tree : Tree) (certificateDir keyDir place : Path) : Prop :=
  place <:+ certificateDir ∨
    Creatable faults.mkdir tree certificateDir ∧ place <:+ keyDir

/-- `next` has the missing directories of both files, as far as they can be made. -/
structure Prepares (faults : Faults) (tree : Tree) (certificateDir keyDir : Path)
    (next : Tree) : Prop where
  adds : AddsDirs tree next
  made : ∀ place, tree.node place = none → Creatable faults.mkdir tree place →
    TriesDirectory faults tree certificateDir keyDir place → next.node place = some .directory
  kept : ∀ place, (Creatable faults.mkdir tree place →
    ¬ TriesDirectory faults tree certificateDir keyDir place) → next.node place = tree.node place

def createParents (display : Path → String) (faults : Faults) (certificate privateKey : Path) :
    EStateM AnyhowError Tree Unit := do
  createParent display faults "certificate" certificate
  createParent display faults "private-key" privateKey

/-- The first directory cannot be made, so the second is not tried. -/
theorem prepares_of_stop {next : Tree}
    (hcertificate : ¬ Creatable faults.mkdir tree certificateDir)
    (hmakes : MakesDirs faults.mkdir tree certificateDir next) :
    Prepares faults tree certificateDir keyDir next where
  adds := hmakes.adds
  made place hnone hcreatable htries := by
    rcases htries with hplace | ⟨habove, -⟩
    · exact hmakes.made place hplace hnone hcreatable
    · exact absurd habove hcertificate
  kept place hkept :=
    hmakes.kept place fun hplace _ hcreatable => hkept hcreatable (.inl hplace)

theorem prepares_of_both {middle next : Tree}
    (hcertificate : Creatable faults.mkdir tree certificateDir)
    (hmiddle : MakesDirs faults.mkdir tree certificateDir middle)
    (hnext : MakesDirs faults.mkdir middle keyDir next) :
    Prepares faults tree certificateDir keyDir next where
  adds := hmiddle.adds.trans hnext.adds
  made place hnone hcreatable htries := by
    rcases hmiddle.adds place with hsame | ⟨-, hdir⟩
    · rcases htries with hplace | ⟨-, hplace⟩
      · exact hnext.adds.directory (hmiddle.made place hplace hnone hcreatable)
      · exact hnext.made place hplace (hsame.trans hnone) (hmiddle.adds.creatable hcreatable)
    · exact hnext.adds.directory hdir
  kept place hkept := by
    rw [hnext.kept place fun hplace _ hcreatable =>
      hkept (hmiddle.creatable_iff.mp hcreatable) (.inr ⟨hcertificate, hplace⟩)]
    exact hmiddle.kept place fun hplace _ hcreatable => hkept hcreatable (.inl hplace)

theorem createParents_prepares (display : Path → String) (faults : Faults) (tree : Tree)
    (certificateName keyName : String) (certificateDir keyDir : Path) :
    ∃ next, Prepares faults tree certificateDir keyDir next ∧
      ((Creatable faults.mkdir tree certificateDir ∧ Creatable faults.mkdir tree keyDir) ∧
          createParents display faults (certificateName :: certificateDir) (keyName :: keyDir)
            tree = .ok () next ∨
        ¬ (Creatable faults.mkdir tree certificateDir ∧ Creatable faults.mkdir tree keyDir) ∧
          ∃ error, createParents display faults (certificateName :: certificateDir)
            (keyName :: keyDir) tree = .error error next) := by
  simp only [createParents, createParent]
  obtain ⟨middle, hmiddle, ⟨hcertificate, hfirst⟩ | ⟨hcertificate, error, hfirst⟩⟩ :=
    createDirAll_creates faults.mkdir certificateDir tree
  · rw [bind_ok (adaptExcept_ok hfirst)]
    obtain ⟨next, hnext, hsecond⟩ := createDirAll_creates faults.mkdir keyDir middle
    rw [Creates, hmiddle.creatable_iff] at hsecond
    refine ⟨next, prepares_of_both hcertificate hmiddle hnext, ?_⟩
    rcases hsecond with ⟨hkey, hsecond⟩ | ⟨hkey, error, hsecond⟩
    · exact .inl ⟨⟨hcertificate, hkey⟩, adaptExcept_ok hsecond⟩
    · exact .inr ⟨fun hboth => hkey hboth.2, _, adaptExcept_error hsecond⟩
  · exact ⟨middle, prepares_of_stop hcertificate hmiddle, .inr
      ⟨fun hboth => hcertificate hboth.1, _, bind_error (adaptExcept_error hfirst)⟩⟩

/-- One path is above the other, and its place becomes a directory. -/
def Nested (faults : Faults) (tree : Tree) (certificate privateKey : Path) : Prop :=
  Creatable faults.mkdir tree privateKey ∧ privateKey <:+ certificate.tail ∨
    Creatable faults.mkdir tree certificate ∧ certificate <:+ privateKey.tail

variable {next : Tree}

theorem Prepares.of_nested
    (hprepares : Prepares faults tree certificateDir keyDir next)
    (hcertificate : tree.node (certificateName :: certificateDir) = none)
    (hkey : tree.node (keyName :: keyDir) = none)
    (hnested : Nested faults tree (certificateName :: certificateDir) (keyName :: keyDir)) :
    next.node (certificateName :: certificateDir) = some .directory ∨
      next.node (keyName :: keyDir) = some .directory := by
  rcases hnested with ⟨hcreatable, hplace⟩ | ⟨hcreatable, hplace⟩
  · exact .inr (hprepares.made _ hkey hcreatable (.inl hplace))
  · have habove : Creatable faults.mkdir tree certificateDir :=
      hcreatable.above (List.suffix_cons _ _)
    exact .inl (hprepares.made _ hcertificate hcreatable (.inr ⟨habove, hplace⟩))

theorem Prepares.of_not_nested
    (hprepares : Prepares faults tree certificateDir keyDir next)
    (hnested : ¬ Nested faults tree (certificateName :: certificateDir) (keyName :: keyDir)) :
    next.node (certificateName :: certificateDir) =
        tree.node (certificateName :: certificateDir) ∧
      next.node (keyName :: keyDir) = tree.node (keyName :: keyDir) := by
  constructor
  · apply hprepares.kept
    rintro hcreatable (hplace | ⟨-, hplace⟩)
    · exact Tree.not_below_isSuffix hplace
    · exact hnested (.inr ⟨hcreatable, hplace⟩)
  · apply hprepares.kept
    rintro hcreatable (hplace | ⟨-, hplace⟩)
    · exact hnested (.inl ⟨hcreatable, hplace⟩)
    · exact Tree.not_below_isSuffix hplace

theorem Prepares.directories
    (hprepares : Prepares faults tree certificateDir keyDir next)
    (hcertificate : Creatable faults.mkdir tree certificateDir)
    (hkey : Creatable faults.mkdir tree keyDir) :
    next.node certificateDir = some .directory ∧ next.node keyDir = some .directory := by
  have hdirectory : ∀ place, Creatable faults.mkdir tree place →
      TriesDirectory faults tree certificateDir keyDir place →
        next.node place = some .directory := by
    intro place hcreatable htries
    rcases hcreatable place List.suffix_rfl with hnode | ⟨hnode, -⟩
    · exact hprepares.adds.directory hnode
    · exact hprepares.made place hnode hcreatable htries
  exact ⟨hdirectory _ hcertificate (.inl List.suffix_rfl),
    hdirectory _ hkey (.inr ⟨hcertificate, List.suffix_rfl⟩)⟩

end Directories

/-! ## The two files -/

section Files

variable {display : Path → String} {faults : Faults} {tree next : Tree}
variable {certificate privateKey certificateDir keyDir : Path}
variable {certificateName keyName : String}
variable {certificatePem keyPem : List UInt8}

def writeBoth (display : Path → String) (faults : Faults) (certificate privateKey : Path)
    (certificatePem keyPem : List UInt8) : EStateM AnyhowError Tree Unit := do
  writeCertificate display faults certificate certificatePem
  writePrivateKey display faults privateKey keyPem

/-- Nothing fails once the certificate has been created. -/
def Faults.SparesWrites (faults : Faults) : Prop :=
  faults.writeCertificate = .none ∧ faults.createKey = .none ∧ faults.writeKey = .none

/-- A directory in the place of a file makes the call fail, and stays. -/
theorem writeBoth_occupied
    (hnode : tree.node certificate = some .directory ∨
      tree.node privateKey = some .directory) :
    ∃ error next, writeBoth display faults certificate privateKey certificatePem keyPem tree =
        .error error next ∧
      (next.node certificate ≠ none ∨ next.node privateKey ≠ none) := by
  rw [writeBoth]
  rcases hnode with hnode | hnode
  · obtain ⟨error, hwrite⟩ := writeFile_occupied (.inl hnode)
    exact ⟨error, tree, bind_error hwrite, .inl (by simp [hnode])⟩
  · have hkeeps : (left (writeCertificate display faults certificate certificatePem
        tree)).node privateKey ≠ none := writeFile_keeps (by simp [hnode])
    cases hwrite : writeCertificate display faults certificate certificatePem tree with
    | error error next =>
        rw [hwrite] at hkeeps
        exact ⟨error, next, bind_error hwrite, .inr hkeeps⟩
    | ok value next =>
        rw [hwrite] at hkeeps
        obtain ⟨error, hkey⟩ := writeFile_occupied (.inr ⟨rfl, hkeeps⟩)
        exact ⟨error, next, by rw [bind_ok hwrite]; exact hkey, .inr hkeeps⟩

/-- The private key of a certificate that was written. -/
theorem writePrivateKey_cases
    (hdir : tree.node keyDir = some .directory)
    (hfaults : faults.writeCertificate = .none)
    (hwrites : Writes tree certificate certificatePem next)
    (hcertificate : tree.node certificate = none)
    (hkey : tree.node (keyName :: keyDir) = none) :
    (certificate ≠ keyName :: keyDir ∧ faults.SparesWrites ∧ ∃ last,
        writePrivateKey display faults (keyName :: keyDir) keyPem next = .ok () last ∧
        last.node certificate = some (.file certificatePem) ∧
        last.node (keyName :: keyDir) = some (.file keyPem)) ∨
      ¬ (certificate ≠ keyName :: keyDir ∧ faults.SparesWrites) ∧ ∃ error last,
        writePrivateKey display faults (keyName :: keyDir) keyPem next = .error error last ∧
        last.node certificate ≠ none := by
  have hexists : next.node certificate ≠ none := by simp [hwrites.written]
  by_cases hsame : certificate = keyName :: keyDir
  · obtain ⟨error, hwrite⟩ := writeFile_occupied (.inr ⟨rfl, hsame ▸ hexists⟩)
    exact .inr ⟨fun hapart => hapart.1 hsame, error, next, hwrite, hexists⟩
  · have hkeyDir : next.node keyDir = some .directory := by
      rw [hwrites.kept, hdir]
      rintro rfl
      simp [hdir] at hcertificate
    have hfree : next.node (keyName :: keyDir) = none :=
      (hwrites.kept _ (Ne.symm hsame)).trans hkey
    rcases writeFile_new hkeyDir hfree with ⟨hcreate, error, hwrite⟩ |
      ⟨hcreate, hpart, last, hlast, hwrite⟩ | ⟨hcreate, hpart, part, error, last, hlast, hwrite⟩
    · exact .inr ⟨fun hspares => hcreate hspares.2.2.1, error, next, hwrite, hexists⟩
    · exact .inl ⟨hsame, ⟨hfaults, hcreate, hpart⟩, last, hwrite,
        (hlast.kept _ hsame).trans hwrites.written, hlast.written⟩
    · refine .inr ⟨fun hspares => hpart hspares.2.2.2, error, last, hwrite, ?_⟩
      rwa [hlast.kept _ hsame]

/-- The two writes, where the way is clear. -/
theorem writeBoth_cases
    (hcertificateDir : tree.node certificateDir = some .directory)
    (hkeyDir : tree.node keyDir = some .directory)
    (hcertificate : tree.node (certificateName :: certificateDir) = none)
    (hkey : tree.node (keyName :: keyDir) = none) :
    faults.createCertificate ≠ .none ∧ (∃ error,
        writeBoth display faults (certificateName :: certificateDir) (keyName :: keyDir)
          certificatePem keyPem tree = .error error tree) ∨
      faults.createCertificate = .none ∧
        ((certificateName :: certificateDir ≠ keyName :: keyDir ∧ faults.SparesWrites ∧
            ∃ last, writeBoth display faults (certificateName :: certificateDir)
                (keyName :: keyDir) certificatePem keyPem tree = .ok () last ∧
              last.node (certificateName :: certificateDir) = some (.file certificatePem) ∧
              last.node (keyName :: keyDir) = some (.file keyPem)) ∨
          ¬ (certificateName :: certificateDir ≠ keyName :: keyDir ∧ faults.SparesWrites) ∧
            ∃ error last, writeBoth display faults (certificateName :: certificateDir)
                (keyName :: keyDir) certificatePem keyPem tree = .error error last ∧
              last.node (certificateName :: certificateDir) ≠ none) := by
  rcases writeFile_new hcertificateDir hcertificate with ⟨hcreate, error, hwrite⟩ |
    ⟨hcreate, hpart, next, hnext, hwrite⟩ | ⟨hcreate, hpart, part, error, next, hnext, hwrite⟩
  · exact .inl ⟨hcreate, error, bind_error hwrite⟩
  · have hrest : writeBoth display faults (certificateName :: certificateDir)
        (keyName :: keyDir) certificatePem keyPem tree =
          writePrivateKey display faults (keyName :: keyDir) keyPem next := bind_ok hwrite
    rw [hrest]
    exact .inr ⟨hcreate, writePrivateKey_cases hkeyDir hpart hnext hcertificate hkey⟩
  · exact .inr ⟨hcreate, .inr ⟨fun hspares => hpart hspares.2.1, error, next,
      bind_error hwrite, by simp [hnext.written]⟩⟩

end Files

/-! ## Generating the identity -/

section Identities

variable {display : Path → String} {generate again : String → Except String Identity}
variable {faults : Faults} {certificate privateKey : Path} {serverName : String}
variable {tree next : Tree} {identity : Identity}

/-- Neither file is there. -/
def Absent (tree : Tree) (certificate privateKey : Path) : Prop :=
  tree.node certificate = none ∧ tree.node privateKey = none

theorem absent_iff :
    Absent tree certificate privateKey ↔
      tree.existsAt certificate = false ∧ tree.existsAt privateKey = false := by
  rw [Absent, Tree.existsAt, Tree.existsAt, Option.isSome_eq_false_iff,
    Option.isSome_eq_false_iff, Option.isNone_iff_eq_none, Option.isNone_iff_eq_none]

theorem ensureExists_eq (habsent : Absent tree certificate privateKey)
    (hgenerate : generate serverName = .ok identity) :
    ensureExists display generate faults certificate privateKey serverName tree =
      (createParents display faults certificate privateKey >>= fun _ =>
        writeBoth display faults certificate privateKey (asBytes identity.certificatePem)
          (asBytes identity.signingKeyPem)) tree := by
  have hget : (get : EStateM AnyhowError Tree Tree) tree = .ok tree tree := rfl
  rw [ensureExists, bind_ok hget, (absent_iff.mp habsent).1, (absent_iff.mp habsent).2,
    hgenerate]
  simp only [createParents, writeBoth, bind_assoc]

/-- The call comes to put something at one of the two paths: the certificate, or a
directory where one path is above the other. -/
def ReachesPaths (faults : Faults) (tree : Tree) (certificate privateKey : Path) : Prop :=
  Creatable faults.mkdir tree certificate.tail ∧ Creatable faults.mkdir tree privateKey.tail ∧
      faults.createCertificate = .none ∨
    Nested faults tree certificate privateKey

/-- Neither path is the other, or above it. -/
def Apart (certificate privateKey : Path) : Prop :=
  ¬ certificate <:+ privateKey ∧ ¬ privateKey <:+ certificate

theorem cons_of_absent (habsent : tree.node certificate = none) :
    ∃ name dir, certificate = name :: dir := by
  cases certificate with
  | nil => exact absurd (tree.root.symm.trans habsent) (by simp)
  | cons name dir => exact ⟨name, dir, rfl⟩

theorem not_apart_of_nested (hnested : Nested faults tree certificate privateKey) :
    ¬ Apart certificate privateKey := by
  rintro ⟨hbelow, habove⟩
  rcases hnested with ⟨-, hplace⟩ | ⟨-, hplace⟩
  · exact habove (hplace.trans (List.tail_suffix certificate))
  · exact hbelow (hplace.trans (List.tail_suffix privateKey))

/-- With the directories in reach, paths that are not nested are apart or the same. -/
theorem apart_of_not_nested (habsent : Absent tree certificate privateKey)
    (hcertificate : Creatable faults.mkdir tree certificate.tail)
    (hkey : Creatable faults.mkdir tree privateKey.tail)
    (hnested : ¬ Nested faults tree certificate privateKey)
    (hne : certificate ≠ privateKey) : Apart certificate privateKey := by
  obtain ⟨certificateName, certificateDir, rfl⟩ := cons_of_absent habsent.1
  obtain ⟨keyName, keyDir, rfl⟩ := cons_of_absent habsent.2
  constructor
  · intro hsuffix
    rcases List.suffix_cons_iff.mp hsuffix with hsame | hplace
    · exact hne hsame
    · exact hnested (.inr ⟨hkey.above hplace, hplace⟩)
  · intro hsuffix
    rcases List.suffix_cons_iff.mp hsuffix with hsame | hplace
    · exact hne hsame.symm
    · exact hnested (.inl ⟨hcertificate.above hplace, hplace⟩)

theorem ensureExists_generate_error {failure : String}
    (habsent : Absent tree certificate privateKey)
    (hgenerate : generate serverName = .error failure) :
    ensureExists display generate faults certificate privateKey serverName tree =
      .error ["generating self-signed certificate", failure] tree := by
  have hget : (get : EStateM AnyhowError Tree Tree) tree = .ok tree tree := rfl
  rw [ensureExists, bind_ok hget, (absent_iff.mp habsent).1, (absent_iff.mp habsent).2,
    hgenerate]
  rfl

/-- A call that has nothing to generate, or cannot, changes nothing. -/
theorem eq_of_idle {error : AnyhowError}
    (hidle : Absent tree certificate privateKey →
      ∃ failure, generate serverName = .error failure)
    (hcall : ensureExists display generate faults certificate privateKey serverName tree =
      .error error next) : next = tree := by
  have hget : (get : EStateM AnyhowError Tree Tree) tree = .ok tree tree := rfl
  rw [ensureExists, bind_ok hget] at hcall
  cases hcertificate : tree.existsAt certificate with
  | true =>
      cases hkey : tree.existsAt privateKey <;> rw [hcertificate, hkey] at hcall <;>
        cases hcall
      rfl
  | false =>
      cases hkey : tree.existsAt privateKey <;> rw [hcertificate, hkey] at hcall
      case true =>
        cases hcall
        rfl
      case false =>
        obtain ⟨failure, hgenerate⟩ := hidle (absent_iff.mpr ⟨hcertificate, hkey⟩)
        rw [hgenerate] at hcall
        cases hcall
        rfl

/-- How a call ends that finds neither file and has generated an identity. -/
theorem generation_cases (habsent : Absent tree certificate privateKey)
    (hgenerate : generate serverName = .ok identity) :
    ¬ ReachesPaths faults tree certificate privateKey ∧ (∃ error next,
        ensureExists display generate faults certificate privateKey serverName tree =
          .error error next ∧ AddsDirs tree next ∧ Absent next certificate privateKey) ∨
      ReachesPaths faults tree certificate privateKey ∧
        ((Apart certificate privateKey ∧ faults.SparesWrites ∧ ∃ next,
            ensureExists display generate faults certificate privateKey serverName tree =
              .ok () next ∧
            next.node certificate = some (.file (asBytes identity.certificatePem)) ∧
            next.node privateKey = some (.file (asBytes identity.signingKeyPem))) ∨
          ¬ (Apart certificate privateKey ∧ faults.SparesWrites) ∧ ∃ error next,
            ensureExists display generate faults certificate privateKey serverName tree =
              .error error next ∧ ¬ Absent next certificate privateKey) := by
  rw [ensureExists_eq habsent hgenerate]
  obtain ⟨certificateName, certificateDir, rfl⟩ := cons_of_absent habsent.1
  obtain ⟨keyName, keyDir, rfl⟩ := cons_of_absent habsent.2
  obtain ⟨middle, hprepares, hcreate⟩ := createParents_prepares display faults tree
    certificateName keyName certificateDir keyDir
  by_cases hnested : Nested faults tree (certificateName :: certificateDir) (keyName :: keyDir)
  · refine .inr ⟨.inr hnested, .inr ⟨fun hapart => not_apart_of_nested hnested hapart.1, ?_⟩⟩
    have hoccupied := hprepares.of_nested habsent.1 habsent.2 hnested
    rcases hcreate with ⟨-, hcreate⟩ | ⟨-, error, hcreate⟩
    · obtain ⟨error, next, hwrite, hnode⟩ := writeBoth_occupied hoccupied
      refine ⟨error, next, by rw [bind_ok hcreate]; exact hwrite, fun hnext => ?_⟩
      exact hnode.elim (fun hnode => hnode hnext.1) (fun hnode => hnode hnext.2)
    · refine ⟨error, middle, bind_error hcreate, fun hnext => ?_⟩
      rcases hoccupied with hnode | hnode
      · exact absurd (hnode.symm.trans hnext.1) (by simp)
      · exact absurd (hnode.symm.trans hnext.2) (by simp)
  · obtain ⟨hcertificate, hkey⟩ := hprepares.of_not_nested hnested
    have hmiddle : Absent middle (certificateName :: certificateDir) (keyName :: keyDir) :=
      ⟨hcertificate.trans habsent.1, hkey.trans habsent.2⟩
    rcases hcreate with ⟨⟨hcertificateDir, hkeyDir⟩, hcreate⟩ | ⟨hdirs, error, hcreate⟩
    · rw [bind_ok hcreate]
      obtain ⟨hcertificateNode, hkeyNode⟩ := hprepares.directories hcertificateDir hkeyDir
      rcases writeBoth_cases hcertificateNode hkeyNode hmiddle.1 hmiddle.2 with
        ⟨hfault, error, hwrite⟩ | ⟨hfault, ⟨hne, hspares, next, hwrite, hfiles⟩ |
          ⟨hspares, error, next, hwrite, hnode⟩⟩
      · refine .inl ⟨?_, error, middle, hwrite, hprepares.adds, hmiddle⟩
        rintro (⟨-, -, hcreated⟩ | hreaches)
        · exact hfault hcreated
        · exact hnested hreaches
      · exact .inr ⟨.inl ⟨hcertificateDir, hkeyDir, hfault⟩, .inl
          ⟨apart_of_not_nested habsent hcertificateDir hkeyDir hnested hne, hspares,
            next, hwrite, hfiles⟩⟩
      · refine .inr ⟨.inl ⟨hcertificateDir, hkeyDir, hfault⟩, .inr
          ⟨fun hapart => hspares ⟨?_, hapart.2⟩, error, next, hwrite,
            fun hnext => hnode hnext.1⟩⟩
        rintro hsame
        exact hapart.1.1 (hsame ▸ List.suffix_rfl)
    · refine .inl ⟨?_, error, middle, bind_error hcreate, hprepares.adds, hmiddle⟩
      rintro (⟨hcertificateDir, hkeyDir, -⟩ | hreaches)
      · exact hdirs ⟨hcertificateDir, hkeyDir⟩
      · exact hnested hreaches

/-- What the server needs of a call: after an error, the files exist as they did
before, so the call succeeds when nothing else fails; and what it generates it
writes whole. -/
structure Atomic (display : Path → String) (generate : String → Except String Identity)
    (faults : Faults) (certificate privateKey : Path) (serverName : String) (tree : Tree) :
    Prop where
  unchanged : ∀ error next,
    ensureExists display generate faults certificate privateKey serverName tree =
      .error error next →
    next.existsAt certificate = tree.existsAt certificate ∧
      next.existsAt privateKey = tree.existsAt privateKey
  rerun : ∀ error next again identity last,
    ensureExists display generate faults certificate privateKey serverName tree =
      .error error next →
    again serverName = .ok identity →
    ensureExists display again .none certificate privateKey serverName tree = .ok () last →
    ∃ repaired, ensureExists display again .none certificate privateKey serverName next =
      .ok () repaired
  paired : ∀ next, Absent tree certificate privateKey →
    ensureExists display generate faults certificate privateKey serverName tree =
      .ok () next →
    ∃ identity, generate serverName = .ok identity ∧
      next.node certificate = some (.file (asBytes identity.certificatePem)) ∧
      next.node privateKey = some (.file (asBytes identity.signingKeyPem))

/-- A call that could have succeeded still can, over a few directories more. -/
theorem rerun_of_adds {last : Tree} (habsent : Absent tree certificate privateKey)
    (hnext : Absent next certificate privateKey) (hadds : AddsDirs tree next)
    (hagain : again serverName = .ok identity)
    (hlast : ensureExists display again .none certificate privateKey serverName tree =
      .ok () last) :
    ∃ repaired, ensureExists display again .none certificate privateKey serverName next =
      .ok () repaired := by
  rcases generation_cases habsent hagain with ⟨-, error, other, hcall, -⟩ |
    ⟨hreaches, ⟨hapart, hspares, -⟩ | ⟨-, error, other, hcall, -⟩⟩
  · exact absurd (hlast.symm.trans hcall) (by simp)
  · have hcreatable : Creatable Faults.none.mkdir next certificate.tail ∧
        Creatable Faults.none.mkdir next privateKey.tail := by
      rcases hreaches with ⟨hcertificate, hkey, -⟩ | hnested
      · exact ⟨hadds.creatable hcertificate, hadds.creatable hkey⟩
      · exact absurd hapart (not_apart_of_nested hnested)
    rcases generation_cases hnext hagain with ⟨hunreached, -⟩ |
      ⟨-, ⟨-, -, repaired, hcall, -⟩ | ⟨hinterrupted, -⟩⟩
    · exact absurd (.inl ⟨hcreatable.1, hcreatable.2, rfl⟩) hunreached
    · exact ⟨repaired, hcall⟩
    · exact absurd ⟨hapart, hspares⟩ hinterrupted
  · exact absurd (hlast.symm.trans hcall) (by simp)

/-- What is interrupted only before it comes to the paths has made some
directories, at most. -/
theorem adds_of_error {error : AnyhowError}
    (hcondition : ∀ identity, Absent tree certificate privateKey →
      generate serverName = .ok identity → ReachesPaths faults tree certificate privateKey →
      Apart certificate privateKey ∧ faults.SparesWrites)
    (hcall : ensureExists display generate faults certificate privateKey serverName tree =
      .error error next) :
    next = tree ∨ Absent tree certificate privateKey ∧
      Absent next certificate privateKey ∧ AddsDirs tree next := by
  by_cases hidle : Absent tree certificate privateKey →
      ∃ failure, generate serverName = .error failure
  · exact .inl (eq_of_idle hidle hcall)
  · rw [Classical.not_imp] at hidle
    obtain ⟨habsent, hgenerate⟩ := hidle
    cases hresult : generate serverName with
    | error failure => exact absurd ⟨failure, hresult⟩ hgenerate
    | ok identity =>
        rcases generation_cases habsent hresult with ⟨-, _, other, hother, hadds, hnext⟩ |
          ⟨hreaches, ⟨-, -, other, hother, -⟩ | ⟨hinterrupted, -⟩⟩
        · cases hcall.symm.trans hother
          exact .inr ⟨habsent, hnext, hadds⟩
        · cases hcall.symm.trans hother
        · exact absurd (hcondition identity habsent hresult hreaches) hinterrupted

theorem pair_of_ok (habsent : Absent tree certificate privateKey)
    (hcall : ensureExists display generate faults certificate privateKey serverName tree =
      .ok () next) :
    ∃ identity, generate serverName = .ok identity ∧
      next.node certificate = some (.file (asBytes identity.certificatePem)) ∧
      next.node privateKey = some (.file (asBytes identity.signingKeyPem)) := by
  cases hresult : generate serverName with
  | error failure => cases hcall.symm.trans (ensureExists_generate_error habsent hresult)
  | ok identity =>
      rcases generation_cases habsent hresult with ⟨-, _, other, hother, -⟩ |
        ⟨-, ⟨-, -, other, hother, hfiles⟩ | ⟨-, _, other, hother, -⟩⟩
      · cases hcall.symm.trans hother
      · cases hcall.symm.trans hother
        exact ⟨identity, rfl, hfiles⟩
      · cases hcall.symm.trans hother

/-- An interrupted call is harmless exactly until it creates the certificate. -/
theorem identity_atomic_iff (display : Path → String)
    (generate : String → Except String Identity) (faults : Faults)
    (certificate privateKey : Path) (serverName : String) (tree : Tree) :
    Atomic display generate faults certificate privateKey serverName tree ↔
      ∀ identity, Absent tree certificate privateKey →
        generate serverName = .ok identity →
        ReachesPaths faults tree certificate privateKey →
        Apart certificate privateKey ∧ faults.SparesWrites := by
  constructor
  · intro hatomic identity habsent hgenerate hreaches
    rcases generation_cases habsent hgenerate with ⟨hunreached, -⟩ |
      ⟨-, ⟨hapart, hspares, -⟩ | ⟨-, error, next, hcall, hnext⟩⟩
    · exact absurd hreaches hunreached
    · exact ⟨hapart, hspares⟩
    · obtain ⟨hcertificate, hkey⟩ := hatomic.unchanged error next hcall
      rw [absent_iff] at habsent hnext
      exact absurd ⟨hcertificate.trans habsent.1, hkey.trans habsent.2⟩ hnext
  · intro hcondition
    constructor
    · intro error next hcall
      rcases adds_of_error hcondition hcall with rfl | ⟨habsent, hnext, -⟩
      · exact ⟨rfl, rfl⟩
      · rw [absent_iff] at habsent hnext
        exact ⟨hnext.1.trans habsent.1.symm, hnext.2.trans habsent.2.symm⟩
    · intro error next again identity last hcall hagain hlast
      rcases adds_of_error hcondition hcall with rfl | ⟨habsent, hnext, hadds⟩
      · exact ⟨last, hlast⟩
      · exact rerun_of_adds habsent hnext hadds hagain hlast
    · intro next habsent hcall
      exact pair_of_ok habsent hcall

/-- The disk is full when the key is to be created. -/
def fullDisk : Faults :=
  { Faults.none with createKey := some ⟨.other, "No space left on device (os error 28)"⟩ }

def generateSample (_serverName : String) : Except String Identity :=
  .ok ⟨"certificate", "key"⟩

/-- Display of a path below the working directory. -/
def displaySample (path : Path) : String :=
  "/".intercalate path.reverse

/-- The certificate is left without its key, and every later start refuses to run. -/
theorem lone_certificate_stays :
    ∃ error next again last,
      ensureExists displaySample generateSample fullDisk ["cert.pem"] ["key.pem"]
          "vpnbridge.local" .empty = .error error next ∧
        Tree.empty.existsAt ["cert.pem"] = false ∧ next.existsAt ["cert.pem"] = true ∧
        next.existsAt ["key.pem"] = false ∧
        ensureExists displaySample generateSample .none ["cert.pem"] ["key.pem"]
          "vpnbridge.local" next = .error again last := by
  exact ⟨_, _, _, _, rfl, rfl, by decide, by decide, rfl⟩

end Identities

end VpnBridge.Server
