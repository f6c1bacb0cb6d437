import VpnBridge.Core.TransitionSystem
import VpnBridge.Server.Certificate

/-!
# One identity for all starts

The server calls `ensure_exists` whenever it starts, also when it only checks its
configuration.  Its clients have a copy of the certificate, so a later start must not
replace it, and must not put the key of one certificate beside another.
-/

namespace VpnBridge.Server

open VpnBridge.FileTree VpnBridge.Proto VpnBridge.TransitionSystem

/-- What the configuration says about the identity. -/
structure IdentityConfig where
  certificate : Path
  privateKey : Path
  serverName : String

/-- A path in the configuration file. -/
inductive ConfigPath where
  | absolute (path : Path)
  | relative (path : Path)

/-- A relative path is below the directory of the configuration file. -/
def ConfigPath.resolve (base : Path) : ConfigPath → Path
  | .absolute path => path
  | .relative path => path ++ base

structure IdentityTable where
  certificate : Option ConfigPath
  privateKey : Option ConfigPath
  serverName : Option String

/-- `ServerConfig::load`, for these fields. -/
def IdentityTable.fill (base : Path) (table : IdentityTable) : IdentityConfig where
  certificate := (table.certificate.getD (.relative ["proxy-server-cert.pem"])).resolve base
  privateKey := (table.privateKey.getD (.relative ["proxy-server-key.pem"])).resolve base
  serverName := table.serverName.getD "vpnbridge.local"

/-- The default paths are not in each other's way. -/
theorem apart_default (base : Path) (serverName : Option String) :
    Apart (IdentityTable.fill base ⟨none, none, serverName⟩).certificate
      (IdentityTable.fill base ⟨none, none, serverName⟩).privateKey := by
  have hlength : ("proxy-server-cert.pem" :: base).length =
      ("proxy-server-key.pem" :: base).length := rfl
  have hname : "proxy-server-cert.pem" ≠ "proxy-server-key.pem" := by decide
  constructor
  · intro hsuffix
    exact hname (List.head_eq_of_cons_eq (hsuffix.eq_of_length hlength))
  · intro hsuffix
    exact hname (List.head_eq_of_cons_eq (hsuffix.eq_of_length hlength.symm)).symm

/-- A start of the server: what `rcgen` answers it, and which of its calls fail. -/
structure Start where
  generate : String → Except String Identity
  faults : Faults

inductive TreeEvent where
  | start (start : Start)
  /-- Other programs have left the tree like this. -/
  | others (next : Tree)

namespace IdentityConfig

def ensureExists (cfg : IdentityConfig) (display : Path → String) (start : Start) :
    EStateM AnyhowError Tree Unit :=
  Server.ensureExists display start.generate start.faults cfg.certificate cfg.privateKey
    cfg.serverName

/-- The two files are the same. -/
def Same (cfg : IdentityConfig) (tree next : Tree) : Prop :=
  next.node cfg.certificate = tree.node cfg.certificate ∧
    next.node cfg.privateKey = tree.node cfg.privateKey

instance (cfg : IdentityConfig) (tree next : Tree) : Decidable (cfg.Same tree next) :=
  inferInstanceAs (Decidable (_ ∧ _))

/-- Starts, one after the other.  No other program touches the two files. -/
def step (cfg : IdentityConfig) (display : Path → String) (tree : Tree) :
    TreeEvent → Option Tree
  | .start start => some (left (cfg.ensureExists display start tree))
  | .others next => if cfg.Same tree next then some next else none

end IdentityConfig

/-- The call lets the server start. -/
def passes : EStateM.Result AnyhowError Tree Unit → Bool
  | .ok () _ => true
  | .error _ _ => false

/-- A start for which the call succeeds. -/
def Passes (cfg : IdentityConfig) (display : Path → String)
    (tr : Transition Tree TreeEvent) : Prop :=
  ∃ start, tr.event = .start start ∧
    passes (cfg.ensureExists display start tr.pre) = true

/-- Both files are this identity's. -/
def Whole (cfg : IdentityConfig) (identity : Identity) (tree : Tree) : Prop :=
  tree.node cfg.certificate = some (.file (asBytes identity.certificatePem)) ∧
    tree.node cfg.privateKey = some (.file (asBytes identity.signingKeyPem))

/-- What is there is this identity's, as far as it was written. -/
inductive Holds (cfg : IdentityConfig) (identity : Identity) (tree : Tree) : Prop where
  | certificate {part : List UInt8} (hpart : part <+: asBytes identity.certificatePem)
      (hcertificate : tree.node cfg.certificate = some (.file part))
      (hkey : tree.node cfg.privateKey = none)
  | pair {part : List UInt8} (hpart : part <+: asBytes identity.signingKeyPem)
      (hcertificate : tree.node cfg.certificate =
        some (.file (asBytes identity.certificatePem)))
      (hkey : tree.node cfg.privateKey = some (.file part))

/-! ## One start -/

section Starts

variable {cfg : IdentityConfig} {display : Path → String} {faults : Faults}
variable {tree next : Tree} {identity : Identity}

/-- The two writes over clear paths. -/
theorem holds_writeBoth (hne : cfg.certificate ≠ cfg.privateKey)
    (habsent : Absent tree cfg.certificate cfg.privateKey)
    {result : EStateM.Result AnyhowError Tree Unit}
    (hwrite : writeBoth display faults cfg.certificate cfg.privateKey
      (asBytes identity.certificatePem) (asBytes identity.signingKeyPem) tree = result) :
    (Absent (left result) cfg.certificate cfg.privateKey ∧ passes result = false) ∨
      Holds cfg identity (left result) ∧
        (passes result = true → Whole cfg identity (left result)) := by
  obtain ⟨hcertificate, hkey⟩ := habsent
  cases hfirst : writeCertificate display faults cfg.certificate
      (asBytes identity.certificatePem) tree with
  | error error middle =>
      have hresult : writeBoth display faults cfg.certificate cfg.privateKey
          (asBytes identity.certificatePem) (asBytes identity.signingKeyPem) tree =
            .error error middle := bind_error hfirst
      rw [← hwrite, hresult]
      rcases writes_of_error hfirst with rfl | ⟨part, hpart, hmiddle⟩
      · exact .inl ⟨⟨hcertificate, hkey⟩, rfl⟩
      · refine .inr ⟨.certificate hpart hmiddle.written ?_, fun hpass => by cases hpass⟩
        exact (hmiddle.kept _ hne.symm).trans hkey
  | ok value middle =>
      have hresult : writeBoth display faults cfg.certificate cfg.privateKey
          (asBytes identity.certificatePem) (asBytes identity.signingKeyPem) tree =
            writePrivateKey display faults cfg.privateKey (asBytes identity.signingKeyPem)
              middle := bind_ok hfirst
      have hmiddle := writes_of_ok hfirst
      have hfree : middle.node cfg.privateKey = none := (hmiddle.kept _ hne.symm).trans hkey
      rw [← hwrite, hresult]
      cases hsecond : writePrivateKey display faults cfg.privateKey
          (asBytes identity.signingKeyPem) middle with
      | error error last =>
          refine .inr ⟨?_, fun hpass => by cases hpass⟩
          rcases writes_of_error hsecond with rfl | ⟨part, hpart, hlast⟩
          · exact .certificate List.prefix_rfl hmiddle.written hfree
          · exact .pair hpart ((hlast.kept _ hne).trans hmiddle.written) hlast.written
      | ok value last =>
          have hlast := writes_of_ok hsecond
          have hwhole : Whole cfg identity last :=
            ⟨(hlast.kept _ hne).trans hmiddle.written, hlast.written⟩
          exact .inr ⟨.pair List.prefix_rfl hwhole.1 hwhole.2, fun _ => hwhole⟩

theorem Apart.ne {certificate privateKey : Path} (hapart : Apart certificate privateKey) :
    certificate ≠ privateKey :=
  fun hsame => hapart.1 (hsame ▸ List.suffix_rfl)

/-- A start that finds neither file leaves neither, or what it has generated. -/
theorem holds_of_absent {start : Start} (hapart : Apart cfg.certificate cfg.privateKey)
    (habsent : Absent tree cfg.certificate cfg.privateKey)
    {result : EStateM.Result AnyhowError Tree Unit}
    (hcall : cfg.ensureExists display start tree = result) :
    (Absent (left result) cfg.certificate cfg.privateKey ∧ passes result = false) ∨
      ∃ identity, start.generate cfg.serverName = .ok identity ∧
        Holds cfg identity (left result) ∧
        (passes result = true → Whole cfg identity (left result)) := by
  rw [IdentityConfig.ensureExists] at hcall
  cases hgenerate : start.generate cfg.serverName with
  | error failure =>
      rw [ensureExists_generate_error habsent hgenerate] at hcall
      rw [← hcall]
      exact .inl ⟨habsent, rfl⟩
  | ok identity =>
      rw [ensureExists_eq habsent hgenerate] at hcall
      obtain ⟨certificateName, certificateDir, hcertificate⟩ := cons_of_absent habsent.1
      obtain ⟨keyName, keyDir, hkey⟩ := cons_of_absent habsent.2
      obtain ⟨middle, hprepares, hcreate⟩ := createParents_prepares display start.faults tree
        certificateName keyName certificateDir keyDir
      rw [← hcertificate, ← hkey] at hcreate
      have hnested : ¬ Nested start.faults tree cfg.certificate cfg.privateKey :=
        fun hnested => not_apart_of_nested hnested hapart
      have hmiddle : Absent middle cfg.certificate cfg.privateKey := by
        rw [hcertificate, hkey] at hnested habsent ⊢
        obtain ⟨hcertificate, hkey⟩ := hprepares.of_not_nested hnested
        exact ⟨hcertificate.trans habsent.1, hkey.trans habsent.2⟩
      rcases hcreate with ⟨-, hcreate⟩ | ⟨-, error, hcreate⟩
      · rw [bind_ok hcreate] at hcall
        rcases holds_writeBoth hapart.ne hmiddle hcall with hnothing | hholds
        · exact .inl hnothing
        · exact .inr ⟨identity, rfl, hholds⟩
      · rw [bind_error hcreate] at hcall
        rw [← hcall]
        exact .inl ⟨hmiddle, rfl⟩

/-- A start that finds a file changes nothing, and fails for a lone one. -/
theorem ensureExists_of_present {start : Start}
    (hpresent : ¬ Absent tree cfg.certificate cfg.privateKey)
    {result : EStateM.Result AnyhowError Tree Unit}
    (hcall : cfg.ensureExists display start tree = result) :
    left result = tree ∧ (passes result = true ↔
      tree.node cfg.certificate ≠ none ∧ tree.node cfg.privateKey ≠ none) := by
  have hget : (get : EStateM AnyhowError Tree Tree) tree = .ok tree tree := rfl
  rw [absent_iff] at hpresent
  rw [IdentityConfig.ensureExists, Server.ensureExists, bind_ok hget] at hcall
  rw [← Option.isSome_iff_ne_none, ← Option.isSome_iff_ne_none, ← Tree.existsAt,
    ← Tree.existsAt]
  cases hcertificate : tree.existsAt cfg.certificate <;>
    cases hkey : tree.existsAt cfg.privateKey <;> rw [hcertificate, hkey] at hcall
  case true.true =>
    rw [← hcall]
    exact ⟨rfl, iff_of_true rfl ⟨rfl, rfl⟩⟩
  case true.false =>
    rw [← hcall]
    exact ⟨rfl, iff_of_false Bool.false_ne_true fun hboth => Bool.false_ne_true hboth.2⟩
  case false.true =>
    rw [← hcall]
    exact ⟨rfl, iff_of_false Bool.false_ne_true fun hboth => Bool.false_ne_true hboth.1⟩
  case false.false => exact absurd ⟨hcertificate, hkey⟩ hpresent

theorem Holds.present (hholds : Holds cfg identity tree) :
    ¬ Absent tree cfg.certificate cfg.privateKey := by
  rintro ⟨hnone, -⟩
  cases hholds with
  | certificate hpart hcertificate hkey => cases hcertificate.symm.trans hnone
  | pair hpart hcertificate hkey => cases hcertificate.symm.trans hnone

theorem Holds.certificate_ne_none (hholds : Holds cfg identity tree) :
    tree.node cfg.certificate ≠ none := by
  cases hholds with
  | certificate hpart hcertificate hkey => simp [hcertificate]
  | pair hpart hcertificate hkey => simp [hcertificate]

theorem Holds.congr (hholds : Holds cfg identity tree) (hsame : cfg.Same tree next) :
    Holds cfg identity next := by
  obtain ⟨hcertificateSame, hkeySame⟩ := hsame
  cases hholds with
  | certificate hpart hcertificate hkey =>
      exact .certificate hpart (hcertificateSame.trans hcertificate) (hkeySame.trans hkey)
  | pair hpart hcertificate hkey =>
      exact .pair hpart (hcertificateSame.trans hcertificate) (hkeySame.trans hkey)

end Starts

/-! ## All starts -/

section Runs

variable {cfg : IdentityConfig} {display : Path → String}
variable {tree final : Tree} {trace : List (Transition Tree TreeEvent)}

/-- The identity was generated by `first`, once and for all. -/
structure GeneratedBy (cfg : IdentityConfig) (display : Path → String) (identity : Identity)
    (before : List (Transition Tree TreeEvent)) (first : Transition Tree TreeEvent)
    (after : List (Transition Tree TreeEvent)) : Prop where
  generates : ∃ start, first.event = .start start ∧
    start.generate cfg.serverName = .ok identity
  /-- Before that, there was neither file, and the server has not started. -/
  early : ∀ tr ∈ before,
    Absent tr.post cfg.certificate cfg.privateKey ∧ ¬ Passes cfg display tr
  absent : Absent first.pre cfg.certificate cfg.privateKey
  holds : Holds cfg identity first.post
  whole : Passes cfg display first → Whole cfg identity first.post
  stays : ∀ tr ∈ after, cfg.Same first.post tr.post
  /-- After that, it starts exactly when there is a key. -/
  later : ∀ tr ∈ after, ∀ start, tr.event = .start start →
    (Passes cfg display tr ↔ first.post.node cfg.privateKey ≠ none)

theorem passes_iff {tr : Transition Tree TreeEvent} {start : Start}
    (hevent : tr.event = .start start) :
    Passes cfg display tr ↔ passes (cfg.ensureExists display start tr.pre) = true := by
  constructor
  · rintro ⟨other, hother, hpass⟩
    cases hevent.symm.trans hother
    exact hpass
  · intro hpass
    exact ⟨start, hevent, hpass⟩

theorem not_passes_others {tr : Transition Tree TreeEvent} {next : Tree}
    (hevent : tr.event = .others next) : ¬ Passes cfg display tr := by
  rintro ⟨start, hstart, -⟩
  cases hevent.symm.trans hstart

theorem step_others_iff {next last : Tree} :
    cfg.step display tree (.others next) = some last ↔ cfg.Same tree next ∧ last = next := by
  simp only [IdentityConfig.step, Option.ite_none_right_eq_some, Option.some.injEq]
  exact and_congr_right fun _ => eq_comm

/-- Without the files, a step makes neither, or is the one that generates. -/
theorem step_of_absent (hapart : Apart cfg.certificate cfg.privateKey)
    {before : List (Transition Tree TreeEvent)}
    (hearly : ∀ tr ∈ before,
      Absent tr.post cfg.certificate cfg.privateKey ∧ ¬ Passes cfg display tr)
    {tr : Transition Tree TreeEvent} (habsent : Absent tr.pre cfg.certificate cfg.privateKey)
    (hstep : cfg.step display tr.pre tr.event = some tr.post) :
    (Absent tr.post cfg.certificate cfg.privateKey ∧ ¬ Passes cfg display tr) ∨
      ∃ identity, GeneratedBy cfg display identity before tr [] := by
  cases hevent : tr.event with
  | others next =>
      rw [hevent, step_others_iff] at hstep
      obtain ⟨⟨hcertificate, hkey⟩, hpost⟩ := hstep
      rw [hpost]
      exact .inl ⟨⟨hcertificate.trans habsent.1, hkey.trans habsent.2⟩,
        not_passes_others hevent⟩
  | start start =>
      have hpost : left (cfg.ensureExists display start tr.pre) = tr.post := by
        rw [hevent] at hstep
        exact Option.some.inj hstep
      rcases holds_of_absent hapart habsent rfl with
        ⟨hnext, hfails⟩ | ⟨identity, hgenerate, hholds, hwhole⟩
      · rw [hpost] at hnext
        refine .inl ⟨hnext, fun hpass => ?_⟩
        rw [(passes_iff hevent).mp hpass] at hfails
        cases hfails
      · rw [hpost] at hholds hwhole
        exact .inr ⟨identity, {
          generates := ⟨start, hevent, hgenerate⟩
          early := hearly
          absent := habsent
          holds := hholds
          whole := fun hpass => hwhole ((passes_iff hevent).mp hpass)
          stays := List.forall_mem_nil _
          later := List.forall_mem_nil _ }⟩

/-- With one of the files, a step changes neither. -/
theorem step_of_present {tr : Transition Tree TreeEvent}
    (hpresent : ¬ Absent tr.pre cfg.certificate cfg.privateKey)
    (hstep : cfg.step display tr.pre tr.event = some tr.post) :
    cfg.Same tr.pre tr.post ∧ ∀ start, tr.event = .start start →
      (Passes cfg display tr ↔
        tr.pre.node cfg.certificate ≠ none ∧ tr.pre.node cfg.privateKey ≠ none) := by
  cases hevent : tr.event with
  | others next =>
      rw [hevent, step_others_iff] at hstep
      obtain ⟨hsame, hpost⟩ := hstep
      exact ⟨hpost ▸ hsame, fun start hstart => by cases hstart⟩
  | start start =>
      obtain ⟨hleft, hpass⟩ := ensureExists_of_present hpresent
        (rfl : cfg.ensureExists display start tr.pre = _)
      rw [hevent] at hstep
      refine ⟨?_, fun other hother => ?_⟩
      · rw [← Option.some.inj hstep, hleft]
        exact ⟨rfl, rfl⟩
      · cases hother
        exact (passes_iff hevent).trans hpass

theorem GeneratedBy.snoc {identity : Identity} {before after : List (Transition Tree TreeEvent)}
    {first tr : Transition Tree TreeEvent}
    (hgenerated : GeneratedBy cfg display identity before first after)
    (hsame : cfg.Same first.post tr.pre)
    (hstep : cfg.step display tr.pre tr.event = some tr.post) :
    GeneratedBy cfg display identity before first (after ++ [tr]) ∧
      cfg.Same first.post tr.post := by
  have hholds := hgenerated.holds.congr hsame
  obtain ⟨hkept, hpasses⟩ := step_of_present hholds.present hstep
  have hpost : cfg.Same first.post tr.post :=
    ⟨hkept.1.trans hsame.1, hkept.2.trans hsame.2⟩
  refine ⟨{ hgenerated with stays := ?_, later := ?_ }, hpost⟩
  · exact List.forall_mem_append.mpr
      ⟨hgenerated.stays, List.forall_mem_singleton.mpr hpost⟩
  · refine List.forall_mem_append.mpr
      ⟨hgenerated.later, List.forall_mem_singleton.mpr fun start hevent => ?_⟩
    rw [hpasses start hevent, hsame.2]
    exact and_iff_right hholds.certificate_ne_none

/-- However often the server starts, and whatever fails, at most one start leaves anything of
an identity: in every state before it there is neither file, and after it the files never
change, so that what they hold is always of this one identity. -/
theorem identity_generated_once (hapart : Apart cfg.certificate cfg.privateKey)
    (habsent : Absent tree cfg.certificate cfg.privateKey)
    (hrun : Execution (cfg.step display) tree trace final) :
    (Absent final cfg.certificate cfg.privateKey ∧
        ∀ tr ∈ trace, Absent tr.post cfg.certificate cfg.privateKey ∧ ¬ Passes cfg display tr) ∨
      ∃ identity before first after, trace = before ++ first :: after ∧
        GeneratedBy cfg display identity before first after ∧ cfg.Same first.post final := by
  induction hrun with
  | nil => exact .inl ⟨habsent, List.forall_mem_nil _⟩
  | @snoc trace state next event hrun hstep ih =>
      rcases ih with ⟨hstate, hearly⟩ | ⟨identity, before, first, after, rfl, hgenerated, hsame⟩
      · rcases @step_of_absent cfg display hapart trace hearly ⟨state, event, next⟩ hstate hstep
          with ⟨hnext, hfails⟩ | ⟨identity, hgenerated⟩
        · exact .inl ⟨hnext, List.forall_mem_append.mpr
            ⟨hearly, List.forall_mem_singleton.mpr ⟨hnext, hfails⟩⟩⟩
        · exact .inr ⟨identity, trace, _, [], rfl, hgenerated, rfl, rfl⟩
      · obtain ⟨hgenerated, hnext⟩ :=
          @GeneratedBy.snoc cfg display identity before after first ⟨state, event, next⟩
            hgenerated hsame hstep
        exact .inr ⟨identity, before, first, after ++ [⟨state, event, next⟩],
          by rw [List.append_assoc, List.cons_append], hgenerated, hnext⟩

end Runs

/-- A start without room for the certificate, one that generates it, and a restart, with the
paths that are in no configuration file. -/
theorem identity_generated_once_sample :
    ∃ trace final,
      Execution (IdentityConfig.step (IdentityTable.fill ["etc"] ⟨none, none, none⟩)
        displaySample) .empty trace final ∧ trace.length = 3 ∧
      ∃ identity before first after, trace = before ++ first :: after ∧
        GeneratedBy (IdentityTable.fill ["etc"] ⟨none, none, none⟩) displaySample identity
          before first after ∧
        IdentityConfig.Same (IdentityTable.fill ["etc"] ⟨none, none, none⟩) first.post
          final := by
  let cfg : IdentityConfig := IdentityTable.fill ["etc"] ⟨none, none, none⟩
  let crowded : Start := ⟨generateSample,
    { Faults.none with createCertificate := some ⟨.other, "No space left on device"⟩ }⟩
  let again : Start := ⟨fun _ => .ok ⟨"other", "other"⟩, .none⟩
  let first : Tree := left (cfg.ensureExists displaySample crowded .empty)
  let second : Tree := left (cfg.ensureExists displaySample ⟨generateSample, .none⟩ first)
  let third : Tree := left (cfg.ensureExists displaySample again second)
  let last : Transition Tree TreeEvent := ⟨second, .start again, third⟩
  have hrun : Execution (cfg.step displaySample) .empty
      ([⟨.empty, .start crowded, first⟩, ⟨first, .start ⟨generateSample, .none⟩, second⟩] ++
        [last]) third :=
    execution_snoc_iff.mpr ⟨execution_cons_iff.mpr ⟨rfl, rfl, .single rfl⟩, rfl, rfl⟩
  have hpasses : Passes cfg displaySample last := ⟨again, rfl, rfl⟩
  refine ⟨_, third, hrun, rfl, ?_⟩
  rcases identity_generated_once (apart_default ["etc"] none) ⟨rfl, rfl⟩ hrun with
    ⟨-, hfails⟩ | hgenerated
  · exact absurd hpasses (hfails last (List.mem_append_right _ List.mem_cons_self)).2
  · exact hgenerated

end VpnBridge.Server
