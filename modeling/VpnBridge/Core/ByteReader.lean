import Mathlib.Data.Vector.Basic
import Mathlib.Data.List.Infix

/-!
# Framed readers

A decoder over a reliable stream takes the unread symbols and either fails or
returns a value together with the symbols it left.  `Reads` says which symbols
a decoder consumes for a value, whatever follows them; a `Framed` decoder never
looks beyond what it consumes.  Sequencing preserves both, so the language of
a decoder is obtained from the languages of its parts, and a framed decoder
accepts no proper prefix of anything it accepts.
-/

namespace VpnBridge.ByteReader

/-- A decoder: from the unread symbols, a value and the symbols after it. -/
abbrev Reader (Symbol Failure : Type) := StateT (List Symbol) (Except Failure)

variable {Symbol Failure A B : Type}

/-- The next symbol, or `eof` on an exhausted stream. -/
def readOne (eof : Failure) : Reader Symbol Failure Symbol
  | [] => .error eof
  | head :: tail => .ok (head, tail)

/-- Exactly `count` symbols, or `eof` when fewer are left. -/
def readExact (eof : Failure) (count : ℕ) :
    Reader Symbol Failure (List.Vector Symbol count) := fun stream =>
  if h : count ≤ stream.length then
    .ok (⟨stream.take count, List.length_take_of_le h⟩, stream.drop count)
  else
    .error eof

/-- A value that is already there, or the failure that stands for its absence. -/
def fromOption (failure : Failure) : Option A → Reader Symbol Failure A
  | some value => pure value
  | none => throw failure

/-- Carry on when `condition` holds, fail otherwise. -/
def ensure (condition : Prop) [Decidable condition] (failure : Failure) :
    Reader Symbol Failure Unit :=
  if condition then pure () else throw failure

/-- `reader` turns exactly `consumed` into `value`, whatever comes next. -/
def Reads (reader : Reader Symbol Failure A) (consumed : List Symbol)
    (value : A) : Prop :=
  ∀ rest, reader.run (consumed ++ rest) = .ok (value, rest)

/-- Whatever `reader` returns was decided by the symbols it consumed. -/
def Framed (reader : Reader Symbol Failure A) : Prop :=
  ∀ stream value rest, reader.run stream = .ok (value, rest) →
    ∃ consumed, stream = consumed ++ rest ∧ Reads reader consumed value

/-! ## Languages of the primitive readers -/

@[simp]
theorem reads_pure_iff {value result : A} {consumed : List Symbol} :
    Reads (pure value : Reader Symbol Failure A) consumed result ↔
      consumed = [] ∧ result = value := by
  constructor
  · intro hreads
    obtain ⟨hvalue, hrest⟩ := Prod.mk.inj (Except.ok.inj (hreads []))
    exact ⟨(List.append_nil consumed).symm.trans hrest, hvalue.symm⟩
  · rintro ⟨rfl, rfl⟩ rest
    rfl

@[simp]
theorem not_reads_throw {failure : Failure} {result : A}
    {consumed : List Symbol} :
    ¬ Reads (throw failure : Reader Symbol Failure A) consumed result := by
  intro hreads
  cases hreads []

@[simp]
theorem reads_readOne_iff {eof : Failure} {consumed : List Symbol}
    {symbol : Symbol} :
    Reads (readOne eof) consumed symbol ↔ consumed = [symbol] := by
  constructor
  · intro hreads
    have hrun := hreads []
    cases consumed with
    | nil => cases hrun
    | cons head tail =>
        simp only [StateT.run, readOne, List.append_nil, Except.ok.injEq,
          Prod.mk.injEq] at hrun
        rw [hrun.1, hrun.2]
  · rintro rfl rest
    rfl

@[simp]
theorem reads_readExact_iff {eof : Failure} {count : ℕ}
    {consumed : List Symbol} {symbols : List.Vector Symbol count} :
    Reads (readExact eof count) consumed symbols ↔
      consumed = symbols.toList := by
  constructor
  · intro hreads
    have hrun := hreads []
    simp only [StateT.run, readExact, List.append_nil] at hrun
    split at hrun
    case isTrue hle =>
      obtain ⟨hsymbols, hrest⟩ := Prod.mk.inj (Except.ok.inj hrun)
      have htake : consumed.take count = symbols.toList :=
        congrArg List.Vector.toList hsymbols
      rw [← htake, List.take_of_length_le (List.drop_eq_nil_iff.mp hrest)]
    case isFalse hlt => cases hrun
  · rintro rfl rest
    have hlength : symbols.toList.length = count := symbols.toList_length
    have hle : count ≤ (symbols.toList ++ rest).length := by
      simp only [List.length_append, hlength]
      omega
    have hsymbols : (⟨(symbols.toList ++ rest).take count,
        List.length_take_of_le hle⟩ : List.Vector Symbol count) = symbols :=
      List.Vector.eq _ _ (List.take_left' hlength)
    simp only [StateT.run, readExact, dif_pos hle, hsymbols,
      List.drop_left' hlength]

@[simp]
theorem reads_fromOption_iff {failure : Failure} {source : Option A}
    {consumed : List Symbol} {value : A} :
    Reads (fromOption failure source : Reader Symbol Failure A) consumed value ↔
      consumed = [] ∧ source = some value := by
  cases source with
  | none => simp [fromOption]
  | some content =>
      simp only [fromOption, reads_pure_iff, Option.some.injEq]
      exact and_congr_right fun _ => eq_comm

@[simp]
theorem reads_ensure_iff {condition : Prop} [Decidable condition]
    {failure : Failure} {consumed : List Symbol} {value : Unit} :
    Reads (ensure condition failure : Reader Symbol Failure Unit) consumed value ↔
      consumed = [] ∧ condition := by
  by_cases hcondition : condition
  · simp [ensure, hcondition]
  · simp [ensure, hcondition]

/-! ## Framing of the primitive readers -/

theorem framed_pure (value : A) :
    Framed (pure value : Reader Symbol Failure A) := by
  intro stream result rest hrun
  cases hrun
  exact ⟨[], rfl, reads_pure_iff.mpr ⟨rfl, rfl⟩⟩

theorem framed_throw (failure : Failure) :
    Framed (throw failure : Reader Symbol Failure A) := by
  intro stream result rest hrun
  cases hrun

theorem framed_readOne (eof : Failure) :
    Framed (readOne eof : Reader Symbol Failure Symbol) := by
  intro stream symbol rest hrun
  cases stream with
  | nil => cases hrun
  | cons head tail =>
      cases hrun
      exact ⟨[symbol], rfl, reads_readOne_iff.mpr rfl⟩

theorem framed_readExact (eof : Failure) (count : ℕ) :
    Framed (readExact eof count :
      Reader Symbol Failure (List.Vector Symbol count)) := by
  intro stream symbols rest hrun
  simp only [StateT.run, readExact] at hrun
  split at hrun
  case isTrue hle =>
    obtain ⟨rfl, rfl⟩ := Prod.mk.inj (Except.ok.inj hrun)
    refine ⟨stream.take count, (List.take_append_drop count stream).symm, ?_⟩
    exact reads_readExact_iff.mpr rfl
  case isFalse hlt => cases hrun

theorem framed_fromOption (failure : Failure) (source : Option A) :
    Framed (fromOption failure source : Reader Symbol Failure A) := by
  cases source with
  | none => exact framed_throw failure
  | some value => exact framed_pure value

theorem framed_ensure (condition : Prop) [Decidable condition]
    (failure : Failure) :
    Framed (ensure condition failure : Reader Symbol Failure Unit) := by
  unfold ensure
  split
  · exact framed_pure ()
  · exact framed_throw failure

/-! ## Failures of the primitive readers -/

theorem readExact_eq_error {eof failure : Failure} {count : ℕ} {stream : List Symbol}
    (herror : (readExact eof count).run stream = .error failure) : failure = eof := by
  simp only [StateT.run, readExact] at herror
  split at herror
  case isTrue hle => cases herror
  case isFalse hlt =>
    cases herror
    rfl

/-! ## Sequencing -/

theorem run_bind_eq_ok_iff {reader : Reader Symbol Failure A}
    {next : A → Reader Symbol Failure B} {stream rest : List Symbol}
    {result : B} :
    (reader >>= next).run stream = .ok (result, rest) ↔
      ∃ value middle, reader.run stream = .ok (value, middle) ∧
        (next value).run middle = .ok (result, rest) := by
  rw [StateT.run_bind]
  cases hrun : reader.run stream with
  | error failure => simp [bind, Except.bind]
  | ok pair =>
      obtain ⟨value, middle⟩ := pair
      constructor
      · intro hnext
        exact ⟨value, middle, rfl, hnext⟩
      · rintro ⟨_, _, heq, hnext⟩
        cases heq
        exact hnext

theorem run_bind_eq_error_iff {reader : Reader Symbol Failure A}
    {next : A → Reader Symbol Failure B} {stream : List Symbol} {failure : Failure} :
    (reader >>= next).run stream = .error failure ↔
      reader.run stream = .error failure ∨
        ∃ value middle, reader.run stream = .ok (value, middle) ∧
          (next value).run middle = .error failure := by
  rw [StateT.run_bind]
  cases hrun : reader.run stream with
  | error other => simp [bind, Except.bind]
  | ok pair =>
      obtain ⟨value, middle⟩ := pair
      constructor
      · intro hnext
        exact .inr ⟨value, middle, rfl, hnext⟩
      · rintro (herror | ⟨_, _, heq, hnext⟩)
        · cases herror
        · cases heq
          exact hnext

/-- The language of a sequence is the concatenation of the languages. -/
theorem reads_bind_iff {reader : Reader Symbol Failure A}
    {next : A → Reader Symbol Failure B} (hframed : Framed reader)
    {consumed : List Symbol} {result : B} :
    Reads (reader >>= next) consumed result ↔
      ∃ value first second, consumed = first ++ second ∧
        Reads reader first value ∧ Reads (next value) second result := by
  constructor
  · intro hreads
    obtain ⟨value, second, hfirst, _⟩ := run_bind_eq_ok_iff.mp (hreads [])
    obtain ⟨first, hsplit, hreader⟩ := hframed _ _ _ hfirst
    rw [List.append_nil] at hsplit
    refine ⟨value, first, second, hsplit, hreader, fun rest => ?_⟩
    obtain ⟨value', middle, hfirst', hsecond⟩ :=
      run_bind_eq_ok_iff.mp (hreads rest)
    rw [hsplit, List.append_assoc, hreader (second ++ rest)] at hfirst'
    cases hfirst'
    exact hsecond
  · rintro ⟨value, first, second, rfl, hreader, hnext⟩ rest
    rw [List.append_assoc]
    exact run_bind_eq_ok_iff.mpr
      ⟨value, second ++ rest, hreader _, hnext rest⟩

theorem framed_bind {reader : Reader Symbol Failure A}
    {next : A → Reader Symbol Failure B} (hreader : Framed reader)
    (hnext : ∀ value, Framed (next value)) : Framed (reader >>= next) := by
  intro stream result rest hrun
  obtain ⟨value, middle, hfirst, hsecond⟩ := run_bind_eq_ok_iff.mp hrun
  obtain ⟨first, rfl, hreads₁⟩ := hreader _ _ _ hfirst
  obtain ⟨second, rfl, hreads₂⟩ := hnext value _ _ _ hsecond
  refine ⟨first ++ second, (List.append_assoc _ _ _).symm, ?_⟩
  exact (reads_bind_iff hreader).mpr
    ⟨value, first, second, rfl, hreads₁, hreads₂⟩

/-! ## Prefix-freeness -/

/-- What a decoder consumes is determined by the stream. -/
theorem Reads.unique {reader : Reader Symbol Failure A}
    {left right : List Symbol} {leftValue rightValue : A}
    (hleft : Reads reader left leftValue)
    (hright : Reads reader right rightValue) (hstart : left <+: right) :
    left = right ∧ leftValue = rightValue := by
  obtain ⟨tail, rfl⟩ := hstart
  have hboth := (hleft tail).symm.trans
    (by simpa only [List.append_nil] using hright [])
  simp only [Except.ok.injEq, Prod.mk.injEq] at hboth
  exact ⟨by rw [hboth.2, List.append_nil], hboth.1⟩

/-- A framed decoder fails on every proper prefix of what it accepts. -/
theorem Reads.error_of_isPrefix {reader : Reader Symbol Failure A}
    (hframed : Framed reader) {consumed truncated : List Symbol} {value : A}
    (hreads : Reads reader consumed value) (hstart : truncated <+: consumed)
    (hproper : truncated ≠ consumed) :
    ∃ failure, reader.run truncated = .error failure := by
  cases hrun : reader.run truncated with
  | error failure => exact ⟨failure, rfl⟩
  | ok pair =>
      obtain ⟨used, hused, hshort⟩ := hframed _ pair.1 pair.2 hrun
      have husedPrefix : used <+: truncated := ⟨pair.2, hused.symm⟩
      have hsame := (hshort.unique hreads (husedPrefix.trans hstart)).1
      have hantisymm : truncated = consumed :=
        hstart.eq_of_length_le (hsame ▸ husedPrefix.length_le)
      exact absurd hantisymm hproper

end VpnBridge.ByteReader
