import VpnBridge.Core.ByteReader

/-!
# Prefix codes

A code none of whose words starts another one.  A stream of its words has one
reading, so the words that have been read off a stream are the first of those that
were written to it.  What a decoder consumes for the values it tells apart is such a
code.
-/

namespace VpnBridge.ByteReader

variable {A B Symbol Failure : Type}

/-- No word of a value in `valid` is empty or starts another one. -/
structure PrefixCode (valid : A → Prop) (encode : A → List Symbol) : Prop where
  nonempty : ∀ value, valid value → encode value ≠ []
  cancel : ∀ left right first second, valid left → valid right →
    encode left ++ first = encode right ++ second → left = right ∧ first = second

theorem prefixCode_of_reads {valid : A → Prop} {encode : A → List Symbol} {result : A → B}
    {reader : Reader Symbol Failure B} (hnonempty : ∀ value, valid value → encode value ≠ [])
    (hreads : ∀ value, valid value → Reads reader (encode value) (result value))
    (hresult : ∀ left right, result left = result right → left = right) :
    PrefixCode valid encode where
  nonempty := hnonempty
  cancel left right first second hleft hright hsame := by
    have hread := hreads left hleft first
    rw [hsame, hreads right hright second] at hread
    obtain ⟨hvalue, hrest⟩ := Prod.mk.inj (Except.ok.inj hread)
    exact ⟨(hresult right left hvalue).symm, hrest.symm⟩

namespace PrefixCode

variable {valid : A → Prop} {encode : A → List Symbol} {values written : List A}
variable {tail : List Symbol}

/-- What has been read off a stream of words is what was first written to it, and the
tail that is left holds the rest. -/
theorem exists_append (hcode : PrefixCode valid encode) (hvalues : ∀ value ∈ values, valid value)
    (hwritten : ∀ value ∈ written, valid value)
    (hstream : values.flatMap encode ++ tail = written.flatMap encode) :
    ∃ rest, written = values ++ rest ∧ rest.flatMap encode = tail := by
  induction values generalizing written with
  | nil => exact ⟨written, rfl, hstream.symm⟩
  | cons value values ih =>
      rw [List.forall_mem_cons] at hvalues
      rw [List.flatMap_cons, List.append_assoc] at hstream
      cases written with
      | nil => exact absurd (List.append_eq_nil_iff.mp hstream).1 (hcode.nonempty value hvalues.1)
      | cons first written =>
          rw [List.forall_mem_cons] at hwritten
          rw [List.flatMap_cons] at hstream
          obtain ⟨rfl, hrest⟩ :=
            hcode.cancel value first _ _ hvalues.1 hwritten.1 hstream
          obtain ⟨rest, rfl, htail⟩ := ih hvalues.2 hwritten.2 hrest
          exact ⟨rest, rfl, htail⟩

end PrefixCode

end VpnBridge.ByteReader
