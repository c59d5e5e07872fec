import Mathlib.Data.Set.Function

/-!
# Self-delimiting encodings

An encoding is self-delimiting on a set of values when a reader can tell where the
encoding of a value ends, whatever follows it.  Encodings of one width are
self-delimiting, and so are values that follow a self-delimiting count.  Self-delimiting
fields can be read off one after the other, and a concatenation of nonempty ones
determines the list of values.
-/

/-- The encoding of a value can be told from what follows it. -/
def SelfDelimiting {α β : Type*} (encode : α → List β) (values : Set α) : Prop :=
  ∀ ⦃left⦄, left ∈ values → ∀ ⦃right⦄, right ∈ values → ∀ ⦃tail tail'⦄,
    encode left ++ tail = encode right ++ tail' → left = right ∧ tail = tail'

namespace SelfDelimiting

variable {α β : Type*} {encode : α → List β} {values : Set α}

theorem injOn (delimited : SelfDelimiting encode values) : Set.InjOn encode values := by
  intro left leftMem right rightMem equal
  exact (delimited leftMem rightMem (congrArg (· ++ []) equal)).1

/-- Injective encodings of one width are self-delimiting. -/
theorem of_width {width : Nat} (fixed : ∀ value ∈ values, (encode value).length = width)
    (injective : Set.InjOn encode values) : SelfDelimiting encode values := by
  intro left leftMem right rightMem tail tail' equal
  obtain ⟨heads, tails⟩ :=
    List.append_inj equal ((fixed left leftMem).trans (fixed right rightMem).symm)
  exact ⟨injective leftMem rightMem heads, tails⟩

/-- A string after its length. -/
theorem counted {count : Nat → List β} {sizes : Set Nat} (delimited : SelfDelimiting count sizes) :
    SelfDelimiting (fun bytes : List β => count bytes.length ++ bytes)
      {bytes | bytes.length ∈ sizes} := by
  intro left leftMem right rightMem tail tail' equal
  simp only [List.append_assoc] at equal
  obtain ⟨sameLength, rest⟩ := delimited leftMem rightMem equal
  exact List.append_inj rest sameLength

/-- A concatenation of nonempty encodings determines the list of values. -/
theorem flatMap_injective (delimited : SelfDelimiting encode values)
    (nonempty : ∀ value ∈ values, encode value ≠ []) {left right : List α}
    (leftMem : ∀ value ∈ left, value ∈ values) (rightMem : ∀ value ∈ right, value ∈ values)
    (equal : left.flatMap encode = right.flatMap encode) : left = right := by
  induction left generalizing right with
  | nil =>
    cases right with
    | nil => rfl
    | cons value right =>
      rw [List.flatMap_nil, List.flatMap_cons, eq_comm, List.append_eq_nil_iff] at equal
      exact absurd equal.1 (nonempty value (rightMem value (by simp)))
  | cons value left ih =>
    cases right with
    | nil =>
      rw [List.flatMap_nil, List.flatMap_cons, List.append_eq_nil_iff] at equal
      exact absurd equal.1 (nonempty value (leftMem value (by simp)))
    | cons other right =>
      rw [List.flatMap_cons, List.flatMap_cons] at equal
      obtain ⟨rfl, rest⟩ :=
        delimited (leftMem value (by simp)) (rightMem other (by simp)) equal
      rw [ih (fun value member => leftMem value (List.mem_cons_of_mem _ member))
        (fun value member => rightMem value (List.mem_cons_of_mem _ member)) rest]

end SelfDelimiting
