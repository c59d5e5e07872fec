import Mathlib.Data.List.Perm.Subperm
import Mathlib.Data.List.Induction
import Mathlib.Data.List.Nodup

/-!
# Ring buffers

A ring buffer of fixed size stores the element that arrives at position `n` in the
slot `n % size`.  A slot holds the most recent element whose position falls on it,
or a default while there is none.  As soon as the history is as long as the buffer,
the buffer holds the last `size` elements in some order.
-/

namespace RingBuffer

open Nat Vector

universe u

variable {α : Type u}

/-- Most recent element whose position is `slot` modulo `size`. -/
def latest (size slot : Nat) (history : List α) : Option α :=
  (history.zipIdx.filter fun entry => entry.2 % size = slot).getLast?.map Prod.fst

@[simp] theorem latest_nil (size slot : Nat) : latest size slot ([] : List α) = none := rfl

theorem latest_append_singleton (size slot : Nat) (history : List α) (value : α) :
    latest size slot (history ++ [value]) =
      if history.length % size = slot then some value else latest size slot history := by
  rw [latest, List.zipIdx_append, List.filter_append, List.zipIdx_singleton]
  by_cases arrives : history.length % size = slot
  · simp [arrives]
  · simp [arrives, latest]

/-- Positions that are less than `size` apart fall on different slots. -/
theorem mod_ne_mod {size position later : Nat} (after : position < later)
    (close : later < position + size) : later % size ≠ position % size := by
  intro sameSlot
  have divides : size ∣ later - position :=
    dvd_of_mod_eq_zero (sub_mod_eq_zero_of_mod_eq sameSlot)
  have none := eq_zero_of_dvd_of_lt divides (by omega)
  omega

variable {history : List α} {size : Nat}

/-- The last `size` elements are the most recent ones of their slots. -/
theorem latest_of_recent {position : Nat} (recent : history.length ≤ position + size)
    (inside : position < history.length) :
    latest size (position % size) history = history[position]? := by
  induction history using List.reverseRecOn with
  | nil => simp at inside
  | append_singleton history value ih =>
    rw [List.length_append, List.length_singleton] at recent inside
    rw [latest_append_singleton]
    rcases Nat.lt_or_eq_of_le (le_of_lt_succ inside) with earlier | rfl
    · rw [if_neg (mod_ne_mod earlier (by omega)), ih (by omega) earlier,
        List.getElem?_append_left earlier]
    · rw [if_pos rfl, List.getElem?_concat_length]

/-- A slot is empty, or one of the last `size` positions falls on it. -/
theorem latest_eq_none_or_recent {size slot : Nat} (slotInside : slot < size) (history : List α) :
    latest size slot history = none ∨ ∃ position, position < history.length ∧
      history.length ≤ position + size ∧ position % size = slot := by
  induction history using List.reverseRecOn with
  | nil => exact .inl rfl
  | append_singleton history value ih =>
    rw [latest_append_singleton, List.length_append, List.length_singleton]
    by_cases arrives : history.length % size = slot
    · exact .inr ⟨history.length, by omega, by omega, arrives⟩
    · rw [if_neg arrives]
      rcases ih with none | ⟨position, inside, recent, lands⟩
      · exact .inl none
      · refine .inr ⟨position, by omega, ?_, lands⟩
        -- the slot of the oldest position is the one that the new element would take
        rcases Nat.lt_or_eq_of_le recent with recent | oldest
        · exact recent
        · exact absurd (by rw [oldest, add_mod_right, lands]) arrives

/-- The buffer holds the most recent element of every slot. -/
def Records {size : Nat} (default : α) (history : List α) (buffer : Vector α size) : Prop :=
  ∀ slot (inside : slot < size), buffer[slot] = (latest size slot history).getD default

theorem records_nil (default : α) : Records default [] (replicate size default) := by
  intro slot inside
  simp

variable {buffer : Vector α size}

theorem Records.push {default : α} (records : Records default history buffer) (value : α)
    (slotInside : history.length % size < size) :
    Records default (history ++ [value]) (buffer.set (history.length % size) value) := by
  intro slot inside
  rw [latest_append_singleton, getElem_set]
  split
  · rfl
  · exact records slot inside

/-- The slots of `size` consecutive positions are all slots. -/
theorem perm_slots (size start : Nat) :
    ((List.range size).map fun offset => (start + offset) % size).Perm (List.range size) := by
  have distinct : ((List.range size).map fun offset => (start + offset) % size).Nodup := by
    refine List.Nodup.map_on (fun left leftMem right rightMem equal => ?_) List.nodup_range
    rw [List.mem_range] at leftMem rightMem
    rcases Nat.lt_trichotomy left right with less | same | greater
    · exact absurd equal.symm (mod_ne_mod (by omega) (by omega))
    · exact same
    · exact absurd equal (mod_ne_mod (by omega) (by omega))
  have included : ((List.range size).map fun offset => (start + offset) % size) ⊆
      List.range size := by
    intro slot member
    obtain ⟨offset, offsetMem, rfl⟩ := List.mem_map.mp member
    rw [List.mem_range] at offsetMem ⊢
    exact mod_lt _ (by omega)
  exact (List.subperm_of_subset distinct included).perm_of_length_le (by simp)

/-- A buffer with a long enough history holds the last elements of the history. -/
theorem Records.perm {default : α} (records : Records default history buffer)
    (full : size ≤ history.length) :
    buffer.toList.Perm (history.drop (history.length - size)) := by
  have slots : buffer.toList =
      (List.range size).map fun slot => (latest size slot history).getD default := by
    apply List.ext_getElem (by simp)
    intro slot inside _
    rw [length_toList] at inside
    simp [records slot inside]
  have window : history.drop (history.length - size) =
      ((List.range size).map fun offset => (history.length - size + offset) % size).map
        fun slot => (latest size slot history).getD default := by
    apply List.ext_getElem
    · simp
      omega
    · intro offset inside inside'
      rw [List.length_drop] at inside
      simp only [List.getElem_map, List.getElem_range, List.getElem_drop]
      rw [latest_of_recent (by omega) (by omega), List.getElem?_eq_getElem (by omega)]
      rfl
  rw [slots, window]
  exact ((perm_slots size _).map _).symm

end RingBuffer
