import Mathlib.Algebra.Ring.Nat
import Mathlib.Data.List.Basic
import Mathlib.Tactic.Common

/-!
# Little-endian bytes

Numbers as sequences of bytes, least significant byte first, and words of any width
read back from the bytes of a memory block.
-/

namespace Machine

/-- The `n` lowest bytes of `x`. -/
def leBytes : Nat → Nat → List (BitVec 8)
  | 0, _ => []
  | n + 1, x => BitVec.ofNat 8 x :: leBytes n (x / 256)

/-- The number that the bytes spell. -/
def leValue : List (BitVec 8) → Nat
  | [] => 0
  | b :: bytes => b.toNat + 256 * leValue bytes

/-- The bytes of words of `k` bytes each, one word after the other. -/
def bytesOfWords {w : Nat} (k : Nat) (words : List (BitVec w)) : List (BitVec 8) :=
  words.flatMap fun x => leBytes k x.toNat

/-- The first `n` words of `k` bytes each. -/
def wordsOfBytes (w k : Nat) : Nat → List (BitVec 8) → List (BitVec w)
  | 0, _ => []
  | n + 1, bytes => BitVec.ofNat w (leValue (bytes.take k)) :: wordsOfBytes w k n (bytes.drop k)

@[simp] theorem length_leBytes (n x : Nat) : (leBytes n x).length = n := by
  induction n generalizing x with
  | zero => rfl
  | succ n ih => rw [leBytes, List.length_cons, ih]

theorem leValue_leBytes {n x : Nat} (h : x < 256 ^ n) : leValue (leBytes n x) = x := by
  induction n generalizing x with
  | zero =>
      rw [Nat.pow_zero, Nat.lt_one_iff] at h
      exact h.symm
  | succ n ih =>
      have hrest : x / 256 < 256 ^ n := by
        rw [Nat.pow_succ'] at h
        exact Nat.div_lt_of_lt_mul h
      rw [leBytes, leValue, ih hrest, BitVec.toNat_ofNat]
      exact Nat.mod_add_div x 256

section

variable {w k : Nat}

@[simp] theorem bytesOfWords_nil : bytesOfWords k ([] : List (BitVec w)) = [] := rfl

theorem bytesOfWords_cons (x : BitVec w) (words : List (BitVec w)) :
    bytesOfWords k (x :: words) = leBytes k x.toNat ++ bytesOfWords k words := rfl

@[simp] theorem length_bytesOfWords (words : List (BitVec w)) :
    (bytesOfWords k words).length = k * words.length := by
  induction words with
  | nil => rfl
  | cons x words ih =>
      rw [bytesOfWords_cons, List.length_append, length_leBytes, ih, List.length_cons]
      exact (Nat.add_comm _ _).trans (Nat.mul_succ k words.length).symm

/-- Words that fit into their bytes are read back. -/
theorem wordsOfBytes_bytesOfWords (hfits : 2 ^ w ≤ 256 ^ k) (words : List (BitVec w))
    (rest : List (BitVec 8)) :
    wordsOfBytes w k words.length (bytesOfWords k words ++ rest) = words := by
  induction words with
  | nil => rfl
  | cons x words ih =>
      have hlen : (leBytes k x.toNat).length = k := length_leBytes k x.toNat
      have hx : leValue (leBytes k x.toNat) = x.toNat :=
        leValue_leBytes (Nat.lt_of_lt_of_le x.isLt hfits)
      rw [List.length_cons, wordsOfBytes, bytesOfWords_cons, List.append_assoc,
        List.take_left' hlen, List.drop_left' hlen, hx, ih, BitVec.ofNat_toNat, BitVec.setWidth_eq]

end

end Machine
