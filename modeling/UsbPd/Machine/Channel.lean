import Mathlib.Data.List.Basic
import Mathlib.Data.List.Pairwise

/-!
# Lossy channels in order

A channel carries the messages that one party has sent to the other. It may lose
any of them, but it neither duplicates nor reorders them. Each packet has the
number of its message among those sent, which only proofs read.
-/

namespace Machine

/-- A message in flight, with its number. -/
structure Packet (α : Type*) where
  serial : Nat
  content : α
  deriving DecidableEq

variable {α : Type*} {sent : List α} {low : Nat} {chan : List (Packet α)}

/-- Packets for the messages `msgs`, numbered from `n`. -/
def packets : Nat → List α → List (Packet α)
  | _, [] => []
  | n, m :: msgs => ⟨n, m⟩ :: packets (n + 1) msgs

/-- The packets of `chan` carry messages of `sent` from the number `low` on, in the
order they were sent in. -/
structure InTransit (sent : List α) (low : Nat) (chan : List (Packet α)) : Prop where
  carries : ∀ k ∈ chan, sent[k.serial]? = some k.content
  ordered : chan.Pairwise fun k l => k.serial < l.serial
  fresh : ∀ k ∈ chan, low ≤ k.serial

theorem mem_packets {n : Nat} {msgs : List α} {k : Packet α} (h : k ∈ packets n msgs) :
    n ≤ k.serial ∧ msgs[k.serial - n]? = some k.content := by
  induction msgs generalizing n with
  | nil => cases h
  | cons m msgs ih =>
      rcases List.mem_cons.1 h with rfl | hmem
      · simp
      · obtain ⟨hle, hget⟩ := ih hmem
        refine ⟨by omega, ?_⟩
        obtain ⟨d, hd⟩ : ∃ d, k.serial - n = d + 1 := ⟨k.serial - n - 1, by omega⟩
        rw [hd, List.getElem?_cons_succ]
        rwa [show d = k.serial - (n + 1) by omega]

theorem pairwise_packets (n : Nat) (msgs : List α) :
    (packets n msgs).Pairwise fun k l => k.serial < l.serial := by
  induction msgs generalizing n with
  | nil => exact .nil
  | cons m msgs ih => exact .cons (fun k hk => (mem_packets hk).1) (ih (n + 1))

namespace InTransit

theorem nil (sent : List α) (low : Nat) : InTransit sent low [] := ⟨by simp, .nil, by simp⟩

/-- Packets are lost. -/
theorem sublist (h : InTransit sent low chan) {chan' : List (Packet α)}
    (hsub : chan'.Sublist chan) : InTransit sent low chan' where
  carries := fun k hk => h.carries k (hsub.subset hk)
  ordered := h.ordered.sublist hsub
  fresh := fun k hk => h.fresh k (hsub.subset hk)

/-- The first packet is delivered: those behind it carry later messages. -/
theorem deliver {k : Packet α} (h : InTransit sent low (k :: chan)) :
    InTransit sent (k.serial + 1) chan where
  carries := fun l hl => h.carries l (List.mem_cons_of_mem k hl)
  ordered := (List.pairwise_cons.1 h.ordered).2
  fresh := fun l hl => (List.pairwise_cons.1 h.ordered).1 l hl

/-- Further messages are sent. -/
theorem send (h : InTransit sent low chan) (hlow : low ≤ sent.length) (msgs : List α) :
    InTransit (sent ++ msgs) low (chan ++ packets sent.length msgs) where
  carries := by
    intro k hk
    rcases List.mem_append.1 hk with hk | hk
    · have hget := h.carries k hk
      rw [List.getElem?_append_left (List.getElem?_eq_some_iff.1 hget).1]
      exact hget
    · obtain ⟨hle, hget⟩ := mem_packets hk
      rwa [List.getElem?_append_right hle]
  ordered := by
    refine List.pairwise_append.2 ⟨h.ordered, pairwise_packets _ _, fun k hk l hl => ?_⟩
    exact Nat.lt_of_lt_of_le (List.getElem?_eq_some_iff.1 (h.carries k hk)).1 (mem_packets hl).1
  fresh := by
    intro k hk
    rcases List.mem_append.1 hk with hk | hk
    · exact h.fresh k hk
    · exact Nat.le_trans hlow (mem_packets hk).1

end InTransit

end Machine
