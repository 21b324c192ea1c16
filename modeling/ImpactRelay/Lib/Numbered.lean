/-
# `Lib.Numbered` — logs with a counter beside them

A log numbers its entries and the number of the last one is also kept outside
it, as a counter.  `goOn base k` is a writer that adds `k` entries numbered on
from a `base` of its own and leaves the counter behind them.  The log stays
gapless exactly when that base is the counter.  The last lemmas are about
entry names that end in the number.
-/
import Mathlib

structure Numbered where
  counter : Nat
  numbers : List Nat

namespace Numbered

/-- The numbers are `1..counter`, in order. -/
def Gapless (l : Numbered) : Prop := l.numbers = List.range' 1 l.counter

/-- `k` more entries, numbered on from `base`. -/
def goOn (base k : Nat) (l : Numbered) : Numbered :=
  ⟨base + k, l.numbers ++ List.range' (base + 1) k⟩

theorem Gapless.length {l : Numbered} (h : l.Gapless) : l.numbers.length = l.counter := by
  rw [Gapless] at h
  rw [h, List.length_range']

/-- Writers that go on from the counter, and no others, keep the log gapless. -/
theorem Gapless.goOn_iff {l : Numbered} (h : l.Gapless) (base k : Nat) :
    (l.goOn base k).Gapless ↔ base = l.counter := by
  constructor
  · intro hnext
    have hlength := hnext.length
    simp only [goOn, List.length_append, List.length_range', h.length] at hlength
    omega
  · intro hbase
    show l.numbers ++ List.range' (base + 1) k = List.range' 1 (base + k)
    rw [show l.numbers = List.range' 1 l.counter from h, hbase, Nat.add_comm l.counter 1]
    simp

/-- The last number is the counter. -/
theorem Gapless.getLast? {l : Numbered} (h : l.Gapless) (hne : l.numbers ≠ []) :
    l.numbers.getLast? = some l.counter := by
  rw [Gapless] at h
  cases hn : l.counter with
  | zero =>
      rw [hn] at h
      exact absurd h hne
  | succ n => simp [h, hn, List.range'_concat, Nat.add_comm]

end Numbered

/-! ## Names that end in a number -/

theorem split_at_mark {mark : Char} {xs ys as bs : List Char} (hx : mark ∉ xs) (hy : mark ∉ ys)
    (h : xs ++ mark :: as = ys ++ mark :: bs) : xs = ys ∧ as = bs := by
  induction xs generalizing ys with
  | nil =>
      cases ys with
      | nil => exact ⟨rfl, (List.cons.inj h).2⟩
      | cons y ys => exact absurd ((List.cons.inj h).1 ▸ List.mem_cons_self) hy
  | cons x xs ih =>
      cases ys with
      | nil => exact absurd ((List.cons.inj h).1 ▸ List.mem_cons_self) hx
      | cons y ys =>
          obtain ⟨rfl, htail⟩ := List.cons.inj h
          obtain ⟨rfl, hrest⟩ := ih (fun hm => hx (List.mem_cons_of_mem _ hm))
            (fun hm => hy (List.mem_cons_of_mem _ hm)) htail
          exact ⟨rfl, hrest⟩

/-- The number and what stands before it can be read off the name. -/
theorem numbered_name_inj {a b : List Char} {m n : Nat}
    (h : a ++ '_' :: (Nat.repr m).toList = b ++ '_' :: (Nat.repr n).toList) : a = b ∧ m = n := by
  have hdigits (k : Nat) : '_' ∉ (Nat.repr k).toList.reverse := by
    rw [List.mem_reverse, Nat.toList_repr]
    exact Nat.underscore_not_in_toDigits
  -- the mark that counts is the last one, the first from behind
  have hreverse := congrArg List.reverse h
  simp only [List.reverse_append, List.reverse_cons, List.append_assoc, List.singleton_append]
    at hreverse
  obtain ⟨hnumber, hname⟩ := split_at_mark (hdigits m) (hdigits n) hreverse
  have hread := congrArg (fun cs => Nat.ofDigitChars 10 cs 0) (List.reverse_injective hnumber)
  refine ⟨List.reverse_injective hname, ?_⟩
  simpa only [Nat.toList_repr, Nat.ofDigitChars_ten_toDigits] using hread
