import Descent.Cursor

/-!
# Searching forward

Passing over a run of characters, and looking for the first place where a text stands. Both searches
visit one place after another and end at the end of the text.

In terms of the text left to read, `skipWhile_eq_advance` says that passing over a run is a step as
long as the run, and `find?_eq_some` and `find?_eq_none` say that a text is found at its first
occurrence, and at none only if it does not occur.
-/

namespace Descent.Cursor

/-- Passes over accepted characters, at most `count` of them. -/
def skipUpTo (accepts : Char → Bool) : (count : Nat) → Cursor → Cursor
  | 0, c => c
  | count + 1, c =>
    match c.peek? with
    | some next => if accepts next then skipUpTo accepts count (c.advance 1) else c
    | none => c

/-- The place after the longest run of accepted characters. -/
def skipWhile (accepts : Char → Bool) (c : Cursor) : Cursor :=
  skipUpTo accepts c.remaining c

/-- Looks for the given characters here and at the next `count` places. -/
def findUpTo (sought : List Char) : (count : Nat) → Cursor → Option Cursor
  | 0, c => if c.startsWith sought then some c else none
  | count + 1, c => if c.startsWith sought then some c else findUpTo sought count (c.advance 1)

/-- The first place, from here on, where the given characters stand. -/
def find? (sought : List Char) (c : Cursor) : Option Cursor :=
  findUpTo sought c.remaining c

/-! ### Runs -/

theorem skipUpTo_eq_advance (accepts : Char → Bool) {count : Nat} {c : Cursor}
    (enough : c.remaining ≤ count) :
    skipUpTo accepts count c = c.advance (c.rest.takeWhile accepts).length := by
  induction count generalizing c with
  | zero =>
    have hnil : c.rest = [] := by
      apply List.eq_nil_of_length_eq_zero
      rw [length_rest]
      omega
    simp [skipUpTo, hnil]
  | succ count ih =>
    rw [skipUpTo, peek?_eq_head?]
    cases hrest : c.rest with
    | nil => simp
    | cons x xs =>
      have hadvance : (c.advance 1).rest = xs := by
        rw [rest_advance, hrest]
        rfl
      have hremaining : (c.advance 1).remaining ≤ count := by
        have hlength := congrArg List.length hrest
        rw [length_rest, List.length_cons] at hlength
        rw [← length_rest, hadvance]
        omega
      by_cases hx : accepts x = true
      · simp only [List.head?_cons, hx, if_true, List.takeWhile_cons, List.length_cons]
        rw [ih hremaining, hadvance, advance_advance, Nat.add_comm]
      · simp [hx]

/-- Passing over the longest accepted run is a step of its length. -/
theorem skipWhile_eq_advance (accepts : Char → Bool) (c : Cursor) :
    c.skipWhile accepts = c.advance (c.rest.takeWhile accepts).length :=
  skipUpTo_eq_advance accepts (Nat.le_refl _)

/-- What is passed over is the longest accepted run. -/
theorem textUntil_skipWhile (accepts : Char → Bool) (c : Cursor) :
    c.textUntil (c.skipWhile accepts) = String.ofList (c.rest.takeWhile accepts) := by
  rw [skipWhile_eq_advance, textUntil_advance,
    ← List.prefix_iff_eq_take.mp (List.takeWhile_prefix accepts)]

/-- Nothing is passed over exactly when no accepted character comes next. -/
theorem position_skipWhile_eq_iff (accepts : Char → Bool) (c : Cursor) :
    (c.skipWhile accepts).position = c.position ↔ c.rest.takeWhile accepts = [] := by
  have hrun : (c.rest.takeWhile accepts).length ≤ c.limit - c.position := by
    rw [← remaining, ← length_rest]
    exact (List.takeWhile_sublist accepts).length_le
  have := c.position_le_limit
  rw [skipWhile_eq_advance, position_advance, ← List.length_eq_zero_iff]
  omega

/-! ### Occurrences -/

theorem findUpTo_eq_some {sought : List Char} {count : Nat} {c found : Cursor}
    (h : findUpTo sought count c = some found) :
    ∃ k ≤ count, found = c.advance k ∧ sought <+: c.rest.drop k ∧
      ∀ j < k, ¬ sought <+: c.rest.drop j := by
  induction count generalizing c with
  | zero =>
    rw [findUpTo] at h
    by_cases hs : c.startsWith sought = true
    · rw [if_pos hs, Option.some.injEq] at h
      exact ⟨0, Nat.le_refl 0, by rw [advance_zero, h], by simpa using startsWith_iff.mp hs,
        by omega⟩
    · rw [if_neg hs] at h
      cases h
  | succ count ih =>
    rw [findUpTo] at h
    by_cases hs : c.startsWith sought = true
    · rw [if_pos hs, Option.some.injEq] at h
      exact ⟨0, Nat.zero_le _, by rw [advance_zero, h], by simpa using startsWith_iff.mp hs,
        by omega⟩
    · rw [if_neg hs] at h
      obtain ⟨k, hk, hfound, hoccurs, hfirst⟩ := ih h
      refine ⟨k + 1, by omega, ?_, ?_, ?_⟩
      · rw [hfound, advance_advance, Nat.add_comm]
      · rwa [rest_advance, List.drop_drop, Nat.add_comm] at hoccurs
      · intro j hj
        cases j with
        | zero => simpa [← startsWith_iff] using hs
        | succ j =>
          have := hfirst j (by omega)
          rwa [rest_advance, List.drop_drop, Nat.add_comm] at this

/-- A text is found at its first occurrence. -/
theorem find?_eq_some {sought : List Char} {c found : Cursor} (h : c.find? sought = some found) :
    ∃ k ≤ c.remaining, found = c.advance k ∧ sought <+: c.rest.drop k ∧
      ∀ j < k, ¬ sought <+: c.rest.drop j :=
  findUpTo_eq_some h

theorem findUpTo_eq_none {sought : List Char} {count : Nat} {c : Cursor}
    (h : findUpTo sought count c = none) : ∀ k ≤ count, ¬ sought <+: c.rest.drop k := by
  induction count generalizing c with
  | zero =>
    intro k hk
    rw [findUpTo] at h
    by_cases hs : c.startsWith sought = true
    · rw [if_pos hs] at h
      cases h
    · obtain rfl : k = 0 := by omega
      simpa [← startsWith_iff] using hs
  | succ count ih =>
    intro k hk
    rw [findUpTo] at h
    by_cases hs : c.startsWith sought = true
    · rw [if_pos hs] at h
      cases h
    · rw [if_neg hs] at h
      cases k with
      | zero => simpa [← startsWith_iff] using hs
      | succ k =>
        have := ih h k (by omega)
        rwa [rest_advance, List.drop_drop, Nat.add_comm] at this

/-- A text that is not found occurs nowhere in what is left. -/
theorem find?_eq_none {sought : List Char} {c : Cursor} (h : c.find? sought = none) (k : Nat) :
    ¬ sought <+: c.rest.drop k := by
  by_cases hk : k ≤ c.remaining
  · exact findUpTo_eq_none h k hk
  · have hlast := findUpTo_eq_none h c.remaining (Nat.le_refl _)
    rw [List.drop_eq_nil_of_le (by rw [length_rest]; omega)]
    rwa [List.drop_eq_nil_of_le (Nat.le_of_eq (length_rest c))] at hlast

/-- Where a text is found depends only on what is left to read. -/
theorem find?_congr {c d : Cursor} (h : c.rest = d.rest) (sought : List Char) :
    (c.find? sought = none ∧ d.find? sought = none) ∨
      ∃ k, c.find? sought = some (c.advance k) ∧ d.find? sought = some (d.advance k) := by
  cases hc : c.find? sought with
  | none =>
    cases hd : d.find? sought with
    | none => exact Or.inl ⟨rfl, rfl⟩
    | some found =>
      obtain ⟨k, _, _, hoccurs, _⟩ := find?_eq_some hd
      rw [← h] at hoccurs
      exact absurd hoccurs (find?_eq_none hc k)
  | some found =>
    obtain ⟨k, _, rfl, hoccurs, hfirst⟩ := find?_eq_some hc
    cases hd : d.find? sought with
    | none =>
      rw [h] at hoccurs
      exact absurd hoccurs (find?_eq_none hd k)
    | some found' =>
      obtain ⟨k', _, rfl, hoccurs', hfirst'⟩ := find?_eq_some hd
      rw [← h] at hoccurs' hfirst'
      -- Either place is the first one, so neither comes before the other.
      have hk : k = k' := by
        rcases Nat.lt_trichotomy k k' with hlt | heq | hgt
        · exact absurd hoccurs (hfirst' k hlt)
        · exact heq
        · exact absurd hoccurs' (hfirst k' hgt)
      exact Or.inr ⟨k, rfl, by rw [hk]⟩

end Descent.Cursor
