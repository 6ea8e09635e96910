import Descent.Effect.Logged
import Descent.Proofs.Loops
import Descent.Proofs.Reading
import Mathlib.Data.Nat.Find

/-!
# The first occurrence of a text

A search goes from place to place. At each it looks for the text, then for the end, and otherwise
goes on by one character (`Cursor.searchRound`). Since every round that goes on leaves less text, a
search comes to an end, with the first place where the text stands (`Cursor.exists_search`).

`Text.FirstAt` says where that is in terms of the characters that are left: texts may overlap with
themselves, and the empty text stands everywhere, first of all behind no character.
-/

namespace Descent

/-! ## First occurrences -/

namespace Text

/-- The text stands behind `k` characters, and behind no fewer. -/
def FirstAt (sought text : List Char) (k : Nat) : Prop :=
  sought <+: text.drop k ∧ ∀ j < k, ¬ sought <+: text.drop j

variable {sought text : List Char} {k : Nat}

theorem infix_iff_exists_prefix_drop : sought <:+: text ↔ ∃ k, sought <+: text.drop k := by
  constructor
  · rintro ⟨s, t, rfl⟩
    exact ⟨s.length, by simp⟩
  · rintro ⟨k, t, h⟩
    refine ⟨text.take k, t, ?_⟩
    rw [List.append_assoc, h, List.take_append_drop]

theorem FirstAt.unique {j : Nat} (h : FirstAt sought text k) (h' : FirstAt sought text j) :
    k = j := by
  have hle : k ≤ j := Nat.le_of_not_lt fun hlt => h.2 j hlt h'.1
  have hge : j ≤ k := Nat.le_of_not_lt fun hlt => h'.2 k hlt h.1
  exact Nat.le_antisymm hle hge

/-- What occurs occurs somewhere first. -/
theorem exists_firstAt (h : sought <:+: text) : ∃ k, FirstAt sought text k := by
  have hoccurs := infix_iff_exists_prefix_drop.mp h
  exact ⟨Nat.find hoccurs, Nat.find_spec hoccurs, fun _ => Nat.find_min hoccurs⟩

/-- All of the text lies before the end. -/
theorem FirstAt.length_le (h : FirstAt sought text k) : k + sought.length ≤ text.length := by
  have hlength := h.1.length_le
  rw [List.length_drop] at hlength
  by_cases hk : k = 0
  · omega
  · -- The empty text would stand at the beginning.
    have hne : sought ≠ [] := by
      rintro rfl
      exact h.2 0 (by omega) List.nil_prefix
    have := List.length_pos_iff.mpr hne
    omega

/-- An occurrence before the end of `a` would lie inside `a` and the text behind it. -/
theorem firstAt_append {a : List Char} (h : ∀ k < a.length, ¬ sought <+: (a ++ sought).drop k)
    (b : List Char) : FirstAt sought (a ++ sought ++ b) a.length := by
  refine ⟨by simp, fun j hj hprefix => h j hj ?_⟩
  -- An occurrence in front of the end of `a` ends in front of `b`.
  have hfits : sought.length ≤ ((a ++ sought).drop j).length := by
    rw [List.length_drop, List.length_append]
    omega
  rw [List.drop_append_of_le_length (by rw [List.length_append]; omega)] at hprefix
  exact List.prefix_of_prefix_length_le hprefix (List.prefix_append _ b) hfits

end Text

/-! ## The rounds of a search -/

namespace Cursor

/-- One round of a search: the text stands here, or it stands nowhere, or the search goes on. -/
def searchRound (sought : List Char) (c : Cursor) : Flow Cursor (Option Cursor) :=
  if c.startsWith sought then .done (some c)
  else if c.atEnd then .done none
  else .again (c.advance 1)

theorem remaining_advance_one {c : Cursor} (h : c.atEnd = false) :
    (c.advance 1).remaining + 1 = c.remaining := by
  simp only [atEnd, decide_eq_false_iff_not] at h
  simp only [remaining, limit_advance, position_advance]
  omega

/-- What a search finds from a place it finds by a round there, or else from the next place. -/
theorem find?_eq (sought : List Char) (c : Cursor) :
    c.find? sought =
      if c.startsWith sought then some c
      else if c.atEnd then none
      else (c.advance 1).find? sought := by
  unfold find?
  -- The bound of a search is the number of characters left, which is one less at the next place.
  cases hend : c.atEnd with
  | true =>
    have hnone : c.remaining = 0 := by
      rw [← length_rest, atEnd_iff.mp hend, List.length_nil]
    rw [hnone, findUpTo]
    simp
  | false =>
    rw [← remaining_advance_one hend, findUpTo]
    simp

theorem searchRound_eq_done {sought : List Char} {c : Cursor}
    (h : c.startsWith sought = true ∨ c.atEnd = true) :
    searchRound sought c = .done (c.find? sought) := by
  rw [searchRound, find?_eq]
  split
  · rfl
  · next hstands => simp [h.resolve_left hstands]

/-- A search goes on at most as often as characters are left, and ends with what it finds. Induction
on their number. -/
theorem exists_search (sought : List Char) (c : Cursor) :
    ∃ visited last, Flow.Leads (fun d e => searchRound sought d = .again e) c visited last ∧
      visited.length ≤ c.remaining ∧ searchRound sought last = .done (c.find? sought) := by
  induction hleft : c.remaining generalizing c with
  | zero =>
    -- Nothing is left, so there is one round.
    have hend : c.atEnd = true := by
      rw [atEnd_iff, ← List.length_eq_zero_iff, length_rest, hleft]
    exact ⟨[], c, .here c, Nat.le_refl 0, searchRound_eq_done (.inr hend)⟩
  | succ left ih =>
    by_cases hround : c.startsWith sought = true ∨ c.atEnd = true
    · -- This round is the last.
      exact ⟨[], c, .here c, Nat.zero_le _, searchRound_eq_done hround⟩
    · -- This round goes on, to the rounds of the search from the next place.
      simp only [not_or, Bool.not_eq_true] at hround
      obtain ⟨hstands, hend⟩ := hround
      have hless := remaining_advance_one hend
      obtain ⟨visited, last, hleads, hlength, hlast⟩ := ih (c.advance 1) (by omega)
      have hagain : searchRound sought c = .again (c.advance 1) := by
        simp [searchRound, hstands, hend]
      refine ⟨c :: visited, last, .onward hagain hleads, by simp [hlength], ?_⟩
      rw [hlast, find?_eq sought c]
      simp [hstands, hend]

end Cursor

/-! ## Reading up to a text -/

namespace Parser

variable {m : Type → Type} [Effect m] {stop : String} {c : Cursor} {k : Nat}

theorem run_takeUntil_of_firstAt (h : Text.FirstAt stop.toList c.rest k) :
    (takeUntil stop : Parser m String).run c =
      pure (.success (String.ofList (c.rest.take k)) (c.advance (k + stop.length))) := by
  unfold takeUntil scan
  cases hfind : c.find? stop.toList with
  | none => exact absurd h.1 (Cursor.find?_eq_none hfind k)
  | some found =>
    obtain ⟨j, _, rfl, hoccurs, hfirst⟩ := Cursor.find?_eq_some hfind
    -- The search has found the first occurrence, of which there is one.
    obtain rfl := h.unique ⟨hoccurs, hfirst⟩
    simp only [hfind, Cursor.textUntil_advance, Cursor.advance_advance]

theorem run_takeUntil_of_not_infix (h : ¬ stop.toList <:+: c.rest) :
    (takeUntil stop : Parser m String).run c =
      pure (.failure ⟨c.limit, "end of string reached - " ++ stop ++ " not found"⟩) := by
  unfold takeUntil scan
  cases hfind : c.find? stop.toList with
  | none => simp only [hfind]; rfl
  | some found =>
    obtain ⟨j, _, _, hoccurs, _⟩ := Cursor.find?_eq_some hfind
    exact absurd (Text.infix_iff_exists_prefix_drop.mpr ⟨j, hoccurs⟩) h

theorem position_advance_firstAt (h : Text.FirstAt stop.toList c.rest k) :
    (c.advance (k + stop.length)).position = c.position + k + stop.length := by
  have hfits := h.length_le
  rw [Cursor.length_rest, String.length_toList] at hfits
  rw [Cursor.position_advance_of_le hfits, Nat.add_assoc]

/-- A parser that reads up to a text and over it finds the text where it stands first, and gives
what is left before it. If the text stands nowhere, the failure is at the end. Either way the search
comes to an end, after no more rounds than there are characters left. -/
theorem takeUntil_stops_at_first_occurrence (stop : String) :
    (∀ c : Cursor, ∃ reply,
      (takeUntil stop : Parser m String).run c = pure reply ∧
      (∃ visited last,
        Flow.Leads (fun d e => Cursor.searchRound stop.toList d = .again e) c visited last ∧
        visited.length ≤ c.remaining ∧
        Cursor.searchRound stop.toList last = .done (c.find? stop.toList)) ∧
      ((∃ a d, reply = .success a d) ↔ stop.toList <:+: c.rest) ∧
      (∀ a d, reply = .success a d → ∃ k, Text.FirstAt stop.toList c.rest k ∧
        a = String.ofList (c.rest.take k) ∧ d = c.advance (k + stop.length) ∧
        d.position = c.position + k + stop.length) ∧
      (¬ stop.toList <:+: c.rest →
        reply = .failure ⟨c.limit, "end of string reached - " ++ stop ++ " not found"⟩)) ∧
    ∀ a b : List Char, (∀ k < a.length, ¬ stop.toList <+: (a ++ stop.toList).drop k) →
      (takeUntil stop : Parser m String).Reads (a ++ stop.toList) (String.ofList a) b := by
  refine ⟨fun c => ?_, fun a b honly c hthere => ?_⟩
  · by_cases hoccurs : stop.toList <:+: c.rest
    · -- The text occurs, so it occurs somewhere first, and the reply is the success there.
      obtain ⟨k, hfirst⟩ := Text.exists_firstAt hoccurs
      refine ⟨_, run_takeUntil_of_firstAt hfirst, Cursor.exists_search _ c, ?_, ?_, ?_⟩
      · exact ⟨fun _ => hoccurs, fun _ => ⟨_, _, rfl⟩⟩
      · rintro _ _ ⟨⟩
        exact ⟨k, hfirst, rfl, rfl, position_advance_firstAt hfirst⟩
      · exact fun hnowhere => absurd hoccurs hnowhere
    · -- The text occurs nowhere, so what is said of a success holds of none.
      refine ⟨_, run_takeUntil_of_not_infix hoccurs, Cursor.exists_search _ c, ?_, ?_, ?_⟩
      · exact ⟨nofun, fun h => absurd h hoccurs⟩
      · exact nofun
      · exact fun _ => rfl
  · -- By assumption the text does not occur before `a` is over.
    have hfirst : Text.FirstAt stop.toList c.rest a.length := by
      rw [hthere]
      exact Text.firstAt_append honly b
    rw [run_takeUntil_of_firstAt hfirst, hthere, List.append_assoc, List.take_left,
      List.length_append, String.length_toList]

/-- A stop that overlaps with itself, behind a text that looks like its beginning; the empty stop;
and a stop of which the end of the text holds only a part. -/
theorem takeUntil_stops_at_first_occurrence_overlapping :
    let c := (Cursor.ofString "<xaaab!aa").advance 1
    (∀ k < 2, ¬ "aab".toList <+: ("xa".toList ++ "aab".toList).drop k) ∧
      (takeUntil "aab" : Parser (Logged String) String).run c =
        pure (.success "xa" (c.advance 5)) ∧
      (takeUntil "" : Parser (Logged String) String).run c = pure (.success "" (c.advance 0)) ∧
      ¬ "aac".toList <:+: c.rest ∧
      (takeUntil "aac" : Parser (Logged String) String).run c =
        pure (.failure ⟨9, "end of string reached - aac not found"⟩) := by
  intro c
  have only : ∀ k < 2, ¬ "aab".toList <+: ("xa".toList ++ "aab".toList).drop k := by decide
  have read := (takeUntil_stops_at_first_occurrence (m := Logged String) "aab").2
    "xa".toList "!aa".toList only c (by decide +kernel)
  have empty := (takeUntil_stops_at_first_occurrence (m := Logged String) "").2
    [] c.rest (by decide) c (by decide +kernel)
  have nowhere : ¬ "aac".toList <:+: c.rest := by decide +kernel
  obtain ⟨reply, run, _, _, _, missed⟩ :=
    (takeUntil_stops_at_first_occurrence (m := Logged String) "aac").1 c
  rw [missed nowhere] at run
  exact ⟨only, read, empty, nowhere, run⟩

end Parser

end Descent
