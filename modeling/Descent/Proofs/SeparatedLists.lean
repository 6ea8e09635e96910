import Descent.Proofs.Alternation
import Descent.Proofs.FirstAndRow

/-!
# Separated lists are an item and a row behind it

A list with at least one item is an item and a repetition behind it, whose runs are a separator and
an item each. A list that may be empty is such a list or, from the same place, no items at all:
behind a first item nothing fails any more, so only the failure of the first item is recovered from.
-/

namespace Descent.Parser

open Deterministic (value?)

variable {m : Type → Type} [Effect m] [LawfulEffect m] {α β : Type}

theorem itemsAfter_lasting (first : α) (item : Parser m α) (separator : Parser m β) (spare : Nat)
    (c : Cursor) :
    Outcomes.lawful.Always Reply.Lasting ((itemsAfter first item separator spare).run c) := by
  rw [itemsAfter_eq_manyAfter]
  exact manyAfter_lasting [first] _ spare c

theorem sepBy1_eq_map (item : Parser m α) (separator : Parser m β) (spare : Nat) :
    sepBy1 item separator spare =
      (item.pair (many (separator.keepRight item) spare)).map fun r => r.1 :: r.2 := by
  rw [← bind_map_eq_map_pair List.cons, sepBy1]
  refine congrArg item.bind (funext fun first => ?_)
  rw [itemsAfter_eq_manyAfter, manyAfter_eq_map_many]
  rfl

/-- Nothing is recovered from in a reply that is no failure. -/
theorem recover_of_lasting {x : m (Reply α)} (h : Outcomes.lawful.Always Reply.Lasting x)
    (start : Cursor) (default : α) : Reply.recover start default <$> x = x := by
  rw [← bind_pure_comp]
  refine (Outcomes.bind_congr_of_always h fun reply lasting => ?_).trans (bind_pure x)
  cases reply with
  | failure e => exact lasting.elim
  | success a rest => rfl
  | unfinished => rfl

theorem sepBy_eq_orDefault (item : Parser m α) (separator : Parser m β) (spare : Nat) :
    sepBy item separator spare = (sepBy1 item separator spare).orDefault [] := by
  refine Parser.ext fun c => ?_
  show (item.run c >>= _) = Reply.recover c [] <$> (item.run c >>= _)
  rw [map_bind]
  refine bind_congr fun reply => ?_
  cases reply with
  | success first rest =>
    -- Behind the first item nothing fails, so there is nothing to recover from.
    exact (recover_of_lasting (itemsAfter_lasting first item separator spare rest) c []).symm
  | failure e => exact (map_pure (Reply.recover c []) (.failure e)).symm
  | unfinished => exact (map_pure (Reply.recover c []) .unfinished).symm

theorem orDefault_lasting (default : α) (p : Parser m α) (c : Cursor) :
    Outcomes.lawful.Always Reply.Lasting ((p.orDefault default).run c) := by
  refine Outcomes.lawful.map (Outcomes.lawful.any _) fun reply _ => ?_
  cases reply <;> trivial

/-- What separated lists come to, told by a reading of items. -/
structure ListOneReading [Deterministic m] (item : Parser m α) (separator : Parser m β)
    (spare : Nat) (reading : Parser m (α × List α)) : Prop where
  sepBy1_eq : sepBy1 item separator spare = reading.map fun r => r.1 :: r.2
  sepBy_eq : sepBy item separator spare = (sepBy1 item separator spare).orDefault []
  sepBy_ne_failure (c : Cursor) (e : Failure) :
    value? ((sepBy item separator spare).run c) ≠ some (.failure e)
  sepBy1_failure_iff (c : Cursor) (e : Failure) :
    value? ((sepBy1 item separator spare).run c) = some (.failure e) ↔
      value? (item.run c) = some (.failure e)
  /-- The items are those of a row of runs, each of which starts further on than the one before. -/
  in_order {c d last : Cursor} {first : α} {steps : List (Cursor × α)} :
    item.Succeeds c first d → (separator.keepRight item).LongestRow d steps last →
      (sepBy1 item separator spare).run c = (item.run c >>= fun _ =>
        Flow.inTurn (steps.map fun s => (separator.keepRight item).run s.1)
          (Reply.ended (first :: steps.map Prod.snd) last <$>
            (separator.keepRight item).run last)) ∧
      (steps.map fun s => s.1.position).Pairwise (· < ·)
  /-- A separator without an item is not part of the list, which stops in front of it. -/
  dangling {c d last behind : Cursor} {first : α} {steps : List (Cursor × α)} {b : β}
      {e : Failure} :
    item.Succeeds c first d → (separator.keepRight item).Row d steps last →
      separator.Succeeds last b behind → value? (item.run behind) = some (.failure e) →
        (sepBy1 item separator spare).run c = item.run c >>= fun _ =>
          Flow.inTurn (steps.map fun s => (separator.keepRight item).run s.1)
            (separator.run last >>= fun _ =>
              (fun _ => .success (first :: steps.map Prod.snd) last) <$> item.run behind)

/-- If a separator with an item behind it gets further whenever it is read, a list ends where the
repetition of the two does, with all that it does on the way. -/
theorem separated_lists_are_rows [Deterministic m] {item : Parser m α} {separator : Parser m β}
    (strides : (separator.keepRight item).Strides) (spare spare' : Nat) :
    ListOneReading item separator spare
      (item.pair (many (separator.keepRight item) spare')) := by
  have listed := sepBy1_eq_map item separator spare
  rw [strides.many_eq spare spare'] at listed
  have lists := sepBy_eq_orDefault item separator spare
  refine {
    sepBy1_eq := listed
    sepBy_eq := lists
    sepBy_ne_failure := fun c e => ?_
    sepBy1_failure_iff := fun c e => ?_
    in_order := fun begins longest => ⟨?_, (longest.row.starts_increase strides).1⟩
    dangling := fun begins row before missing => ?_ }
  · rw [lists]
    exact value?_ne_failure (orDefault_lasting [] _ c) e
  · exact value?_bind_failure_iff
      (fun first d => itemsAfter_lasting first item separator spare d) c e
  · -- The row behind the first item goes on as long as it can.
    rw [listed, map_pair_many_run _ strides begins longest]
  · -- The row is the longest, since the run behind it fails with the missing item.
    rw [listed, map_pair_many_run _ strides begins (row.longest_of_dangling before missing),
      keepRight, ended_of_dangling before missing]

/-- Items and separators of two characters each. Behind the last item of the list, a separator and
one character of an item are read and given back. -/
theorem separated_lists_are_rows_pairs :
    let two {m : Type → Type} [Effect m] (before : m Unit) (x : Char) : Parser m Unit :=
      (Parser.lift before).keepRight ((skipChar x).keepLeft (skipChar x))
    let holds {m : Type → Type} [Effect m] [LawfulEffect m] [Deterministic m] (before : m Unit) :=
      Strides ((two before ',').keepRight (two before 'a')) ∧
        ListOneReading (two before 'a') (two before ',') 0
          ((two before 'a').pair (many ((two before ',').keepRight (two before 'a'))))
    let told : Logged String Unit := Logged.tell "run"
    let c := Cursor.ofString "aa,,aa,,ab"
    holds (pure () : Plain Unit) ∧ holds told ∧ holds (pure () : Abortable String Unit) ∧
      holds (Tally.count 1 : Tallied Unit) ∧
      (sepBy1 (two told 'a') (two told ',')).run c =
        ⟨.success [(), ()] (c.advance 6), List.replicate 5 "run", []⟩ ∧
      (sepBy (two told 'a') (two told ',')).run (c.advance 1) =
        ⟨.success [] (c.advance 1), ["run"], []⟩ := by
  intro two holds told c
  have every {m : Type → Type} [Effect m] [LawfulEffect m] [Deterministic m] (before : m Unit) :
      holds before := by
    -- Either of the two characters is enough to get further.
    have pairs (x : Char) (e : Cursor) : Headway (True ∧ False ∧ False) e (two before x) _ :=
      (Headway.lift before).both fun e _ _ =>
        (Headway.skipChar x).both fun e _ _ => .skipChar x
    have strides : Strides ((two before ',').keepRight (two before 'a')) :=
      .of_headway fun d => ((pairs ',' d).both fun e _ _ => pairs 'a' e).mono fun h => h.1.2.1
    exact ⟨strides, separated_lists_are_rows strides 0 0⟩
  refine ⟨every _, every told, every _, every _, ?_, ?_⟩
  · dsimp only [two, told, c]
    rfl
  · dsimp only [two, told, c]
    rfl

end Descent.Parser
